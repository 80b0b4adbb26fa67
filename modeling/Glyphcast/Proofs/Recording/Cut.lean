import Glyphcast.Proofs.Recording.Walk
import Glyphcast.Proofs.Recording.Written

/-!
# The written form, cut off

A recording that breaks off leaves the first bytes of what was written, and the break can be
anywhere. Here every part of the form is read in front of a cut. A line that the cut goes through is
read as the beginning of that line, and so the question is which beginnings of a line are taken for
something else.

Those of the tag and of the marker are not. Those of a header line may be: the beginning of a
numeral is a numeral. But then nothing follows it, and a header that announces a text is not
believed without one. One that announces none would be; but no printed number begins with a zero
except zero. So no frame is ever read that was not written.
-/

namespace Glyphcast.Recording

open Text

variable {line : String} {n : Nat}

/-! ## Lines -/

/-- What is left of a line is the beginning of that line, and nothing follows what is not whole. -/
theorem splitLine?_take (plain : IsPlain line) (rest : Bytes) (some : n ≠ 0) :
    splitLine? ((lineBytes line ++ rest).take n) =
      .some ((encode line).take n, rest.take (n - (lineBytes line).length)) := by
  have length := length_lineBytes line
  by_cases whole : (lineBytes line).length ≤ n
  · have same : (encode line).take n = encode line := List.take_of_length_le (by omega)
    rw [List.take_append, List.take_of_length_le whole, splitLine?_lineBytes plain, same]
  have cut : (lineBytes line ++ rest).take n = (encode line).take n := by
    rw [List.take_append_of_le_length (by omega), lineBytes,
      List.take_append_of_le_length (by omega)]
  have free : lineFeed ∉ (encode line).take n :=
    fun mem ↦ lineFeed_not_mem plain (List.mem_of_mem_take mem)
  have nonempty : (encode line).take n ≠ [] := by
    rw [← List.length_pos_iff, List.length_take]
    omega
  rw [cut, Nat.sub_eq_zero_of_le (by omega), List.take_zero]
  exact splitLine?_of_no_lineFeed free nonempty

private theorem lines_take (plain : IsPlain line) (rest : Bytes) (some : n ≠ 0) :
    lines ((lineBytes line ++ rest).take n) =
      ((encode line).take n, rest.take (n - (lineBytes line).length)) ::
        lines (rest.take (n - (lineBytes line).length)) :=
  lines_of_splitLine? (splitLine?_take plain rest some)

private theorem lines_take_of_le (plain : IsPlain line) (rest : Bytes) (some : n ≠ 0)
    (whole : (lineBytes line).length ≤ n + 1) :
    lines ((lineBytes line ++ rest).take n) =
      (encode line, rest.take (n - (lineBytes line).length)) ::
        lines (rest.take (n - (lineBytes line).length)) := by
  have same : (encode line).take n = encode line := by
    rw [length_lineBytes] at whole
    exact List.take_of_length_le (Nat.le_of_succ_le_succ whole)
  rw [lines_take plain rest some, same]

private theorem mem_lines_take (plain : IsPlain line) {rest : Bytes} {found : Bytes × Bytes}
    (mem : found ∈ lines ((lineBytes line ++ rest).take n)) :
    (n ≠ 0 ∧ found.1 = (encode line).take n) ∨
      found ∈ lines (rest.take (n - (lineBytes line).length)) := by
  by_cases none : n = 0
  · rw [none, List.take_zero, lines_nil] at mem
    nomatch mem
  rw [lines_take plain rest none] at mem
  rcases List.mem_cons.mp mem with rfl | mem
  · exact .inl ⟨none, rfl⟩
  · exact .inr mem

/-- A text that begins with another byte is not the beginning of a line. -/
theorem take_ne_of_head? {bytes other : Bytes} (h : bytes.head? ≠ other.head?) (some : n ≠ 0) :
    bytes.take n ≠ other := by
  rintro rfl
  rw [List.head?_take, if_neg some] at h
  exact h rfl

/-! ## The head -/

namespace Header

variable {stamp : Stamp}

theorem read_take_of_untagged (stamp : Stamp) (rest : Bytes) (short : n < (encode tag).length) :
    Header.read ((headBytes stamp ++ rest).take n) =
      .error (.badTag (decodeLossy ((headBytes stamp ++ rest).take n))) := by
  have left : (headBytes stamp ++ rest).take n = (encode tag).take n := by
    rw [headBytes_append, lineBytes, List.append_assoc,
      List.take_append_of_le_length (Nat.le_of_lt short)]
  have first : firstLine ((headBytes stamp ++ rest).take n) = (encode tag).take n := by
    by_cases none : n = 0
    · rw [none, List.take_zero, List.take_zero, firstLine, lines_nil]
      rfl
    · rw [headBytes_append, firstLine, lines_take isPlain_tag _ none]
      rfl
  have other : ¬Tagged ((headBytes stamp ++ rest).take n) := by
    intro tagged
    have lengths := congrArg List.length (first.symm.trans tagged)
    rw [List.length_take] at lengths
    omega
  rw [read_of_not_tagged other, first, left]

/-- The number of bytes of a head. -/
theorem length_headBytes (stamp : Stamp) : (headBytes stamp).length =
    (lineBytes tag).length + ((lineBytes ("version" ++ ":" ++ formatVersion)).length +
      ((lineBytes ("timestamp" ++ ":" ++ stamp.text)).length +
        (lineBytes framesMarker).length)) := by
  rw [headBytes_eq]
  simp only [List.length_append]

theorem read_take_of_unmarked (rest : Bytes) (long : (encode tag).length ≤ n)
    (short : n + 1 < (headBytes stamp).length) :
    Header.read ((headBytes stamp ++ rest).take n) = .error .missingFramesMarker := by
  have positive : 0 < (encode tag).length := by decide
  have tagLength := length_lineBytes tag
  rw [headBytes_append]
  have all := lines_take_of_le isPlain_tag (lineBytes ("version" ++ ":" ++ formatVersion) ++
    (lineBytes ("timestamp" ++ ":" ++ stamp.text) ++ (lineBytes framesMarker ++ rest)))
    (n := n) (by omega) (by omega)
  refine read_of_not_marked ?_ ?_
  · rw [Tagged, firstLine, all]
    rfl
  rintro ⟨found, mem, same⟩
  rw [all, List.tail_cons] at mem
  have lengths := length_headBytes stamp
  have markerLength := length_lineBytes framesMarker
  -- the cut goes through one of the three lines, or the line is in front of it
  rcases mem_lines_take isPlain_version mem with ⟨some, version⟩ | mem
  · exact take_ne_of_head? (by decide) some (version.symm.trans same)
  rcases mem_lines_take stamp.isPlain_line mem with ⟨some, time⟩ | mem
  · refine take_ne_of_head? ?_ some (time.symm.trans same)
    rw [encode_append, encode_append, List.append_assoc]
    exact fun same ↦ absurd (Option.some.inj same) (by decide)
  rcases mem_lines_take isPlain_framesMarker mem with ⟨some, marker⟩ | mem
  · have cut := congrArg List.length (marker.symm.trans same)
    rw [List.length_take] at cut
    omega
  · rw [Nat.sub_eq_zero_of_le (by omega), List.take_zero, lines_nil] at mem
    nomatch mem

/-- A head that is whole, but for the end of its last line, is read. -/
theorem read_take_of_marked (rest : Bytes) (long : (headBytes stamp).length ≤ n + 1) :
    Header.read ((headBytes stamp ++ rest).take n) =
      .ok (headOf stamp, rest.take (n - (headBytes stamp).length)) := by
  have lengths := length_headBytes stamp
  have markerLength := length_lineBytes framesMarker
  have marked : 0 < (encode framesMarker).length := by decide
  have all := lines_take_of_le (n := n) isPlain_tag
    (lineBytes ("version" ++ ":" ++ formatVersion) ++
      (lineBytes ("timestamp" ++ ":" ++ stamp.text) ++ (lineBytes framesMarker ++ rest)))
    (by omega) (by omega)
  rw [lines_take_of_le isPlain_version _ (by omega) (by omega),
    lines_take_of_le stamp.isPlain_line _ (by omega) (by omega),
    lines_take_of_le isPlain_framesMarker _ (by omega) (by omega)] at all
  have left : n - (lineBytes tag).length - (lineBytes ("version" ++ ":" ++ formatVersion)).length -
      (lineBytes ("timestamp" ++ ":" ++ stamp.text)).length - (lineBytes framesMarker).length =
      n - (headBytes stamp).length := by omega
  rw [← left, headBytes_append]
  exact read_of_lines all

end Header

/-! ## Frames -/

namespace FrameHeader

variable {header : FrameHeader}

private theorem announced_text (elapsed : header.elapsed < UInt64.size)
    (length : header.length < UInt64.size) : Announced (encode header.text) header :=
  ⟨header.text, ofText?_eq_some_iff.mp (ofText?_text elapsed length), rfl⟩

/-- No mere beginning of a header line announces an empty text. -/
theorem length_ne_zero_of_part {announced : FrameHeader}
    (h : Announced ((encode header.text).take n) announced)
    (part : n < (encode header.text).length) : announced.length ≠ 0 := by
  intro nothing
  obtain ⟨text, ⟨elapsed, length, spelled, ⟨time, -⟩, size, -⟩, same⟩ := h
  rw [nothing] at size
  have shape : text.toList = framePrefix.toList ++ (elapsed ++ ':' :: length) := by
    rw [spelled]
    simp only [String.toList_append, String.toList_ofList, List.append_assoc]
    rfl
  have front : text.toList <+: header.text.toList := by
    rw [encode_take header.isPlain_text, encode_inj] at same
    rw [same, String.toList_ofList]
    exact List.take_prefix _ _
  -- both are cut at their colon, and what is in front of it is the same
  rw [shape, header.toList_text, List.prefix_append_right_inj] at front
  obtain ⟨more, whole⟩ := front
  have cut := congrArg (cut? (· == ':')) whole
  rw [List.append_assoc, List.cons_append,
    cut?_append (ne_colon_of_spells time) (beq_self_eq_true ':'),
    cut?_append ne_colon_of_mem_digits (beq_self_eq_true ':')] at cut
  obtain ⟨rfl, digits⟩ := Prod.mk.inj (Option.some.inj cut)
  obtain ⟨-, rfl⟩ := Decimal.eq_digits_of_front ⟨more, digits⟩ size
  -- so the text is the whole line, and nothing was cut off
  have all : text = header.text := by rw [← String.toList_inj, shape, header.toList_text]
  have lengths := congrArg List.length same
  rw [all, List.length_take] at lengths
  omega

end FrameHeader

/-- What is wrong is a header line, or that there is less than it announces. -/
def IsFrameFault (fault : FormatError) : Prop :=
  (∃ line, fault = .badFrameHeader line) ∨
    ∃ expected available, fault = .truncated expected available

namespace Frame

variable {frame : Frame} {rest bytes : Bytes} {fault : FormatError}

/-- A frame has no other faults, whatever the bytes are. -/
theorem isFrameFault_of_read? (h : read? bytes = .error fault) : IsFrameFault fault := by
  rcases split : splitLine? bytes with _ | ⟨line, rest⟩
  · rw [splitLine?_eq_none_iff.mp split] at h
    nomatch h
  rw [read?_of_splitLine? split] at h
  split at h
  swap
  · nomatch h
  rcases parsed : FrameHeader.ofLine line with other | header
  · by_cases announced : ∃ header, FrameHeader.Announced line header
    · obtain ⟨header, announced⟩ := announced
      nomatch parsed.symm.trans (FrameHeader.ofLine_eq_ok_iff.mpr announced)
    · rw [FrameHeader.ofLine_of_not_announced (not_exists.mp announced)] at parsed h
      exact .inl ⟨_, (Except.error.inj h).symm⟩
  · rw [parsed] at h
    dsimp only at h
    split at h
    · exact .inr ⟨_, _, (Except.error.inj h).symm⟩
    · nomatch h

/-- The header of a frame. -/
def header (frame : Frame) : FrameHeader := ⟨frame.elapsed, frame.payload.length⟩

/-- How many of its bytes it takes to read a frame: all but the line feed at the end. Without a
text the end of the header line can be missing, too. -/
def needed (frame : Frame) : Nat :=
  (encode frame.header.text).length + if frame.payload = [] then 0 else 1 + frame.payload.length

private theorem written_append (frame : Frame) (rest : Bytes) :
    frame.written ++ rest = lineBytes frame.header.text ++ (frame.payload ++ lineFeed :: rest) := by
  rw [written, List.append_assoc, List.append_assoc]
  rfl

private theorem length_written (frame : Frame) : frame.written.length =
    (encode frame.header.text).length + 1 + frame.payload.length + 1 := by
  rw [written, List.length_append, List.length_append, List.length_singleton]
  change (lineBytes frame.header.text).length + _ = _
  rw [length_lineBytes]
  omega

private theorem prefix_written (frame : Frame) : encode framePrefix <+: frame.written := by
  refine (FrameHeader.prefix_encode_text frame.header).trans ?_
  rw [← List.append_nil frame.written, written_append, lineBytes, List.append_assoc]
  exact List.prefix_append _ _

private theorem needed_le (frame : Frame) : frame.needed ≤ frame.written.length := by
  rw [length_written, needed]
  split <;> omega

private theorem length_prefix_lt (frame : Frame) : (encode framePrefix).length < frame.needed := by
  have colon : (encode ":").length = 1 := rfl
  rw [needed, FrameHeader.text]
  simp only [encode_append, List.length_append, colon]
  omega

private theorem read?_take_of_line (fits : frame.Fits) (rest : Bytes)
    (whole : (encode frame.header.text).length ≤ n) :
    read? ((frame.written ++ rest).take n) =
      if n - (lineBytes frame.header.text).length < frame.payload.length then
        .error (.truncated frame.payload.length (n - (lineBytes frame.header.text).length))
      else .ok (some (frame, rest.take (n - frame.written.length))) := by
  have some : n ≠ 0 := by
    have := (FrameHeader.prefix_encode_text frame.header).length_le
    have : 0 < (encode framePrefix).length := by decide
    omega
  have split := splitLine?_take frame.header.isPlain_text (frame.payload ++ lineFeed :: rest) some
  rw [List.take_of_length_le whole] at split
  rw [written_append, read?_of_splitLine? split, if_pos (FrameHeader.prefix_encode_text _),
    FrameHeader.ofLine_eq_ok_iff.mpr (FrameHeader.announced_text fits.1 fits.2)]
  have length := length_lineBytes frame.header.text
  have total := frame.length_written
  generalize (lineBytes frame.header.text).length = start at *
  have available : ((frame.payload ++ lineFeed :: rest).take (n - start)).length =
      min (n - start) (frame.payload.length + (rest.length + 1)) := by
    rw [List.length_take, List.length_append, List.length_cons]
  dsimp only [header]
  by_cases short : n - start < frame.payload.length
  · rw [if_pos (by omega), if_pos short, available, Nat.min_eq_left (by omega)]
  · have payload : ((frame.payload ++ lineFeed :: rest).take (n - start)).take
        frame.payload.length = frame.payload := by
      rw [List.take_take, Nat.min_eq_left (by omega), List.take_left]
    have after : dropLineFeed (((frame.payload ++ lineFeed :: rest).take (n - start)).drop
        frame.payload.length) = rest.take (n - frame.written.length) := by
      rw [List.drop_take, List.drop_left]
      rcases left : n - start - frame.payload.length with _ | more
      · rw [List.take_zero, Nat.sub_eq_zero_of_le (by omega), List.take_zero]
        rfl
      · rw [List.take_succ_cons, dropLineFeed, if_pos rfl]
        congr 1
        omega
    rw [if_neg (by omega), if_neg short, payload, after]

private theorem read?_take_of_part (frame : Frame) (rest : Bytes)
    (word : (encode framePrefix).length ≤ n) (part : n < (encode frame.header.text).length) :
    ∃ fault, read? ((frame.written ++ rest).take n) = .error fault := by
  have some : n ≠ 0 := by
    have : 0 < (encode framePrefix).length := by decide
    omega
  have front : encode framePrefix <+: (encode frame.header.text).take n :=
    List.prefix_take_iff.mpr ⟨FrameHeader.prefix_encode_text _, word⟩
  have length := length_lineBytes frame.header.text
  have split := splitLine?_take frame.header.isPlain_text (frame.payload ++ lineFeed :: rest) some
  rw [Nat.sub_eq_zero_of_le (by omega), List.take_zero] at split
  rw [written_append, read?_of_splitLine? split, if_pos front]
  rcases parsed : FrameHeader.ofLine ((encode frame.header.text).take n) with fault | header
  · exact ⟨fault, rfl⟩
  · have announced := FrameHeader.ofLine_eq_ok_iff.mp parsed
    exact ⟨_, if_pos (Nat.pos_of_ne_zero (FrameHeader.length_ne_zero_of_part announced part))⟩

/-- A cut leaves a frame, or nothing that looks like one, or a fault. -/
theorem read?_take_cases (fits : frame.Fits) (rest : Bytes) (n : Nat) :
    (frame.needed ≤ n ∧ read? ((frame.written ++ rest).take n) =
        .ok (some (frame, rest.take (n - frame.written.length)))) ∨
      (n < (encode framePrefix).length ∧ read? ((frame.written ++ rest).take n) = .ok none) ∨
      ((encode framePrefix).length ≤ n ∧ n < frame.needed ∧
        ∃ fault, read? ((frame.written ++ rest).take n) = .error fault) := by
  have longer := frame.length_prefix_lt
  have length := length_lineBytes frame.header.text
  by_cases word : n < (encode framePrefix).length
  · refine .inr (.inl ⟨word, read?_eq_none_iff.mpr fun front ↦ ?_⟩)
    have := front.length_le
    rw [List.length_take] at this
    omega
  by_cases whole : (encode frame.header.text).length ≤ n
  swap
  · refine .inr (.inr ⟨by omega, ?_, read?_take_of_part frame rest (by omega) (by omega)⟩)
    rw [needed]
    omega
  have result := read?_take_of_line fits rest whole
  by_cases short : n - (lineBytes frame.header.text).length < frame.payload.length
  · rw [if_pos short] at result
    refine .inr (.inr ⟨by omega, ?_, _, result⟩)
    have text : frame.payload ≠ [] := by
      intro none
      rw [none] at short
      exact absurd short (Nat.not_lt_zero _)
    rw [needed, if_neg text]
    omega
  · rw [if_neg short] at result
    refine .inl ⟨?_, result⟩
    rw [needed]
    split
    · exact whole
    · next text =>
      have := List.length_pos_iff.mpr text
      omega

end Frame

/-! ## All frames -/

/-- A reading of frames ends where there is none, or at a fault of one. -/
inductive Ends : (rest : Bytes) → (fault : Option FormatError) → Prop where
  /-- No frame begins here. -/
  | done {rest : Bytes} (nothing : Frame.read? rest = .ok none) : Ends rest none
  /-- A frame begins here and cannot be read. -/
  | broken {rest : Bytes} {fault : FormatError} (found : Frame.read? rest = .error fault)
      (kind : IsFrameFault fault) : Ends rest (some fault)

theorem ends_scan (bytes : Bytes) : Ends (scan bytes).rest (scan bytes).fault := by
  induction bytes using scan.induct with
  | case1 bytes frame rest read ih =>
    rw [scan_of_frame read]
    exact ih
  | case2 bytes read =>
    rw [scan_of_end read]
    exact .done read
  | case3 bytes fault read =>
    rw [scan_of_fault read]
    exact .broken read (Frame.isFrameFault_of_read? read)

variable {frames : List Frame} {offset cut : Nat}

/-- A cut goes through one of some frames in a row, of which the first begins at an offset: behind
the word that its header line begins with, and in front of what it needs to be read. -/
def Torn (frames : List Frame) (offset cut : Nat) : Prop :=
  ∃ before frame after, frames = before ++ frame :: after ∧
    offset + (before.flatMap Frame.written).length + (encode framePrefix).length ≤ cut ∧
    cut < offset + (before.flatMap Frame.written).length + frame.needed

private theorem not_torn_nil : ¬Torn [] offset cut := by
  rintro ⟨before, frame, after, split, -⟩
  exact List.append_ne_nil_of_right_ne_nil before (List.cons_ne_nil frame after) split.symm

private theorem Torn.word_le (h : Torn frames offset cut) :
    offset + (encode framePrefix).length ≤ cut := by
  obtain ⟨before, frame, after, -, word, -⟩ := h
  omega

private theorem torn_cons {frame : Frame} : Torn (frame :: frames) offset cut ↔
    (offset + (encode framePrefix).length ≤ cut ∧ cut < offset + frame.needed) ∨
      Torn frames (offset + frame.written.length) cut := by
  constructor
  · rintro ⟨before, other, after, split, word, short⟩
    rcases before with _ | ⟨first, before⟩
    · obtain ⟨rfl, rfl⟩ := List.cons.inj split
      exact .inl ⟨word, short⟩
    · obtain ⟨rfl, rfl⟩ := List.cons.inj split
      rw [List.flatMap_cons, List.length_append] at word short
      exact .inr ⟨before, other, after, rfl, by omega, by omega⟩
  · rintro (⟨word, short⟩ | ⟨before, other, after, rfl, word, short⟩)
    · exact ⟨[], frame, frames, rfl, word, short⟩
    · refine ⟨frame :: before, other, after, rfl, ?_, ?_⟩
      · rw [List.flatMap_cons, List.length_append]
        omega
      · rw [List.flatMap_cons, List.length_append]
        omega

/-- So many of some frames in a row are in front of a cut, the first beginning at an offset. -/
structure Counts (frames : List Frame) (offset cut count : Nat) : Prop where
  le_length : count ≤ frames.length
  /-- They are those that have all they need. -/
  lt_iff : ∀ before frame after, frames = before ++ frame :: after →
    (before.length < count ↔
      offset + (before.flatMap Frame.written).length + frame.needed ≤ cut)

namespace Counts

variable {count : Nat} {frame : Frame}

theorem zero (short : ∀ frame ∈ frames.head?, cut < offset + frame.needed) :
    Counts frames offset cut 0 where
  le_length := Nat.zero_le _
  lt_iff := by
    intro before frame after split
    refine ⟨fun less ↦ absurd less (Nat.not_lt_zero _), fun enough ↦ ?_⟩
    rcases before with _ | ⟨first, before⟩
    · have := short frame (by rw [split]; rfl)
      change offset + 0 + frame.needed ≤ cut at enough
      omega
    · have := short first (by rw [split]; rfl)
      have := first.needed_le
      rw [List.flatMap_cons, List.length_append] at enough
      omega

theorem succ (h : Counts frames (offset + frame.written.length) cut count)
    (enough : offset + frame.needed ≤ cut) : Counts (frame :: frames) offset cut (count + 1) where
  le_length := Nat.succ_le_succ h.le_length
  lt_iff := by
    intro before other after split
    rcases before with _ | ⟨first, before⟩
    · obtain ⟨rfl, -⟩ := List.cons.inj split
      exact ⟨fun _ ↦ enough, fun _ ↦ Nat.succ_pos count⟩
    · obtain ⟨rfl, rest⟩ := List.cons.inj split
      have later := h.lt_iff before other after rest
      rw [List.length_cons, Nat.succ_lt_succ_iff, later, List.flatMap_cons, List.length_append,
        Nat.add_assoc offset]

end Counts

/-- What a reading of frames comes to if they are cut off. -/
structure ScansTo (frames : List Frame) (offset cut : Nat) (result : Scan) : Prop where
  /-- The frames in front of the cut are read, each as it was written. -/
  counts : ∃ count, Counts frames offset cut count ∧ result.frames = frames.take count
  /-- There is a fault exactly if the cut goes through a frame. -/
  torn_iff : result.fault ≠ none ↔ Torn frames offset cut
  /-- Else no more is left of a frame than the beginning of a word. -/
  leftover : result.fault = none → cut ≤ offset + (frames.flatMap Frame.written).length →
    ∃ length < (encode framePrefix).length, result.rest = (encode framePrefix).take length

/-- Frames in a row are read up to the cut. -/
theorem scansTo_take (fit : ∀ frame ∈ frames, frame.Fits) {foot : Bytes}
    (ends : Frame.read? foot = .ok none) (offset cut : Nat) :
    ScansTo frames offset cut
      (scan ((frames.flatMap Frame.written ++ foot).take (cut - offset))) := by
  induction frames generalizing offset with
  | nil =>
    have nothing : Frame.read? (foot.take (cut - offset)) = .ok none := by
      rw [Frame.read?_eq_none_iff] at ends ⊢
      exact fun front ↦ ends (front.trans (List.take_prefix _ _))
    rw [List.flatMap_nil, List.nil_append, scan_of_end nothing]
    refine ⟨⟨0, .zero nofun, rfl⟩, ?_, ?_⟩
    · exact ⟨fun fault ↦ absurd rfl fault, fun torn ↦ absurd torn not_torn_nil⟩
    · intro _ short
      rw [List.flatMap_nil, List.length_nil] at short
      refine ⟨0, by decide, ?_⟩
      dsimp only
      rw [Nat.sub_eq_zero_of_le (by omega), List.take_zero, List.take_zero]
  | cons frame frames ih =>
    have positive : 0 < (encode framePrefix).length := by decide
    have longer := frame.length_prefix_lt
    have within := frame.needed_le
    rw [List.flatMap_cons, List.append_assoc]
    rcases Frame.read?_take_cases (fit frame List.mem_cons_self)
      (frames.flatMap Frame.written ++ foot) (cut - offset) with
      ⟨enough, read⟩ | ⟨short, read⟩ | ⟨word, short, fault, read⟩
    · obtain ⟨⟨count, counts, found⟩, torn, leftover⟩ :=
        ih (fun other mem ↦ fit other (List.mem_cons_of_mem frame mem))
          (offset + frame.written.length)
      rw [Nat.sub_sub] at read
      rw [scan_of_frame read]
      refine ⟨⟨count + 1, counts.succ (by omega), ?_⟩, ?_, ?_⟩
      · rw [List.take_succ_cons, ← found]
      · rw [torn_cons]
        dsimp only
        rw [torn]
        refine ⟨.inr, fun either ↦ either.resolve_left ?_⟩
        omega
      · intro whole inside
        refine leftover whole ?_
        rw [List.flatMap_cons, List.length_append] at inside
        omega
    · rw [scan_of_end read]
      refine ⟨⟨0, .zero ?_, rfl⟩, ?_, ?_⟩
      · rintro _ ⟨⟩
        omega
      · refine ⟨fun fault ↦ absurd rfl fault, fun torn ↦ ?_⟩
        have := torn.word_le
        omega
      · intro _ _
        obtain ⟨more, whole⟩ := frame.prefix_written
        refine ⟨cut - offset, short, ?_⟩
        dsimp only
        rw [← whole, List.append_assoc, List.take_append_of_le_length (Nat.le_of_lt short)]
    · rw [scan_of_fault read]
      refine ⟨⟨0, .zero ?_, rfl⟩, ?_, nofun⟩
      · rintro _ ⟨⟩
        omega
      · exact ⟨fun _ ↦ torn_cons.mpr (.inl ⟨by omega, by omega⟩), fun _ ↦ nofun⟩

end Glyphcast.Recording
