import Glyphcast.Proofs.Recording.Line
import Glyphcast.Proofs.Text.Plain
import Glyphcast.Recording.Frame

/-!
# Which records are read

A record is a header line, the bytes that it announces, and a line feed. Here it is told which
bytes are read as one, whatever they are: `Stands` is the form of a record at a position, written
down without the reader, and a frame is found exactly where one stands. Everything else that can be
found is told along with it, so that there is no third case: bytes that do not begin like a header
line end the frames, and the rest are faults, each with what is said of it.

## What follows the text

The form asks for a line feed after the text, or for nothing at all. The reader takes the line feed
where it is there, and does not ask for it: a text that is followed by another byte is read like
any other, and what follows it is taken for the next record. `Documented` is the form as it should
be, and `Reads` says where the two part.
-/

namespace Glyphcast.Recording

open Text

/-! ## Header lines -/

namespace FrameHeader

variable {header : FrameHeader}

/-- The text of a header line: two numerals below `2 ^ 64` behind the word, a colon between them. -/
def Spelled (text : String) (header : FrameHeader) : Prop :=
  ∃ elapsed length : List Char,
    text = framePrefix ++ String.ofList elapsed ++ ":" ++ String.ofList length ∧
      (Decimal.Spells elapsed header.elapsed ∧ header.elapsed < UInt64.size) ∧
      Decimal.Spells length header.length ∧ header.length < UInt64.size

/-- A line that announces a frame. -/
def Announced (line : Bytes) (header : FrameHeader) : Prop :=
  ∃ text, Spelled text header ∧ encode text = line

private theorem strip?_eq_some_iff {beginning cs rest : List Char} :
    strip? beginning cs = some rest ↔ cs = beginning ++ rest := by
  rw [strip?]
  constructor
  · intro h
    split at h
    · next front =>
      obtain ⟨tail, rfl⟩ := List.isPrefixOf_iff_prefix.mp front
      rw [List.drop_left] at h
      rw [Option.some.inj h]
    · nomatch h
  · rintro rfl
    rw [if_pos (List.isPrefixOf_iff_prefix.mpr (List.prefix_append _ _)), List.drop_left]

theorem ne_colon_of_spells {cs : List Char} {n : Nat} (h : Decimal.Spells cs n) :
    ∀ c ∈ cs, (c == ':') = false := by
  refine beq_eq_false_of_not_mem fun mem ↦ ?_
  rcases h.mem mem with digit | sign
  · exact absurd digit (by decide)
  · exact absurd sign (by decide)

theorem ofText?_eq_some_iff {text : String} : ofText? text = some header ↔ Spelled text header := by
  have parts (elapsed length : List Char) :
      text = framePrefix ++ String.ofList elapsed ++ ":" ++ String.ofList length ↔
        text.toList = framePrefix.toList ++ (elapsed ++ ':' :: length) := by
    rw [← String.toList_inj]
    simp only [String.toList_append, String.toList_ofList, List.append_assoc]
    rfl
  rw [ofText?]
  simp only [Option.bind_eq_bind, Option.bind_eq_some_iff, Option.pure_def, Option.some.injEq,
    strip?_eq_some_iff, Decimal.read?_eq_some_iff, Text.cut?_eq_some_iff, Prod.exists]
  constructor
  · rintro ⟨rest, whole, elapsed, length, ⟨separator, rfl, colon, -⟩, time, timed, size, sized, rfl⟩
    obtain rfl : separator = ':' := beq_iff_eq.mp colon
    exact ⟨elapsed, length, (parts elapsed length).mpr whole, timed, sized⟩
  · rintro ⟨elapsed, length, whole, timed, sized⟩
    exact ⟨_, (parts elapsed length).mp whole, elapsed, length,
      ⟨':', rfl, beq_self_eq_true ':', ne_colon_of_spells timed.1⟩, header.elapsed, timed,
      header.length, sized, rfl⟩

theorem ofLine_eq_ok_iff {line : Bytes} : ofLine line = .ok header ↔ Announced line header := by
  rw [ofLine]
  constructor
  · intro h
    split at h
    · next text decoded =>
      rw [parse] at h
      split at h
      · next found parsed =>
        obtain rfl := Except.ok.inj h
        exact ⟨text, ofText?_eq_some_iff.mp parsed, decode?_eq_some_iff.mp decoded⟩
      · nomatch h
    · nomatch h
  · rintro ⟨text, spelled, rfl⟩
    rw [decode?_encode]
    dsimp only
    rw [parse, ofText?_eq_some_iff.mpr spelled]

/-- What a message says of a line: its text, as far as it is one. -/
def shown (line : Bytes) : String := (decode? line).getD (decodeLossy line)

theorem ofLine_of_not_announced {line : Bytes} (h : ∀ header, ¬Announced line header) :
    ofLine line = .error (.badFrameHeader (shown line)) := by
  rw [ofLine, shown]
  rcases decoded : decode? line with _ | text
  · rfl
  · dsimp only [parse]
    rcases parsed : ofText? text with _ | found
    · rfl
    · exact absurd ⟨text, ofText?_eq_some_iff.mp parsed, decode?_eq_some_iff.mp decoded⟩ (h found)

private theorem Spelled.isPlain {text : String} (h : Spelled text header) : IsPlain text := by
  have numeral {cs : List Char} {n : Nat} (spelled : Decimal.Spells cs n) :
      IsPlain (String.ofList cs) := by
    intro c mem
    rw [String.toList_ofList] at mem
    rcases spelled.mem mem with digit | rfl
    · have range := toNat_of_isDigit digit
      omega
    · decide
  obtain ⟨elapsed, length, rfl, ⟨time, -⟩, size, -⟩ := h
  exact ((IsPlain.append (by decide) (numeral time)).append (by decide)).append (numeral size)

theorem Announced.ne_nil {line : Bytes} (h : Announced line header) : line ≠ [] := by
  obtain ⟨text, ⟨elapsed, length, rfl, -, -⟩, rfl⟩ := h
  rw [encode_append, encode_append, encode_append, List.append_assoc, List.append_assoc]
  exact List.append_ne_nil_of_left_ne_nil (by decide) _

/-- A line that announces a frame begins with the word for it. -/
theorem Announced.begins {line : Bytes} (h : Announced line header) :
    encode framePrefix <+: line := by
  obtain ⟨text, ⟨elapsed, length, rfl, -, -⟩, rfl⟩ := h
  rw [encode_append, encode_append, encode_append, List.append_assoc, List.append_assoc]
  exact List.prefix_append _ _

private theorem Announced.not_mem {line : Bytes} (h : Announced line header) {b : UInt8}
    (low : b < 0x20) : b ∉ line := by
  obtain ⟨text, spelled, rfl⟩ := h
  intro mem
  exact absurd low (UInt8.not_lt.mpr (mem_encode_of_isPlain spelled.isPlain mem).1)

end FrameHeader

namespace Frame

variable {bytes line rest ending payload tail : Bytes} {header : FrameHeader}

/-! ## One record -/

private theorem prefix_line_iff (h : splitLine? bytes = some (line, rest)) :
    encode framePrefix <+: line ↔ encode framePrefix <+: bytes := by
  obtain ⟨ending, rfl, ends, -⟩ := exists_endsLine h
  constructor
  · intro front
    exact front.trans (List.prefix_append line _)
  · intro front
    rcases List.prefix_or_prefix_of_prefix front (List.prefix_append line _) with inLine | longer
    · exact inLine
    obtain ⟨more, whole⟩ := longer
    rcases more with _ | ⟨b, more⟩
    · rw [List.append_nil] at whole
      exact whole ▸ List.prefix_refl line
    -- the word has neither a line feed nor a carriage return in it, so it does not reach beyond
    have inWord : b ∈ encode framePrefix := by
      rw [← whole]
      exact List.mem_append_right line List.mem_cons_self
    have notInEnding : b ∉ ending := by
      intro mem
      rcases ends.mem mem with rfl | rfl
      · exact absurd inWord (by decide)
      · exact absurd inWord (by decide)
    rw [← whole, List.prefix_append_right_inj] at front
    rcases ending with _ | ⟨first, ending⟩
    · rw [ends.rest_eq_nil] at front
      nomatch List.prefix_nil.mp front
    · obtain ⟨rfl, -⟩ := List.cons_prefix_cons.mp front
      exact absurd List.mem_cons_self notInEnding

theorem read?_of_splitLine? (h : splitLine? bytes = some (line, rest)) :
    read? bytes =
      if encode framePrefix <+: line then
        match FrameHeader.ofLine line with
        | .error fault => .error fault
        | .ok header =>
          if rest.length < header.length then .error (.truncated header.length rest.length)
          else .ok (some (⟨header.elapsed, rest.take header.length⟩,
            dropLineFeed (rest.drop header.length)))
      else .ok none := by
  rw [read?, h]
  dsimp only
  by_cases front : encode framePrefix <+: line
  · rw [if_pos front, List.isPrefixOf_iff_prefix.mpr front]
    rcases FrameHeader.ofLine line with fault | header
    · rfl
    · change (do return some (← take header rest)) = _
      rw [take]
      dsimp only
      rw [List.length_take]
      by_cases short : rest.length < header.length
      · rw [if_pos (by omega), if_pos short, Nat.min_eq_right (by omega)]
        rfl
      · rw [if_neg (by omega), if_neg short]
        rfl
  · have other : (encode framePrefix).isPrefixOf line = false := by
      rw [Bool.eq_false_iff]
      exact mt List.isPrefixOf_iff_prefix.mp front
    rw [if_neg front, other]
    rfl

theorem read?_eq_none_iff : read? bytes = .ok none ↔ ¬encode framePrefix <+: bytes := by
  rcases split : splitLine? bytes with _ | ⟨line, rest⟩
  · obtain rfl := splitLine?_eq_none_iff.mp split
    exact ⟨fun _ ↦ by decide, fun _ ↦ rfl⟩
  rw [read?_of_splitLine? split, ← prefix_line_iff split]
  constructor
  · intro h front
    rw [if_pos front] at h
    split at h
    · nomatch h
    · split at h
      · nomatch h
      · nomatch h
  · intro other
    exact if_neg other

/-- A frame is found exactly where one stands, and what is left is what stands after it. -/
theorem read?_eq_some_iff {frame : Frame} {after : Bytes} :
    read? bytes = .ok (some (frame, after)) ↔
      ∃ line ending tail, bytes = line ++ (ending ++ (frame.payload ++ tail)) ∧
        EndsLine ending (frame.payload ++ tail) ∧
        FrameHeader.Announced line ⟨frame.elapsed, frame.payload.length⟩ ∧
        after = dropLineFeed tail := by
  constructor
  · intro h
    rcases split : splitLine? bytes with _ | ⟨line, rest⟩
    · rw [splitLine?_eq_none_iff.mp split] at h
      nomatch h
    obtain ⟨ending, parts, ends, -⟩ := exists_endsLine split
    rw [read?_of_splitLine? split] at h
    split at h
    swap
    · nomatch h
    split at h
    · nomatch h
    next header announced =>
    split at h
    · nomatch h
    next long =>
    obtain ⟨rfl, rfl⟩ := Prod.mk.inj (Option.some.inj (Except.ok.inj h))
    have taken : (rest.take header.length).length = header.length := by
      rw [List.length_take]
      omega
    have whole := rest.take_append_drop header.length
    refine ⟨line, ending, rest.drop header.length, ?_, ?_, ?_, rfl⟩
    · dsimp only
      rwa [whole]
    · dsimp only
      rwa [whole]
    · dsimp only
      rw [taken]
      exact FrameHeader.ofLine_eq_ok_iff.mp announced
  · rintro ⟨line, ending, tail, rfl, ends, announced, rfl⟩
    have noReturn : line.getLast? ≠ some 0x0d := by
      intro last
      exact announced.not_mem (by decide) (List.mem_of_getLast? last)
    have split := splitLine?_append (announced.not_mem (by decide)) noReturn ends
      (List.append_ne_nil_of_left_ne_nil announced.ne_nil _)
    rw [read?_of_splitLine? split, if_pos announced.begins,
      FrameHeader.ofLine_eq_ok_iff.mpr announced]
    dsimp only
    rw [if_neg (by rw [List.length_append]; omega), List.take_left, List.drop_left]

end Frame

/-! ## Records at positions -/

/-- The position after the line feed at a position, if there is one. -/
def afterLineFeed (data : Bytes) (position : Nat) : Nat :=
  if data[position]? = some lineFeed then position + 1 else position

variable {data line : Bytes} {position next : Nat} {found : Located}

private theorem dropLineFeed_drop (data : Bytes) (position : Nat) :
    Frame.dropLineFeed (data.drop position) = data.drop (afterLineFeed data position) := by
  rw [afterLineFeed, ← List.head?_drop]
  rcases rest : data.drop position with _ | ⟨b, rest'⟩
  · rw [if_neg nofun, rest]
    rfl
  · rw [Frame.dropLineFeed, List.head?_cons]
    split
    · next feed =>
      rw [if_pos (congrArg some feed), ← List.drop_drop, rest]
      rfl
    · next other =>
      rw [if_neg (mt Option.some.inj other), rest]

private theorem afterLineFeed_le (inside : position ≤ data.length) :
    afterLineFeed data position ≤ data.length := by
  rw [afterLineFeed]
  split
  · next feed =>
    have := (List.getElem?_eq_some_iff.mp feed).1
    omega
  · exact inside

/-- What is read at a position, computed with positions. -/
theorem frameAt_of_lineAt? (h : lineAt? data position = some (line, next)) :
    frameAt data position =
      if encode framePrefix <+: line then
        match FrameHeader.ofLine line with
        | .error fault => .error fault
        | .ok header =>
          if data.length - next < header.length then
            .error (.truncated header.length (data.length - next))
          else .ok (some ⟨header.elapsed, next, next + header.length,
            afterLineFeed data (next + header.length)⟩)
      else .ok none := by
  have within := (bounds_of_lineAt? h).2
  rw [frameAt, Frame.read?_of_splitLine? (splitLine?_of_lineAt? h), h]
  split
  swap
  · rfl
  rcases FrameHeader.ofLine line with fault | header
  · rfl
  dsimp only
  rw [List.length_drop]
  split
  · rfl
  next long =>
  have stops : next + header.length ≤ data.length := by omega
  have taken : ((data.drop next).take header.length).length = header.length := by
    rw [List.length_take, List.length_drop]
    omega
  rw [List.drop_drop, dropLineFeed_drop]
  change Except.ok (some (Located.mk header.elapsed next
    (next + ((data.drop next).take header.length).length)
    (data.length - (data.drop (afterLineFeed data (next + header.length))).length))) = _
  rw [taken, List.length_drop, Nat.sub_sub_self (afterLineFeed_le stops)]

private theorem frameAt_of_no_line (h : lineAt? data position = none) :
    frameAt data position = .ok none := by
  rw [frameAt, List.drop_eq_nil_iff.mpr (lineAt?_eq_none_iff.mp h)]
  rfl

theorem frameAt_eq_some_iff : frameAt data position = .ok (some found) ↔
    ∃ line header, lineAt? data position = some (line, found.start) ∧
      FrameHeader.Announced line header ∧ header.elapsed = found.elapsed ∧
      found.stop = found.start + header.length ∧ found.stop ≤ data.length ∧
      found.next = afterLineFeed data found.stop := by
  constructor
  · intro h
    rcases split : lineAt? data position with _ | ⟨line, next⟩
    · rw [frameAt_of_no_line split] at h
      nomatch h
    have within := (bounds_of_lineAt? split).2
    rw [frameAt_of_lineAt? split] at h
    split at h
    swap
    · nomatch h
    split at h
    · nomatch h
    next header announced =>
    split at h
    · nomatch h
    next long =>
    obtain rfl := Option.some.inj (Except.ok.inj h)
    exact ⟨line, header, rfl, FrameHeader.ofLine_eq_ok_iff.mp announced, rfl, rfl,
      by dsimp only; omega, rfl⟩
  · rintro ⟨line, header, split, announced, time, stop, within, next⟩
    rw [frameAt_of_lineAt? split, if_pos announced.begins,
      FrameHeader.ofLine_eq_ok_iff.mpr announced]
    dsimp only
    rw [if_neg (by omega), ← stop, ← next, time]

theorem bounds_of_frameAt (h : frameAt data position = .ok (some found)) :
    position < found.start ∧ found.start ≤ found.stop ∧ found.stop ≤ found.next ∧
      found.next ≤ data.length := by
  obtain ⟨line, header, split, -, -, stop, within, next⟩ := frameAt_eq_some_iff.mp h
  have further := (bounds_of_lineAt? split).1
  have inside := afterLineFeed_le within
  have onward : found.stop ≤ afterLineFeed data found.stop := by
    rw [afterLineFeed]
    split <;> omega
  omega

/-- The bytes of a frame that has been found. -/
def Located.payload (found : Located) (data : Bytes) : Bytes :=
  (data.drop found.start).take (found.stop - found.start)

/-! ## The form of a record -/

/-- A record stands at a position, in these parts. -/
structure Laid (data : Bytes) (position : Nat) (found : Located)
    (line ending payload after : Bytes) : Prop where
  bytes_eq : data.drop position = line ++ (ending ++ (payload ++ after))
  /-- The header line tells the time, and the number of bytes that follow its end. -/
  announced : FrameHeader.Announced line ⟨found.elapsed, payload.length⟩
  ends : EndsLine ending (payload ++ after)
  start_eq : found.start = position + line.length + ending.length
  stop_eq : found.stop = found.start + payload.length
  /-- A line feed after the text belongs to the record. -/
  next_eq : found.next = found.stop + if after.head? = some lineFeed then 1 else 0

/-- A record stands at a position. -/
def Stands (data : Bytes) (position : Nat) (found : Located) : Prop :=
  ∃ line ending payload after, Laid data position found line ending payload after

/-- A record stands at a position, with a line feed or nothing after its text. -/
def Documented (data : Bytes) (position : Nat) (found : Located) : Prop :=
  ∃ line ending payload after, Laid data position found line ending payload after ∧
    (after = [] ∨ after.head? = some lineFeed)

/-- After the text of a frame stands a line feed, or nothing. -/
def Located.IsClosed (found : Located) (data : Bytes) : Prop :=
  found.stop = data.length ∨ data[found.stop]? = some lineFeed

namespace Laid

variable {ending payload after : Bytes}

theorem length_eq (h : Laid data position found line ending payload after) :
    position + line.length + ending.length + payload.length + after.length = data.length := by
  have lengths := congrArg List.length h.bytes_eq
  have some := List.length_pos_iff.mpr h.announced.ne_nil
  simp only [List.length_append, List.length_drop] at lengths
  omega

private theorem lineAt?_eq (h : Laid data position found line ending payload after) :
    lineAt? data position = some (line, found.start) := by
  have noReturn : line.getLast? ≠ some 0x0d := by
    intro last
    exact h.announced.not_mem (by decide) (List.mem_of_getLast? last)
  rw [lineAt?_eq_some_iff]
  refine ⟨payload ++ after, ?_, ?_⟩
  · rw [h.bytes_eq]
    exact splitLine?_append (h.announced.not_mem (by decide)) noReturn h.ends
      (List.append_ne_nil_of_left_ne_nil h.announced.ne_nil _)
  · have := h.length_eq
    rw [List.length_append, h.start_eq]
    omega

private theorem drop_start (h : Laid data position found line ending payload after) :
    data.drop found.start = payload ++ after := by
  have parts : data.drop position = (line ++ ending) ++ (payload ++ after) := by
    rw [h.bytes_eq, List.append_assoc]
  rw [h.start_eq, Nat.add_assoc, ← List.length_append, ← List.drop_drop, parts, List.drop_left]

private theorem drop_stop (h : Laid data position found line ending payload after) :
    data.drop found.stop = after := by
  rw [h.stop_eq, ← List.drop_drop, h.drop_start, List.drop_left]

private theorem payload_eq (h : Laid data position found line ending payload after) :
    found.payload data = payload := by
  rw [Located.payload, h.drop_start, h.stop_eq, Nat.add_sub_cancel_left, List.take_left]

private theorem afterLineFeed_eq (h : Laid data position found line ending payload after) :
    found.next = afterLineFeed data found.stop := by
  rw [afterLineFeed, ← List.head?_drop, h.drop_stop, h.next_eq]
  split <;> rfl

/-- What follows the text of a record is told by the position after it. -/
theorem isClosed_iff (h : Laid data position found line ending payload after) :
    found.IsClosed data ↔ after = [] ∨ after.head? = some lineFeed := by
  have lengths := h.length_eq
  have start := h.start_eq
  have stop := h.stop_eq
  rw [Located.IsClosed, ← List.head?_drop, h.drop_stop, ← List.length_eq_zero_iff]
  constructor
  · rintro (atEnd | feed)
    · exact .inl (by omega)
    · exact .inr feed
  · rintro (empty | feed)
    · exact .inl (by omega)
    · exact .inr feed

end Laid

/-- A frame is found exactly where a record stands. -/
theorem frameAt_eq_some_iff_stands :
    frameAt data position = .ok (some found) ↔ Stands data position found := by
  rw [frameAt_eq_some_iff]
  constructor
  · rintro ⟨line, header, split, announced, time, stop, within, next⟩
    obtain ⟨ending, parts, ends, start, -⟩ := exists_endsLine_at split
    have whole := (data.drop found.start).take_append_drop header.length
    have taken : ((data.drop found.start).take header.length).length = header.length := by
      rw [List.length_take, List.length_drop]
      omega
    refine ⟨line, ending, (data.drop found.start).take header.length,
      (data.drop found.start).drop header.length, ?_⟩
    constructor
    · rw [whole, parts]
    · rw [taken, ← time]
      exact announced
    · rwa [whole]
    · exact start
    · rw [taken, stop]
    · rw [next, afterLineFeed, List.head?_drop, List.getElem?_drop, ← stop]
      split <;> rfl
  · rintro ⟨line, ending, payload, after, laid⟩
    have lengths := laid.length_eq
    have start := laid.start_eq
    exact ⟨line, _, laid.lineAt?_eq, laid.announced, rfl, laid.stop_eq,
      by rw [laid.stop_eq]; omega, laid.afterLineFeed_eq⟩

/-- The documented form asks for one thing more than is needed to be read. -/
theorem documented_iff :
    Documented data position found ↔ Stands data position found ∧ found.IsClosed data := by
  constructor
  · rintro ⟨line, ending, payload, after, laid, closed⟩
    exact ⟨⟨line, ending, payload, after, laid⟩, laid.isClosed_iff.mpr closed⟩
  · rintro ⟨⟨line, ending, payload, after, laid⟩, closed⟩
    exact ⟨line, ending, payload, after, laid, laid.isClosed_iff.mp closed⟩

theorem read?_of_frameAt (h : frameAt data position = .ok (some found)) :
    Frame.read? (data.drop position) =
      .ok (some (⟨found.elapsed, found.payload data⟩, data.drop found.next)) := by
  obtain ⟨line, ending, payload, after, laid⟩ := frameAt_eq_some_iff_stands.mp h
  rw [Frame.read?_eq_some_iff, laid.payload_eq]
  refine ⟨line, ending, after, laid.bytes_eq, laid.ends, laid.announced, ?_⟩
  rw [laid.afterLineFeed_eq, ← dropLineFeed_drop, laid.drop_stop]

theorem frameAt_eq_none_iff :
    frameAt data position = .ok none ↔ ¬encode framePrefix <+: data.drop position := by
  rcases split : lineAt? data position with _ | ⟨line, next⟩
  · rw [List.drop_eq_nil_iff.mpr (lineAt?_eq_none_iff.mp split), frameAt_of_no_line split]
    exact ⟨fun _ ↦ by decide, fun _ ↦ rfl⟩
  rw [frameAt_of_lineAt? split, ← Frame.prefix_line_iff (splitLine?_of_lineAt? split)]
  constructor
  · intro h front
    rw [if_pos front] at h
    split at h
    · nomatch h
    · split at h
      · nomatch h
      · nomatch h
  · intro other
    exact if_neg other

/-- What reading at a position comes to. -/
structure Reads (data : Bytes) (position : Nat) (result : Except FormatError (Option Located)) :
    Prop where
  /-- A frame is found exactly where a record stands, and what is told of it is what stands
  there. -/
  frame_iff : ∀ found, result = .ok (some found) ↔ Stands data position found
  /-- Its bytes are those of the record. -/
  payload_eq : ∀ found, result = .ok (some found) →
    ∃ line ending after, Laid data position found line ending (found.payload data) after
  /-- A line that does not begin like a header line ends the frames. -/
  end_iff : result = .ok none ↔ ¬encode framePrefix <+: data.drop position
  /-- Everything else is a fault. -/
  fault_iff : (∃ fault, result = .error fault) ↔
    encode framePrefix <+: data.drop position ∧ ∀ found, ¬Stands data position found
  /-- A line that only begins like a header line is shown. -/
  malformed : ∀ line next, lineAt? data position = some (line, next) →
    encode framePrefix <+: line → (∀ header, ¬FrameHeader.Announced line header) →
    result = .error (.badFrameHeader (FrameHeader.shown line))
  /-- More bytes are announced than there are. -/
  truncated : ∀ line next header, lineAt? data position = some (line, next) →
    FrameHeader.Announced line header → data.length - next < header.length →
    result = .error (.truncated header.length (data.length - next))
  /-- What is found is what is documented, unless a record stands there with something else than a
  line feed after its text. -/
  as_documented_iff : (∀ found, result = .ok (some found) ↔ Documented data position found) ↔
    ∀ found, Stands data position found → found.IsClosed data

/-- Whatever the bytes are and wherever the reading begins. -/
theorem reads_frameAt (data : Bytes) (position : Nat) :
    Reads data position (frameAt data position) where
  frame_iff := fun _ ↦ frameAt_eq_some_iff_stands
  payload_eq := by
    intro found h
    obtain ⟨line, ending, payload, after, laid⟩ := frameAt_eq_some_iff_stands.mp h
    exact ⟨line, ending, after, laid.payload_eq.symm ▸ laid⟩
  end_iff := frameAt_eq_none_iff
  fault_iff := by
    constructor
    · rintro ⟨fault, h⟩
      constructor
      · by_contra other
        nomatch h.symm.trans (frameAt_eq_none_iff.mpr other)
      · intro found stands
        nomatch h.symm.trans (frameAt_eq_some_iff_stands.mpr stands)
    · rintro ⟨front, nothing⟩
      rcases result : frameAt data position with fault | _ | found
      · exact ⟨fault, rfl⟩
      · exact absurd front (frameAt_eq_none_iff.mp result)
      · exact absurd (frameAt_eq_some_iff_stands.mp result) (nothing found)
  malformed := by
    intro line next split front nothing
    rw [frameAt_of_lineAt? split, if_pos front, FrameHeader.ofLine_of_not_announced nothing]
  truncated := by
    intro line next header split announced short
    rw [frameAt_of_lineAt? split, if_pos announced.begins,
      FrameHeader.ofLine_eq_ok_iff.mpr announced]
    exact if_pos short
  as_documented_iff := by
    simp only [frameAt_eq_some_iff_stands, documented_iff]
    exact ⟨fun same found stands ↦ ((same found).mp stands).2,
      fun closed found ↦ ⟨fun stands ↦ ⟨stands, closed found stands⟩, fun both ↦ both.1⟩⟩

/-- A text of three bytes is announced and five follow: a frame is found all the same, and what is
left of the text is no record. -/
theorem frameAt_unclosed :
    let data := encode "frame:0:3\nabcde\nframe:9:1\nx\n"
    frameAt data 0 = .ok (some ⟨0, 10, 13, 13⟩) ∧ ¬Documented data 0 ⟨0, 10, 13, 13⟩ ∧
      frameAt data 13 = .ok none := by
  intro data
  have found : frameAt data 0 = .ok (some ⟨0, 10, 13, 13⟩) := by decide +kernel
  have notClosed : ¬Located.IsClosed ⟨0, 10, 13, 13⟩ data := by
    rintro (atEnd | feed)
    · exact absurd atEnd (by decide +kernel)
    · exact absurd feed (by decide +kernel)
  refine ⟨found, ?_, by decide +kernel⟩
  rw [documented_iff]
  exact fun both ↦ notClosed both.2

end Glyphcast.Recording
