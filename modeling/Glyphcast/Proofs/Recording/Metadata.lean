import Glyphcast.Proofs.Recording.Head
import Glyphcast.Proofs.Recording.Line
import Glyphcast.Proofs.Text.Padding
import Mathlib.Data.List.Induction

/-!
# What the metadata say

Head and foot are read by one rule: a field has the value that the last line with its key gives it.
The rule is told here without the reading. `Says` is what a single line says, `Field.Told` what all
lines together make of a field, and a later line silences an earlier one even if its own value is
malformed.

## Lines that are written, and lines that are found

A head is written line by line, and each line may have either end. That it is read as it was
written asks three things of a line: it has no line feed in it, it does not end in a carriage
return, which a line feed would take with it, and it is not the marker.

A foot is whatever follows the last frame, so its lines are not written but found. `Lined` says
which lines any bytes are made of; the last one may be without an end, and then keeps its carriage
return. There is always exactly one answer.
-/

namespace Glyphcast

namespace Recording

open Text

/-! ## The lines of bytes -/

/-- Bytes and the lines that they are made of. -/
inductive Lined : (bytes : Bytes) → (lines : List Bytes) → Prop where
  /-- Where there is nothing there is no line. -/
  | nil : Lined [] []
  /-- A line comes first. -/
  | cons {bytes line ending rest : Bytes} {lines : List Bytes}
      (begins : Begins bytes line ending rest) (later : Lined rest lines) :
      Lined bytes (line :: lines)

private theorem lined_iff {bytes : Bytes} {found : List Bytes} :
    Lined bytes found ↔ (lines bytes).map (·.1) = found := by
  constructor
  · intro h
    induction h with
    | nil =>
      rw [lines]
      rfl
    | cons begins _ ih => rw [lines_of_splitLine? begins.splitLine?_eq, List.map_cons, ih]
  · rintro rfl
    -- the rest after a line is shorter, and that is all the induction needs
    induction bytes using lines.induct with
    | case1 bytes nothing =>
      obtain rfl := splitLine?_eq_none_iff.mp nothing
      rw [lines]
      exact .nil
    | case2 bytes line rest split ih =>
      obtain ⟨ending, begins⟩ := exists_begins split
      rw [lines_of_splitLine? split]
      exact .cons begins ih

/-! ## One line -/

/-- A line says that a key has a value: its text is the key, a colon, and the value. A key has no
colon in it, so the colon is the first one, and the value may have others. -/
def Says (line : Bytes) (key : String) (value : List Char) : Prop :=
  (decodeLossy line).toList = key.toList ++ ':' :: value

namespace Header

/-- Something that the metadata tell of. -/
structure Field (α : Type) where
  /-- The key of its lines. -/
  key : String
  /-- What is known of it. -/
  get : Header → Option α
  /-- How a value is understood. -/
  read : List Char → Option α
  /-- A key ends where the first colon stands. -/
  free : ':' ∉ key.toList
  /-- It is changed by the lines with its key, and by no others. -/
  get_amend : ∀ header name value,
    get (header.amend name value) = if name = key.toList then read value else get header

private theorem ofList_eq_iff {cs : List Char} {text : String} :
    String.ofList cs = text ↔ cs = text.toList := by
  constructor
  · rintro rfl
    exact String.toList_ofList.symm
  · rintro rfl
    exact String.ofList_toList

namespace Field

/-- The version, as it is written. -/
def version : Field String where
  key := "version"
  get := (·.version)
  read := some ∘ .ofList
  free := by decide
  get_amend header name value := by
    unfold amend
    split <;> simp_all [ofList_eq_iff]

/-- The time of the start, as it is written. -/
def timestamp : Field String where
  key := "timestamp"
  get := (·.timestamp)
  read := some ∘ .ofList
  free := by decide
  get_amend header name value := by
    unfold amend
    split <;> simp_all [ofList_eq_iff]

/-- The length, a number. -/
def endTime : Field Nat where
  key := "end_time"
  get := (·.endTime)
  read := number?
  free := by decide
  get_amend header name value := by
    unfold amend
    split <;> simp_all [ofList_eq_iff]

/-- How many frames there are, a number. -/
def frameCount : Field Nat where
  key := "frame_count"
  get := (·.frameCount)
  read := number?
  free := by decide
  get_amend header name value := by
    unfold amend
    split <;> simp_all [ofList_eq_iff]

variable {α : Type} (field : Field α) {line : Bytes} {value : List Char} {header : Header}

private theorem get_amendLine_of_said (said : Says line field.key value) :
    field.get (header.amendLine line) = field.read value := by
  have cut : cut? (· == ':') (decodeLossy line).toList = some (field.key.toList, value) := by
    rw [said]
    exact cut?_append (beq_eq_false_of_not_mem field.free) (beq_self_eq_true ':')
  rw [amendLine, cut]
  dsimp only
  rw [field.get_amend, if_pos rfl]

/-- Any other line leaves it as it is. -/
theorem get_amendLine_of_silent (silent : ∀ value, ¬Says line field.key value) :
    field.get (header.amendLine line) = field.get header := by
  rw [amendLine]
  split
  · next name value cut =>
    obtain ⟨separator, text, colon, -⟩ := cut?_eq_some_iff.mp cut
    obtain rfl : separator = ':' := beq_iff_eq.mp colon
    rw [field.get_amend, if_neg]
    rintro rfl
    exact silent value text
  · rfl

end Field

end Header

/-! ## Many lines -/

/-- This is what the last of the lines with a key says. -/
def LastSays (lines : List Bytes) (key : String) (value : List Char) : Prop :=
  ∃ before line after, lines = before ++ line :: after ∧ Says line key value ∧
    ∀ other ∈ after, ∀ value, ¬Says other key value

section

variable {lines : List Bytes} {line : Bytes} {key : String} {value other : List Char}

theorem Says.unique (h : Says line key value) (h' : Says line key other) : value = other :=
  (List.cons.inj (List.append_cancel_left (h.symm.trans h'))).2

theorem LastSays.unique (h : LastSays lines key value) (h' : LastSays lines key other) :
    value = other := by
  obtain ⟨before, line, after, rfl, said, silent⟩ := h
  obtain ⟨before', line', after', parts, said', silent'⟩ := h'
  -- unless it is the same line, one of the two comes after the other, and is no line with the key
  rcases List.append_eq_append_iff.mp parts with ⟨between, -, rest⟩ | ⟨between, -, rest⟩
  · cases between with
    | nil =>
      obtain ⟨rfl, -⟩ := List.cons.inj rest
      exact said.unique said'
    | cons first others =>
      obtain ⟨-, rfl⟩ := List.cons.inj rest
      exact (silent line' (List.mem_append_right _ List.mem_cons_self) _ said').elim
  · cases between with
    | nil =>
      obtain ⟨rfl, -⟩ := List.cons.inj rest
      exact said.unique said'
    | cons first others =>
      obtain ⟨-, rfl⟩ := List.cons.inj rest
      exact (silent' line (List.mem_append_right _ List.mem_cons_self) _ said).elim

end

namespace Header

/-- What some lines make of a field: what the last one with its key says, or else what it was. -/
def Field.Told {α : Type} (field : Field α) (lines : List Bytes) (before after : Header) : Prop :=
  (∃ value, LastSays lines field.key value ∧ field.get after = field.read value) ∨
    (∀ line ∈ lines, ∀ value, ¬Says line field.key value) ∧ field.get after = field.get before

/-- What some lines make of a header. -/
structure Told (lines : List Bytes) (before after : Header) : Prop where
  version : Field.version.Told lines before after
  timestamp : Field.timestamp.Told lines before after
  endTime : Field.endTime.Told lines before after
  frameCount : Field.frameCount.Told lines before after

variable {lines : List Bytes} {before after other : Header}

/-- Reading line after line comes to what the last lines say. -/
theorem Field.told_foldl {α : Type} (field : Field α) (lines : List Bytes) (header : Header) :
    field.Told lines header (lines.foldl .amendLine header) := by
  induction lines using List.reverseRecOn with
  | nil => exact .inr ⟨nofun, rfl⟩
  | append_singleton lines line ih =>
    rw [List.foldl_append, List.foldl_cons, List.foldl_nil]
    by_cases said : ∃ value, Says line field.key value
    · obtain ⟨value, said⟩ := said
      exact .inl ⟨value, ⟨lines, line, [], rfl, said, nofun⟩, field.get_amendLine_of_said said⟩
    · -- a line that says nothing of the field leaves the last word to those before it
      have silent : ∀ value, ¬Says line field.key value := not_exists.mp said
      rw [Told, field.get_amendLine_of_silent silent]
      rcases ih with ⟨value, ⟨front, last, back, rfl, said, later⟩, told⟩ | ⟨nobody, told⟩
      · refine .inl ⟨value, ⟨front, last, back ++ [line], ?_, said, ?_⟩, told⟩
        · rw [List.append_assoc, List.cons_append]
        · intro next mem
          rcases List.mem_append.mp mem with mem | mem
          · exact later next mem
          · exact List.mem_singleton.mp mem ▸ silent
      · refine .inr ⟨?_, told⟩
        intro next mem
        rcases List.mem_append.mp mem with mem | mem
        · exact nobody next mem
        · exact List.mem_singleton.mp mem ▸ silent

private theorem told_foldl (lines : List Bytes) (header : Header) :
    Told lines header (lines.foldl .amendLine header) :=
  ⟨Field.version.told_foldl lines header, Field.timestamp.told_foldl lines header,
    Field.endTime.told_foldl lines header, Field.frameCount.told_foldl lines header⟩

theorem Field.Told.unique {α : Type} {field : Field α} (h : field.Told lines before after)
    (h' : field.Told lines before other) : field.get after = field.get other := by
  rcases h with ⟨value, last, told⟩ | ⟨nobody, told⟩ <;>
    rcases h' with ⟨value', last', told'⟩ | ⟨nobody', told'⟩
  · rw [told, told', last.unique last']
  · obtain ⟨_, line, _, rfl, said, -⟩ := last
    exact (nobody' line (List.mem_append_right _ List.mem_cons_self) _ said).elim
  · obtain ⟨_, line, _, rfl, said, -⟩ := last'
    exact (nobody line (List.mem_append_right _ List.mem_cons_self) _ said).elim
  · rw [told, told']

theorem Told.unique (h : Told lines before after) (h' : Told lines before other) :
    after = other := by
  have version := h.version.unique h'.version
  have timestamp := h.timestamp.unique h'.timestamp
  have endTime := h.endTime.unique h'.endTime
  have frameCount := h.frameCount.unique h'.frameCount
  obtain ⟨_, _, _, _⟩ := after
  obtain ⟨_, _, _, _⟩ := other
  cases version
  cases timestamp
  cases endTime
  cases frameCount
  rfl

/-- A number has only white space around it, and fits in 64 bits. -/
theorem number?_eq_some_iff {value : List Char} {n : Nat} : number? value = some n ↔
    ∃ front numeral back, value = front ++ (numeral ++ back) ∧ (∀ c ∈ front, isBlank c = true) ∧
      (∀ c ∈ back, isBlank c = true) ∧ Decimal.Spells numeral n ∧ n < UInt64.size := by
  rw [number?, Decimal.read?_eq_some_iff, Decimal.spells_trim_iff]
  simp only [← exists_and_right, and_assoc]

end Header

/-! ## A head as it is written -/

/-- How a line ends that others follow. -/
inductive LineEnd where
  /-- With a line feed. -/
  | feed
  /-- With a carriage return and a line feed. -/
  | returnFeed

/-- The bytes of an end. -/
def LineEnd.bytes : LineEnd → Bytes
  | feed => [lineFeed]
  | returnFeed => [0x0d, lineFeed]

private theorem LineEnd.endsLine (ending : LineEnd) (rest : Bytes) :
    EndsLine ending.bytes rest := by
  cases ending with
  | feed => exact .feed rest
  | returnFeed => exact .returnFeed rest

private theorem LineEnd.bytes_ne_nil (ending : LineEnd) : ending.bytes ≠ [] := by
  cases ending with
  | feed => exact List.cons_ne_nil _ _
  | returnFeed => exact List.cons_ne_nil _ _

/-- A line of metadata and its end. -/
structure MetadataLine where
  /-- What it says. -/
  line : Bytes
  /-- How it ends. -/
  ending : LineEnd
  /-- It ends there and not before. -/
  free : lineFeed ∉ line
  /-- A carriage return would be taken for a part of the end. -/
  noReturn : line.getLast? ≠ some 0x0d
  /-- It is not the marker. -/
  other : line ≠ encode framesMarker

/-- Its bytes. -/
def MetadataLine.written (metadata : MetadataLine) : Bytes :=
  metadata.line ++ metadata.ending.bytes

/-- A head: the tag, lines of metadata, and the marker. -/
def writtenHead (tagEnd : LineEnd) (metadata : List MetadataLine) (markerEnd : LineEnd) : Bytes :=
  encode tag ++ (tagEnd.bytes ++ (metadata.flatMap MetadataLine.written ++
    (encode framesMarker ++ markerEnd.bytes)))

private theorem lines_append {line : Bytes} (free : lineFeed ∉ line)
    (noReturn : line.getLast? ≠ some 0x0d) (ending : LineEnd) (rest : Bytes) :
    lines (line ++ (ending.bytes ++ rest)) = (line, rest) :: lines rest :=
  lines_of_splitLine? (splitLine?_append free noReturn (ending.endsLine rest)
    (List.append_ne_nil_of_right_ne_nil _ ending.bytes_ne_nil))

private theorem exists_lines_append (metadata : List MetadataLine) (rest : Bytes) :
    ∃ found, lines (metadata.flatMap MetadataLine.written ++ rest) = found ++ lines rest ∧
      found.map (·.1) = metadata.map (·.line) := by
  induction metadata with
  | nil => exact ⟨[], rfl, rfl⟩
  | cons first others ih =>
    obtain ⟨found, all, same⟩ := ih
    refine ⟨(first.line, others.flatMap MetadataLine.written ++ rest) :: found, ?_, ?_⟩
    · rw [List.flatMap_cons, MetadataLine.written, List.append_assoc, List.append_assoc,
        lines_append first.free first.noReturn, all, List.cons_append]
    · rw [List.map_cons, List.map_cons, same]

private theorem Header.read_writtenHead (tagEnd : LineEnd) (metadata : List MetadataLine)
    (markerEnd : LineEnd) (rest : Bytes) :
    read (writtenHead tagEnd metadata markerEnd ++ rest) =
      .ok ((metadata.map (·.line)).foldl .amendLine {}, rest) := by
  set body := encode framesMarker ++ (markerEnd.bytes ++ rest)
  have whole : writtenHead tagEnd metadata markerEnd ++ rest =
      encode tag ++ (tagEnd.bytes ++ (metadata.flatMap MetadataLine.written ++ body)) := by
    simp only [writtenHead, List.append_assoc, body]
  obtain ⟨found, all, same⟩ := exists_lines_append metadata body
  have marker : lines body = (encode framesMarker, rest) :: lines rest :=
    lines_append (by decide) (by decide) markerEnd rest
  have first := lines_append (by decide) (by decide : (encode tag).getLast? ≠ some 0x0d) tagEnd
    (metadata.flatMap MetadataLine.written ++ body)
  rw [← whole, all, marker] at first
  have pass : ∀ line ∈ found, (!isMarker line.1) = true := by
    intro line mem
    have inside : line.1 ∈ metadata.map (·.line) := same ▸ List.mem_map_of_mem mem
    obtain ⟨written, -, line_eq⟩ := List.mem_map.mp inside
    rw [Bool.not_eq_true', Bool.eq_false_iff, Ne, isMarker_iff, ← line_eq]
    exact written.other
  have stop : ¬(!isMarker (encode framesMarker)) = true := by
    rw [isMarker_iff.mpr rfl]
    decide
  have tagged : Tagged (writtenHead tagEnd metadata markerEnd ++ rest) := by
    rw [Tagged, firstLine, first]
    rfl
  rw [read_of_tagged tagged, first, List.tail_cons, List.dropWhile_append_of_pos pass,
    List.dropWhile_cons_of_neg (by exact stop), List.takeWhile_append_of_pos pass,
    List.takeWhile_cons_of_neg (by exact stop), List.append_nil, ← same, List.foldl_map]

/-- A head is complete if the tag comes first and the marker later. -/
theorem Header.exists_read_iff_of_lined {data : Bytes} {found : List Bytes}
    (lined : Lined data found) : (∃ head, read data = .ok head) ↔
      found.head? = some (encode tag) ∧ encode framesMarker ∈ found.tail := by
  obtain rfl := lined_iff.mp lined
  rw [exists_read_iff, List.head?_map, ← List.map_tail, Tagged, firstLine, Marked]
  refine and_congr ?_ List.mem_map.symm
  cases (lines data).head? with
  | none => exact ⟨fun empty ↦ absurd empty (by decide), nofun⟩
  | some first => exact Option.some_inj.symm

/-! ## The rule -/

open Header in
/-- What is promised of the metadata of a recording. -/
structure ReadsMetadata : Prop where
  /-- Whatever the ends of its lines, a head is read up to the marker, and says what the last line
  for each key says. What follows the head is left, and makes no difference. -/
  head : ∀ tagEnd metadata markerEnd, ∃ header, Told (metadata.map (·.line)) {} header ∧
    ∀ rest, read (writtenHead tagEnd metadata markerEnd ++ rest) = .ok (header, rest)
  /-- The lines of a foot have the last word on a header, by the same rule. -/
  foot : ∀ header foot lines, Lined foot lines → Told lines header (header.amendAll foot)
  /-- All bytes have lines, in one way. -/
  lined : ∀ bytes, ∃! lines, Lined bytes lines
  /-- The lines make one thing of a header. -/
  told : ∀ lines before after other, Told lines before after → Told lines before other →
    after = other
  /-- A value that is a number is one in white space. Any other says nothing. -/
  number_iff : ∀ value n, number? value = some n ↔
    ∃ front numeral back, value = front ++ (numeral ++ back) ∧ (∀ c ∈ front, isBlank c = true) ∧
      (∀ c ∈ back, isBlank c = true) ∧ Decimal.Spells numeral n ∧ n < UInt64.size
  /-- A head is read exactly if the first line is the tag and a later one is the marker. -/
  complete_iff : ∀ data lines, Lined data lines → ((∃ head, read data = .ok head) ↔
    lines.head? = some (encode tag) ∧ encode framesMarker ∈ lines.tail)

/-- Of several lines for a key the last one counts, in the head and in the foot. -/
theorem readsMetadata_lines : ReadsMetadata where
  head tagEnd metadata markerEnd :=
    ⟨_, Header.told_foldl _ _, Header.read_writtenHead tagEnd metadata markerEnd⟩
  foot header foot found lined := by
    have same : header.amendAll foot = found.foldl .amendLine header := by
      rw [Header.amendAll, ← lined_iff.mp lined, List.foldl_map]
    rw [same]
    exact Header.told_foldl found header
  lined bytes :=
    ⟨(lines bytes).map (·.1), lined_iff.mpr rfl, fun _ lined ↦ (lined_iff.mp lined).symm⟩
  told _ _ _ _ := Header.Told.unique
  number_iff _ _ := Header.number?_eq_some_iff
  complete_iff _ _ := Header.exists_read_iff_of_lined

end Recording

end Glyphcast
