import Glyphcast.Proofs.Text.Numeral
import Glyphcast.Recording.Line

/-!
# Where a line ends

A line ends with a line feed, or with a carriage return and a line feed, or with the bytes
themselves. `EndsLine` says so of the bytes that a reading of lines leaves out, and with it the
reading is told from both sides: what it finds stands there in this form, and what stands there in
this form is found.

The reader of lines is given a position and gives one back. The one it gives is further on and not
past the end, and nothing else is needed to see that whoever reads line after line comes to an end.
-/

namespace Glyphcast.Recording

/-! ## One line -/

/-- The end of a line, with these bytes after it. -/
inductive EndsLine : (ending rest : Bytes) → Prop where
  /-- A line feed. -/
  | feed (rest : Bytes) : EndsLine [lineFeed] rest
  /-- A carriage return and a line feed. -/
  | returnFeed (rest : Bytes) : EndsLine [0x0d, lineFeed] rest
  /-- The last line may have no end. -/
  | bare : EndsLine [] []

variable {bytes line rest ending data : Bytes} {position next : Nat}

theorem EndsLine.mem (h : EndsLine ending rest) {b : UInt8} (mem : b ∈ ending) :
    b = lineFeed ∨ b = 0x0d := by
  rcases h with _ | _ | _
  · exact .inl (List.mem_singleton.mp mem)
  · rcases List.mem_cons.mp mem with rfl | mem
    · exact .inr rfl
    · exact .inl (List.mem_singleton.mp mem)
  · nomatch mem

theorem EndsLine.rest_eq_nil (h : EndsLine [] rest) : rest = [] := by
  rcases h with _ | _ | _
  rfl

/-- Bytes that begin with a line. There is something of it, if only its end, and no line feed in
it; and where a carriage return and a line feed stand together, both are its end. -/
structure Begins (bytes line ending rest : Bytes) : Prop where
  /-- The line is followed by its end, and that by the rest. -/
  parts : bytes = line ++ (ending ++ rest)
  /-- It ends as lines do. -/
  ends : EndsLine ending rest
  /-- It does not end before. -/
  free : lineFeed ∉ line
  /-- It is there. -/
  nonempty : line ++ ending ≠ []
  /-- Nothing of its end is left on it. -/
  whole : ending = [lineFeed] → line.getLast? ≠ some 0x0d

private theorem exists_begins_dropReturn {before : Bytes} (free : lineFeed ∉ before)
    (rest : Bytes) :
    ∃ ending, Begins (before ++ lineFeed :: rest) (dropReturn before) ending rest := by
  rw [dropReturn]
  split
  · next last =>
    obtain ⟨front, rfl⟩ := List.getLast?_eq_some_iff.mp last
    rw [List.dropLast_concat, List.append_assoc]
    refine ⟨[0x0d, lineFeed], rfl, .returnFeed rest, ?_, ?_, nofun⟩
    · exact fun mem ↦ free (List.mem_append_left _ mem)
    · exact List.append_ne_nil_of_right_ne_nil _ (List.cons_ne_nil _ _)
  · next last =>
    exact ⟨[lineFeed], rfl, .feed rest, free,
      List.append_ne_nil_of_right_ne_nil _ (List.cons_ne_nil _ _), fun _ ↦ last⟩

@[simp] theorem splitLine?_eq_none_iff : splitLine? bytes = none ↔ bytes = [] := by
  rw [splitLine?]
  constructor
  · intro h
    split at h
    · nomatch h
    · split at h
      · next empty => exact List.isEmpty_iff.mp empty
      · nomatch h
  · rintro rfl
    rfl

theorem exists_begins (h : splitLine? bytes = some (line, rest)) :
    ∃ ending, Begins bytes line ending rest := by
  rw [splitLine?] at h
  split at h
  · next before after cut =>
    obtain ⟨rfl, rfl⟩ := Prod.mk.inj (Option.some.inj h)
    obtain ⟨separator, rfl, feed, free⟩ := Text.cut?_eq_some_iff.mp cut
    obtain rfl : separator = lineFeed := beq_iff_eq.mp feed
    refine exists_begins_dropReturn ?_ after
    intro mem
    exact absurd (free lineFeed mem) (by decide)
  · next whole =>
    split at h
    · nomatch h
    · next some =>
      obtain ⟨rfl, rfl⟩ := Prod.mk.inj (Option.some.inj h)
      refine ⟨[], (List.append_nil bytes).symm, .bare, ?_, ?_, nofun⟩
      · intro mem
        exact absurd (Text.cut?_eq_none_iff.mp whole lineFeed mem) (by decide)
      · rw [List.append_nil]
        exact mt List.isEmpty_iff.mpr some

/-- A line is followed by its end and by what is left, and has no line feed in it. -/
theorem exists_endsLine (h : splitLine? bytes = some (line, rest)) :
    ∃ ending, bytes = line ++ (ending ++ rest) ∧ EndsLine ending rest ∧ lineFeed ∉ line := by
  obtain ⟨ending, begins⟩ := exists_begins h
  exact ⟨ending, begins.parts, begins.ends, begins.free⟩

theorem splitLine?_of_no_lineFeed (free : lineFeed ∉ bytes) (some : bytes ≠ []) :
    splitLine? bytes = .some (bytes, []) := by
  rw [splitLine?, Text.cut?_eq_none_iff.mpr (Text.beq_eq_false_of_not_mem free)]
  dsimp only
  rw [if_neg (mt List.isEmpty_iff.mp some)]

theorem Begins.splitLine?_eq (h : Begins bytes line ending rest) :
    splitLine? bytes = some (line, rest) := by
  obtain ⟨rfl, ends, free, nonempty, whole⟩ := h
  have pass : ∀ b ∈ line, (b == lineFeed) = false := Text.beq_eq_false_of_not_mem free
  rcases ends with _ | _ | _
  · rw [splitLine?, List.singleton_append, Text.cut?_append pass (beq_self_eq_true lineFeed)]
    dsimp only
    rw [dropReturn, if_neg (whole rfl)]
  · have passBoth : ∀ b ∈ line ++ [0x0d], (b == lineFeed) = false := by
      intro b mem
      rcases List.mem_append.mp mem with mem | mem
      · exact pass b mem
      · rw [List.mem_singleton.mp mem]
        decide
    have regrouped : line ++ ([0x0d, lineFeed] ++ rest) = (line ++ [0x0d]) ++ lineFeed :: rest := by
      rw [List.append_assoc]
      rfl
    rw [splitLine?, regrouped, Text.cut?_append passBoth (beq_self_eq_true lineFeed)]
    dsimp only
    rw [dropReturn, if_pos List.getLast?_concat, List.dropLast_concat]
  · rw [List.append_nil] at nonempty
    rw [List.append_nil, List.append_nil]
    exact splitLine?_of_no_lineFeed free nonempty

/-- A line that has no line feed in it and no carriage return at its end is found as it is. -/
theorem splitLine?_append (free : lineFeed ∉ line) (noReturn : line.getLast? ≠ some 0x0d)
    (ends : EndsLine ending rest) (some : line ++ ending ≠ []) :
    splitLine? (line ++ (ending ++ rest)) = .some (line, rest) :=
  Begins.splitLine?_eq ⟨rfl, ends, free, some, fun _ ↦ noReturn⟩

/-! ## Lines at positions -/

theorem lineAt?_eq_some_iff : lineAt? data position = some (line, next) ↔
    ∃ rest, splitLine? (data.drop position) = some (line, rest) ∧
      data.length - rest.length = next := by
  rw [lineAt?, Option.map_eq_some_iff]
  constructor
  · rintro ⟨⟨line, rest⟩, found, same⟩
    obtain ⟨rfl, rfl⟩ := Prod.mk.inj same
    exact ⟨rest, found, rfl⟩
  · rintro ⟨rest, found, rfl⟩
    exact ⟨(line, rest), found, rfl⟩

@[simp] theorem lineAt?_eq_none_iff : lineAt? data position = none ↔ data.length ≤ position := by
  rw [lineAt?, Option.map_eq_none_iff, splitLine?_eq_none_iff, List.drop_eq_nil_iff]

theorem splitLine?_of_lineAt? (h : lineAt? data position = some (line, next)) :
    splitLine? (data.drop position) = some (line, data.drop next) := by
  obtain ⟨rest, found, rfl⟩ := lineAt?_eq_some_iff.mp h
  obtain ⟨ending, parts, -, -⟩ := exists_endsLine found
  have suffix : rest <:+ data :=
    ⟨data.take position ++ (line ++ ending), by
      rw [List.append_assoc, List.append_assoc, ← parts, List.take_append_drop]⟩
  rwa [← List.suffix_iff_eq_drop.mp suffix]

/-- The position after a line is found by adding the lengths of the line and of its end. -/
theorem exists_endsLine_at (h : lineAt? data position = some (line, next)) :
    ∃ ending, data.drop position = line ++ (ending ++ data.drop next) ∧
      EndsLine ending (data.drop next) ∧ next = position + line.length + ending.length ∧
      next ≤ data.length := by
  have found := splitLine?_of_lineAt? h
  obtain ⟨ending, parts, ends, -⟩ := exists_endsLine found
  have inside : position < data.length := by
    rw [← Nat.not_le, ← lineAt?_eq_none_iff, h]
    exact nofun
  have within : next ≤ data.length := by
    obtain ⟨rest, -, rfl⟩ := lineAt?_eq_some_iff.mp h
    exact Nat.sub_le _ _
  refine ⟨ending, parts, ends, ?_, within⟩
  have lengths := congrArg List.length parts
  simp only [List.length_append, List.length_drop] at lengths
  omega

theorem bounds_of_lineAt? (h : lineAt? data position = some (line, next)) :
    position < next ∧ next ≤ data.length := by
  have shorter := length_of_splitLine? (splitLine?_of_lineAt? h)
  obtain ⟨-, -, -, -, within⟩ := exists_endsLine_at h
  rw [List.length_drop, List.length_drop] at shorter
  exact ⟨by omega, within⟩

theorem lines_drop_of_lineAt? (h : lineAt? data position = some (line, next)) :
    lines (data.drop position) = (line, data.drop next) :: lines (data.drop next) :=
  lines_of_splitLine? (splitLine?_of_lineAt? h)

end Glyphcast.Recording
