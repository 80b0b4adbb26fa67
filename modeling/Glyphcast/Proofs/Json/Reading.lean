import Glyphcast.Proofs.Json.Written
import Mathlib.Data.List.DropRight

/-!
# What is written is read

Token by token, and then value by value: in front of any text that does not go on with it, a value
that was written is cut off and read, and what was behind it is left. `Stops` is the condition that
makes this true of numbers, the only values without an end of their own.

The reader takes steps, and each one uses up a character of the text; so as many steps as there are
characters are enough for a value. The items of an array need one more.
-/

namespace Glyphcast.Json

/-! ## White space -/

@[simp] theorem skipSpace_gap (gap : Gap) (rest : List Char) :
    skipSpace (gap.chars ++ rest) = skipSpace rest :=
  List.dropWhile_append_of_pos gap.spaces

@[simp] theorem skipSpace_skipSpace (cs : List Char) : skipSpace (skipSpace cs) = skipSpace cs :=
  List.dropWhile_idempotent isSpace cs

private theorem skipSpace_cons {c : Char} (visible : isSpace c = false) (cs : List Char) :
    skipSpace (c :: cs) = c :: cs := by
  rw [skipSpace, List.dropWhile_cons_of_neg (by rw [visible]; decide)]

/-! ## Strings -/

@[simp] private theorem hexDigit?_char (digit : HexDigit) :
    hexDigit? digit.char = some digit.value.val := by
  obtain ⟨value, capital⟩ := digit
  revert value capital
  decide

@[simp] private theorem readUnit?_text (unit : CodeUnit) (rest : List Char) :
    readUnit? (unit.text ++ rest) = some (unit.value, rest) := by
  simp [readUnit?, CodeUnit.text, CodeUnit.value]

private theorem readEscape?_short {mark c : Char} (known : (mark, c) ∈ shortEscapes)
    (rest : List Char) : readEscape? (mark :: rest) = some (c, rest) := by
  simp only [shortEscapes, List.mem_cons, Prod.mk.injEq, List.not_mem_nil, or_false] at known
  rcases known with ⟨rfl, rfl⟩ | ⟨rfl, rfl⟩ | ⟨rfl, rfl⟩ | ⟨rfl, rfl⟩ | ⟨rfl, rfl⟩ | ⟨rfl, rfl⟩ |
    ⟨rfl, rfl⟩ | ⟨rfl, rfl⟩ <;> rfl

private theorem readCodePoint?_unit {unit : CodeUnit}
    (whole : ¬(0xd800 ≤ unit.value ∧ unit.value ≤ 0xdfff)) (rest : List Char) :
    readCodePoint? (unit.text ++ rest) = some (Char.ofNat unit.value, rest) := by
  simp only [readCodePoint?, readUnit?_text, Option.bind_eq_bind, Option.bind_some]
  rw [if_neg (by omega), if_neg (by omega)]

private theorem readCodePoint?_pair {high low : CodeUnit}
    (leads : 0xd800 ≤ high.value ∧ high.value ≤ 0xdbff)
    (trails : 0xdc00 ≤ low.value ∧ low.value ≤ 0xdfff) (rest : List Char) :
    readCodePoint? (high.text ++ '\\' :: 'u' :: (low.text ++ rest)) =
      some (Char.ofNat (0x10000 + (high.value - 0xd800) * 0x400 + (low.value - 0xdc00)), rest) := by
  simp only [readCodePoint?, readUnit?_text, Option.bind_eq_bind, Option.bind_some]
  rw [if_neg (by omega), if_pos leads]
  exact if_pos trails

theorem readString?_escape {cs rest : List Char} {c : Char} (read : List Char)
    (escape : readEscape? cs = some (c, rest)) :
    readString? read ('\\' :: cs) = readString? (c :: read) rest := by
  rw [readString?, if_neg (by decide), if_pos rfl]
  split
  · next refused => cases refused.symm.trans escape
  · next other after found =>
    cases found.symm.trans escape
    rfl

/-- However a character is written, it is read as itself. -/
theorem readString?_spelling (spelling : Spelling) (read rest : List Char) :
    readString? read (spelling.text ++ rest) = readString? (spelling.char :: read) rest := by
  cases spelling with
  | plain c free =>
    rw [Spelling.text, List.singleton_append, readString?, if_neg free.1, if_neg free.2.1,
      if_neg (Nat.not_lt.mpr free.2.2)]
    rfl
  | short mark c known => exact readString?_escape read (readEscape?_short known rest)
  | unit digits whole => exact readString?_escape read (readCodePoint?_unit whole rest)
  | pair high low leads trails =>
    refine readString?_escape read ?_
    have := readCodePoint?_pair leads trails rest
    simp only [List.append_eq, List.cons_append, List.append_assoc, readEscape?]
    exact this

private theorem readString?_spellings (spellings : List Spelling) (read rest : List Char) :
    readString? read (spellings.flatMap (·.text) ++ '"' :: rest) =
      some (String.ofList (read.reverse ++ spellings.map (·.char)), rest) := by
  induction spellings generalizing read with
  | nil =>
    rw [List.flatMap_nil, List.nil_append, readString?, if_pos rfl, List.map_nil, List.append_nil]
  | cons spelling spellings ih =>
    rw [List.flatMap_cons, List.append_assoc, readString?_spelling, ih, List.reverse_cons,
      List.append_assoc]
    rfl

private theorem readString?_body (s : WrittenString) (rest : List Char) :
    readString? [] (s.body ++ rest) = some (s.value, rest) := by
  rw [WrittenString.body, List.append_assoc]
  exact readString?_spellings s.spellings [] rest

/-! ## Numbers -/

/-- A text does not go on with a number that stands in front of it. -/
def Stops (rest : List Char) : Prop :=
  ∀ c ∈ rest.head?, c.isDigit = false ∧ c ≠ '.' ∧ c ≠ 'e' ∧ c ≠ 'E'

private theorem stops_nil : Stops [] := nofun

private theorem stops_gap (gap : Gap) {rest : List Char} (stops : Stops rest) :
    Stops (gap.chars ++ rest) := by
  obtain ⟨chars, spaces⟩ := gap
  cases chars with
  | nil => exact stops
  | cons c chars =>
    rintro _ ⟨⟩
    have space := spaces c List.mem_cons_self
    simp only [isSpace, Bool.or_eq_true, beq_iff_eq] at space
    rcases space with ((rfl | rfl) | rfl) | rfl <;> decide

private theorem stops_cons {c : Char} (other : c.isDigit = false ∧ c ≠ '.' ∧ c ≠ 'e' ∧ c ≠ 'E')
    (rest : List Char) : Stops (c :: rest) := by
  rintro _ ⟨⟩
  exact other

private theorem spanDigits_append (ds : Digits) {rest : List Char}
    (ends : ∀ c ∈ rest.head?, c.isDigit = false) :
    spanDigits (ds.chars ++ rest) = (ds.chars, rest) := by
  have rested : rest.takeWhile Char.isDigit = [] ∧ rest.dropWhile Char.isDigit = rest := by
    cases rest with
    | nil => exact ⟨rfl, rfl⟩
    | cons c rest =>
      have := ends c rfl
      exact ⟨List.takeWhile_cons_of_neg (by rw [this]; decide),
        List.dropWhile_cons_of_neg (by rw [this]; decide)⟩
  rw [spanDigits, List.takeWhile_append_of_pos ds.digits, List.dropWhile_append_of_pos ds.digits,
    rested.1, rested.2, List.append_nil]

private theorem readWhole?_append (n : WrittenNumber) {rest : List Char}
    (ends : ∀ c ∈ rest.head?, c.isDigit = false) :
    readWhole? (n.whole.chars ++ rest) = some (n.whole.chars, rest) := by
  rw [readWhole?, spanDigits_append n.whole ends]
  obtain ⟨negative, ⟨chars, nonempty, digits⟩, minimal, fraction, exponent⟩ := n
  cases chars with
  | nil => exact (nonempty rfl).elim
  | cons c cs =>
    by_cases zero : c = '0'
    · cases zero
      cases minimal rfl
      rfl
    · split
      · next found => cases found
      · next found => cases found; exact (zero rfl).elim
      · next found => cases found; exact (zero rfl).elim
      · next found => cases found; rfl

private theorem readFraction?_append (fraction : Option Digits) {rest : List Char}
    (ends : ∀ c ∈ rest.head?, c.isDigit = false ∧ c ≠ '.') :
    readFraction? (fraction.elim [] ('.' :: ·.chars) ++ rest) =
      some (fraction.map (·.chars), rest) := by
  cases fraction with
  | none =>
    rw [Option.elim_none, List.nil_append, Option.map_none, readFraction?.eq_def]
    split
    · exact ((ends '.' rfl).2 rfl).elim
    · rfl
  | some ds =>
    rw [Option.elim_some, List.cons_append, readFraction?, Option.map_some,
      spanDigits_append ds fun c mem ↦ (ends c mem).1]
    split
    · next found => exact (ds.nonempty (congrArg Prod.fst found)).elim
    · next found => cases found; rfl

private theorem readSign_append (exponent : Exponent) (rest : List Char) :
    readSign (exponent.signText ++ (exponent.digits.chars ++ rest)) =
      (exponent.parts.1, exponent.digits.chars ++ rest) := by
  obtain ⟨capital, sign, ⟨chars, nonempty, digits⟩⟩ := exponent
  match sign with
  | some true => rfl
  | some false => rfl
  | none =>
    cases chars with
    | nil => exact (nonempty rfl).elim
    | cons c cs =>
      have digit := digits c List.mem_cons_self
      rw [Exponent.signText, List.nil_append, List.cons_append, readSign.eq_def]
      split
      · next plus => cases plus; cases digit
      · next minus => cases minus; cases digit
      · rfl

private theorem readExponent?_append (exponent : Option Exponent) {rest : List Char}
    (ends : ∀ c ∈ rest.head?, c.isDigit = false ∧ c ≠ 'e' ∧ c ≠ 'E') :
    readExponent? (exponent.elim [] (·.text) ++ rest) = some (exponent.map (·.parts), rest) := by
  cases exponent with
  | none =>
    cases rest with
    | nil => rfl
    | cons c rest =>
      obtain ⟨-, small, capital⟩ := ends c rfl
      exact if_neg fun mark ↦ mark.elim small capital
  | some exponent =>
    have mark : (if exponent.capital then 'E' else 'e') = 'e' ∨
        (if exponent.capital then 'E' else 'e') = 'E' := by
      cases exponent.capital
      · exact .inl rfl
      · exact .inr rfl
    rw [Option.elim_some, Exponent.text, List.cons_append, readExponent?, if_pos mark,
      List.append_assoc, readSign_append]
    dsimp only
    rw [spanDigits_append exponent.digits fun c mem ↦ (ends c mem).1]
    split
    · next found => exact (exponent.digits.nonempty (congrArg Prod.fst found)).elim
    · next found => cases found; rfl

private theorem head_exponent (exponent : Option Exponent) {rest : List Char} (stops : Stops rest) :
    ∀ c ∈ (exponent.elim [] (·.text) ++ rest).head?, c.isDigit = false ∧ c ≠ '.' := by
  cases exponent with
  | none => exact fun c mem ↦ ⟨(stops c mem).1, (stops c mem).2.1⟩
  | some exponent =>
    rintro _ ⟨⟩
    cases exponent.capital <;> decide

private theorem head_fraction (fraction : Option Digits) {rest : List Char}
    (ends : ∀ c ∈ rest.head?, c.isDigit = false) :
    ∀ c ∈ (fraction.elim [] ('.' :: ·.chars) ++ rest).head?, c.isDigit = false := by
  cases fraction with
  | none => exact ends
  | some ds =>
    rintro _ ⟨⟩
    decide

/-- What a numeral is read from behind its sign. -/
def Numeral.readUnsigned? (negative : Bool) (cs : List Char) : Option (Numeral × List Char) := do
  let (whole, cs) ← readWhole? cs
  let (fraction, cs) ← readFraction? cs
  let (exponent, cs) ← readExponent? cs
  return (⟨negative, whole, fraction, exponent⟩, cs)

theorem read?_minus (cs : List Char) :
    Numeral.read? ('-' :: cs) = Numeral.readUnsigned? true cs :=
  rfl

theorem read?_of_head_ne {cs : List Char} (unsigned : ∀ c ∈ cs.head?, c ≠ '-') :
    Numeral.read? cs = Numeral.readUnsigned? false cs := by
  unfold Numeral.read?
  split
  next signed =>
    split at signed
    · exact (unsigned '-' rfl rfl).elim
    · cases signed
      rfl

private theorem readUnsigned?_text (n : WrittenNumber) (negative : Bool) {rest : List Char}
    (stops : Stops rest) :
    Numeral.readUnsigned? negative (n.whole.chars ++ (n.fraction.elim [] ('.' :: ·.chars) ++
      (n.exponent.elim [] (·.text) ++ rest))) =
        some ({ n.numeral with negative }, rest) := by
  have exponent := head_exponent n.exponent stops
  have fraction := head_fraction n.fraction fun c mem ↦ (exponent c mem).1
  have last := readExponent?_append n.exponent fun c mem ↦ ⟨(stops c mem).1, (stops c mem).2.2⟩
  simp only [Numeral.readUnsigned?, readWhole?_append n fraction,
    readFraction?_append n.fraction exponent, last, Option.bind_eq_bind, Option.bind_some,
    Option.pure_def]
  rfl

private theorem Digits.head_ne_minus (ds : Digits) (rest : List Char) :
    ∀ c ∈ (ds.chars ++ rest).head?, c ≠ '-' := by
  obtain ⟨chars, nonempty, digits⟩ := ds
  cases chars with
  | nil => exact (nonempty rfl).elim
  | cons c cs =>
    rintro _ ⟨⟩ rfl
    cases digits '-' List.mem_cons_self

private theorem read?_text (n : WrittenNumber) {rest : List Char} (stops : Stops rest) :
    Numeral.read? (n.text ++ rest) = some (n.numeral, rest) := by
  have unsigned (negative : Bool) := readUnsigned?_text n negative stops
  have head := n.whole.head_ne_minus
  obtain ⟨negative, whole, minimal, fraction, exponent⟩ := n
  simp only [WrittenNumber.text, List.append_assoc]
  cases negative with
  | true => exact unsigned true
  | false => exact (read?_of_head_ne (head _)).trans (unsigned false)

/-! ## Values -/

private theorem head_number (n : WrittenNumber) (rest : List Char) :
    ∃ c cs, n.text ++ rest = c :: cs ∧ (c = '-' ∨ c.isDigit = true) := by
  unfold WrittenNumber.text
  cases n.negative with
  | true => exact ⟨_, _, rfl, .inl rfl⟩
  | false =>
    obtain ⟨chars, nonempty, digits⟩ := n.whole
    cases chars with
    | nil => exact (nonempty rfl).elim
    | cons c cs => exact ⟨_, _, rfl, .inr (digits c List.mem_cons_self)⟩

private theorem not_isSpace_of_number {c : Char} (begins : c = '-' ∨ c.isDigit = true) :
    isSpace c = false := by
  rw [Bool.eq_false_iff]
  intro space
  simp only [isSpace, Bool.or_eq_true, beq_iff_eq] at space
  rcases space with ((rfl | rfl) | rfl) | rfl <;> revert begins <;> decide

/-- What a value begins with is not white space, and does not close an array. -/
theorem head_text (w : Written) (rest : List Char) :
    ∃ c cs, w.text ++ rest = c :: cs ∧ isSpace c = false ∧ c ≠ ']' := by
  unfold Written.text
  match w with
  | .null => exact ⟨_, _, rfl, by decide, by decide⟩
  | .bool true => exact ⟨_, _, rfl, by decide, by decide⟩
  | .bool false => exact ⟨_, _, rfl, by decide, by decide⟩
  | .string _ => exact ⟨_, _, rfl, by decide, by decide⟩
  | .emptyArray _ => exact ⟨_, _, rfl, by decide, by decide⟩
  | .array _ => exact ⟨_, _, rfl, by decide, by decide⟩
  | .emptyObject _ => exact ⟨_, _, rfl, by decide, by decide⟩
  | .object _ => exact ⟨_, _, rfl, by decide, by decide⟩
  | .number n =>
    obtain ⟨c, cs, text, begins⟩ := head_number n rest
    refine ⟨c, cs, text, not_isSpace_of_number begins, ?_⟩
    rintro rfl
    revert begins
    decide

@[simp] theorem readValue?_skipSpace (levels steps : Nat) (cs : List Char) :
    readValue? levels steps (skipSpace cs) = readValue? levels steps cs := by
  cases steps with
  | zero => rfl
  | succ steps => simp only [readValue?, skipSpace_skipSpace]

@[simp] theorem readItems?_skipSpace (levels steps : Nat) (read : List Json) (cs : List Char) :
    readItems? levels steps read (skipSpace cs) = readItems? levels steps read cs := by
  cases steps with
  | zero => rfl
  | succ steps => simp only [readItems?, readValue?_skipSpace]

@[simp] theorem readMembers?_skipSpace (levels steps : Nat) (read : List (String × Json))
    (cs : List Char) :
    readMembers? levels steps read (skipSpace cs) = readMembers? levels steps read cs := by
  cases steps with
  | zero => rfl
  | succ steps => simp only [readMembers?, skipSpace_skipSpace]

@[simp] private theorem readValue?_gap (levels steps : Nat) (gap : Gap) (cs : List Char) :
    readValue? levels steps (gap.chars ++ cs) = readValue? levels steps cs := by
  rw [← readValue?_skipSpace, skipSpace_gap, readValue?_skipSpace]

private theorem readValue?_number (levels steps : Nat) (n : WrittenNumber) {rest : List Char}
    (stops : Stops rest) : readValue? levels (steps + 1) (n.text ++ rest) =
      ((Written.number n).value? levels).map (·, rest) := by
  obtain ⟨c, cs, text, begins⟩ := head_number n rest
  have numeral := read?_text n stops
  rw [readValue?, text, skipSpace_cons (not_isSpace_of_number begins)]
  rw [text] at numeral
  split
  · next found => cases found; exact absurd begins (by decide)
  · next found => cases found; exact absurd begins (by decide)
  · next found => cases found; exact absurd begins (by decide)
  · next found => cases found; exact absurd begins (by decide)
  · next found => cases found; exact absurd begins (by decide)
  · next found => cases found; exact absurd begins (by decide)
  · rw [numeral, Written.value?, Option.bind_eq_bind, Option.bind_some]
    dsimp only
    cases n.numeral.value? <;> rfl

private theorem head_items (items : WrittenItems) (rest : List Char) :
    ∃ c cs, skipSpace (items.text ++ rest) = c :: cs ∧ c ≠ ']' := by
  have first (before : Gap) (item : Written) (behind : List Char) :
      ∃ c cs, skipSpace (before.chars ++ (item.text ++ behind)) = c :: cs ∧ c ≠ ']' := by
    obtain ⟨c, cs, text, visible, other⟩ := head_text item behind
    rw [skipSpace_gap, text, skipSpace_cons visible]
    exact ⟨c, cs, rfl, other⟩
  cases items with
  | last before item after =>
    rw [WrittenItems.text, List.append_assoc, List.append_assoc]
    exact first before item _
  | more before item after items =>
    rw [WrittenItems.text, List.append_assoc, List.append_assoc]
    exact first before item _

private theorem head_members (members : WrittenMembers) (rest : List Char) :
    ∃ cs, skipSpace (members.text ++ rest) = '"' :: cs := by
  have first (key : WrittenKey) (behind : List Char) :
      ∃ cs, skipSpace (key.text ++ behind) = '"' :: cs := by
    rw [WrittenKey.text, List.append_assoc, skipSpace_gap, WrittenString.text, List.cons_append,
      List.cons_append, skipSpace_cons (by decide)]
    exact ⟨_, rfl⟩
  cases members with
  | last key value after =>
    rw [WrittenMembers.text, List.append_assoc]
    exact first key _
  | more key value after members =>
    rw [WrittenMembers.text, List.append_assoc]
    exact first key _

/-! The first character of a value decides what is read. -/

private theorem readValue?_quote (levels steps : Nat) (cs : List Char) :
    readValue? levels (steps + 1) ('"' :: cs) =
      (readString? [] cs).map fun (s, rest) ↦ (.string s, rest) :=
  rfl

theorem readValue?_bracket (levels steps : Nat) (cs : List Char) :
    readValue? (levels + 1) (steps + 1) ('[' :: cs) =
      match skipSpace cs with
      | ']' :: rest => some (.array [], rest)
      | rest => (readItems? levels steps [] rest).map fun (items, rest) ↦ (.array items, rest) :=
  rfl

theorem readValue?_brace (levels steps : Nat) (cs : List Char) :
    readValue? (levels + 1) (steps + 1) ('{' :: cs) =
      match skipSpace cs with
      | '}' :: rest => some (.object [], rest)
      | rest =>
        (readMembers? levels steps [] rest).map fun (members, rest) ↦ (.object members, rest) :=
  rfl

private theorem readValue?_string (levels steps : Nat) (s : WrittenString) (rest : List Char) :
    readValue? levels (steps + 1) (s.text ++ rest) =
      ((Written.string s).value? levels).map (·, rest) := by
  rw [WrittenString.text, List.cons_append, readValue?_quote, readString?_body]
  rfl

private theorem readValue?_emptyArray (levels steps : Nat) (gap : Gap) (rest : List Char) :
    readValue? levels (steps + 1) ('[' :: (gap.chars ++ ']' :: rest)) =
      ((Written.emptyArray gap).value? levels).map (·, rest) := by
  cases levels with
  | zero => rfl
  | succ levels =>
    rw [readValue?_bracket, skipSpace_gap, skipSpace_cons (by decide)]
    rfl

private theorem readValue?_emptyObject (levels steps : Nat) (gap : Gap) (rest : List Char) :
    readValue? levels (steps + 1) ('{' :: (gap.chars ++ '}' :: rest)) =
      ((Written.emptyObject gap).value? levels).map (·, rest) := by
  cases levels with
  | zero => rfl
  | succ levels =>
    rw [readValue?_brace, skipSpace_gap, skipSpace_cons (by decide)]
    rfl

private theorem readValue?_array (levels steps : Nat) (items : WrittenItems) (rest : List Char)
    (ih : ∀ levels, readItems? levels steps [] (items.text ++ ']' :: rest) =
      (items.values? levels).map (·, rest)) :
    readValue? levels (steps + 1) ('[' :: (items.text ++ ']' :: rest)) =
      ((Written.array items).value? levels).map (·, rest) := by
  obtain ⟨c, cs, first, other⟩ := head_items items (']' :: rest)
  rw [Written.value?]
  cases levels with
  | zero => rfl
  | succ levels =>
    rw [readValue?_bracket, if_neg (Nat.succ_ne_zero levels), Nat.add_sub_cancel]
    split
    · next closed =>
      cases first.symm.trans closed
      exact (other rfl).elim
    · rw [readItems?_skipSpace, ih, Option.map_map, Option.map_map]
      rfl

private theorem readValue?_object (levels steps : Nat) (members : WrittenMembers) (rest : List Char)
    (ih : ∀ levels, readMembers? levels steps [] (members.text ++ '}' :: rest) =
      (members.values? levels).map (·, rest)) :
    readValue? levels (steps + 1) ('{' :: (members.text ++ '}' :: rest)) =
      ((Written.object members).value? levels).map (·, rest) := by
  obtain ⟨cs, first⟩ := head_members members ('}' :: rest)
  rw [Written.value?]
  cases levels with
  | zero => rfl
  | succ levels =>
    rw [readValue?_brace, if_neg (Nat.succ_ne_zero levels), Nat.add_sub_cancel]
    split
    · next closed => cases first.symm.trans closed
    · rw [readMembers?_skipSpace, ih, Option.map_map, Option.map_map]
      rfl

theorem readMembers?_key (levels steps : Nat) (read : List (String × Json)) (key : WrittenKey)
    (cs : List Char) : readMembers? levels (steps + 1) read (key.text ++ cs) =
      (readValue? levels steps cs).bind fun (value, rest) ↦
        match skipSpace rest with
        | ',' :: rest => readMembers? levels steps ((key.name.value, value) :: read) rest
        | '}' :: rest => some (((key.name.value, value) :: read).reverse, rest)
        | _ => none := by
  have text : key.text ++ cs = key.before.chars ++ '"' ::
      (key.name.body ++ (key.between.chars ++ ':' :: (key.after.chars ++ cs))) := by
    simp only [WrittenKey.text, WrittenString.text, List.append_assoc, List.cons_append]
  rw [text, ← readMembers?_skipSpace, skipSpace_gap, skipSpace_cons (by decide), readMembers?,
    skipSpace_cons (by decide)]
  simp only [readString?_body, Option.bind_eq_bind, Option.bind_some]
  rw [skipSpace_gap, skipSpace_cons (by decide)]
  exact congrArg (Option.bind · _) (readValue?_gap levels steps key.after cs)

mutual

/-- A value that was written is read, in as many steps as it has characters. -/
theorem readValue?_text (w : Written) (levels steps : Nat) {rest : List Char} (stops : Stops rest)
    (enough : w.text.length ≤ steps) :
    readValue? levels steps (w.text ++ rest) = (w.value? levels).map (·, rest) := by
  obtain ⟨steps, rfl⟩ : ∃ less, steps = less + 1 := by
    obtain ⟨c, cs, text, -⟩ := head_text w []
    rw [List.append_nil] at text
    rw [text, List.length_cons] at enough
    exact ⟨steps - 1, by omega⟩
  match w with
  | .null => rfl
  | .bool true => rfl
  | .bool false => rfl
  | .number n => exact readValue?_number levels steps n stops
  | .string s => exact readValue?_string levels steps s rest
  | .emptyArray gap =>
    rw [Written.text, List.cons_append, List.append_assoc]
    exact readValue?_emptyArray levels steps gap rest
  | .emptyObject gap =>
    rw [Written.text, List.cons_append, List.append_assoc]
    exact readValue?_emptyObject levels steps gap rest
  | .array items =>
    rw [Written.text, List.length_cons, List.length_append, List.length_singleton] at enough
    rw [Written.text, List.cons_append, List.append_assoc]
    exact readValue?_array levels steps items rest fun levels ↦
      readItems?_text items levels steps [] rest (by omega)
  | .object members =>
    rw [Written.text, List.length_cons, List.length_append, List.length_singleton] at enough
    rw [Written.text, List.cons_append, List.append_assoc]
    exact readValue?_object levels steps members rest fun levels ↦
      readMembers?_text members levels steps [] rest (by omega)

private theorem readItems?_text (items : WrittenItems) (levels steps : Nat) (read : List Json)
    (rest : List Char) (enough : items.text.length + 1 ≤ steps) :
    readItems? levels steps read (items.text ++ ']' :: rest) =
      (items.values? levels).map fun values ↦ (read.reverse ++ values, rest) := by
  obtain ⟨steps, rfl⟩ : ∃ less, steps = less + 1 := ⟨steps - 1, by omega⟩
  match items with
  | .last before item after =>
    simp only [WrittenItems.text, List.length_append] at enough
    have first := readValue?_text item levels steps
      (stops_gap after (stops_cons (c := ']') (by decide) rest)) (by omega)
    simp only [WrittenItems.text, List.append_assoc]
    rw [readItems?, readValue?_gap, first, WrittenItems.values?]
    cases item.value? levels with
    | none => rfl
    | some value =>
      simp only [Option.map_some, Option.bind_eq_bind, Option.bind_some, skipSpace_gap]
      rw [skipSpace_cons (by decide), List.reverse_cons]
      rfl
  | .more before item after items =>
    simp only [WrittenItems.text, List.length_append, List.length_cons] at enough
    have first := readValue?_text item levels steps
      (stops_gap after (stops_cons (c := ',') (by decide) (items.text ++ ']' :: rest)))
      (by omega)
    simp only [WrittenItems.text, List.append_assoc, List.cons_append]
    rw [readItems?, readValue?_gap, first, WrittenItems.values?]
    cases item.value? levels with
    | none => rfl
    | some value =>
      simp only [Option.map_some, Option.bind_eq_bind, Option.bind_some, skipSpace_gap]
      rw [skipSpace_cons (by decide)]
      have others := readItems?_text items levels steps (value :: read) rest (by omega)
      refine others.trans ?_
      rw [List.reverse_cons]
      cases items.values? levels with
      | none => rfl
      | some values => simp

private theorem readMembers?_text (members : WrittenMembers) (levels steps : Nat)
    (read : List (String × Json)) (rest : List Char) (enough : members.text.length + 1 ≤ steps) :
    readMembers? levels steps read (members.text ++ '}' :: rest) =
      (members.values? levels).map fun values ↦ (read.reverse ++ values, rest) := by
  obtain ⟨steps, rfl⟩ : ∃ less, steps = less + 1 := ⟨steps - 1, by omega⟩
  match members with
  | .last key value after =>
    simp only [WrittenMembers.text, List.length_append] at enough
    have first := readValue?_text value levels steps
      (stops_gap after (stops_cons (c := '}') (by decide) rest)) (by omega)
    simp only [WrittenMembers.text, List.append_assoc]
    rw [readMembers?_key, first, WrittenMembers.values?]
    cases value.value? levels with
    | none => rfl
    | some value =>
      simp only [Option.map_some, Option.bind_some, skipSpace_gap]
      rw [skipSpace_cons (by decide), List.reverse_cons]
      rfl
  | .more key value after members =>
    simp only [WrittenMembers.text, List.length_append, List.length_cons] at enough
    have first := readValue?_text value levels steps
      (stops_gap after (stops_cons (c := ',') (by decide) (members.text ++ '}' :: rest)))
      (by omega)
    simp only [WrittenMembers.text, List.append_assoc, List.cons_append]
    rw [readMembers?_key, first, WrittenMembers.values?]
    cases value.value? levels with
    | none => rfl
    | some value =>
      simp only [Option.map_some, Option.bind_some, skipSpace_gap]
      rw [skipSpace_cons (by decide)]
      have others := readMembers?_text members levels steps ((key.name.value, value) :: read)
        rest (by omega)
      refine others.trans ?_
      rw [List.reverse_cons]
      cases members.values? levels with
      | none => rfl
      | some values => simp

end

/-- A text is read as the value that is written in it, if there is a way to hold it. -/
theorem parse?_text (before : Gap) (w : Written) (after : Gap) :
    parse? (String.ofList (before.chars ++ (w.text ++ after.chars))) = w.value? maxLevels := by
  have enough : w.text.length ≤ (before.chars ++ (w.text ++ after.chars)).length + 1 := by
    simp only [List.length_append]
    omega
  have read := readValue?_text w maxLevels _ (stops_gap after stops_nil) enough
  have blank : skipSpace after.chars = [] := by
    have := skipSpace_gap after []
    rwa [List.append_nil] at this
  rw [List.append_nil] at read
  rw [parse?, String.toList_ofList, readValue?_gap, read]
  cases w.value? maxLevels with
  | none => rfl
  | some value => exact if_pos blank

/-! ## What can be held -/

mutual

/-- A value can be held if its numbers can, and if it is not too deep. -/
theorem isSome_value? (w : Written) (levels : Nat) :
    (w.value? levels).isSome = true ↔ w.depth ≤ levels ∧ w.isFinite = true := by
  match w with
  | .null => simp [Written.value?, Written.depth, Written.isFinite]
  | .bool _ => simp [Written.value?, Written.depth, Written.isFinite]
  | .string _ => simp [Written.value?, Written.depth, Written.isFinite]
  | .number n => simp [Written.value?, Written.depth, Written.isFinite]
  | .emptyArray _ => cases levels <;> simp [Written.value?, Written.depth, Written.isFinite]
  | .emptyObject _ => cases levels <;> simp [Written.value?, Written.depth, Written.isFinite]
  | .array items =>
    cases levels with
    | zero => simp [Written.value?, Written.depth]
    | succ levels =>
      simp [Written.value?, Written.depth, Written.isFinite, isSome_values?_items items levels]
  | .object members =>
    cases levels with
    | zero => simp [Written.value?, Written.depth]
    | succ levels =>
      simp [Written.value?, Written.depth, Written.isFinite, isSome_values? members levels]

private theorem isSome_values?_items (items : WrittenItems) (levels : Nat) :
    (items.values? levels).isSome = true ↔ items.depth ≤ levels ∧ items.isFinite = true := by
  match items with
  | .last _ item _ =>
    simp [WrittenItems.values?, WrittenItems.depth, WrittenItems.isFinite,
      isSome_value? item levels]
  | .more before item after rest =>
    have both : ((WrittenItems.more before item after rest).values? levels).isSome =
        ((item.value? levels).isSome && (rest.values? levels).isSome) := by
      rw [WrittenItems.values?]
      cases item.value? levels <;> cases rest.values? levels <;> rfl
    rw [both, WrittenItems.depth, WrittenItems.isFinite, Nat.max_le, Bool.and_eq_true,
      Bool.and_eq_true, isSome_value? item levels, isSome_values?_items rest levels]
    exact and_and_and_comm

private theorem isSome_values? (members : WrittenMembers) (levels : Nat) :
    (members.values? levels).isSome = true ↔ members.depth ≤ levels ∧ members.isFinite = true := by
  match members with
  | .last _ value _ =>
    simp [WrittenMembers.values?, WrittenMembers.depth, WrittenMembers.isFinite,
      isSome_value? value levels]
  | .more key value after rest =>
    have both : ((WrittenMembers.more key value after rest).values? levels).isSome =
        ((value.value? levels).isSome && (rest.values? levels).isSome) := by
      rw [WrittenMembers.values?]
      cases value.value? levels <;> cases rest.values? levels <;> rfl
    rw [both, WrittenMembers.depth, WrittenMembers.isFinite, Nat.max_le, Bool.and_eq_true,
      Bool.and_eq_true, isSome_value? value levels, isSome_values? rest levels]
    exact and_and_and_comm

end

end Glyphcast.Json
