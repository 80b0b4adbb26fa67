import Glyphcast.Json.Reader
import Mathlib.Tactic.SplitIfs

/-!
# JSON as it is written

A JSON value can be written in many ways: with white space between any two tokens, with the
characters of a string escaped or not, and a number with zeros that do not matter. `Written` is a
value together with the way it is written, so a text has one, if it has any, and that a value is
read however it is written is said by a single equation about all of `Written`.

It is the grammar and nothing more. What cannot be written cannot be built: white space that is
none, a digit that is none, a surrogate by itself, a leading zero, an array with a comma too many.
Two things can be written and not be read, a number that no finite float can hold and brackets that
are nested too deeply; `Written.isFinite` and `Written.depth` tell them.
-/

namespace Glyphcast.Json

/-! ## Tokens -/

/-- White space between two tokens, if there is any. -/
structure Gap where
  /-- The characters. -/
  chars : List Char
  /-- They are white space. -/
  spaces : ∀ c ∈ chars, isSpace c = true

/-- A hexadecimal digit, in either case. -/
structure HexDigit where
  /-- What it is worth. -/
  value : Fin 16
  /-- Whether a letter is a capital. -/
  capital : Bool

/-- The digit as it is written. -/
def HexDigit.char (digit : HexDigit) : Char :=
  if digit.value.val < 10 then Char.ofNat ('0'.toNat + digit.value)
  else Char.ofNat ((if digit.capital then 'A' else 'a').toNat + (digit.value - 10))

/-- A digit that is worth so much, and not a capital. -/
def HexDigit.ofNat (n : Nat) : HexDigit := ⟨Fin.ofNat 16 n, false⟩

/-- Four hexadecimal digits. -/
structure CodeUnit where
  first : HexDigit
  second : HexDigit
  third : HexDigit
  fourth : HexDigit

namespace CodeUnit

/-- The number that the digits are. -/
def value (unit : CodeUnit) : Nat :=
  ((unit.first.value.val * 16 + unit.second.value) * 16 + unit.third.value) * 16 + unit.fourth.value

/-- The digits as they are written. -/
def text (unit : CodeUnit) : List Char :=
  [unit.first.char, unit.second.char, unit.third.char, unit.fourth.char]

end CodeUnit

/-- The escapes of two characters: what stands behind the backslash, and what it stands for. -/
def shortEscapes : List (Char × Char) :=
  [('"', '"'), ('\\', '\\'), ('/', '/'), ('b', '\x08'), ('f', '\x0c'), ('n', '\n'), ('r', '\r'),
    ('t', '\t')]

/-- A character of a string, and how it is written. -/
inductive Spelling where
  /-- As itself. A quote, a backslash and a control character cannot be. -/
  | plain (c : Char) (free : c ≠ '"' ∧ c ≠ '\\' ∧ 0x20 ≤ c.toNat)
  /-- By an escape of two characters. -/
  | short (mark c : Char) (known : (mark, c) ∈ shortEscapes)
  /-- By its code unit. -/
  | unit (digits : CodeUnit) (whole : ¬(0xd800 ≤ digits.value ∧ digits.value ≤ 0xdfff))
  /-- By a pair of code units. -/
  | pair (high low : CodeUnit) (leads : 0xd800 ≤ high.value ∧ high.value ≤ 0xdbff)
    (trails : 0xdc00 ≤ low.value ∧ low.value ≤ 0xdfff)

namespace Spelling

/-- The character. -/
def char : Spelling → Char
  | plain c _ => c
  | short _ c _ => c
  | unit digits _ => Char.ofNat digits.value
  | pair high low _ _ =>
    Char.ofNat (0x10000 + (high.value - 0xd800) * 0x400 + (low.value - 0xdc00))

/-- How it is written. -/
def text : Spelling → List Char
  | plain c _ => [c]
  | short mark _ _ => ['\\', mark]
  | unit digits _ => '\\' :: 'u' :: digits.text
  | pair high low _ _ => '\\' :: 'u' :: (high.text ++ '\\' :: 'u' :: low.text)

/-- The plainest way to write a character. -/
def ofChar (c : Char) : Spelling :=
  if quote : c = '"' then short '"' '"' (by decide)
  else if backslash : c = '\\' then short '\\' '\\' (by decide)
  else if control : c.toNat < 0x20 then
    unit ⟨⟨0, false⟩, ⟨0, false⟩, ⟨⟨c.toNat / 16, by omega⟩, false⟩,
      ⟨⟨c.toNat % 16, by omega⟩, false⟩⟩ (by simp only [CodeUnit.value]; omega)
  else plain c ⟨quote, backslash, Nat.le_of_not_lt control⟩

@[simp] private theorem char_ofChar (c : Char) : (ofChar c).char = c := by
  unfold ofChar
  split_ifs with quote backslash control
  · exact quote.symm
  · exact backslash.symm
  · have value : ((0 * 16 + 0) * 16 + c.toNat / 16) * 16 + c.toNat % 16 = c.toNat := by omega
    exact (congrArg Char.ofNat value).trans (Char.ofNat_toNat c)
  · rfl

end Spelling

/-- A string, character by character. -/
structure WrittenString where
  /-- The characters. -/
  spellings : List Spelling

namespace WrittenString

/-- The string. -/
def value (s : WrittenString) : String := String.ofList (s.spellings.map (·.char))

/-- How it is written, behind the opening quote. -/
def body (s : WrittenString) : List Char := s.spellings.flatMap (·.text) ++ ['"']

/-- How it is written. -/
def text (s : WrittenString) : List Char := '"' :: s.body

/-- The plainest way to write a string. -/
def ofText (text : String) : WrittenString := ⟨text.toList.map Spelling.ofChar⟩

/-- There is no string that cannot be written. -/
@[simp] theorem value_ofText (text : String) : (ofText text).value = text := by
  have chars : (text.toList.map Spelling.ofChar).map (·.char) = text.toList := by
    rw [List.map_map]
    exact (List.map_congr_left fun c _ ↦ Spelling.char_ofChar c).trans (List.map_id _)
  rw [value, ofText, chars, String.ofList_toList]

end WrittenString

/-- Some decimal digits. -/
structure Digits where
  /-- The digits. -/
  chars : List Char
  /-- There is one at least. -/
  nonempty : chars ≠ []
  /-- They are digits. -/
  digits : ∀ c ∈ chars, c.isDigit = true

/-- The exponent of a number. -/
structure Exponent where
  /-- Whether the letter in front is a capital. -/
  capital : Bool
  /-- The sign, if there is one (true for minus). -/
  sign : Option Bool
  /-- The digits. -/
  digits : Digits

namespace Exponent

/-- How the sign is written. -/
def signText (exponent : Exponent) : List Char :=
  match exponent.sign with
  | some true => ['-']
  | some false => ['+']
  | none => []

/-- How an exponent is written. -/
def text (exponent : Exponent) : List Char :=
  (if exponent.capital then 'E' else 'e') :: (exponent.signText ++ exponent.digits.chars)

/-- The parts of the exponent. -/
def parts (exponent : Exponent) : Bool × List Char :=
  (exponent.sign == some true, exponent.digits.chars)

end Exponent

/-- A number. -/
structure WrittenNumber where
  /-- Whether a minus sign stands in front. -/
  negative : Bool
  /-- The digits before the point. -/
  whole : Digits
  /-- A zero that leads them stands alone. -/
  minimal : whole.chars.head? = some '0' → whole.chars = ['0']
  /-- The digits after the point, if there is one. -/
  fraction : Option Digits
  /-- The exponent, if there is one. -/
  exponent : Option Exponent

namespace WrittenNumber

/-- The parts of the number. -/
def numeral (n : WrittenNumber) : Numeral where
  negative := n.negative
  whole := n.whole.chars
  fraction := n.fraction.map (·.chars)
  exponent := n.exponent.map (·.parts)

/-- How it is written. -/
def text (n : WrittenNumber) : List Char :=
  (if n.negative then ['-'] else []) ++
    (n.whole.chars ++
      ((n.fraction.elim [] ('.' :: ·.chars)) ++ n.exponent.elim [] (·.text)))

end WrittenNumber

/-- The key of a member, with the colon behind it and the white space around both. -/
structure WrittenKey where
  before : Gap
  name : WrittenString
  between : Gap
  after : Gap

/-- How a key is written. -/
def WrittenKey.text (key : WrittenKey) : List Char :=
  key.before.chars ++ (key.name.text ++ (key.between.chars ++ ':' :: key.after.chars))

/-! ## Values -/

mutual

/-- A value, and how it is written. -/
inductive Written where
  | null
  | bool (b : Bool)
  | number (n : WrittenNumber)
  | string (s : WrittenString)
  | emptyArray (gap : Gap)
  | array (items : WrittenItems)
  | emptyObject (gap : Gap)
  | object (members : WrittenMembers)

/-- The items of an array. -/
inductive WrittenItems where
  | last (before : Gap) (item : Written) (after : Gap)
  | more (before : Gap) (item : Written) (after : Gap) (rest : WrittenItems)

/-- The members of an object. -/
inductive WrittenMembers where
  | last (key : WrittenKey) (value : Written) (after : Gap)
  | more (key : WrittenKey) (value : Written) (after : Gap) (rest : WrittenMembers)

end

mutual

/-- How a value is written. -/
def Written.text : Written → List Char
  | .null => ['n', 'u', 'l', 'l']
  | .bool true => ['t', 'r', 'u', 'e']
  | .bool false => ['f', 'a', 'l', 's', 'e']
  | .number n => n.text
  | .string s => s.text
  | .emptyArray gap => '[' :: (gap.chars ++ [']'])
  | .array items => '[' :: (items.text ++ [']'])
  | .emptyObject gap => '{' :: (gap.chars ++ ['}'])
  | .object members => '{' :: (members.text ++ ['}'])

/-- How the items of an array are written. -/
def WrittenItems.text : WrittenItems → List Char
  | .last before item after => before.chars ++ (item.text ++ after.chars)
  | .more before item after rest =>
    before.chars ++ (item.text ++ (after.chars ++ ',' :: rest.text))

/-- How the members of an object are written. -/
def WrittenMembers.text : WrittenMembers → List Char
  | .last key value after => key.text ++ (value.text ++ after.chars)
  | .more key value after rest => key.text ++ (value.text ++ (after.chars ++ ',' :: rest.text))

end

/-- The members of an object, without their layout. -/
def WrittenMembers.toList : WrittenMembers → List (String × Written)
  | .last key value _ => [(key.name.value, value)]
  | .more key value _ rest => (key.name.value, value) :: rest.toList

mutual

/-- How deeply brackets are nested. -/
def Written.depth : Written → Nat
  | .null | .bool _ | .number _ | .string _ => 0
  | .emptyArray _ | .emptyObject _ => 1
  | .array items => items.depth + 1
  | .object members => members.depth + 1

/-- The same of the items of an array. -/
def WrittenItems.depth : WrittenItems → Nat
  | .last _ item _ => item.depth
  | .more _ item _ rest => max item.depth rest.depth

/-- The same of the members of an object. -/
def WrittenMembers.depth : WrittenMembers → Nat
  | .last _ value _ => value.depth
  | .more _ value _ rest => max value.depth rest.depth

end

mutual

/-- Whether every number can be held. -/
def Written.isFinite : Written → Bool
  | .number n => n.numeral.value?.isSome
  | .array items => items.isFinite
  | .object members => members.isFinite
  | .null | .bool _ | .string _ | .emptyArray _ | .emptyObject _ => true

/-- The same of the items of an array. -/
def WrittenItems.isFinite : WrittenItems → Bool
  | .last _ item _ => item.isFinite
  | .more _ item _ rest => item.isFinite && rest.isFinite

/-- The same of the members of an object. -/
def WrittenMembers.isFinite : WrittenMembers → Bool
  | .last _ value _ => value.isFinite
  | .more _ value _ rest => value.isFinite && rest.isFinite

end

mutual

/-- The value, if its numbers can be held and its brackets are nested at most so deeply. -/
def Written.value? (levels : Nat) : Written → Option Json
  | .null => some .null
  | .bool b => some (.bool b)
  | .number n => n.numeral.value?.map .number
  | .string s => some (.string s.value)
  | .emptyArray _ => if levels = 0 then none else some (.array [])
  | .array items => if levels = 0 then none else (items.values? (levels - 1)).map .array
  | .emptyObject _ => if levels = 0 then none else some (.object [])
  | .object members => if levels = 0 then none else (members.values? (levels - 1)).map .object

/-- The items of an array. -/
def WrittenItems.values? (levels : Nat) : WrittenItems → Option (List Json)
  | .last _ item _ => (item.value? levels).map ([·])
  | .more _ item _ rest => do return (← item.value? levels) :: (← rest.values? levels)

/-- The members of an object. -/
def WrittenMembers.values? (levels : Nat) : WrittenMembers → Option (List (String × Json))
  | .last key value _ => (value.value? levels).map fun value ↦ [(key.name.value, value)]
  | .more key value _ rest => do
    return (key.name.value, ← value.value? levels) :: (← rest.values? levels)

end

end Glyphcast.Json
