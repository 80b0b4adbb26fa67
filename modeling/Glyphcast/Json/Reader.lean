import Glyphcast.Json.Number

/-!
# Reading JSON

A strict reader: white space is space, tab and the two line breaks, a literal is spelled in lower
case, a control character or a lone surrogate has no place in a string, and nothing but white
space may follow the value.

## Two bounds

Arrays and objects may be nested at most `maxLevels` deep. That is a rule about the text, so it is
a parameter of the reader, counted down at each opening bracket. The other parameter, the number
of steps, only makes the recursion structural. Each step uses up a character of the text, so
`parse?` allows more of them than can be taken.
-/

namespace Glyphcast.Json

/-- How deep arrays and objects may be nested. -/
def maxLevels : Nat := 127

/-- White space between tokens. -/
def isSpace (c : Char) : Bool := c == ' ' || c == '\n' || c == '\t' || c == '\r'

/-- A text from its first character that is no white space. -/
def skipSpace (cs : List Char) : List Char := cs.dropWhile isSpace

/-! ## Strings -/

/-- The value of a hexadecimal digit of either case. -/
def hexDigit? (c : Char) : Option Nat :=
  if '0' ≤ c ∧ c ≤ '9' then some (c.toNat - '0'.toNat)
  else if 'a' ≤ c ∧ c ≤ 'f' then some (c.toNat - 'a'.toNat + 10)
  else if 'A' ≤ c ∧ c ≤ 'F' then some (c.toNat - 'A'.toNat + 10)
  else none

/-- A code unit of four hexadecimal digits, and the rest. -/
def readUnit? : List Char → Option (Nat × List Char)
  | a :: b :: c :: d :: rest => do
    let a ← hexDigit? a
    let b ← hexDigit? b
    let c ← hexDigit? c
    let d ← hexDigit? d
    return (((a * 16 + b) * 16 + c) * 16 + d, rest)
  | _ => none

/-- The character whose code units follow `\u`. One outside the basic plane is written as two
units, the second behind a `\u` of its own; half of such a pair is no character. -/
def readCodePoint? (cs : List Char) : Option (Char × List Char) := do
  let (unit, rest) ← readUnit? cs
  -- the second half of a pair, without the first
  if 0xdc00 ≤ unit ∧ unit ≤ 0xdfff then none
  else if 0xd800 ≤ unit ∧ unit ≤ 0xdbff then
    match rest with
    | '\\' :: 'u' :: rest => do
      let (low, rest) ← readUnit? rest
      if 0xdc00 ≤ low ∧ low ≤ 0xdfff then
        some (Char.ofNat (0x10000 + (unit - 0xd800) * 0x400 + (low - 0xdc00)), rest)
      else none
    | _ => none
  else some (Char.ofNat unit, rest)

/-- The character that stands behind a backslash, and the rest. -/
def readEscape? : List Char → Option (Char × List Char)
  | '"' :: rest => some ('"', rest)
  | '\\' :: rest => some ('\\', rest)
  | '/' :: rest => some ('/', rest)
  | 'b' :: rest => some ('\x08', rest)
  | 'f' :: rest => some ('\x0c', rest)
  | 'n' :: rest => some ('\n', rest)
  | 'r' :: rest => some ('\r', rest)
  | 't' :: rest => some ('\t', rest)
  | 'u' :: rest => readCodePoint? rest
  | _ => none

private theorem length_of_readUnit? {cs rest : List Char} {unit : Nat}
    (h : readUnit? cs = some (unit, rest)) : rest.length < cs.length := by
  match cs with
  | a :: b :: c :: d :: cs =>
    simp only [readUnit?, Option.bind_eq_bind, Option.bind_eq_some_iff, Option.pure_def,
      Option.some.injEq, Prod.mk.injEq] at h
    obtain ⟨_, _, _, _, _, _, _, _, _, rfl⟩ := h
    simp only [List.length_cons]
    omega
  | [] | [_] | [_, _] | [_, _, _] => simp [readUnit?] at h

private theorem length_of_readCodePoint? {cs rest : List Char} {c : Char}
    (h : readCodePoint? cs = some (c, rest)) : rest.length < cs.length := by
  simp only [readCodePoint?, Option.bind_eq_bind, Option.bind_eq_some_iff] at h
  obtain ⟨⟨unit, after⟩, first, h⟩ := h
  have shorter := length_of_readUnit? first
  simp only at h
  split at h
  · simp at h
  · split at h
    · split at h
      · rename_i tail
        obtain ⟨⟨low, last⟩, second, h⟩ := Option.bind_eq_some_iff.1 h
        have shorter' := length_of_readUnit? second
        simp only at h
        split at h
        · obtain ⟨_, rfl⟩ := Prod.mk.inj (Option.some.inj h)
          simp only [List.length_cons] at shorter
          omega
        · simp at h
      · simp at h
    · obtain ⟨_, rfl⟩ := Prod.mk.inj (Option.some.inj h)
      exact shorter

private theorem length_of_readEscape? {cs rest : List Char} {c : Char}
    (h : readEscape? cs = some (c, rest)) : rest.length < cs.length := by
  unfold readEscape? at h
  split at h
  case h_9 => exact Nat.lt_succ_of_lt (length_of_readCodePoint? h)
  case h_10 => simp at h
  all_goals
    obtain ⟨_, rfl⟩ := Prod.mk.inj (Option.some.inj h)
    simp

/-- The rest of a string after its opening quote, and the text behind its closing one. The
characters read so far are in reverse. -/
def readString? (read : List Char) : List Char → Option (String × List Char)
  | [] => none
  | c :: cs =>
    if c = '"' then some (String.ofList read.reverse, cs)
    else if c = '\\' then
      match h : readEscape? cs with
      | none => none
      | some (escaped, rest) =>
        have := length_of_readEscape? h
        readString? (escaped :: read) rest
    else if c.toNat < 0x20 then none
    else readString? (c :: read) cs
termination_by cs => cs.length
decreasing_by
  all_goals
    simp only [List.length_cons]
    omega

/-! ## Values -/

mutual

/-- The value that a text starts with, and the rest. -/
def readValue? (levels : Nat) : (steps : Nat) → List Char → Option (Json × List Char)
  | 0, _ => none
  | steps + 1, cs =>
    match skipSpace cs with
    | 'n' :: 'u' :: 'l' :: 'l' :: rest => some (.null, rest)
    | 't' :: 'r' :: 'u' :: 'e' :: rest => some (.bool true, rest)
    | 'f' :: 'a' :: 'l' :: 's' :: 'e' :: rest => some (.bool false, rest)
    | '"' :: rest => (readString? [] rest).map fun (s, rest) ↦ (.string s, rest)
    | '[' :: rest =>
      match levels with
      | 0 => none
      | levels + 1 =>
        match skipSpace rest with
        | ']' :: rest => some (.array [], rest)
        | rest => (readItems? levels steps [] rest).map fun (items, rest) ↦ (.array items, rest)
    | '{' :: rest =>
      match levels with
      | 0 => none
      | levels + 1 =>
        match skipSpace rest with
        | '}' :: rest => some (.object [], rest)
        | rest =>
          (readMembers? levels steps [] rest).map fun (members, rest) ↦ (.object members, rest)
    | rest => do
      let (numeral, rest) ← Numeral.read? rest
      let n ← numeral.value?
      return (.number n, rest)

/-- The items of an array up to its closing bracket, and the text behind it. -/
def readItems? (levels : Nat) :
    (steps : Nat) → (read : List Json) → List Char → Option (List Json × List Char)
  | 0, _, _ => none
  | steps + 1, read, cs => do
    let (item, rest) ← readValue? levels steps cs
    match skipSpace rest with
    | ',' :: rest => readItems? levels steps (item :: read) rest
    | ']' :: rest => some ((item :: read).reverse, rest)
    | _ => none

/-- The members of an object up to its closing brace, and the text behind it. -/
def readMembers? (levels : Nat) :
    (steps : Nat) → (read : List (String × Json)) → List Char →
      Option (List (String × Json) × List Char)
  | 0, _, _ => none
  | steps + 1, read, cs =>
    match skipSpace cs with
    | '"' :: rest => do
      let (key, rest) ← readString? [] rest
      match skipSpace rest with
      | ':' :: rest => do
        let (value, rest) ← readValue? levels steps rest
        match skipSpace rest with
        | ',' :: rest => readMembers? levels steps ((key, value) :: read) rest
        | '}' :: rest => some (((key, value) :: read).reverse, rest)
        | _ => none
      | _ => none
    | _ => none

end

/-- The value that a whole text stands for. -/
def parse? (text : String) : Option Json := do
  let cs := text.toList
  let (value, rest) ← readValue? maxLevels (cs.length + 1) cs
  if skipSpace rest = [] then some value else none

end Glyphcast.Json
