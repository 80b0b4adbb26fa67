import Glyphcast.Text.Utf8

/-!
# The key

Clients show a key before anything else. A presented key is compared with all of the real one: the
differences of all bytes are collected, wherever the first of them stands, so the time that the
comparison takes tells nothing about where a guess went wrong.
-/

namespace Glyphcast

/-- The secret that clients present. -/
structure ApiKey where
  /-- The text of the key. -/
  text : String
  deriving DecidableEq, Repr

namespace ApiKey

/-- How many characters a generated key has. -/
def generatedLength : Nat := 32

/-- The name of the environment variable that a fixed key is taken from. -/
def environmentName : String := "ASCII_STREAM_API_KEY"

/-- The characters of generated keys. -/
def alphabet : List Char :=
  "ABCDEFGHIJKLMNOPQRSTUVWXYZabcdefghijklmnopqrstuvwxyz0123456789".toList

/-- Whether the key looks like a generated one. -/
def isWellFormed (key : ApiKey) : Bool :=
  key.text.utf8ByteSize == generatedLength && key.text.toList.all Char.isAlphanum

/-- The bits in which two rows of bytes differ, collected in one byte. -/
def difference (expected presented : Bytes) : UInt8 :=
  (expected.zip presented).foldl (fun seen (a, b) ↦ seen ||| (a ^^^ b)) 0

/-- Whether a presented key is this one. -/
def isMatch (key : ApiKey) (presented : String) : Bool :=
  let expected := Text.encode key.text
  let presented := Text.encode presented
  expected.length == presented.length && difference expected presented == 0

private theorem foldl_difference_eq_zero_iff (pairs : List (UInt8 × UInt8)) (seen : UInt8) :
    pairs.foldl (fun seen (a, b) ↦ seen ||| (a ^^^ b)) seen = 0 ↔
      seen = 0 ∧ ∀ pair ∈ pairs, pair.1 = pair.2 := by
  induction pairs generalizing seen with
  | nil => simp
  | cons pair pairs ih =>
    simp only [List.foldl_cons, ih, UInt8.or_eq_zero_iff, UInt8.xor_eq_zero_iff,
      List.forall_mem_cons, and_assoc]

theorem mem_zip_iff {expected presented : Bytes} {pair : UInt8 × UInt8} :
    pair ∈ expected.zip presented ↔
      ∃ place : Nat, expected[place]? = some pair.1 ∧ presented[place]? = some pair.2 := by
  simp only [List.mem_iff_getElem?, List.getElem?_zip_eq_some]

theorem difference_eq_zero_iff {expected presented : Bytes} :
    difference expected presented = 0 ↔
      ∀ (place : Nat) (a b : UInt8),
        expected[place]? = some a → presented[place]? = some b → a = b := by
  rw [difference, foldl_difference_eq_zero_iff]
  constructor
  · rintro ⟨-, same⟩ place a b first second
    exact same (a, b) (mem_zip_iff.mpr ⟨place, first, second⟩)
  · refine fun same ↦ ⟨rfl, fun pair mem ↦ ?_⟩
    obtain ⟨place, first, second⟩ := mem_zip_iff.mp mem
    exact same place pair.1 pair.2 first second

/-- Rows of one length have a byte at the same places, so none is left out of the comparison. -/
theorem difference_eq_zero_iff_eq {expected presented : Bytes}
    (length : expected.length = presented.length) :
    difference expected presented = 0 ↔ expected = presented := by
  rw [difference_eq_zero_iff]
  constructor
  · intro same
    refine List.ext_getElem length fun place inFirst inSecond ↦ ?_
    exact same place _ _ (List.getElem?_eq_getElem inFirst) (List.getElem?_eq_getElem inSecond)
  · rintro rfl place a b first second
    exact Option.some.inj (first.symm.trans second)

/-- The comparison finds the key and no other text. -/
theorem isMatch_iff {key : ApiKey} {presented : String} :
    key.isMatch presented = true ↔ presented = key.text := by
  simp only [isMatch, Bool.and_eq_true, beq_iff_eq]
  constructor
  · rintro ⟨length, same⟩
    exact (Text.encode_inj.mp ((difference_eq_zero_iff_eq length).mp same)).symm
  · rintro rfl
    exact ⟨rfl, (difference_eq_zero_iff_eq rfl).mpr rfl⟩

/-- A key made of random draws, one for each character. -/
def generate (draw : Nat → Nat) : ApiKey :=
  ⟨.ofList ((List.range generatedLength).map fun n ↦
    alphabet.getD (draw n % alphabet.length) 'A')⟩

/-- How the key is shown in a log: not at all. -/
def describe (_ : ApiKey) : String := "ApiKey(..)"

end ApiKey

end Glyphcast
