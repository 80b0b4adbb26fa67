import Glyphcast.Message
import Glyphcast.Proofs.Json.Reading
import Mathlib.Data.List.Forall2

/-!
# The members of an object, and the fields of a message
-/

namespace Glyphcast

namespace Json

private theorem Numeral.value?_eq_natural_iff {numeral : Numeral} {n : Nat} :
    numeral.value? = some (.natural n) ↔ numeral.negative = false ∧ numeral.fraction = none ∧
      numeral.exponent = none ∧ Decimal.value numeral.whole = n ∧ n < UInt64.size := by
  obtain ⟨negative, whole, fraction, exponent⟩ := numeral
  unfold Numeral.value?
  by_cases short : fraction = none ∧ exponent = none ∧ Decimal.value whole < UInt64.size
  · rw [if_pos short]
    obtain ⟨rfl, rfl, small⟩ := short
    cases negative with
    | false =>
      simp only [Bool.not_false, if_true, Option.some.injEq, Number.natural.injEq, true_and]
      exact ⟨fun value ↦ ⟨value, value ▸ small⟩, And.left⟩
    | true =>
      refine iff_of_false ?_ nofun
      simp only [Bool.not_true, Bool.false_eq_true, if_false]
      split_ifs <;> nofun
  · rw [if_neg short]
    refine iff_of_false ?_ ?_
    · intro value
      obtain ⟨x, -, natural⟩ := Option.map_eq_some_iff.mp value
      nomatch natural
    · rintro ⟨-, rfl, rfl, rfl, small⟩
      exact short ⟨rfl, rfl, small⟩

/-! ## What a written value says -/

namespace Written

/-- It is a string, however its characters are written. -/
def Says (w : Written) (text : String) : Prop := ∃ s, w = .string s ∧ s.value = text

/-- It is a whole number of 32 bits, written as such: without a sign, a point or an exponent. -/
def Counts (w : Written) (n : UInt32) : Prop :=
  ∃ number, w = .number number ∧ number.negative = false ∧ number.fraction = none ∧
    number.exponent = none ∧ Decimal.value number.whole.chars = n.toNat

/-- It is a number, with this value. -/
def Measures (w : Written) (x : Float) : Prop :=
  ∃ number value, w = .number number ∧ number.numeral.value? = some value ∧ value.toFloat = x

/-- It is the name of a role, or an object with that name and nothing in it. -/
inductive NamesRole (role : Role) : Written → Prop where
  | name {s : WrittenString} (value : s.value = role.name) : NamesRole role (.string s)
  | null {key : WrittenKey} {after : Gap} (value : key.name.value = role.name) :
    NamesRole role (.object (.last key .null after))
  | empty {key : WrittenKey} {gap after : Gap} (value : key.name.value = role.name) :
    NamesRole role (.object (.last key (.emptyObject gap) after))

/-- It is left open, or it is there. -/
def IsOpen {α : Type} (Admits : Written → α → Prop) (w : Written) : Option α → Prop
  | none => w = .null
  | some a => Admits w a

variable {w : Written} {levels : Nat} {value : Json}

theorem kind_of_value? (read : w.value? levels = some value) : match w, value with
    | .null, .null => True
    | .bool b, .bool b' => b' = b
    | .number n, .number n' => n.numeral.value? = some n'
    | .string s, .string text => text = s.value
    | .emptyArray _, .array items => items = []
    | .array items, .array items' => ∃ less, items.values? less = some items'
    | .emptyObject _, .object members => members = []
    | .object members, .object members' => ∃ less, members.values? less = some members'
    | _, _ => False := by
  cases w with
  | null => cases read; trivial
  | bool b => cases read; rfl
  | string s => cases read; rfl
  | number n =>
    obtain ⟨n', found, rfl⟩ := Option.map_eq_some_iff.mp read
    exact found
  | emptyArray gap =>
    rw [value?, Option.ite_none_left_eq_some] at read
    cases read.2
    rfl
  | array items =>
    rw [value?, Option.ite_none_left_eq_some] at read
    obtain ⟨items', found, rfl⟩ := Option.map_eq_some_iff.mp read.2
    exact ⟨_, found⟩
  | emptyObject gap =>
    rw [value?, Option.ite_none_left_eq_some] at read
    cases read.2
    rfl
  | object members =>
    rw [value?, Option.ite_none_left_eq_some] at read
    obtain ⟨members', found, rfl⟩ := Option.map_eq_some_iff.mp read.2
    exact ⟨_, found⟩

/-- Members that were written, and what they are read as. -/
def Holds (levels : Nat) (members : List (String × Written)) (read : List (String × Json)) : Prop :=
  List.Forall₂ (fun member value ↦ value.1 = member.1 ∧ member.2.value? levels = some value.2)
    members read

theorem holds_of_values? : ∀ {members : WrittenMembers} {read : List (String × Json)},
    members.values? levels = some read → Holds levels members.toList read
  | .last key v after, read, values => by
    obtain ⟨value, found, rfl⟩ := Option.map_eq_some_iff.mp values
    exact .cons ⟨rfl, found⟩ .nil
  | .more key v after rest, read, values => by
    rw [WrittenMembers.values?] at values
    simp only [Option.bind_eq_bind, Option.bind_eq_some_iff, Option.pure_def,
      Option.some.injEq] at values
    obtain ⟨value, found, others, behind, rfl⟩ := values
    exact .cons ⟨rfl, found⟩ (holds_of_values? behind)

theorem Holds.filter {members : List (String × Written)} {read : List (String × Json)}
    (h : Holds levels members read) (p : String → Bool) :
    Holds levels (members.filter (p ·.1)) (read.filter (p ·.1)) := by
  induction h with
  | nil => exact .nil
  | @cons member value _ _ same _ ih =>
    rw [List.filter_cons, List.filter_cons, same.1]
    split_ifs
    · exact .cons same ih
    · exact ih

private theorem values?_ne_nil {members : WrittenMembers} {read : List (String × Json)}
    (values : members.values? levels = some read) : read ≠ [] := by
  rintro rfl
  have none := (holds_of_values? values).length_eq
  cases members <;> nomatch none

theorem asText?_eq_some_iff (read : w.value? levels = some value) {text : String} :
    value.asText? = some text ↔ w.Says text := by
  have kind := kind_of_value? read
  cases w <;> cases value <;> simp_all [Says, asText?]

theorem asFloat?_eq_some_iff (read : w.value? levels = some value) {x : Float} :
    value.asFloat? = some x ↔ w.Measures x := by
  have kind := kind_of_value? read
  cases w <;> cases value <;> simp_all [Measures, asFloat?]

theorem asWord?_eq_some_iff (read : w.value? levels = some value) {n : UInt32} :
    value.asWord? = some n ↔ w.Counts n := by
  have kind := kind_of_value? read
  cases w with
  | number number =>
    cases value with
    | number parsed =>
      have held : number.numeral.value? = some parsed := kind
      constructor
      · intro word
        cases parsed with
        | natural m =>
          obtain ⟨unsigned, whole, plain, count, -⟩ := Numeral.value?_eq_natural_iff.mp held
          rw [asWord?, Option.ite_none_right_eq_some, Option.some.injEq] at word
          obtain ⟨small, rfl⟩ := word
          exact ⟨number, rfl, unsigned, Option.map_eq_none_iff.mp whole,
            Option.map_eq_none_iff.mp plain, count.trans (UInt32.toNat_ofNat_of_lt' small).symm⟩
        | negative m => nomatch word
        | real x => nomatch word
      · rintro ⟨_, ⟨⟩, unsigned, whole, plain, count⟩
        have natural : number.numeral.value? = some (.natural n.toNat) := by
          refine Numeral.value?_eq_natural_iff.mpr ⟨unsigned, ?_, ?_, count, ?_⟩
          · rw [WrittenNumber.numeral, whole]; rfl
          · rw [WrittenNumber.numeral, plain]; rfl
          · exact Nat.lt_trans n.toNat_lt (by decide)
        cases held.symm.trans natural
        rw [asWord?, if_pos n.toNat_lt, UInt32.ofNat_toNat]
    | _ => exact kind.elim
  | _ => cases value <;> simp_all [Counts, asWord?]

private theorem ofName?_eq_some_iff {name : String} {role : Role} :
    Role.ofName? name = some role ↔ name = role.name := by
  unfold Role.ofName?
  split
  · cases role <;> simp [Role.name]
  · cases role <;> simp [Role.name]
  · cases role <;> simp_all [Role.name]

/-- A role that is written as an object is written as the key of a member with nothing in it. -/
theorem readRole?_object_eq_some_iff {members : WrittenMembers} {read : List (String × Json)}
    (values : members.values? levels = some read) {role : Role} :
    Message.readRole? (.object read) = some role ↔ NamesRole role (.object members) := by
  cases members with
  | more key v after rest =>
    have many : 2 ≤ read.length := by
      rw [← (holds_of_values? values).length_eq, WrittenMembers.toList, List.length_cons]
      cases rest <;> simp [WrittenMembers.toList]
    refine iff_of_false ?_ nofun
    intro named
    unfold Message.readRole? at named
    split at named
    · nomatch ‹Json.object _ = Json.string _›
    · next same => cases same; exact absurd many (Nat.not_succ_le_self 1)
    · next same => cases same; exact absurd many (Nat.not_succ_le_self 1)
    · nomatch named
  | last key v after =>
    obtain ⟨value, found, rfl⟩ := Option.map_eq_some_iff.mp values
    have kind := kind_of_value? found
    constructor
    · intro named
      unfold Message.readRole? at named
      split at named
      · nomatch ‹Json.object _ = Json.string _›
      · next same =>
        cases same
        cases v <;> first | exact .null (ofName?_eq_some_iff.mp named) | exact kind.elim
      · next same =>
        cases same
        cases v with
        | emptyObject gap => exact .empty (ofName?_eq_some_iff.mp named)
        | object members =>
          obtain ⟨less, none⟩ := kind
          exact (values?_ne_nil none rfl).elim
        | _ => exact kind.elim
      · nomatch named
    · rintro (_ | name | name)
      · cases value with
        | null => exact ofName?_eq_some_iff.mpr name
        | _ => exact kind.elim
      · cases value with
        | object members =>
          cases (kind : members = [])
          exact ofName?_eq_some_iff.mpr name
        | _ => exact kind.elim

theorem readRole?_eq_some_iff (read : w.value? levels = some value) {role : Role} :
    Message.readRole? value = some role ↔ w.NamesRole role := by
  have kind := kind_of_value? read
  cases w with
  | object members =>
    cases value with
    | object members' =>
      obtain ⟨less, values⟩ := kind
      exact readRole?_object_eq_some_iff values
    | _ => exact kind.elim
  | string s =>
    cases value with
    | string text =>
      have held : text = s.value := kind
      rw [Message.readRole?, ofName?_eq_some_iff, held]
      exact ⟨.name, fun | .name value => value⟩
    | _ => exact kind.elim
  | emptyObject gap =>
    cases value with
    | object members =>
      have held : members = [] := kind
      rw [held]
      exact iff_of_false nofun nofun
    | _ => exact kind.elim
  | _ => cases value <;> first | exact kind.elim | exact iff_of_false nofun nofun

theorem asOptional?_eq_some_iff {α : Type} {reader : Json → Option α}
    {Admits : Written → α → Prop} (agrees : ∀ a, reader value = some a ↔ Admits w a)
    (closed : reader .null = none) (read : w.value? levels = some value) {a : Option α} :
    value.asOptional? reader = some a ↔ w.IsOpen Admits a := by
  have kind := kind_of_value? read
  unfold asOptional?
  split
  · cases w with
    | null =>
      cases a with
      | none => exact iff_of_true rfl rfl
      | some a =>
        refine iff_of_false nofun fun admits ↦ ?_
        exact nomatch closed.symm.trans ((agrees a).mpr admits)
    | _ => exact kind.elim
  · next open_ =>
    rw [Option.map_eq_some_iff]
    constructor
    · rintro ⟨b, found, rfl⟩
      exact (agrees b).mp found
    · intro admits
      cases a with
      | none =>
        cases (admits : w = .null)
        cases value with
        | null => exact (open_ rfl).elim
        | _ => exact kind.elim
      | some a => exact ⟨a, (agrees a).mpr admits, rfl⟩

end Written

end Json

/-! ## Looking a member up -/

namespace Message

open Json (Written)
open Json.Written (Holds)
open Fields (member?)

variable {levels : Nat} {members : List (String × Written)} {read : List (String × Json)}

private theorem member?_cases (h : Holds levels members read) (name : String) :
    members.filter (·.1 == name) = [] ∧ member? read name = some none ∨
      (∃ w value, members.filter (·.1 == name) = [(name, w)] ∧ w.value? levels = some value ∧
        member? read name = some (some value)) ∨
      2 ≤ (members.filter (·.1 == name)).length ∧ member? read name = none := by
  have filtered := h.filter (· == name)
  have named : ∀ member ∈ members.filter (·.1 == name), member.1 = name :=
    fun member mem ↦ eq_of_beq (List.mem_filter.mp mem).2
  unfold member?
  generalize members.filter (·.1 == name) = found at filtered named ⊢
  generalize read.filter (·.1 == name) = values at filtered ⊢
  cases filtered with
  | nil => exact .inl ⟨rfl, rfl⟩
  | @cons member value _ _ same others =>
    obtain ⟨key, w⟩ := member
    cases named (key, w) List.mem_cons_self
    cases others with
    | nil => exact .inr (.inl ⟨w, value.2, rfl, same.2, rfl⟩)
    | cons other others => exact .inr (.inr ⟨by simp, rfl⟩)

variable {α : Type} {reader : Json → Option α} {Admits : Written → α → Prop}

/-- A field that is needed is read, if there is one such member and it is written as it should
be. -/
theorem required_iff (h : Holds levels members read)
    (agrees : ∀ {w value}, w.value? levels = some value →
      ∀ {a}, reader value = some a ↔ Admits w a) (name : String) {a : α} :
    (∃ value, member? read name = some value ∧ value.bind reader = some a) ↔
      ∃ w, members.filter (·.1 == name) = [(name, w)] ∧ Admits w a := by
  rcases member?_cases h name with ⟨absent, found⟩ | ⟨w, value, once, held, found⟩ |
    ⟨often, found⟩
  · rw [absent, found]
    simp
  · rw [once, found]
    simp [agrees held]
  · rw [found]
    refine iff_of_false nofun ?_
    rintro ⟨w, once, -⟩
    rw [once] at often
    exact absurd often (by simp)

/-- A field that may be left out is read, if there is one such member and it is written as it should
be, or if there is none. -/
theorem defaulted_iff (h : Holds levels members read)
    (agrees : ∀ {w value}, w.value? levels = some value →
      ∀ {a}, reader value = some a ↔ Admits w a) (name : String) {otherwise a : α} :
    (∃ value, member? read name = some value ∧ defaulted value reader otherwise = some a) ↔
      (∃ w, members.filter (·.1 == name) = [(name, w)] ∧ Admits w a) ∨
        (members.filter (·.1 == name) = [] ∧ a = otherwise) := by
  rcases member?_cases h name with ⟨absent, found⟩ | ⟨w, value, once, held, found⟩ |
    ⟨often, found⟩
  · rw [absent, found]
    simp [defaulted, eq_comm]
  · rw [once, found]
    simp [defaulted, agrees held]
  · rw [found]
    refine iff_of_false nofun ?_
    rintro (⟨w, once, -⟩ | ⟨absent, -⟩)
    · rw [once] at often
      exact absurd often (by simp)
    · rw [absent] at often
      exact absurd often (by simp)

end Message

end Glyphcast
