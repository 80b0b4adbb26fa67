import Glyphcast.Proofs.Json.Reading

/-!
# What is read was written

The other direction. Whatever the reader cuts off the front of a text is a token or a value that was
written so, and if a whole text is read, what stands in it is a `Written` between white space.
Together with `parse?_text` this is all there is to say about the reader, and `parse?_eq_some_iff`,
which says it in one line, is what the modules about JSON come to: the reader goes by the grammar
and by nothing else.
-/

namespace Glyphcast.Json

/-! ## White space -/

private theorem exists_gap (cs : List Char) : ∃ gap : Gap, cs = gap.chars ++ skipSpace cs :=
  ⟨⟨cs.takeWhile isSpace, fun _ mem ↦ List.mem_takeWhile_imp mem⟩,
    List.takeWhile_append_dropWhile.symm⟩

/-! ## Strings -/

private theorem exists_digit {c : Char} {n : Nat} (read : hexDigit? c = some n) :
    ∃ digit : HexDigit, digit.char = c ∧ digit.value.val = n := by
  have back {start : Nat} (le : start ≤ c.toNat) :
      Char.ofNat (start + (c.toNat - start)) = c := by
    rw [Nat.add_sub_cancel' le, Char.ofNat_toNat]
  unfold hexDigit? at read
  split_ifs at read with decimal small capital
  · have first : 48 ≤ c.toNat := decimal.1
    have last : c.toNat ≤ 57 := decimal.2
    cases read
    refine ⟨⟨⟨c.toNat - 48, by omega⟩, false⟩, ?_, rfl⟩
    rw [HexDigit.char, if_pos (show c.toNat - 48 < 10 by omega)]
    exact back first
  · have first : 97 ≤ c.toNat := small.1
    have last : c.toNat ≤ 102 := small.2
    cases read
    refine ⟨⟨⟨c.toNat - 97 + 10, by omega⟩, false⟩, ?_, rfl⟩
    rw [HexDigit.char, if_neg (show ¬c.toNat - 97 + 10 < 10 by omega)]
    exact back first
  · have first : 65 ≤ c.toNat := capital.1
    have last : c.toNat ≤ 70 := capital.2
    cases read
    refine ⟨⟨⟨c.toNat - 65 + 10, by omega⟩, true⟩, ?_, rfl⟩
    rw [HexDigit.char, if_neg (show ¬c.toNat - 65 + 10 < 10 by omega)]
    exact back first

private theorem exists_unit {cs rest : List Char} {n : Nat} (read : readUnit? cs = some (n, rest)) :
    ∃ unit : CodeUnit, cs = unit.text ++ rest ∧ unit.value = n := by
  match cs with
  | [] => cases read
  | [_] => cases read
  | [_, _] => cases read
  | [_, _, _] => cases read
  | a :: b :: c :: d :: cs =>
    simp only [readUnit?, Option.bind_eq_bind, Option.bind_eq_some_iff, Option.pure_def,
      Option.some.injEq, Prod.mk.injEq] at read
    obtain ⟨_, first, _, second, _, third, _, fourth, rfl, rfl⟩ := read
    obtain ⟨a, rfl, rfl⟩ := exists_digit first
    obtain ⟨b, rfl, rfl⟩ := exists_digit second
    obtain ⟨c, rfl, rfl⟩ := exists_digit third
    obtain ⟨d, rfl, rfl⟩ := exists_digit fourth
    exact ⟨⟨a, b, c, d⟩, rfl, rfl⟩

private theorem exists_codePoint {cs rest : List Char} {c : Char}
    (read : readCodePoint? cs = some (c, rest)) :
    ∃ spelling : Spelling, '\\' :: 'u' :: cs = spelling.text ++ rest ∧ spelling.char = c := by
  simp only [readCodePoint?, Option.bind_eq_bind, Option.bind_eq_some_iff] at read
  obtain ⟨⟨n, after⟩, first, read⟩ := read
  obtain ⟨unit, rfl, rfl⟩ := exists_unit first
  simp only at read
  by_cases trailing : 0xdc00 ≤ unit.value ∧ unit.value ≤ 0xdfff
  · rw [if_pos trailing] at read
    cases read
  rw [if_neg trailing] at read
  by_cases leading : 0xd800 ≤ unit.value ∧ unit.value ≤ 0xdbff
  · rw [if_pos leading] at read
    split at read
    · next tail =>
      obtain ⟨⟨low, last⟩, second, read⟩ := Option.bind_eq_some_iff.mp read
      obtain ⟨unit', rfl, rfl⟩ := exists_unit second
      simp only at read
      by_cases trails : 0xdc00 ≤ unit'.value ∧ unit'.value ≤ 0xdfff
      · rw [if_pos trails] at read
        obtain ⟨same, rfl⟩ := Prod.mk.inj (Option.some.inj read)
        refine ⟨.pair unit unit' leading trails, ?_, same⟩
        simp only [Spelling.text, List.cons_append, List.append_assoc]
      · rw [if_neg trails] at read
        cases read
    · cases read
  · rw [if_neg leading] at read
    obtain ⟨same, rfl⟩ := Prod.mk.inj (Option.some.inj read)
    exact ⟨.unit unit (by omega), rfl, same⟩

private theorem exists_escape {cs rest : List Char} {c : Char}
    (read : readEscape? cs = some (c, rest)) :
    ∃ spelling : Spelling, '\\' :: cs = spelling.text ++ rest ∧ spelling.char = c := by
  have short {mark : Char} (known : (mark, c) ∈ shortEscapes) :
      ∃ spelling : Spelling, '\\' :: mark :: rest = spelling.text ++ rest ∧ spelling.char = c :=
    ⟨.short mark c known, rfl, rfl⟩
  unfold readEscape? at read
  split at read
  case h_9 => exact exists_codePoint read
  case h_10 => cases read
  all_goals
    obtain ⟨rfl, rfl⟩ := Prod.mk.inj (Option.some.inj read)
    exact short (by decide)

/-- What is read of a string was spelled, character by character, up to its closing quote. -/
theorem exists_spellings {cs rest read : List Char} {s : String}
    (found : readString? read cs = some (s, rest)) :
    ∃ spellings : List Spelling, cs = spellings.flatMap (·.text) ++ '"' :: rest ∧
      s = String.ofList (read.reverse ++ spellings.map (·.char)) := by
  induction read, cs using readString?.induct with
  | case1 read =>
    rw [readString?] at found
    cases found
  | case2 read cs =>
    rw [readString?, if_pos rfl] at found
    obtain ⟨rfl, rfl⟩ := Prod.mk.inj (Option.some.inj found)
    exact ⟨[], rfl, by rw [List.map_nil, List.append_nil]⟩
  | case3 read cs refused =>
    rw [readString?, if_neg (by decide), if_pos rfl] at found
    split at found
    · cases found
    · next escape => cases refused.symm.trans escape
  | case4 read cs c after escape _ _ ih =>
    rw [readString?_escape read escape] at found
    obtain ⟨spelling, text, rfl⟩ := exists_escape escape
    obtain ⟨spellings, rfl, rfl⟩ := ih found
    refine ⟨spelling :: spellings, ?_, ?_⟩
    · rw [text, List.flatMap_cons, List.append_assoc]
    · rw [List.reverse_cons, List.append_assoc]
      rfl
  | case5 read c cs quote slash control =>
    rw [readString?, if_neg quote, if_neg slash, if_pos control] at found
    cases found
  | case6 read c cs quote slash control ih =>
    rw [readString?, if_neg quote, if_neg slash, if_neg control] at found
    obtain ⟨spellings, rfl, rfl⟩ := ih found
    refine ⟨.plain c ⟨quote, slash, Nat.le_of_not_lt control⟩ :: spellings, rfl, ?_⟩
    rw [List.reverse_cons, List.append_assoc]
    rfl

private theorem exists_string {cs rest : List Char} {s : String}
    (read : readString? [] cs = some (s, rest)) :
    ∃ written : WrittenString, cs = written.body ++ rest ∧ written.value = s := by
  obtain ⟨spellings, rfl, rfl⟩ := exists_spellings read
  exact ⟨⟨spellings⟩, by rw [WrittenString.body, List.append_assoc]; rfl, rfl⟩

/-! ## Numbers -/

private theorem exists_digits {cs ds rest : List Char} (cut : spanDigits cs = (ds, rest))
    (nonempty : ds ≠ []) :
    ∃ digits : Digits, cs = digits.chars ++ rest ∧ digits.chars = ds := by
  obtain ⟨rfl, rfl⟩ := Prod.mk.inj cut
  exact ⟨⟨_, nonempty, fun _ mem ↦ List.mem_takeWhile_imp mem⟩,
    List.takeWhile_append_dropWhile.symm, rfl⟩

private theorem exists_whole {cs ds rest : List Char} (read : readWhole? cs = some (ds, rest)) :
    ∃ whole : Digits, (whole.chars.head? = some '0' → whole.chars = ['0']) ∧
      cs = whole.chars ++ rest ∧ whole.chars = ds := by
  obtain ⟨digits, after, cut⟩ : ∃ digits after, spanDigits cs = (digits, after) := ⟨_, _, rfl⟩
  rw [readWhole?, cut] at read
  split at read
  · cases read
  · next same =>
    obtain ⟨rfl, rfl⟩ := Prod.mk.inj same
    obtain ⟨rfl, rfl⟩ := Prod.mk.inj (Option.some.inj read)
    obtain ⟨whole, text, chars⟩ := exists_digits cut (List.cons_ne_nil _ _)
    exact ⟨whole, fun _ ↦ chars, text, chars⟩
  · cases read
  · next nonempty _ other same =>
    obtain ⟨rfl, rfl⟩ := Prod.mk.inj same
    obtain ⟨rfl, rfl⟩ := Prod.mk.inj (Option.some.inj read)
    obtain ⟨whole, text, chars⟩ := exists_digits cut fun empty ↦ nonempty empty
    refine ⟨whole, fun zero ↦ ?_, text, chars⟩
    rw [chars] at zero
    obtain ⟨more, leading⟩ := List.head?_eq_some_iff.mp zero
    exact (other more leading).elim

private theorem exists_fraction {cs rest : List Char} {ds : Option (List Char)}
    (read : readFraction? cs = some (ds, rest)) :
    ∃ fraction : Option Digits, cs = fraction.elim [] ('.' :: ·.chars) ++ rest ∧
      fraction.map (·.chars) = ds := by
  unfold readFraction? at read
  split at read
  · next cs =>
    obtain ⟨digits, after, cut⟩ : ∃ digits after, spanDigits cs = (digits, after) := ⟨_, _, rfl⟩
    rw [cut] at read
    split at read
    · cases read
    · next nonempty same =>
      obtain ⟨rfl, rfl⟩ := Prod.mk.inj same
      obtain ⟨rfl, rfl⟩ := Prod.mk.inj (Option.some.inj read)
      obtain ⟨fraction, rfl, rfl⟩ := exists_digits cut fun empty ↦ nonempty empty
      exact ⟨some fraction, rfl, rfl⟩
  · obtain ⟨rfl, rfl⟩ := Prod.mk.inj (Option.some.inj read)
    exact ⟨none, rfl, rfl⟩

private theorem exists_sign (capital : Bool) (digits : Digits) (cs : List Char) :
    ∃ exponent : Exponent, exponent.capital = capital ∧ exponent.digits = digits ∧
      exponent.parts.1 = (readSign cs).1 ∧ cs = exponent.signText ++ (readSign cs).2 := by
  unfold readSign
  split
  · exact ⟨⟨capital, some false, digits⟩, rfl, rfl, rfl, rfl⟩
  · exact ⟨⟨capital, some true, digits⟩, rfl, rfl, rfl, rfl⟩
  · exact ⟨⟨capital, none, digits⟩, rfl, rfl, rfl, rfl⟩

private theorem exists_exponent {cs rest : List Char} {parts : Option (Bool × List Char)}
    (read : readExponent? cs = some (parts, rest)) :
    ∃ exponent : Option Exponent, cs = exponent.elim [] (·.text) ++ rest ∧
      exponent.map (·.parts) = parts := by
  match cs with
  | [] =>
    obtain ⟨rfl, rfl⟩ := Prod.mk.inj (Option.some.inj read)
    exact ⟨none, rfl, rfl⟩
  | c :: cs =>
    rw [readExponent?] at read
    split at read
    · next mark =>
      obtain ⟨digits, after, cut⟩ : ∃ digits after, spanDigits (readSign cs).2 = (digits, after) :=
        ⟨_, _, rfl⟩
      dsimp only at read
      rw [cut] at read
      split at read
      · cases read
      · next nonempty same =>
        obtain ⟨rfl, rfl⟩ := Prod.mk.inj same
        obtain ⟨rfl, rfl⟩ := Prod.mk.inj (Option.some.inj read)
        obtain ⟨digits, text, rfl⟩ := exists_digits cut fun empty ↦ nonempty empty
        obtain ⟨exponent, letter, rfl, negative, signed⟩ :=
          exists_sign (decide (c = 'E')) digits cs
        have mark : (if exponent.capital then 'E' else 'e') = c := by
          rw [letter]
          rcases mark with rfl | rfl <;> rfl
        refine ⟨some exponent, ?_, by rw [← negative]; rfl⟩
        rw [signed, text, Option.elim_some, Exponent.text, mark, List.cons_append,
          List.append_assoc]
    · obtain ⟨rfl, rfl⟩ := Prod.mk.inj (Option.some.inj read)
      exact ⟨none, rfl, rfl⟩

private theorem exists_unsigned {negative : Bool} {cs rest : List Char} {numeral : Numeral}
    (read : Numeral.readUnsigned? negative cs = some (numeral, rest)) :
    ∃ n : WrittenNumber, (if negative then ['-'] else []) ++ cs = n.text ++ rest ∧
      n.numeral = numeral := by
  simp only [Numeral.readUnsigned?, Option.bind_eq_bind, Option.bind_eq_some_iff, Option.pure_def,
    Option.some.injEq, Prod.mk.injEq] at read
  obtain ⟨⟨_, _⟩, first, ⟨_, _⟩, second, ⟨_, _⟩, third, rfl, rfl⟩ := read
  obtain ⟨whole, minimal, rfl, rfl⟩ := exists_whole first
  obtain ⟨fraction, rfl, rfl⟩ := exists_fraction second
  obtain ⟨exponent, rfl, rfl⟩ := exists_exponent third
  refine ⟨⟨negative, whole, minimal, fraction, exponent⟩, ?_, rfl⟩
  simp only [WrittenNumber.text, List.append_assoc]

theorem exists_number {cs rest : List Char} {numeral : Numeral}
    (read : Numeral.read? cs = some (numeral, rest)) :
    ∃ n : WrittenNumber, cs = n.text ++ rest ∧ n.numeral = numeral := by
  by_cases unsigned : ∀ c ∈ cs.head?, c ≠ '-'
  · rw [read?_of_head_ne unsigned] at read
    exact exists_unsigned read
  · push Not at unsigned
    obtain ⟨_, head, rfl⟩ := unsigned
    obtain ⟨cs, rfl⟩ := List.head?_eq_some_iff.mp head
    rw [read?_minus] at read
    exact exists_unsigned read

/-! ## Values -/

private theorem exists_array {levels steps : Nat} {cs rest : List Char} {value : Json}
    (read : readValue? levels (steps + 1) ('[' :: cs) = some (value, rest))
    (ih : ∀ {levels : Nat} {cs rest : List Char} {values : List Json},
      readItems? levels steps [] cs = some (values, rest) →
        ∃ items : WrittenItems, cs = items.text ++ ']' :: rest ∧
          items.values? levels = some values) :
    ∃ w : Written, '[' :: cs = w.text ++ rest ∧ w.value? levels = some value := by
  match levels with
  | 0 => cases read
  | levels + 1 =>
    obtain ⟨gap, text⟩ := exists_gap cs
    rw [readValue?_bracket] at read
    split at read
    · next closed =>
      obtain ⟨rfl, rfl⟩ := Prod.mk.inj (Option.some.inj read)
      refine ⟨.emptyArray gap, ?_, rfl⟩
      rw [text, closed, Written.text, List.cons_append, List.append_assoc]
      rfl
    · obtain ⟨⟨values, _⟩, inner, same⟩ := Option.map_eq_some_iff.mp read
      obtain ⟨rfl, rfl⟩ := Prod.mk.inj same
      rw [readItems?_skipSpace] at inner
      obtain ⟨items, rfl, held⟩ := ih inner
      refine ⟨.array items, ?_, ?_⟩
      · rw [Written.text, List.cons_append, List.append_assoc]
        rfl
      · rw [Written.value?, if_neg (Nat.succ_ne_zero levels), Nat.add_sub_cancel, held]
        rfl

private theorem exists_object {levels steps : Nat} {cs rest : List Char} {value : Json}
    (read : readValue? levels (steps + 1) ('{' :: cs) = some (value, rest))
    (ih : ∀ {levels : Nat} {cs rest : List Char} {values : List (String × Json)},
      readMembers? levels steps [] cs = some (values, rest) →
        ∃ members : WrittenMembers, cs = members.text ++ '}' :: rest ∧
          members.values? levels = some values) :
    ∃ w : Written, '{' :: cs = w.text ++ rest ∧ w.value? levels = some value := by
  match levels with
  | 0 => cases read
  | levels + 1 =>
    obtain ⟨gap, text⟩ := exists_gap cs
    rw [readValue?_brace] at read
    split at read
    · next closed =>
      obtain ⟨rfl, rfl⟩ := Prod.mk.inj (Option.some.inj read)
      refine ⟨.emptyObject gap, ?_, rfl⟩
      rw [text, closed, Written.text, List.cons_append, List.append_assoc]
      rfl
    · obtain ⟨⟨values, _⟩, inner, same⟩ := Option.map_eq_some_iff.mp read
      obtain ⟨rfl, rfl⟩ := Prod.mk.inj same
      rw [readMembers?_skipSpace] at inner
      obtain ⟨members, rfl, held⟩ := ih inner
      refine ⟨.object members, ?_, ?_⟩
      · rw [Written.text, List.cons_append, List.append_assoc]
        rfl
      · rw [Written.value?, if_neg (Nat.succ_ne_zero levels), Nat.add_sub_cancel, held]
        rfl

private theorem exists_key {levels steps : Nat} {read values : List (String × Json)}
    {cs rest : List Char} (found : readMembers? levels (steps + 1) read cs = some (values, rest)) :
    ∃ (key : WrittenKey) (behind : List Char), cs = key.text ++ behind ∧
      skipSpace behind = behind := by
  obtain ⟨before, text⟩ := exists_gap cs
  rw [readMembers?] at found
  split at found
  · next quote =>
    obtain ⟨⟨_, afterName⟩, spelled, more⟩ := Option.bind_eq_some_iff.mp found
    obtain ⟨name, rfl, rfl⟩ := exists_string spelled
    obtain ⟨between, text'⟩ := exists_gap afterName
    dsimp only at more
    split at more
    · next behind colon =>
      -- white space in front of the value belongs to the key
      obtain ⟨after, text''⟩ := exists_gap behind
      refine ⟨⟨before, name, between, after⟩, skipSpace behind, ?_, skipSpace_skipSpace behind⟩
      rw [text, quote, text', colon, text'', skipSpace_gap, skipSpace_skipSpace]
      simp only [WrittenKey.text, WrittenString.text, List.append_assoc, List.cons_append]
    · cases more
  · cases found

mutual

/-- What is read as a value was written, behind white space. -/
theorem exists_written (levels steps : Nat) {cs rest : List Char} {value : Json}
    (read : readValue? levels steps cs = some (value, rest)) :
    ∃ w : Written, skipSpace cs = w.text ++ rest ∧ w.value? levels = some value := by
  match steps with
  | 0 => cases read
  | steps + 1 =>
    -- an array and an object are read from the text without the white space in front
    have visible := (readValue?_skipSpace levels (steps + 1) cs).trans read
    rw [readValue?] at read
    split at read
    · next found =>
      obtain ⟨rfl, rfl⟩ := Prod.mk.inj (Option.some.inj read)
      exact ⟨.null, found, rfl⟩
    · next found =>
      obtain ⟨rfl, rfl⟩ := Prod.mk.inj (Option.some.inj read)
      exact ⟨.bool true, found, rfl⟩
    · next found =>
      obtain ⟨rfl, rfl⟩ := Prod.mk.inj (Option.some.inj read)
      exact ⟨.bool false, found, rfl⟩
    · next found =>
      obtain ⟨⟨_, _⟩, chars, same⟩ := Option.map_eq_some_iff.mp read
      obtain ⟨rfl, rfl⟩ := Prod.mk.inj same
      obtain ⟨s, rfl, rfl⟩ := exists_string chars
      exact ⟨.string s, found, rfl⟩
    · next found =>
      rw [found] at visible ⊢
      refine exists_array visible fun inner ↦ ?_
      obtain ⟨items, more, text, held, rfl⟩ := exists_items _ steps inner
      exact ⟨items, text, held⟩
    · next found =>
      rw [found] at visible ⊢
      refine exists_object visible fun inner ↦ ?_
      obtain ⟨members, more, text, held, rfl⟩ := exists_members _ steps inner
      exact ⟨members, text, held⟩
    · simp only [Option.bind_eq_bind, Option.bind_eq_some_iff, Option.pure_def, Option.some.injEq,
        Prod.mk.injEq] at read
      obtain ⟨⟨_, _⟩, cut, _, held, rfl, rfl⟩ := read
      obtain ⟨n, text, rfl⟩ := exists_number cut
      exact ⟨.number n, text, by rw [Written.value?, held]; rfl⟩

private theorem exists_items (levels steps : Nat) {cs rest : List Char} {read values : List Json}
    (found : readItems? levels steps read cs = some (values, rest)) :
    ∃ (items : WrittenItems) (more : List Json), cs = items.text ++ ']' :: rest ∧
      items.values? levels = some more ∧ values = read.reverse ++ more := by
  match steps with
  | 0 => cases found
  | steps + 1 =>
    rw [readItems?] at found
    obtain ⟨⟨item, behind⟩, first, others⟩ := Option.bind_eq_some_iff.mp found
    obtain ⟨before, text⟩ := exists_gap cs
    obtain ⟨after, text'⟩ := exists_gap behind
    obtain ⟨w, written, held⟩ := exists_written levels steps first
    dsimp only at others
    split at others
    · next comma =>
      obtain ⟨items, more, rfl, helds, rfl⟩ := exists_items levels steps others
      refine ⟨.more before w after items, item :: more, ?_, ?_, ?_⟩
      · rw [text, written, text', comma]
        simp only [WrittenItems.text, List.append_assoc, List.cons_append]
      · rw [WrittenItems.values?, held, helds]
        rfl
      · rw [List.reverse_cons, List.append_assoc]
        rfl
    · next bracket =>
      obtain ⟨rfl, rfl⟩ := Prod.mk.inj (Option.some.inj others)
      refine ⟨.last before w after, [item], ?_, ?_, List.reverse_cons⟩
      · rw [text, written, text', bracket]
        simp only [WrittenItems.text, List.append_assoc]
      · rw [WrittenItems.values?, held]
        rfl
    · cases others

private theorem exists_members (levels steps : Nat) {cs rest : List Char}
    {read values : List (String × Json)}
    (found : readMembers? levels steps read cs = some (values, rest)) :
    ∃ (members : WrittenMembers) (more : List (String × Json)), cs = members.text ++ '}' :: rest ∧
      members.values? levels = some more ∧ values = read.reverse ++ more := by
  match steps with
  | 0 => cases found
  | steps + 1 =>
    obtain ⟨key, cs, rfl, visible⟩ := exists_key found
    rw [readMembers?_key] at found
    obtain ⟨⟨value, behind⟩, first, others⟩ := Option.bind_eq_some_iff.mp found
    obtain ⟨after, text⟩ := exists_gap behind
    obtain ⟨w, written, held⟩ := exists_written levels steps first
    rw [visible] at written
    dsimp only at others
    split at others
    · next comma =>
      obtain ⟨members, more, rfl, helds, rfl⟩ := exists_members levels steps others
      refine ⟨.more key w after members, (key.name.value, value) :: more, ?_, ?_, ?_⟩
      · rw [written, text, comma]
        simp only [WrittenMembers.text, List.append_assoc, List.cons_append]
      · rw [WrittenMembers.values?, held, helds]
        rfl
      · rw [List.reverse_cons, List.append_assoc]
        rfl
    · next brace =>
      obtain ⟨rfl, rfl⟩ := Prod.mk.inj (Option.some.inj others)
      refine ⟨.last key w after, [(key.name.value, value)], ?_, ?_, List.reverse_cons⟩
      · rw [written, text, brace]
        simp only [WrittenMembers.text, List.append_assoc]
      · rw [WrittenMembers.values?, held]
        rfl
    · cases others

end

/-- A text is read exactly if a value is written in it, and as that value. -/
theorem parse?_eq_some_iff {text : String} {value : Json} :
    parse? text = some value ↔ ∃ (before : Gap) (w : Written) (after : Gap),
      text = String.ofList (before.chars ++ (w.text ++ after.chars)) ∧
        w.value? maxLevels = some value := by
  constructor
  · intro read
    obtain ⟨⟨_, behind⟩, found, ends⟩ := Option.bind_eq_some_iff.mp read
    obtain ⟨before, text'⟩ := exists_gap text.toList
    obtain ⟨after, text''⟩ := exists_gap behind
    obtain ⟨w, written, held⟩ := exists_written maxLevels _ found
    dsimp only at ends
    split at ends
    · next blank =>
      cases ends
      refine ⟨before, w, after, ?_, held⟩
      rw [blank, List.append_nil] at text''
      rw [← text'', ← written, ← text', String.ofList_toList]
    · cases ends
  · rintro ⟨before, w, after, rfl, held⟩
    rw [parse?_text, held]

end Glyphcast.Json
