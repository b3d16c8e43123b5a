/-
Module: LedgerAgent.Proofs.Json.Rendering
Purpose: Every value is written as JSON text by its grammar, whatever its strings and numbers
  are and however deep it nests.
Main exports: Json.spelling_escaped, Json.exists_literal, Json.source, Json.valueText_chars,
  Json.elementText_render
-/
import LedgerAgent.Proofs.Decimal.Positional
import LedgerAgent.Proofs.Json.Grammar

namespace LedgerAgent.Json

open Decimal (Scientific digital_replicate_zero positional withExponent)
open Text.Numeral

/-! ### Strings -/

/-- A control character's code has two zeros in front. -/
theorem hex4_control : ∀ n < 32,
    hex4 n = ['0', '0', (n / 16).digitChar, (n % 16).digitChar] ∧
      hexValue? (n / 16).digitChar = some (n / 16) ∧
      hexValue? (n % 16).digitChar = some (n % 16) := by
  decide

/-- Each character is spelled by its escape. -/
theorem Spelling.escapeChar {cs s : List Char} (c : Char) (others : Spelling cs s) :
    Spelling (Json.escapeChar c ++ cs) (c :: s) := by
  have named : ∀ {n : Nat} {a : Char}, c.toNat = n → escaped? a = some (Char.ofNat n) →
      Spelling ('\\' :: a :: cs) (c :: s) := by
    intro n a code letter
    rw [← code, Char.ofNat_toNat] at letter
    exact .letter letter others
  unfold Json.escapeChar
  -- Five control characters have letters, the others are written by their codes.
  split_ifs with quote backslash control letter letter letter letter letter
  · subst quote
    exact .letter rfl others
  · subst backslash
    exact .letter rfl others
  · exact named letter rfl
  · exact named letter rfl
  · exact named letter rfl
  · exact named letter rfl
  · exact named letter rfl
  · obtain ⟨written, high, low⟩ := hex4_control c.toNat control
    have hex : Hex4 '0' '0' (c.toNat / 16).digitChar (c.toNat % 16).digitChar c.toNat :=
      ⟨0, 0, _, _, rfl, rfl, high, low, by omega⟩
    have spelled := Spelling.code hex (.inl (by omega)) others
    rw [Char.ofNat_toNat] at spelled
    rw [written]
    exact spelled
  · exact .plain (by omega) quote backslash others

/-- What a string is written as spells it. -/
theorem spelling_escaped (s : List Char) : Spelling (s.flatMap escapeChar) s := by
  induction s with
  | nil => exact .nil
  | cons c s inductionHypothesis =>
      rw [List.flatMap_cons]
      exact .escapeChar c inductionHypothesis

/-! ### Numbers -/

/-- Decimal digits, one at least. -/
structure Digital (cs : List Char) : Prop where
  nonempty : cs ≠ []
  isDigit : ∀ c ∈ cs, Text.Numeral.isDigit c = true

/-- Digits of which no zero stands before others. -/
structure Led (cs : List Char) : Prop extends Digital cs where
  noZero : ∀ rest, cs = '0' :: rest → rest = []

/-- Digits without a zero in front have no needless one. -/
theorem Digital.led {d : Char} {rest : List Char} (digital : Digital (d :: rest))
    (first : d ≠ '0') :
    Led (d :: rest) := by
  refine ⟨digital, ?_⟩
  intro others same
  exact absurd (List.cons.inj same).1 first

theorem digital_digits (n : Nat) : Digital (digits n) :=
  ⟨digits_ne_nil n, fun _ => isDigit_of_mem_digits⟩

theorem digital_zeros_append (zeros : Nat) {cs : List Char} (digital : Digital cs) :
    Digital (List.replicate zeros '0' ++ cs) := by
  refine ⟨List.append_ne_nil_of_right_ne_nil _ digital.nonempty, ?_⟩
  intro c member
  rcases List.mem_append.1 member with zero | own
  · exact digital_replicate_zero zeros c zero
  · exact digital.isDigit c own

/-- The digits of a number have no needless zero. -/
theorem led_digits (n : Nat) : Led (digits n) := by
  refine ⟨digital_digits n, ?_⟩
  intro rest first
  obtain ⟨d, others, written, -, alone⟩ := head_digits n
  rw [written, List.cons.injEq] at first
  exact first.2 ▸ alone first.1

/-- The digits of a number other than zero do not begin with one. -/
theorem head_digits_ne_zero {n : Nat} (nonzero : n ≠ 0) :
    ∃ d rest, digits n = d :: rest ∧ d ≠ '0' := by
  obtain ⟨d, rest, written, -, alone⟩ := head_digits n
  refine ⟨d, rest, written, ?_⟩
  rintro rfl
  have value := ofDigitChars_digits n
  rw [written, alone rfl] at value
  exact nonzero value.symm

theorem led_append_zeros {n : Nat} (nonzero : n ≠ 0) (zeros : Nat) :
    Led (digits n ++ List.replicate zeros '0') := by
  obtain ⟨d, rest, written, first⟩ := head_digits_ne_zero nonzero
  have digital := digital_digits n
  rw [written] at digital ⊢
  rw [List.cons_append]
  refine Digital.led ⟨List.cons_ne_nil _ _, ?_⟩ first
  rw [← List.cons_append]
  intro c member
  rcases List.mem_append.1 member with own | zero
  · exact digital.isDigit c own
  · exact digital_replicate_zero zeros c zero

theorem led_take {n place : Nat} (nonzero : n ≠ 0) (some_of_it : place ≠ 0) :
    Led ((digits n).take place) := by
  obtain ⟨d, rest, written, first⟩ := head_digits_ne_zero nonzero
  obtain ⟨place, rfl⟩ := Nat.exists_eq_succ_of_ne_zero some_of_it
  have digital := digital_digits n
  rw [written] at digital ⊢
  refine Digital.led ⟨List.cons_ne_nil _ _, ?_⟩ first
  intro c member
  exact digital.isDigit c (List.mem_of_mem_take (l := d :: rest) (i := place + 1) member)

theorem digital_drop {n place : Nat} (inside : place < (digits n).length) :
    Digital ((digits n).drop place) := by
  refine ⟨?_, fun c member => isDigit_of_mem_digits (List.mem_of_mem_drop member)⟩
  rw [← List.length_pos_iff, List.length_drop]
  omega

/-- The sign of a number, which is written only if it is a minus. -/
def minus (negative : Bool) : List Char :=
  if negative then ['-'] else []

/-- Digits, a fraction and an exponent make a literal. -/
theorem exists_literal_of (negative : Bool) {whole : List Char} {fraction : Option (List Char)}
    (exponent : Option Exponent) (led : Led whole) (digital : ∀ f ∈ fraction, Digital f) :
    ∃ l : Literal, l.chars = minus negative ++
      (whole ++ ((fraction.elim [] fun f => '.' :: f) ++ exponent.elim [] Exponent.chars)) := by
  cases fraction with
  | none => exact ⟨⟨negative, ⟨whole, led.nonempty, led.isDigit⟩, led.noZero, none, exponent⟩, rfl⟩
  | some f =>
      have digital := digital f rfl
      exact ⟨⟨negative, ⟨whole, led.nonempty, led.isDigit⟩, led.noZero,
        some ⟨f, digital.nonempty, digital.isDigit⟩, exponent⟩, rfl⟩

/-- Where the point stands among or before the digits of a decimal. -/
def place (d : Scientific) : Int :=
  (digits d.digits).length + d.exponent

/-- A decimal without a fraction is written with zeros behind its digits. -/
theorem positional_whole {d : Scientific} (nonzero : d.digits ≠ 0) (whole : 0 ≤ d.exponent) :
    positional d = digits d.digits ++ List.replicate d.exponent.toNat '0' := by
  rw [positional, if_pos whole, if_neg nonzero]
  rfl

/-- A decimal whose point falls between its digits is written with the point there. -/
theorem positional_pointed {d : Scientific} (broken : ¬ 0 ≤ d.exponent) (inside : 0 < place d) :
    positional d =
      (digits d.digits).take (place d).toNat ++ '.' :: (digits d.digits).drop (place d).toNat :=
  (if_neg broken).trans (if_pos inside)

/-- A decimal whose point falls before its digits is written with zeros between them. -/
theorem positional_fraction {d : Scientific} (broken : ¬ 0 ≤ d.exponent)
    (outside : ¬ 0 < place d) :
    positional d = '0' :: '.' :: List.replicate (-place d).toNat '0' ++ digits d.digits :=
  (if_neg broken).trans (if_neg outside)

/-- A decimal is written in full as a literal, with a fraction of nothing if it has none. -/
theorem exists_literal_positional (negative : Bool) {d : Scientific} (nonzero : d.digits ≠ 0) :
    ∃ l : Literal, l.chars = minus negative ++
      if 0 ≤ d.exponent then positional d ++ ['.', '0'] else positional d := by
  by_cases whole : 0 ≤ d.exponent
  · have fraction : ∀ f ∈ some ['0'], Digital f := by
      rintro _ ⟨⟩
      exact digital_digits 0
    obtain ⟨l, written⟩ := exists_literal_of negative none
      (led_append_zeros nonzero d.exponent.toNat) fraction
    exact ⟨l, by simp [written, whole, positional_whole nonzero]⟩
  · rw [if_neg whole]
    by_cases inside : 0 < place d
    · have fraction : ∀ f ∈ some ((digits d.digits).drop (place d).toNat), Digital f := by
        rintro _ ⟨⟩
        rw [place] at inside ⊢
        exact digital_drop (by omega)
      have led : Led ((digits d.digits).take (place d).toNat) := led_take nonzero (by omega)
      obtain ⟨l, written⟩ := exists_literal_of negative none led fraction
      exact ⟨l, by simp [written, positional_pointed whole inside]⟩
    · have fraction :
          ∀ f ∈ some (List.replicate (-place d).toNat '0' ++ digits d.digits), Digital f := by
        rintro _ ⟨⟩
        exact digital_zeros_append _ (digital_digits d.digits)
      obtain ⟨l, written⟩ := exists_literal_of negative none (led_digits 0) fraction
      have zero : digits 0 = ['0'] := rfl
      exact ⟨l, by simp [written, zero, positional_fraction whole inside]⟩

/-- A decimal is written with an exponent as a literal. -/
theorem exists_literal_withExponent (negative : Bool) {d : Scientific} (nonzero : d.digits ≠ 0) :
    ∃ l : Literal, l.chars = minus negative ++ withExponent d := by
  let exponent : Exponent := ⟨false, some (decide (place d - 1 < 0)), ⟨digits (place d - 1).natAbs,
    (digital_digits _).nonempty, (digital_digits _).isDigit⟩⟩
  have shown : exponent.chars =
      'e' :: (if place d - 1 < 0 then '-' else '+') :: digits (place d - 1).natAbs := by
    by_cases below : place d - 1 < 0 <;> simp [exponent, Exponent.chars, below]
  have written : withExponent d = (digits d.digits).take 1 ++
      ((if (digits d.digits).length = 1 then [] else '.' :: (digits d.digits).drop 1) ++
        exponent.chars) := by
    rw [shown, ← List.append_assoc]
    rfl
  have positive := (digital_digits d.digits).nonempty
  rw [← List.length_pos_iff] at positive
  have led : Led ((digits d.digits).take 1) := led_take nonzero (by decide)
  rw [written]
  split
  · have nothing : ∀ f ∈ (none : Option (List Char)), Digital f := by rintro _ ⟨⟩
    exact exists_literal_of negative (some exponent) led nothing
  · have fraction : ∀ f ∈ some ((digits d.digits).drop 1), Digital f := by
      rintro _ ⟨⟩
      exact digital_drop (by omega)
    exact exists_literal_of negative (some exponent) led fraction

/-- Every number is written as a literal. -/
theorem exists_literal (n : Number) : ∃ l : Literal, l.chars = n.chars := by
  have nothing : ∀ f ∈ (none : Option (List Char)), Digital f := by
    rintro _ ⟨⟩
  cases n with
  | natural n =>
      obtain ⟨l, written⟩ := exists_literal_of false none (led_digits n.toNat) nothing
      exact ⟨l, written.trans (List.append_nil _)⟩
  | negative n =>
      obtain ⟨l, written⟩ := exists_literal_of true none (led_digits n.toInt.natAbs) nothing
      exact ⟨l, written.trans (congrArg ('-' :: ·) (List.append_nil _))⟩
  | real x =>
      have signed : ∀ cs : List Char,
          (if x.negative then '-' :: cs else cs) = minus x.negative ++ cs := by
        intro cs
        cases x.negative <;> rfl
      rw [Number.chars, realChars, signed]
      split
      · have fraction : ∀ f ∈ some ['0'], Digital f := by
          rintro _ ⟨⟩
          exact digital_digits 0
        exact exists_literal_of x.negative none (led_digits 0) fraction
      · rename_i nonzero
        split
        · exact exists_literal_positional x.negative nonzero
        · exact exists_literal_withExponent x.negative nonzero

/-- The literal that a number is written as. -/
noncomputable def Number.literal (n : Number) : Literal :=
  (exists_literal n).choose

/-- A number is written as its literal. -/
theorem Number.chars_literal (n : Number) : n.literal.chars = n.chars :=
  (exists_literal n).choose_spec

/-! ### Values -/

mutual

/-- A value as it stands in its own text. -/
noncomputable def source : Json → Source
  | .null => .null
  | .bool b => .bool b
  | .number n => .number n.literal
  | .string s => .string s
  | .array items => .array (itemSources items)
  | .object members => .object (memberSources members)

noncomputable def itemSources : List Json → List Source
  | [] => []
  | item :: rest => item.source :: itemSources rest

noncomputable def memberSources : List (String × Json) → List (String × Source)
  | [] => []
  | (key, value) :: rest => (key, value.source) :: memberSources rest

end

theorem keys_memberSources (members : List (String × Json)) :
    (memberSources members).map Prod.fst = members.map Prod.fst := by
  induction members with
  | nil => rfl
  | cons member rest inductionHypothesis => simp [memberSources, inductionHypothesis]

theorem lookup_memberSources (members : List (String × Json)) (key : String) :
    (memberSources members).lookup key = (members.lookup key).map source := by
  induction members with
  | nil => rfl
  | cons member rest inductionHypothesis =>
      rw [memberSources, List.lookup_cons, List.lookup_cons, inductionHypothesis]
      cases key == member.1 <;> rfl

theorem blank_nil : Blank [] :=
  fun _ member => absurd member List.not_mem_nil

/-- No white space has to stand around a value. -/
theorem ValueText.element {cs : List Char} {v : Source} (written : ValueText cs v) :
    ElementText cs v := by
  have element := ElementText.mk blank_nil written blank_nil
  rwa [List.nil_append, List.append_nil] at element

mutual

/-- A value's text is grammatical. -/
theorem valueText_chars : ∀ v : Json, ValueText v.chars v.source
  | .null => .null
  | .bool true => .true
  | .bool false => .false
  | .number n => by
      rw [chars, source, ← n.chars_literal]
      exact .number n.literal
  | .string s => .string (spelling_escaped s.toList)
  | .array [] => .emptyArray blank_nil
  | .array (item :: rest) => .array (itemsText_chars (item :: rest) (List.cons_ne_nil _ _))
  | .object [] => .emptyObject blank_nil
  | .object (member :: rest) =>
      .object (membersText_chars (member :: rest) (List.cons_ne_nil _ _))

/-- The text of items is grammatical if there are any. -/
theorem itemsText_chars :
    ∀ items : List Json, items ≠ [] → ItemsText (itemsChars items) (itemSources items)
  | [], nonempty => absurd rfl nonempty
  | [item], _ => .last (valueText_chars item).element
  | item :: next :: rest, _ =>
      .more (valueText_chars item).element
        (itemsText_chars (next :: rest) (List.cons_ne_nil _ _))

/-- The text of members is grammatical if there are any. -/
theorem membersText_chars :
    ∀ members : List (String × Json), members ≠ [] →
      MembersText (membersChars members) (memberSources members)
  | [], nonempty => absurd rfl nonempty
  | [(key, value)], _ => by
      have text := MembersText.last blank_nil (spelling_escaped key.toList) blank_nil
        (valueText_chars value).element
      simpa [membersChars, memberSources, stringChars] using text
  | (key, value) :: next :: rest, _ => by
      have text := MembersText.more blank_nil (spelling_escaped key.toList) blank_nil
        (valueText_chars value).element
        (membersText_chars (next :: rest) (List.cons_ne_nil _ _))
      rw [memberSources]
      simpa [membersChars, stringChars] using text

end

/-- A rendered value is JSON text. -/
theorem elementText_render (v : Json) : ElementText v.render.toList v.source := by
  rw [render, String.toList_ofList]
  exact (valueText_chars v).element

end LedgerAgent.Json
