/-
Module: LedgerAgent.Proofs.Identifier.Canonical
Purpose: One spelling for each identifier of a transaction: what it is printed as, and of all texts
  that are read as it the only one with nothing needless in it.
Main exports: EntityId.Canonical, TransactionId.Canonical, TransactionId.eq_chars_of_canonical,
  TransactionId.canonical_toText
-/
import LedgerAgent.Proofs.Amount.Display
import LedgerAgent.Proofs.Identifier.Transaction

namespace LedgerAgent

open Nat (ofDigitChars)
open Json (Led led_digits)
open Text Text.Numeral

/-! ### Numbers -/

namespace Text.Numeral

/-- Of the digits of a natural number just one spelling has no needless zero and no sign. -/
theorem eq_digits_of_led {ds : List Char} {n : Nat} (led : Led ds) (spells : Unsigned ds n) :
    ds = digits n := by
  cases spells with
  | bare nonempty digital =>
      exact Amount.eq_of_led led (led_digits _) (ofDigitChars_digits _).symm
  | plus nonempty digital => exact absurd (led.isDigit '+' List.mem_cons_self) (by decide)

/-- A text of an integer has nothing needless in it: no plus sign, no zero before other digits and
no minus sign before zero. -/
inductive Plain : List Char → Prop where
  | natural {ds : List Char} (led : Led ds) : Plain ds
  | negative {ds : List Char} (led : Led ds) (nonzero : ds ≠ ['0']) : Plain ('-' :: ds)

theorem Plain.mem {cs : List Char} (plain : Plain cs) {c : Char} (member : c ∈ cs) :
    c = '-' ∨ isDigit c = true := by
  cases plain with
  | natural led => exact .inr (led.isDigit c member)
  | negative led nonzero =>
      rcases List.mem_cons.1 member with sign | digit
      · exact .inl sign
      · exact .inr (led.isDigit c digit)

theorem Plain.point_not_mem {cs : List Char} (plain : Plain cs) : '.' ∉ cs := by
  intro member
  rcases plain.mem member with sign | digit
  · exact absurd sign (by decide)
  · exact absurd digit (by decide)

/-- A number of leading digits other than a lone zero is not zero. -/
theorem ofDigitChars_pos {ds : List Char} (led : Led ds) (nonzero : ds ≠ ['0']) :
    0 < ofDigitChars 10 ds 0 := by
  apply Nat.pos_of_ne_zero
  intro zero
  exact nonzero (Amount.eq_of_led led (led_digits 0) (zero.trans (ofDigitChars_digits 0).symm))

end Text.Numeral

/-! ### Entities -/

namespace EntityId

variable {kind : EntityKind}

/-- A text of an identifier has nothing needless in it: its three numbers have no sign and no
zero before other digits, and nothing stands around them. -/
inductive Canonical : List Char → Prop where
  | numbers {ss rs ns : List Char} (shard : Led ss) (realm : Led rs) (num : Led ns) :
      Canonical (ss ++ '.' :: (rs ++ '.' :: ns))

theorem canonical_chars (id : EntityId kind) : Canonical id.chars := by
  rw [chars, List.append_assoc, List.cons_append]
  exact .numbers (led_digits _) (led_digits _) (led_digits _)

theorem Canonical.mem {cs : List Char} (canonical : Canonical cs) {c : Char} (member : c ∈ cs) :
    c = '.' ∨ isDigit c = true := by
  cases canonical with
  | numbers shard realm num =>
      simp only [List.mem_append, List.mem_cons] at member
      rcases member with own | point | own | point | own
      · exact .inr (shard.isDigit c own)
      · exact .inl point
      · exact .inr (realm.isDigit c own)
      · exact .inl point
      · exact .inr (num.isDigit c own)

theorem Canonical.not_blank {cs : List Char} (canonical : Canonical cs) :
    ∀ c ∈ cs, isBlank c = false := by
  intro c member
  rcases canonical.mem member with rfl | digit
  · decide
  · exact isBlank_of_isDigit digit

theorem Canonical.at_not_mem {cs : List Char} (canonical : Canonical cs) : '@' ∉ cs := by
  intro member
  rcases canonical.mem member with point | digit
  · exact absurd point (by decide)
  · exact absurd digit (by decide)

/-- A plain text that spells an entity is the entity's own. -/
theorem eq_chars_of_canonical {cs : List Char} {id : EntityId kind} (canonical : Canonical cs)
    (spells : Spells cs id) : cs = id.chars := by
  cases canonical with
  | numbers shard realm num =>
      obtain ⟨ss, rs, ns, parts, shard', realm', num'⟩ := spells_iff.1 spells
      rw [fields_append _ (Amount.point_not_mem shard.isDigit),
        fields_append _ (Amount.point_not_mem realm.isDigit),
        fields_of_not_mem (Amount.point_not_mem num.isDigit)] at parts
      cases parts
      rw [chars, ← eq_digits_of_led shard shard', ← eq_digits_of_led realm realm',
        ← eq_digits_of_led num num', List.append_assoc, List.cons_append]

end EntityId

/-! ### Transactions -/

namespace TransactionId

/-- A text of an identifier has nothing needless in it and all nine places of the fraction. -/
inductive Canonical : List Char → Prop where
  | parts {as ss fs : List Char} (account : EntityId.Canonical as) (seconds : Plain ss)
      (long : fs.length = 9) (digital : ∀ c ∈ fs, isDigit c = true) :
      Canonical (as ++ '@' :: (ss ++ '.' :: fs))

theorem plain_secondsChars (seconds : Int64) : Plain (secondsChars seconds) := by
  rw [secondsChars]
  split
  · next negative =>
    rw [List.singleton_append]
    refine .negative (led_digits _) fun zero => ?_
    have value : ofDigitChars 10 ['0'] 0 = seconds.toInt.natAbs := by
      rw [← zero, ofDigitChars_digits]
    have none : ofDigitChars 10 ['0'] 0 = 0 := rfl
    omega
  · exact .natural (led_digits _)

/-- A plain text that spells a number of seconds is the number's own. -/
theorem eq_secondsChars_of_plain {ss : List Char} {seconds : Int64} (plain : Plain ss)
    (spells : Signed ss seconds.toInt) : ss = secondsChars seconds := by
  rw [secondsChars]
  generalize seconds.toInt = n at spells ⊢
  cases plain with
  | natural led =>
      cases spells with
      | @natural _ m spells =>
          rw [if_neg (by omega), List.nil_append, Int.natAbs_natCast]
          exact eq_digits_of_led led spells
      | minus nonempty digital => exact absurd (led.isDigit '-' List.mem_cons_self) (by decide)
  | @negative ds led nonzero =>
      cases spells with
      | natural spells =>
          rcases spells.mem List.mem_cons_self with sign | digit
          · exact absurd sign (by decide)
          · exact absurd digit (by decide)
      | minus nonempty digital =>
          have positive := ofDigitChars_pos led nonzero
          rw [if_pos (by omega), List.singleton_append, Int.natAbs_neg, Int.natAbs_natCast,
            ← eq_digits_of_led led (.bare nonempty digital)]

theorem canonical_chars {id : TransactionId} (within : id.validStart.WithinSecond) :
    Canonical id.chars := by
  rw [chars_eq]
  exact .parts id.account.canonical_chars (plain_secondsChars _)
    (length_padded (by decide) within) fun c => isDigit_of_mem_padded

/-- Nine digits are read as the nanoseconds that are printed as them. -/
theorem eq_padded_of_nanos? {fs : List Char} {nanos : UInt32} (long : fs.length = 9)
    (digital : ∀ c ∈ fs, isDigit c = true) (read : nanos? fs = some nanos) :
    fs = padded 9 nanos.toNat := by
  rcases nanos?_eq_some_iff.1 read with fraction | ⟨ds, rfl, fraction⟩
  · have value := fraction.value
    rw [long, Nat.sub_self, Nat.pow_zero, Nat.mul_one] at value
    apply Amount.eq_of_ofDigitChars digital fun c => isDigit_of_mem_padded
    · rw [long, length_padded (by decide) (nanos?_lt read)]
    · rw [ofDigitChars_padded, value]
  · exact absurd (digital '+' List.mem_cons_self) (by decide)

theorem Canonical.not_blank {cs : List Char} (canonical : Canonical cs) :
    ∀ c ∈ cs, isBlank c = false := by
  intro c member
  cases canonical with
  | parts account seconds long digital =>
      simp only [List.mem_append, List.mem_cons] at member
      rcases member with own | rfl | own | rfl | own
      · exact account.not_blank c own
      · decide
      · rcases seconds.mem own with rfl | digit
        · decide
        · exact isBlank_of_isDigit digit
      · decide
      · exact isBlank_of_isDigit (digital c own)

/-- A plain text that is read as an identity is the identity's own. -/
theorem eq_chars_of_canonical {cs : List Char} {id : TransactionId} (canonical : Canonical cs)
    (read : ofChars? cs = some id) : cs = id.chars := by
  -- Both ways to cut the text cut at the same places, as no part holds the separator behind it.
  obtain ⟨as, ss, fs, text, accepted, spells, fraction⟩ := ofChars?_eq_some_iff.1 read
  rw [trimmed_of_not_blank canonical.not_blank] at text
  cases canonical with
  | parts account seconds long digital =>
      rw [append_sep_inj account.at_not_mem (at_not_mem accepted),
        append_sep_inj seconds.point_not_mem (point_not_mem spells)] at text
      obtain ⟨rfl, rfl, rfl⟩ := text
      have spelled := EntityId.ofChars?_eq_some_iff.1 accepted
      rw [trimmed_of_not_blank account.not_blank] at spelled
      rw [chars_eq, ← EntityId.eq_chars_of_canonical account spelled,
        ← eq_secondsChars_of_plain seconds spells, ← eq_padded_of_nanos? long digital fraction]

/-- An identifier is read back from what it is printed as exactly if its nanoseconds are less than
a second, as those of every identifier are that some text is read as.  Different identifiers are
printed differently, so that one text stands for all that are read alike; and of these it is the
one with nothing needless in it. -/
theorem canonical_toText (id : TransactionId) :
    (parse id.toText = .ok id ↔ id.validStart.WithinSecond) ∧
    ((∃ text, parse text = .ok id) ↔ id.validStart.WithinSecond) ∧
    (∀ id' : TransactionId, id'.toText = id.toText ↔ id' = id) ∧
    ∀ text, parse text = .ok id ∧ Canonical text.toList ↔
      text = id.toText ∧ id.validStart.WithinSecond := by
  refine ⟨⟨withinSecond_of_parse, parse_toText⟩, ?_, fun id' => ?_, fun text => ?_⟩
  · exact ⟨fun ⟨text, read⟩ => withinSecond_of_parse read, fun within => ⟨_, parse_toText within⟩⟩
  · constructor
    · intro same
      exact chars_inj (String.ofList_injective same)
    · rintro rfl
      rfl
  · constructor
    · rintro ⟨read, canonical⟩
      refine ⟨?_, withinSecond_of_parse read⟩
      rw [toText, ← eq_chars_of_canonical canonical (parse_eq_ok_iff_ofChars?.1 read),
        String.ofList_toList]
    · rintro ⟨rfl, within⟩
      refine ⟨parse_toText within, ?_⟩
      rw [toText, String.toList_ofList]
      exact canonical_chars within

end TransactionId

end LedgerAgent
