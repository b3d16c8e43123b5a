/-
Module: LedgerAgent.Proofs.Url.Domain
Purpose: Names in ASCII without capitals: what every name is looked up as, and what is looked
  up as itself.
Main exports: Url.Small, Url.sharedForm?_of_small, Url.small_of_asciiDomain?,
  Url.asciiDomain?_of_small
-/
import Mathlib.Data.Bool.AllAny
import Mathlib.Data.List.Forall2
import LedgerAgent.Url.Domain

namespace LedgerAgent

/-- A list that was gone through item by item gave something for each. -/
theorem forall₂_of_mapM {α β : Type} {f : α → Option β} {items : List α} {results : List β}
    (found : items.mapM f = some results) :
    List.Forall₂ (fun a b => f a = some b) items results := by
  induction items generalizing results with
  | nil =>
      cases found
      exact .nil
  | cons item rest inductionHypothesis =>
      rw [List.mapM_cons] at found
      obtain ⟨result, first, found⟩ := Option.bind_eq_some_iff.1 found
      obtain ⟨others, behind, found⟩ := Option.bind_eq_some_iff.1 found
      cases found
      exact .cons first (inductionHypothesis behind)

namespace Url

open Text (fields)

/-- A character that names are looked up with: ASCII, but no capital. -/
def Small (c : Char) : Prop :=
  c.toNat < 128 ∧ c.isUpper = false

instance : DecidablePred Small := fun _ => inferInstanceAs (Decidable (_ ∧ _))

theorem toLower_of_not_isUpper {c : Char} (small : c.isUpper = false) : c.toLower = c :=
  dif_neg (of_decide_eq_false small)

/-- What holds of all codes of ASCII holds of its characters. -/
theorem forall_ascii {P : Char → Prop} (all : ∀ n < 128, P (Char.ofNat n)) {c : Char}
    (ascii : c.toNat < 128) : P c := by
  have own := all c.toNat ascii
  rwa [Char.ofNat_toNat] at own

/-- What is ASCII is small once it is in lower case. -/
theorem small_toLower {c : Char} (ascii : c.toNat < 128) : Small c.toLower := by
  refine forall_ascii (P := fun c => Small c.toLower) ?_ ascii
  decide

/-! ### Small names in their shared form -/

theorem domainUse_of_small {c : Char} (small : Small c) : domainUse c = .kept := by
  rw [domainUse, if_pos small.1, small.2]
  rfl

/-- Small text stands for itself. -/
theorem replaceEach?_of_small {name : List Char} (small : ∀ c ∈ name, Small c) :
    replaceEach? name = some name := by
  induction name with
  | nil => rfl
  | cons c rest inductionHypothesis =>
      rw [List.forall_mem_cons] at small
      rw [replaceEach?, domainUse_of_small small.1, inductionHypothesis small.2]
      rfl

theorem combiningClass_of_ascii {c : Char} (ascii : c.toNat < 128) : Text.combiningClass c = 0 :=
  if_pos (Nat.lt_trans ascii (by decide))

theorem insertMark_of_ascii {c : Char} (ascii : c.toNat < 128) (found : List Char) :
    Text.insertMark c found = c :: found := by
  cases found with
  | nil => rfl
  | cons d before =>
      rw [Text.insertMark, combiningClass_of_ascii ascii]
      simp

theorem foldl_insertMark_of_ascii {cs : List Char} (ascii : ∀ c ∈ cs, c.toNat < 128)
    (found : List Char) :
    cs.foldl (fun found c => Text.insertMark c found) found = cs.reverse ++ found := by
  induction cs generalizing found with
  | nil => rfl
  | cons c rest inductionHypothesis =>
      rw [List.forall_mem_cons] at ascii
      rw [List.foldl_cons, insertMark_of_ascii ascii.1, inductionHypothesis ascii.2,
        List.reverse_cons, List.append_assoc, List.singleton_append]

theorem flatMap_parts_of_ascii {cs : List Char} (ascii : ∀ c ∈ cs, c.toNat < 128) :
    cs.flatMap Text.parts = cs := by
  induction cs with
  | nil => rfl
  | cons c rest inductionHypothesis =>
      rw [List.forall_mem_cons] at ascii
      rw [List.flatMap_cons, inductionHypothesis ascii.2, Text.parts,
        if_pos (Nat.lt_trans ascii.1 (by decide)), List.singleton_append]

theorem composite?_of_ascii {a b : Char} (ascii : b.toNat < 128) :
    Text.composite? a b = none := by
  rw [Text.composite?, if_neg, if_neg, if_pos (Nat.lt_trans ascii (by decide))]
  · rintro ⟨-, -, -, late, -⟩
    rw [Text.hangulTrail] at late
    omega
  · rintro ⟨-, -, late, -⟩
    rw [Text.hangulVowel] at late
    omega

theorem composeFrom_of_ascii {cs : List Char} (ascii : ∀ c ∈ cs, c.toNat < 128)
    (before : List Char) (starter : Option Char) :
    Text.composeFrom before starter [] cs = before.reverse ++ starter.toList ++ cs := by
  induction cs generalizing before starter with
  | nil => rfl
  | cons c rest inductionHypothesis =>
      rw [List.forall_mem_cons] at ascii
      have alone : (starter.bind fun s => Text.composite? s c) = none := by
        cases starter with
        | none => rfl
        | some s => exact composite?_of_ascii ascii.1
      rw [Text.composeFrom]
      simp only [List.head?_nil, Option.all_none, if_true, alone,
        combiningClass_of_ascii ascii.1]
      rw [inductionHypothesis ascii.2]
      cases starter <;> simp

/-- ASCII is composed as it stands. -/
theorem composed_of_ascii {cs : List Char} (ascii : ∀ c ∈ cs, c.toNat < 128) :
    Text.composed cs = cs := by
  rw [Text.composed, Text.decomposed, flatMap_parts_of_ascii ascii,
    foldl_insertMark_of_ascii ascii, List.append_nil, List.reverse_reverse]
  exact composeFrom_of_ascii ascii [] none

/-- Small names are spelled in one form alone. -/
theorem sharedForm?_of_small {name : List Char} (small : ∀ c ∈ name, Small c) :
    sharedForm? name = some name := by
  rw [sharedForm?, replaceEach?_of_small small, Option.map_some,
    composed_of_ascii fun c member => (small c member).1]

/-! ### What is looked up as itself -/

theorem all_isBasic_of_small {text : List Char} (small : ∀ c ∈ text, Small c) :
    text.all Punycode.isBasic = true := by
  rw [List.all_eq_true]
  intro c member
  exact decide_eq_true (small c member).1

/-- A marked label comes from what is written behind the mark. -/
theorem Label.written_of_ofMarked? {written : List Char} {label : Label}
    (read : Label.ofMarked? written = some label) : label.written = labelMark ++ written := by
  rw [Label.ofMarked?] at read
  split at read
  · cases read
  · obtain ⟨text, -, read⟩ := Option.bind_eq_some_iff.1 read
    split at read
    · cases read
      rfl
    · cases read

/-- A label of small text is written as it is read. -/
theorem Label.written_of_small {text : List Char} {label : Label} (small : ∀ c ∈ text, Small c)
    (read : Label.ofText? text = some label) : label.written = text := by
  rw [Label.ofText?] at read
  split at read
  · cases read
  · split at read
    · next written marked =>
      rw [Label.written_of_ofMarked? read]
      exact (Text.eq_of_dropLead marked).symm
    · rw [if_pos (all_isBasic_of_small small)] at read
      cases read
      rfl

theorem map_written_of_small {texts : List (List Char)} {labels : List Label}
    (small : ∀ text ∈ texts, ∀ c ∈ text, Small c)
    (read : List.Forall₂ (fun text label => Label.ofText? text = some label) texts labels) :
    labels.map Label.written = texts := by
  induction read with
  | nil => rfl
  | cons first behind inductionHypothesis =>
      rw [List.forall_mem_cons] at small
      rw [List.map_cons, Label.written_of_small small.1 first, inductionHypothesis small.2]

theorem mem_of_mem_fields {sep : Char} {text part : List Char} {c : Char}
    (field : part ∈ fields sep text) (member : c ∈ part) : c ∈ text := by
  induction text generalizing part with
  | nil =>
      rw [fields, List.mem_singleton] at field
      rw [field] at member
      exact member
  | cons d rest inductionHypothesis =>
      rw [fields] at field
      split at field
      · rcases List.mem_cons.1 field with rfl | later
        · cases member
        · exact List.mem_cons_of_mem d (inductionHypothesis later member)
      · split at field
        · next others => exact absurd others (Text.fields_ne_nil sep rest)
        · next first others cut =>
          rcases List.mem_cons.1 field with rfl | later
          · rcases List.mem_cons.1 member with rfl | inside
            · exact List.mem_cons_self
            · apply List.mem_cons_of_mem
              exact inductionHypothesis (cut ▸ List.mem_cons_self) inside
          · apply List.mem_cons_of_mem
            exact inductionHypothesis (cut ▸ List.mem_cons_of_mem _ later) member

/-- A name in any script is written label by label. -/
theorem labels_of_writtenDomain? {name written : List Char}
    (found : writtenDomain? name = some written) :
    ∃ shared labels, sharedForm? name = some shared ∧
      List.Forall₂ (fun text label => Label.ofText? text = some label) (fields '.' shared) labels ∧
      written = ['.'].intercalate (labels.map Label.written) := by
  rw [writtenDomain?] at found
  obtain ⟨shared, formed, found⟩ := Option.bind_eq_some_iff.1 found
  obtain ⟨labels, read, found⟩ := Option.bind_eq_some_iff.1 found
  dsimp only at found
  split at found
  · cases found
  · cases found
    exact ⟨shared, labels, formed, forall₂_of_mapM read, rfl⟩

/-- A name in ASCII without capitals is looked up as itself, if at all. -/
theorem asciiDomain?_of_small {name again : List Char} (small : ∀ c ∈ name, Small c)
    (found : asciiDomain? name = some again) : again = name := by
  rw [asciiDomain?] at found
  split at found
  · cases found
    exact (List.map_congr_left fun c member => toLower_of_not_isUpper (small c member).2).trans
      (List.map_id name)
  · obtain ⟨shared, labels, formed, read, rfl⟩ := labels_of_writtenDomain? found
    rw [sharedForm?_of_small small] at formed
    cases formed
    rw [map_written_of_small _ read, Text.intercalate_fields]
    intro text field c member
    exact small c (mem_of_mem_fields field member)

/-! ### What names are looked up as -/

namespace Punycode

theorem small_digit : ∀ n < 36, Small (digit n) := by
  decide

theorem threshold_le (bias place : Nat) : threshold bias place ≤ 26 := by
  unfold threshold
  split
  · decide
  · split <;> omega

/-- Every distance is written in small digits. -/
theorem small_distance {bias place q : Nat} {c : Char} (member : c ∈ distance bias place q) :
    Small c := by
  have bound := threshold_le bias place
  induction place, q using distance.induct bias with
  | case1 place q t below =>
      rw [distance, if_pos below, List.mem_singleton] at member
      rw [member]
      exact small_digit q (by omega)
  | case2 place q t past inductionHypothesis =>
      rw [distance, if_neg past] at member
      rcases List.mem_cons.1 member with rfl | later
      · apply small_digit
        have := Nat.mod_lt (q - threshold bias place) (show 36 - threshold bias place > 0 by omega)
        omega
      · exact inductionHypothesis later (threshold_le bias _)

/-- Writing adds digits only. -/
theorem small_place (n : Nat) (s : State) (c : Char) (small : ∀ d ∈ s.out, Small d) :
    ∀ d ∈ (s.place n c).out, Small d := by
  intro d member
  rw [State.place] at member
  split at member
  · exact small d member
  · split at member
    · rcases List.mem_append.1 member with before | digit
      · exact small d before
      · exact small_distance digit
    · exact small d member

theorem small_foldl_place (n : Nat) (text : List Char) (s : State)
    (small : ∀ d ∈ s.out, Small d) : ∀ d ∈ (text.foldl (State.place n) s).out, Small d := by
  induction text generalizing s with
  | nil => exact small
  | cons c rest inductionHypothesis => exact inductionHypothesis _ (small_place n s c small)

theorem small_run {text : List Char} (numbers : List Nat) (n : Nat) (s : State)
    (small : ∀ d ∈ s.out, Small d) : ∀ d ∈ (State.run text numbers n s).out, Small d := by
  induction numbers generalizing n s with
  | nil => exact small
  | cons m more inductionHypothesis =>
      rw [State.run]
      apply inductionHypothesis
      exact small_foldl_place m text _ small

/-- A text without capitals is written without any. -/
theorem small_encode {text : List Char} (low : ∀ c ∈ text, c.isUpper = false) :
    ∀ c ∈ encode text, Small c := by
  rw [encode]
  apply small_run
  intro c member
  have basic : ∀ d ∈ text.filter isBasic, Small d := by
    intro d own
    rw [List.mem_filter] at own
    exact ⟨of_decide_eq_true own.2, low d own.1⟩
  dsimp only at member
  split at member
  · cases member
  · rcases List.mem_append.1 member with own | hyphen
    · exact basic c own
    · rw [List.mem_singleton] at hyphen
      rw [hyphen]
      exact ⟨by decide, by decide⟩

end Punycode

theorem small_labelMark : ∀ c ∈ labelMark, Small c :=
  List.all_iff_forall_prop.1 (by decide)

/-- A label behind the mark is ASCII. -/
theorem Label.isBasic_of_ofMarked? {written : List Char} {label : Label}
    (read : Label.ofMarked? written = some label) : written.all Punycode.isBasic = true := by
  rw [Label.ofMarked?] at read
  split at read
  · cases read
  · next plain =>
    simp only [Bool.or_eq_true, not_or, Bool.not_eq_true'] at plain
    simpa using plain.2

/-- Every label is written in small text. -/
theorem Label.small_written {text : List Char} {label : Label}
    (read : Label.ofText? text = some label) : ∀ c ∈ label.written, Small c := by
  rw [Label.ofText?] at read
  split at read
  · cases read
  · next low =>
    have low : ∀ c ∈ text, c.isUpper = false := by simpa using low
    split at read
    · next written marked =>
      rw [Label.written_of_ofMarked? read]
      have basic := List.all_eq_true.1 (Label.isBasic_of_ofMarked? read)
      have whole := Text.eq_of_dropLead marked
      intro c member
      rcases List.mem_append.1 member with mark | behind
      · exact small_labelMark c mark
      · exact ⟨of_decide_eq_true (basic c behind), low c (whole ▸ member)⟩
    · split at read
      · next basic =>
        cases read
        intro c member
        exact ⟨of_decide_eq_true (List.all_eq_true.1 basic c member), low c member⟩
      · split at read
        · cases read
          intro c member
          rcases List.mem_append.1 member with mark | digit
          · exact small_labelMark c mark
          · exact Punycode.small_encode low c digit
        · cases read

theorem Label.small_written_of_mem {texts : List (List Char)} {labels : List Label}
    (read : List.Forall₂ (fun text label => Label.ofText? text = some label) texts labels) :
    ∀ written ∈ labels.map Label.written, ∀ c ∈ written, Small c := by
  induction read with
  | nil =>
      intro written member
      cases member
  | cons first behind inductionHypothesis =>
      rw [List.map_cons, List.forall_mem_cons]
      exact ⟨Label.small_written first, inductionHypothesis⟩

/-- What stands in joined parts stands in one of them, or joins them. -/
theorem mem_of_mem_intercalate {sep c : Char} {parts : List (List Char)}
    (member : c ∈ [sep].intercalate parts) : c = sep ∨ ∃ part ∈ parts, c ∈ part := by
  induction parts with
  | nil => cases member
  | cons part rest inductionHypothesis =>
      cases rest with
      | nil =>
          rw [List.intercalate_singleton] at member
          exact .inr ⟨part, List.mem_singleton_self part, member⟩
      | cons next rest =>
          rw [List.intercalate_cons_cons, List.mem_append, List.mem_append,
            List.mem_singleton] at member
          rcases member with (here | same) | later
          · exact .inr ⟨part, List.mem_cons_self, here⟩
          · exact .inl same
          · rcases inductionHypothesis later with same | ⟨part', inside, here⟩
            · exact .inl same
            · exact .inr ⟨part', List.mem_cons_of_mem part inside, here⟩

/-- Names are looked up in ASCII without capitals. -/
theorem small_of_asciiDomain? {text name : List Char} (found : asciiDomain? text = some name) :
    ∀ c ∈ name, Small c := by
  intro c member
  rw [asciiDomain?] at found
  split at found
  · next plain =>
    cases found
    obtain ⟨d, own, rfl⟩ := List.mem_map.1 member
    rw [isPlain, Bool.and_eq_true] at plain
    exact small_toLower (of_decide_eq_true (List.all_eq_true.1 plain.1 d own))
  · obtain ⟨shared, labels, -, read, rfl⟩ := labels_of_writtenDomain? found
    rcases mem_of_mem_intercalate member with rfl | ⟨part, inside, here⟩
    · exact ⟨by decide, by decide⟩
    · exact Label.small_written_of_mem read part inside c here

end Url

end LedgerAgent
