/-
Module: LedgerAgent.Proofs.Url.Query
Purpose: The pairs that a query stands for, and the spelling that encoding gives to pairs.
Main exports: Url.queryPairs, Url.queryPairs_addPairs, Url.Canonical, Url.Canonical.eq_of_pairs
-/
import LedgerAgent.Proofs.Url.Host

namespace LedgerAgent

/-- Texts are told apart by their bytes. -/
theorem Text.bytes_injective : Function.Injective bytes := by
  intro s t same
  have read := ofBytes?_bytes s
  rw [same, ofBytes?_bytes] at read
  exact (Option.some.inj read).symm

namespace Url

/-! ### Form encoding undone -/

/-- The bytes of a name or value of a form, in which a plus stands for a space. -/
def formDecode (cs : List Char) : List UInt8 :=
  percentDecode (cs.map fun c => if c = '+' then ' ' else c)

theorem hexDigit?_upperHex : ∀ n < 16, hexDigit? (upperHex n) = some n := by
  decide

theorem isFormSafe_upperHex : ∀ n < 16, isFormSafe (upperHex n) = true := by
  decide

/-- A byte is encoded as a percent sign and two digits in upper case. -/
theorem mem_percentByte {b : UInt8} {c : Char} (member : c ∈ percentByte b) :
    c = '%' ∨ ∃ n < 16, c = upperHex n := by
  have bound := b.toNat_lt
  simp only [percentByte, List.mem_cons, List.not_mem_nil, or_false] at member
  rcases member with rfl | rfl | rfl
  · exact .inl rfl
  · exact .inr ⟨_, by omega, rfl⟩
  · exact .inr ⟨_, by omega, rfl⟩

/-- An encoded byte is decoded as itself. -/
theorem percentDecode_percentByte (b : UInt8) (rest : List Char) :
    percentDecode (percentByte b ++ rest) = b :: percentDecode rest := by
  have bound := b.toNat_lt
  have high : b.toNat / 16 < 16 := by omega
  have low : b.toNat % 16 < 16 := by omega
  simp only [percentByte, List.cons_append, List.nil_append, percentDecode,
    hexDigit?_upperHex _ high, hexDigit?_upperHex _ low]
  rw [Nat.div_add_mod, UInt8.ofNat_toNat]

theorem percentDecode_percentBytes (bs : List UInt8) (rest : List Char) :
    percentDecode (bs.flatMap percentByte ++ rest) = bs ++ percentDecode rest := by
  induction bs with
  | nil => rfl
  | cons b bs inductionHypothesis =>
      rw [List.flatMap_cons, List.append_assoc, percentDecode_percentByte, inductionHypothesis,
        List.cons_append]

/-- What a form encodes is made of safe characters, plus signs and percent signs. -/
theorem mem_formEncode {cs : List Char} {c : Char} (member : c ∈ formEncode cs) :
    isFormSafe c = true ∨ c = '+' ∨ c = '%' := by
  obtain ⟨d, -, here⟩ := List.mem_flatMap.1 member
  split at here
  · next safe =>
    rw [List.mem_singleton.1 here]
    exact .inl safe
  · split at here
    · exact .inr (.inl (List.mem_singleton.1 here))
    · obtain ⟨b, -, here⟩ := List.mem_flatMap.1 here
      rcases mem_percentByte here with rfl | ⟨n, digit, rfl⟩
      · exact .inr (.inr rfl)
      · exact .inl (isFormSafe_upperHex n digit)

theorem not_mem_formEncode {c : Char} (unsafeChar : isFormSafe c = false) (plus : c ≠ '+')
    (percent : c ≠ '%') (cs : List Char) : c ∉ formEncode cs := by
  intro member
  rcases mem_formEncode member with safe | same | same
  · rw [safe] at unsafeChar
    cases unsafeChar
  · exact plus same
  · exact percent same

/-- Up to the first plus sign a form is decoded like a path. -/
theorem formDecode_append_of_not_mem {front : List Char} (bare : '+' ∉ front)
    (rest : List Char) : formDecode (front ++ rest) =
      percentDecode (front ++ rest.map fun c => if c = '+' then ' ' else c) := by
  have kept : (front.map fun c => if c = '+' then ' ' else c) = front := by
    refine (List.map_congr_left fun c member => if_neg ?_).trans (List.map_id front)
    rintro rfl
    exact bare member
  rw [formDecode, List.map_append, kept]

/-- What is encoded for a form is read as the bytes that it was. -/
theorem formDecode_formEncode (cs : List Char) :
    formDecode (formEncode cs) = Text.bytes (String.ofList cs) := by
  rw [Text.bytes_ofList]
  induction cs with
  | nil => rfl
  | cons c cs inductionHypothesis =>
      rw [formEncode, List.flatMap_cons, ← formEncode, List.flatMap_cons, ← inductionHypothesis]
      split
      · next safe =>
        have other : c ≠ '+' ∧ c ≠ '%' := by
          constructor <;> (rintro rfl; exact absurd safe (by decide))
        rw [formDecode_append_of_not_mem (by simpa using Ne.symm other.1),
          List.singleton_append, percentDecode_cons other.2]
        rfl
      · split
        · next space =>
          rw [space]
          exact percentDecode_cons (by decide) _
        · have bare : '+' ∉ percentChar c := by
            intro member
            obtain ⟨b, -, here⟩ := List.mem_flatMap.1 member
            rcases mem_percentByte here with same | ⟨n, digit, same⟩
            · exact absurd same (by decide)
            · exact absurd same (by revert n; decide)
          rw [formDecode_append_of_not_mem bare, percentChar, percentDecode_percentBytes]
          rfl

/-! ### The pairs of a query -/

/-- The pair of a field, split at its first equals sign. -/
def pairOf (field : List Char) : List UInt8 × List UInt8 :=
  match Text.cutAt '=' field with
  | none => (formDecode field, [])
  | some (name, value) => (formDecode name, formDecode value)

/-- The pairs that a query stands for, one for each of its fields that is not empty. -/
def pairsOf (query : List Char) : List (List UInt8 × List UInt8) :=
  ((Text.fields '&' query).filter (!·.isEmpty)).map pairOf

/-- The pairs that the query of a URL stands for. -/
def queryPairs (url : Url) : List (List UInt8 × List UInt8) :=
  (url.query.map pairsOf).getD []

/-- A pair as it is added to a query. -/
def pairChars (pair : String × String) : List Char :=
  formEncode pair.1.toList ++ '=' :: formEncode pair.2.toList

/-- What a pair says. -/
def pairBytes (pair : String × String) : List UInt8 × List UInt8 :=
  (Text.bytes pair.1, Text.bytes pair.2)

/-- Pairs are told apart by their bytes. -/
theorem pairBytes_injective : Function.Injective pairBytes := by
  rintro ⟨name, value⟩ ⟨name', value'⟩ same
  obtain ⟨sameName, sameValue⟩ := Prod.mk.inj same
  exact Prod.ext (Text.bytes_injective sameName) (Text.bytes_injective sameValue)

theorem and_not_mem_pairChars (pair : String × String) : '&' ∉ pairChars pair := by
  have bare := not_mem_formEncode (c := '&') (by decide) (by decide) (by decide)
  rw [pairChars, List.mem_append, List.mem_cons]
  rintro (name | mark | value)
  · exact bare _ name
  · exact absurd mark (by decide)
  · exact bare _ value

theorem isEmpty_pairChars (pair : String × String) : (pairChars pair).isEmpty = false := by
  rw [pairChars, List.isEmpty_eq_false_iff]
  exact List.append_ne_nil_of_right_ne_nil _ (List.cons_ne_nil _ _)

/-- A pair is read from its spelling. -/
theorem pairOf_pairChars (pair : String × String) : pairOf (pairChars pair) = pairBytes pair := by
  have bare := not_mem_formEncode (c := '=') (by decide) (by decide) (by decide) pair.1.toList
  rw [pairOf, pairChars, Text.cutAt_append _ bare]
  simp only [formDecode_formEncode, String.ofList_toList]
  rfl

theorem pairsOf_pairChars (pair : String × String) :
    pairsOf (pairChars pair) = [pairBytes pair] := by
  rw [pairsOf, Text.fields_of_not_mem (and_not_mem_pairChars pair),
    List.filter_cons_of_pos (by rw [isEmpty_pairChars]; rfl), List.filter_nil, List.map_singleton,
    pairOf_pairChars]

/-- A pair added to a query is its last. -/
theorem pairsOf_append (query : List Char) (pair : String × String) :
    pairsOf (query ++ '&' :: pairChars pair) = pairsOf query ++ [pairBytes pair] := by
  rw [pairsOf, Text.fields_append_sep, List.filter_append, List.map_append, ← pairsOf, ← pairsOf,
    pairsOf_pairChars]

/-- A pair that is added stands behind those that were there, whatever the query. -/
theorem queryPairs_addPair (url : Url) (name value : String) :
    (url.addPair name value).queryPairs = url.queryPairs ++ [pairBytes (name, value)] := by
  rw [queryPairs, queryPairs, addPair]
  cases url.query with
  | none => exact pairsOf_pairChars (name, value)
  | some query =>
      cases query with
      | nil => exact pairsOf_pairChars (name, value)
      | cons c query => exact pairsOf_append (c :: query) (name, value)

def addPairs (url : Url) (pairs : List (String × String)) : Url :=
  pairs.foldl (fun url (name, value) => url.addPair name value) url

/-- Pairs added to a URL are the last ones of its query. -/
theorem queryPairs_addPairs (url : Url) (pairs : List (String × String)) :
    (url.addPairs pairs).queryPairs = url.queryPairs ++ pairs.map pairBytes := by
  induction pairs generalizing url with
  | nil => exact (List.append_nil _).symm
  | cons pair pairs inductionHypothesis =>
      refine (inductionHypothesis _).trans ?_
      rw [queryPairs_addPair, List.append_assoc]
      rfl

/-- Adding pairs changes nothing but the query. -/
theorem addPairs_eq (url : Url) (pairs : List (String × String)) :
    ∃ query, url.addPairs pairs = { url with query := query } := by
  induction pairs generalizing url with
  | nil => exact ⟨url.query, rfl⟩
  | cons pair pairs inductionHypothesis =>
      obtain ⟨query, added⟩ := inductionHypothesis (url.addPair pair.1 pair.2)
      exact ⟨query, added⟩

/-! ### The spelling of pairs -/

/-- A query that is left out, or spelled as encoding some pairs spells it. -/
inductive Canonical : Option (List Char) → Prop where
  | absent : Canonical none
  | spelled {pairs : List (String × String)} (filled : pairs ≠ []) :
      Canonical (some (['&'].intercalate (pairs.map pairChars)))

/-- Pairs between ampersands are read one by one. -/
theorem pairsOf_intercalate {pairs : List (String × String)} (filled : pairs ≠ []) :
    pairsOf (['&'].intercalate (pairs.map pairChars)) = pairs.map pairBytes := by
  have bare : ∀ part ∈ pairs.map pairChars, '&' ∉ part := by
    rw [List.forall_mem_map]
    exact fun pair _ => and_not_mem_pairChars pair
  have kept : (pairs.map pairChars).filter (!·.isEmpty) = pairs.map pairChars := by
    rw [List.filter_eq_self, List.forall_mem_map]
    intro pair member
    rw [isEmpty_pairChars]
    rfl
  rw [pairsOf, fields_intercalate (by simpa using filled) bare, kept, List.map_map]
  exact List.map_congr_left fun pair _ => pairOf_pairChars pair

/-- Of the queries for the same pairs, just one is spelled so. -/
theorem Canonical.eq_of_pairs {query other : Option (List Char)} (canonical : Canonical query)
    (canonical' : Canonical other)
    (same : (query.map pairsOf).getD [] = (other.map pairsOf).getD []) : query = other := by
  have injective := List.map_injective_iff.2 pairBytes_injective
  cases canonical with
  | absent =>
      cases canonical' with
      | absent => rfl
      | spelled filled =>
          rw [Option.map_some, Option.getD_some, pairsOf_intercalate filled] at same
          exact absurd (List.map_eq_nil_iff.1 same.symm) filled
  | spelled filled =>
      rw [Option.map_some, Option.getD_some, pairsOf_intercalate filled] at same
      cases canonical' with
      | absent => exact absurd (List.map_eq_nil_iff.1 same) filled
      | spelled filled' =>
          rw [Option.map_some, Option.getD_some, pairsOf_intercalate filled'] at same
          rw [injective same]

end Url

end LedgerAgent
