/-
Module: LedgerAgent.Text.Split
Purpose: Cutting text at a separator and taking known text off its front.
Main exports: Text.cutAt, Text.fields, Text.dropLead
-/

namespace LedgerAgent.Text

/-- The parts before and after the first `sep`, if there is one. -/
def cutAt (sep : Char) : List Char → Option (List Char × List Char)
  | [] => none
  | c :: rest =>
    if c = sep then some ([], rest)
    else (cutAt sep rest).map fun (before, after) => (c :: before, after)

/-- The parts between the separators, from left to right; text without a
separator is its own only part. -/
def fields (sep : Char) : List Char → List (List Char)
  | [] => [[]]
  | c :: rest =>
    if c = sep then [] :: fields sep rest
    else
      match fields sep rest with
      | [] => [[c]]
      | first :: others => (c :: first) :: others

/-- What follows `lead`, if the text begins with it. -/
def dropLead : List Char → List Char → Option (List Char)
  | [], rest => some rest
  | _ :: _, [] => none
  | l :: lead, c :: rest => if l = c then dropLead lead rest else none

/-- The text without one leading `lead`, or unchanged when it does not begin so. -/
def withoutLead (lead : List Char) (text : List Char) : List Char :=
  (dropLead lead text).getD text

/-- The text before the first occurrence of `mark` and the text after it. -/
def cutAtText (mark : List Char) : List Char → Option (List Char × List Char)
  | [] => if mark.isEmpty then some ([], []) else none
  | c :: rest =>
    match dropLead mark (c :: rest) with
    | some after => some ([], after)
    | none => (cutAtText mark rest).map fun (before, after) => (c :: before, after)

/-- Every occurrence of `mark`, found from left to right, replaced by `replacement`. -/
def replaceAll (mark replacement : List Char) (text : List Char) : List Char :=
  go text.length text
where
  /-- At most `fuel` replacements; a text has no more marks than characters. -/
  go : Nat → List Char → List Char
    | 0, text => text
    | fuel + 1, text =>
      if mark.isEmpty then text
      else
        match cutAtText mark text with
        | none => text
        | some (before, after) => before ++ replacement ++ go fuel after

/-- Joining a cut text at its separator gives it back. -/
theorem eq_of_cutAt {sep : Char} {text before after : List Char}
    (h : cutAt sep text = some (before, after)) : text = before ++ sep :: after := by
  induction text generalizing before with
  | nil => simp [cutAt] at h
  | cons c rest ih =>
    simp only [cutAt] at h
    split at h
    · next hc => simp only [Option.some.injEq, Prod.mk.injEq] at h; simp [← h.1, ← h.2, hc]
    · cases hr : cutAt sep rest with
      | none => simp [hr] at h
      | some p =>
        simp only [hr, Option.map_some, Option.some.injEq, Prod.mk.injEq] at h
        obtain ⟨rfl, rfl⟩ := h
        simp [ih hr]

/-- Every text has a field, though it may be empty. -/
theorem fields_ne_nil (sep : Char) (text : List Char) : fields sep text ≠ [] := by
  cases text with
  | nil => simp [fields]
  | cons c rest =>
    rw [fields]
    split
    · simp
    · split <;> simp

/-- The parts between the separators, joined at them, give the text back. -/
theorem intercalate_fields (sep : Char) (text : List Char) :
    [sep].intercalate (fields sep text) = text := by
  induction text with
  | nil => rfl
  | cons c rest ih =>
    rw [fields]
    split
    · next same =>
      rw [List.intercalate_cons_of_ne_nil (fields_ne_nil sep rest), ih, same]
      rfl
    · cases parts : fields sep rest with
      | nil => exact absurd parts (fields_ne_nil sep rest)
      | cons first others =>
        rw [parts] at ih
        rw [List.intercalate_cons_cons_left, ih]

/-- What is dropped stood in front. -/
theorem eq_of_dropLead {lead text rest : List Char} (h : dropLead lead text = some rest) :
    text = lead ++ rest := by
  induction lead generalizing text with
  | nil => exact Option.some.inj h
  | cons l lead ih =>
    cases text with
    | nil => cases h
    | cons c text =>
      simp only [dropLead] at h
      split at h
      · next same => rw [same, ih h, List.cons_append]
      · cases h

theorem dropLead_append (lead rest : List Char) : dropLead lead (lead ++ rest) = some rest := by
  induction lead with
  | nil => rfl
  | cons l lead ih =>
    rw [List.cons_append, dropLead, if_pos rfl]
    exact ih

/-- What stands in front is taken off. -/
theorem withoutLead_append (lead rest : List Char) : withoutLead lead (lead ++ rest) = rest := by
  rw [withoutLead, dropLead_append, Option.getD_some]

/-- A text that does not begin with the lead is left as it is. -/
theorem withoutLead_of_not_prefix {lead text : List Char} (other : ¬ lead <+: text) :
    withoutLead lead text = text := by
  rw [withoutLead]
  cases dropped : dropLead lead text with
  | none => rfl
  | some rest => exact absurd ⟨rest, (eq_of_dropLead dropped).symm⟩ other

/-- A text that is cut at a mark holds the mark. -/
theorem eq_of_cutAtText {mark text before after : List Char}
    (h : cutAtText mark text = some (before, after)) : text = before ++ mark ++ after := by
  induction text generalizing before with
  | nil =>
    cases mark with
    | nil => cases h; rfl
    | cons m mark => cases h
  | cons c rest ih =>
    simp only [cutAtText] at h
    split at h
    · next lead =>
      cases h
      exact eq_of_dropLead lead
    · cases cut : cutAtText mark rest with
      | none => simp [cut] at h
      | some parts =>
        simp only [cut, Option.map_some, Option.some.injEq, Prod.mk.injEq] at h
        obtain ⟨rfl, rfl⟩ := h
        simp [ih cut]

end LedgerAgent.Text
