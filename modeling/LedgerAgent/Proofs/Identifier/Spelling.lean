/-
Module: LedgerAgent.Proofs.Identifier.Spelling
Purpose: Which texts are identifiers of accounts, tokens and topics: three natural numbers of
  64 bits between two points, white space around them.
Main exports: Text.Trims, Text.trimmed_eq_iff, EntityId.Spells, EntityId.parse_eq_ok_iff,
  EntityId.spells_parse
-/
import Mathlib.Data.List.DropRight
import LedgerAgent.Proofs.Numeral.Spelling
import LedgerAgent.Proofs.Transaction.RoundTrip

namespace LedgerAgent

open Text Text.Numeral

/-! ### White space around text -/

namespace Text

/-- A text is a body with white space around it, and no white space stands at the ends of the
body itself. -/
inductive Trims : List Char → List Char → Prop where
  | within {before body after : List Char} (blank : ∀ c ∈ before, isBlank c = true)
      (blank' : ∀ c ∈ after, isBlank c = true) (first : ∀ c ∈ body.head?, ¬ isBlank c = true)
      (last : ∀ c ∈ body.getLast?, ¬ isBlank c = true) : Trims (before ++ body ++ after) body

/-- Setting the white space aside leaves a body with white space around it and none at its ends.
-/
theorem trims_trimmed (cs : List Char) : Trims cs (trimmed cs) := by
  let rest := cs.dropWhile isBlank
  have front : cs.takeWhile isBlank ++ rest = cs := List.takeWhile_append_dropWhile
  have back : trimmed cs ++ rest.rtakeWhile isBlank = rest := List.rdropWhile_append_rtakeWhile
  have whole : cs.takeWhile isBlank ++ trimmed cs ++ rest.rtakeWhile isBlank = cs := by
    rw [List.append_assoc, back, front]
  have trims : Trims (cs.takeWhile isBlank ++ trimmed cs ++ rest.rtakeWhile isBlank)
      (trimmed cs) := by
    refine .within (fun c => List.mem_takeWhile_imp) (fun c => List.mem_rtakeWhile_imp) ?_ ?_
    · intro c first
      have first' : rest.head? = some c := by
        rw [← back, List.head?_append, Option.mem_def.1 first]
        rfl
      have stops := List.head?_dropWhile_not isBlank cs
      rw [first'] at stops
      simpa using stops
    · intro c last
      have nonempty : trimmed cs ≠ [] := by
        intro empty
        rw [empty] at last
        cases last
      rw [List.getLast?_eq_some_getLast nonempty, Option.mem_some_iff] at last
      rw [← last]
      exact List.rdropWhile_last_not isBlank rest nonempty
  rwa [whole] at trims

theorem dropWhile_of_head {p : Char → Bool} {cs : List Char} (first : ∀ c ∈ cs.head?, ¬ p c = true) :
    cs.dropWhile p = cs := by
  cases cs with
  | nil => rfl
  | cons c cs => exact List.dropWhile_cons_of_neg (first c rfl)

/-- Trimming takes off the white space around a text and nothing else. -/
theorem trimmed_eq_iff {cs body : List Char} : trimmed cs = body ↔ Trims cs body := by
  constructor
  · rintro rfl
    exact trims_trimmed cs
  · intro trims
    cases trims with
    | @within before _ after blank blank' first last =>
        rw [trimmed, List.append_assoc, List.dropWhile_append_of_pos blank]
        cases body with
        | nil =>
            rw [List.nil_append, List.dropWhile_eq_nil_iff.2 blank']
            rfl
        | cons b bs =>
            have stops : ∀ c ∈ (b :: bs).reverse.head?, ¬ isBlank c = true := by
              rwa [List.head?_reverse]
            rw [List.cons_append, List.dropWhile_cons_of_neg (first b rfl), ← List.cons_append,
              List.reverse_append, List.dropWhile_append_of_pos (by simpa using blank'),
              dropWhile_of_head stops, List.reverse_reverse]

theorem Trims.mem {cs body : List Char} (trims : Trims cs body) {c : Char} (member : c ∈ cs) :
    isBlank c = true ∨ c ∈ body := by
  cases trims with
  | within blank blank' first last =>
      rcases List.mem_append.1 member with front | behind
      · rcases List.mem_append.1 front with before | own
        · exact .inl (blank c before)
        · exact .inr own
      · exact .inl (blank' c behind)

end Text

/-! ### Identifiers -/

namespace EntityId

variable {kind : EntityKind}

/-- Characters spell an identifier: its shard, its realm and its number between two points.
Each is a natural number that a word of 64 bits can hold. -/
inductive Spells : List Char → EntityId kind → Prop where
  | numbers {ss rs ns : List Char} {id : EntityId kind} (shard : Unsigned ss id.shard.toNat)
      (realm : Unsigned rs id.realm.toNat) (num : Unsigned ns id.num.toNat) :
      Spells (ss ++ '.' :: (rs ++ '.' :: ns)) id

/-- An identifier is spelled with points, plus signs and digits. -/
theorem Spells.mem {cs : List Char} {id : EntityId kind} (spells : Spells cs id) {c : Char}
    (member : c ∈ cs) : c = '.' ∨ c = '+' ∨ isDigit c = true := by
  cases spells with
  | numbers shard realm num =>
      simp only [List.mem_append, List.mem_cons] at member
      rcases member with own | point | own | point | own
      · exact .inr (shard.mem own)
      · exact .inl point
      · exact .inr (realm.mem own)
      · exact .inl point
      · exact .inr (num.mem own)

theorem point_not_mem {ds : List Char} {n : Nat} (spells : Unsigned ds n) : '.' ∉ ds := by
  intro member
  rcases spells.mem member with sign | digit
  · exact absurd sign (by decide)
  · exact absurd digit (by decide)

/-- A spelling is three unsigned numerals between points. -/
theorem spells_iff {cs : List Char} {id : EntityId kind} :
    Spells cs id ↔ ∃ ss rs ns, fields '.' cs = [ss, rs, ns] ∧ Unsigned ss id.shard.toNat ∧
      Unsigned rs id.realm.toNat ∧ Unsigned ns id.num.toNat := by
  constructor
  · intro spells
    cases spells with
    | @numbers ss rs ns _ shard realm num =>
        refine ⟨ss, rs, ns, ?_, shard, realm, num⟩
        rw [fields_append _ (point_not_mem shard), fields_append _ (point_not_mem realm),
          fields_of_not_mem (point_not_mem num)]
  · rintro ⟨ss, rs, ns, parts, shard, realm, num⟩
    have text : cs = ss ++ '.' :: (rs ++ '.' :: ns) := by
      rw [← intercalate_fields '.' cs, parts]
      simp [List.intercalate]
    rw [text]
    exact .numbers shard realm num

/-- Characters are read as an identifier exactly if they spell it. -/
theorem ofChars?_eq_some_iff {cs : List Char} {id : EntityId kind} :
    ofChars? cs = some id ↔ Spells (trimmed cs) id := by
  rw [ofChars?, spells_iff]
  constructor
  · intro read
    split at read
    · next ss rs ns parts =>
      split at read
      · next shard realm num =>
        cases read
        exact ⟨ss, rs, ns, parts, uint64_eq_ok_iff.1 shard, uint64_eq_ok_iff.1 realm,
          uint64_eq_ok_iff.1 num⟩
      · cases read
    · cases read
  · rintro ⟨ss, rs, ns, parts, shard, realm, num⟩
    simp only [parts, uint64_eq_ok_iff.2 shard, uint64_eq_ok_iff.2 realm, uint64_eq_ok_iff.2 num]

theorem parse_eq_ok_iff_ofChars? {text : String} {id : EntityId kind} :
    parse text = .ok id ↔ ofChars? text.toList = some id := by
  rw [parse]
  cases ofChars? text.toList <;> simp

/-- An entity is parsed exactly from its spellings with white space around them. -/
theorem parse_eq_ok_iff {text : String} {id : EntityId kind} :
    parse text = .ok id ↔ ∃ body, Trims text.toList body ∧ Spells body id := by
  rw [parse_eq_ok_iff_ofChars?, ofChars?_eq_some_iff]
  constructor
  · exact fun spells => ⟨_, trims_trimmed _, spells⟩
  · rintro ⟨body, trims, spells⟩
    rwa [trimmed_eq_iff.2 trims]

/-- A text that no identifier is read from is refused as it stands. -/
theorem parse_eq_error_iff {text : String} {e : IdError} :
    (parse text : Except IdError (EntityId kind)) = .error e ↔
      (¬ ∃ id : EntityId kind, parse text = .ok id) ∧ e = .invalidEntity kind text := by
  rw [parse]
  cases ofChars? text.toList with
  | none => simp [eq_comm]
  | some id => simp

/-! ### Identifiers in JSON -/

/-- Entities are read from strings alone. -/
theorem string_of_decode {origin : Json.Origin} {v : Json} {id : EntityId kind}
    (decoded : decode origin v.toReading = .ok id) :
    ∃ text, v = .string text ∧ parse text = .ok id := by
  obtain ⟨text, spelled, parsed⟩ := Json.bind_eq_ok.1 decoded
  cases v with
  | string _ =>
      cases spelled
      exact ⟨text, rfl, Json.mapError_eq_ok.1 parsed⟩
  | _ => cases spelled

/-- A JSON value is an identifier exactly if it is a string that is read as it. -/
theorem decodeValue_eq_ok_iff {v : Json} {id : EntityId kind} :
    Json.decodeValue decode v = .ok id ↔ ∃ text, v = .string text ∧ parse text = .ok id := by
  constructor
  · exact string_of_decode
  · rintro ⟨text, rfl, parsed⟩
    exact Json.reads_via parsed .value

/-- A text is read as an identifier exactly if, but for white space around it, it has three
parts between two points, each a natural number of 64 bits in digits behind at most one plus
sign, and these are its shard, its realm and its number.  Every other text is refused as it
stands.  The canonical spelling of every identifier is read as it; so is its JSON form, and of
all JSON values just the strings that are read as it. -/
theorem spells_parse (text : String) (id : EntityId kind) :
    (parse text = .ok id ↔ ∃ body, Trims text.toList body ∧ Spells body id) ∧
    (parse text = (.error (.invalidEntity kind text) : Except IdError (EntityId kind)) ↔
      ¬ ∃ (body : List Char) (id' : EntityId kind), Trims text.toList body ∧ Spells body id') ∧
    parse id.toText = .ok id ∧
    Json.decodeText decode id.toJson.render = .ok id ∧
    ∀ v : Json, Json.decodeValue decode v = .ok id ↔
      ∃ spelling, v = .string spelling ∧ parse spelling = .ok id := by
  refine ⟨parse_eq_ok_iff, ?_, id.parse_toText, ?_, fun v => decodeValue_eq_ok_iff⟩
  · rw [parse_eq_error_iff, and_iff_left rfl, not_iff_not, exists_comm]
    exact exists_congr fun id' => parse_eq_ok_iff
  · exact Json.decodeText_render id.fits_toJson id.reads_toJson

end EntityId

end LedgerAgent
