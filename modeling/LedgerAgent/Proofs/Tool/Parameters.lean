/-
Module: LedgerAgent.Proofs.Tool.Parameters
Purpose: What the parameters that a tool reads say about the text that gives them.
Main exports: Parameters.given_of_parse, Parameters.Spells, Parameters.read_eq_ok_iff,
  Parameters.read_pair_eq_ok_iff
-/
import LedgerAgent.Proofs.Json.Record
import LedgerAgent.Tool.Parameters

namespace LedgerAgent

open Json

/-- Text that neither begins nor ends with white space has none around it. -/
theorem Text.trimmed_of_solid_ends {a b : Char} (cs : List Char) (first : isBlank a = false)
    (last : isBlank b = false) : trimmed (a :: cs ++ [b]) = a :: cs ++ [b] := by
  rw [trimmed, List.cons_append, List.dropWhile_cons_of_neg (by simp [first]), ← List.cons_append,
    List.reverse_concat, List.dropWhile_cons_of_neg (by simp [last]), List.reverse_cons,
    List.reverse_reverse]

namespace Parameters

variable {α : Type} {input : String}

/-- A text that is an object gives all members that count. -/
theorem given_of_parse {raw : List (String × Json)}
    (object : Json.parse (Text.trim input) = .ok (.object raw)) :
    given input = .ok (raw.filter fun m => isGiven m.2) := by
  have something : ¬ (Text.trim input).isEmpty = true := by
    intro nothing
    have nowhere : Json.parse "" = .error .endInValue := by
      simp [parse, Json.read, readSymbols, readValue, skipSpace, Document.toJson,
        Reading.toJson, Reading.fault?]
    rw [String.isEmpty_iff.1 nothing, nowhere] at object
    cases object
  rw [given, if_neg something, decodeText_decodeJson_iff.2 object]

/-- A text spells an object with these members, which the parser leaves in key order; blank text
spells an empty one. -/
def Spells (input : String) (raw : List (String × Json)) : Prop :=
  (Text.trim input = "" ∧ raw = []) ∨ Json.parse (Text.trim input) = .ok (.object raw)

/-- A text that spells an object gives its members, but for `null` and empty texts. -/
theorem given_of_spells {raw : List (String × Json)} (spells : Spells input raw) :
    given input = .ok (raw.filter fun m => isGiven m.2) := by
  obtain ⟨blank, rfl⟩ | object := spells
  · rw [given, blank]
    rfl
  · exact given_of_parse object

theorem wasRead_of_spells {raw : List (String × Json)} (spells : Spells input raw) :
    WasRead (.object raw) := by
  obtain ⟨-, rfl⟩ | object := spells
  · exact ⟨.object [] none, rfl⟩
  · exact wasRead_of_parse object

/-- Parameters are read of the members that count. -/
theorem read_of_given {known : List String} {fields : Fields α} {members : List (String × Json)}
    (counted : given input = .ok members) :
    read known fields input =
      (decodeValue (record "struct Parameters" known fields) (.object members)).mapError
        ToolError.ofDecode := by
  rw [read, readWith, counted]
  rfl

/-- A text that parameters are read from is the text of an object, or blank. -/
theorem parse_of_given {members : List (String × Json)}
    (counted : given input = .ok members) (something : Text.trim input ≠ "") :
    ∃ raw, Json.parse (Text.trim input) = .ok (.object raw) := by
  rw [given, if_neg (by simpa using something)] at counted
  split at counted
  · rename_i raw decoded
    exact ⟨raw, Json.decodeText_decodeJson_iff.1 decoded⟩
  · cases counted

/-- No key stands twice in what a text is parsed to. -/
theorem nodup_of_parse {text : String} {raw : List (String × Json)}
    (object : Json.parse text = .ok (.object raw)) : (raw.map Prod.fst).Nodup :=
  (Json.wasRead_of_parse object).keyed

/-- Parameters are read exactly if the fields make them of the members that a text gives. -/
theorem read_eq_ok_iff {known : List String} {fields : Fields α} {a : α} :
    read known fields input = .ok a ↔ ∃ members, given input = .ok members ∧
      fields.run (Fields.partsOf "struct Parameters" known.length members) = .ok a := by
  rw [read, readWith, bind_eq_ok]
  refine exists_congr fun members => and_congr_right fun _ => ?_
  rw [mapError_eq_ok, decodeValue, record_value_iff]
  exact ⟨fun ⟨_, parts, made⟩ => Option.some.inj parts ▸ made, fun made => ⟨_, rfl, made⟩⟩

/-- Two parameters are read exactly if each field makes its own of the members. -/
theorem read_pair_eq_ok_iff {β : Type} {known : List String} {first : Fields α} {second : Fields β}
    {a : α} {b : β} :
    read known (Prod.mk <$> first <*> second) input = .ok (a, b) ↔
      ∃ members, given input = .ok members ∧
        first.run (Fields.partsOf "struct Parameters" known.length members) = .ok a ∧
        second.run (Fields.partsOf "struct Parameters" known.length members) = .ok b := by
  refine read_eq_ok_iff.trans (exists_congr fun members => and_congr_right fun _ => ?_)
  exact Fields.pair_eq_ok_iff

end Parameters

end LedgerAgent
