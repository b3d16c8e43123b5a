/-
Module: LedgerAgent.Proofs.Json.Written
Purpose: The members of a written object as they are found in what its text is parsed to: under
  each key the last value that is written there.
Main exports: Json.lookup_eq_of_written, Json.fault?_of_written
-/
import LedgerAgent.Proofs.Json.Canonical
import LedgerAgent.Proofs.Json.Grammar

namespace LedgerAgent.Json

/-- Members are read one by one. -/
theorem readingsOfMembers_eq_map (depth : Nat) (members : List (String × Source)) :
    readingsOfMembers depth members = members.map fun m => (m.1, m.2.reading depth) := by
  induction members with
  | nil => rfl
  | cons m members inductionHypothesis => rw [readingsOfMembers, inductionHypothesis, List.map_cons]

/-- Members without a fault among them have none each. -/
theorem fault?_of_membersFault? {members : List (String × Reading)}
    (sound : Reading.membersFault? members = none) : ∀ m ∈ members, m.2.fault? = none := by
  induction members with
  | nil => exact nofun
  | cons m members inductionHypothesis =>
      rw [Reading.membersFault?, Option.or_eq_none_iff] at sound
      exact List.forall_mem_cons.2 ⟨sound.1, inductionHypothesis sound.2⟩

theorem lookup_map {α β : Type} (f : α → β) (members : List (String × α)) (key : String) :
    (members.map fun m => (m.1, f m.2)).lookup key = (members.lookup key).map f := by
  induction members with
  | nil => rfl
  | cons m members inductionHypothesis =>
      rw [List.map_cons, List.lookup_cons, List.lookup_cons, inductionHypothesis]
      split <;> rfl

/-- An object of two members is written without white space, its keys as they are. -/
theorem ElementText.pair {key key' : String} {cs ds : List Char} {v v' : Source}
    (spelled : Spelling key.toList key.toList) (value : ValueText cs v)
    (spelled' : Spelling key'.toList key'.toList) (value' : ValueText ds v') :
    ElementText ('\x7b' :: ('"' :: key.toList ++ '"' :: ':' :: cs ++
      ',' :: '"' :: key'.toList ++ '"' :: ':' :: ds) ++ ['\x7d'])
      (.object [(key, v), (key', v')]) := by
  have blank : Blank [] := nofun
  have last : MembersText ('"' :: key'.toList ++ '"' :: ':' :: ds) [(key', v')] := by
    simpa using MembersText.last blank spelled' blank (.mk blank value' blank)
  have members := MembersText.more blank spelled blank (.mk blank value blank) last
  simpa using ElementText.mk blank (.object members) blank

variable {text : String} {members : List (String × Source)} {raw : List (String × Json)}

/-- The text of an object that is parsed has no fault in it, and its members are put in key
order. -/
theorem parts_of_written (written : ElementText text.toList (.object members))
    (object : parse text = .ok (.object raw)) :
    Reading.membersFault? (readingsOfMembers 1 members) = none ∧
      canonicalMembers (Reading.memberValues (readingsOfMembers 1 members)) = raw := by
  obtain ⟨sound, value⟩ := Reading.toJson_eq_ok_iff.1 (parse_eq_ok_iff.1 object).1
  rw [read_element written] at sound value
  change Reading.value (.object (readingsOfMembers 1 members) none) = _ at value
  change (Reading.membersFault? (readingsOfMembers 1 members)).or none = none at sound
  rw [Option.or_none] at sound
  rw [Reading.value, sorted, Json.object.injEq] at value
  exact ⟨sound, value⟩

/-- Where the text of an object is parsed, the last member of each name counts. -/
theorem lookup_eq_of_written (written : ElementText text.toList (.object members))
    (object : parse text = .ok (.object raw)) (key : String) :
    raw.lookup key = (members.reverse.lookup key).map fun v => (v.reading 1).value := by
  rw [← (parts_of_written written object).2, memberValues_eq_map, readingsOfMembers_eq_map,
    List.map_map, lookup_canonicalMembers, ← List.map_reverse]
  exact lookup_map (fun v : Source => (v.reading 1).value) _ key

/-- Nothing that stands in the text of an object that is parsed has a fault. -/
theorem fault?_of_written (written : ElementText text.toList (.object members))
    (object : parse text = .ok (.object raw)) {key : String} {v : Source}
    (stands : members.reverse.lookup key = some v) : (v.reading 1).fault? = none := by
  have sound := (parts_of_written written object).1
  rw [readingsOfMembers_eq_map] at sound
  have among : (key, v) ∈ members := List.mem_reverse.1 (mem_of_lookup stands)
  exact fault?_of_membersFault? sound _ (List.mem_map_of_mem among)

end LedgerAgent.Json
