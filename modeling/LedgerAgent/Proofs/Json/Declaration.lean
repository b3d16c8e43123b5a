/-
Module: LedgerAgent.Proofs.Json.Declaration
Purpose: What the fields of a record declare, and what follows from the declarations alone: which
  members of an object matter, and what is told where the record cannot be made of them.
Main exports: Json.Declaration, Json.Fields.Declares, Json.Declares.run_filter,
  Json.decodeValue_filter, Json.Verdict, Json.Declares.verdict
-/
import Mathlib.Order.Monotone.Basic
import LedgerAgent.Proofs.Json.Record

namespace LedgerAgent.Json

/-- What a decoder has against a value. -/
def refusal? {α : Type} (d : Decoder α) (v : Json) : Option DecodeError :=
  match d .value v.toReading with
  | .error e => some e
  | .ok _ => none

theorem refusal?_eq_some_iff {α : Type} {d : Decoder α} {v : Json} {e : DecodeError} :
    refusal? d v = some e ↔ d .value v.toReading = .error e := by
  rw [refusal?]
  cases d .value v.toReading with
  | error e' => simp
  | ok a => simp

theorem refusal?_eq_none_iff {α : Type} {d : Decoder α} {v : Json} :
    refusal? d v = none ↔ ∃ a, d .value v.toReading = .ok a := by
  rw [refusal?]
  cases d .value v.toReading with
  | error e => simp
  | ok a => simp

/-- What a field declares: its name, whether an object has to have it, and which values it
refuses. -/
structure Declaration where
  name : String
  needed : Bool
  refusal? : Json → Option DecodeError

/-- Fields declare what the single fields that they are made of declare, in order. -/
inductive Fields.Declares : {α : Type} → Fields α → List Declaration → Prop where
  | field {α : Type} (index : Nat) (name : String) (d : Decoder α)
      (whenAbsent whenShort : Option α) : Declares (field index name d whenAbsent whenShort)
        [⟨name, whenAbsent.isNone, Json.refusal? d⟩]
  | map {α β : Type} (f : α → β) {fields : Fields α} {declared : List Declaration}
      (front : Declares fields declared) : Declares (f <$> fields) declared
  | seq {α β : Type} {fields : Fields (α → β)} {more : Fields α} {declared also : List Declaration}
      (front : Declares fields declared) (back : Declares more also) :
      Declares (fields <*> more) (declared ++ also)

variable {α β : Type}

/-! ### Members that belong to no field

Leaving such members out moves the others, but not past each other: of two faults the one that is
met first stays the first. -/

/-- Where a place among the members that are kept is among all of them. -/
def placeAmong (keep : String → Bool) : List (String × α) → Nat → Nat
  | [], place => place
  | m :: rest, place =>
    if keep m.1 then
      match place with
      | 0 => 0
      | before + 1 => placeAmong keep rest before + 1
    else placeAmong keep rest place + 1

/-- Members that are kept stay in their order. -/
theorem strictMono_placeAmong (keep : String → Bool) (members : List (String × α)) :
    StrictMono (placeAmong keep members) := by
  induction members with
  | nil => exact strictMono_id
  | cons m rest inductionHypothesis =>
      intro place later before
      cases kept : keep m.1 with
      | false =>
          simp only [placeAmong, kept, Bool.false_eq_true, if_false]
          exact Nat.succ_lt_succ (inductionHypothesis before)
      | true =>
          cases later with
          | zero => exact absurd before (Nat.not_lt_zero place)
          | succ later =>
              cases place with
              | zero =>
                  simp only [placeAmong, kept, if_true]
                  exact Nat.succ_pos _
              | succ place =>
                  simp only [placeAmong, kept, if_true]
                  exact Nat.succ_lt_succ (inductionHypothesis (Nat.lt_of_succ_lt_succ before))

/-- The place behind the kept members is the place behind all of them. -/
theorem placeAmong_behind (keep : String → Bool) (members : List (String × α)) :
    placeAmong keep members ((members.filter fun m => keep m.1).length + 1) =
      members.length + 1 := by
  induction members with
  | nil => rfl
  | cons m rest inductionHypothesis =>
      cases kept : keep m.1 with
      | false => simp [placeAmong, kept, inductionHypothesis]
      | true => simp [placeAmong, kept, inductionHypothesis]

/-- Members may be left out before they are read or after. -/
theorem memberReadings_filter (keep : String → Bool) (members : List (String × Json)) :
    memberReadings (members.filter fun m => keep m.1) =
      (memberReadings members).filter fun m => keep m.1 := by
  rw [memberReadings_eq_map, memberReadings_eq_map, List.filter_map]
  rfl

namespace Fields

theorem occurrences_succ (name : String) (place : Nat) (members : List (String × Reading)) :
    occurrences name (place + 1) members =
      (occurrences name place members).map fun spot => (spot.1 + 1, spot.2) := by
  induction members generalizing place with
  | nil => rfl
  | cons m rest inductionHypothesis =>
      by_cases same : m.1 = name
      · simp [occurrences, same, inductionHypothesis]
      · simp [occurrences, same, inductionHypothesis]

/-- What stands under a name that is kept is found among the kept members, in its new place. -/
theorem occurrences_filter {name : String} {keep : String → Bool} (kept : keep name = true)
    (members : List (String × Reading)) :
    occurrences name 0 members =
      (occurrences name 0 (members.filter fun m => keep m.1)).map fun spot =>
        (placeAmong keep members spot.1, spot.2) := by
  induction members with
  | nil => rfl
  | cons m rest inductionHypothesis =>
      obtain ⟨key, r⟩ := m
      by_cases same : key = name
      · subst same
        simp [occurrences, occurrences_succ, kept, inductionHypothesis, placeAmong]
      · cases known : keep key with
        | false | true =>
            simp [occurrences, occurrences_succ, same, known, inductionHypothesis, placeAmong]

/-- A fault with its place moved. -/
def moved (place : Nat → Nat) (x : Placed α) : Placed α :=
  x.mapError fun fault => (place fault.1, fault.2)

/-- Moving faults, but not past each other, changes nothing about which one counts. -/
theorem both_moved {place : Nat → Nat} (mono : StrictMono place) (f : Placed (α → β))
    (x : Placed α) : both (moved place f) (moved place x) = moved place (both f x) := by
  cases f with
  | ok g => cases x <;> rfl
  | error fault =>
      cases x with
      | ok a => rfl
      | error fault' =>
          simp only [both, moved, Except.mapError, earlier, mono.lt_iff_lt]
          split
          · rfl
          · rfl

/-- Members that no declaration names are passed over by fields: without them the fields give the
same, but for where in the object a fault is. -/
theorem Declares.run_filter {fields : Fields α} {declared : List Declaration}
    (declares : fields.Declares declared) {keep : String → Bool}
    (kept : ∀ d ∈ declared, keep d.name = true) (record : String) (size : Nat)
    (members : List (String × Json)) :
    fields.run (partsOf record size members) =
      moved (placeAmong keep (memberReadings members))
        (fields.run (partsOf record size (members.filter fun m => keep m.1))) := by
  induction declares with
  | field index name d whenAbsent whenShort =>
      have named : keep name = true := kept _ List.mem_cons_self
      have behind := placeAmong_behind keep (memberReadings members)
      simp only [Fields.field, partsOf, memberReadings_filter]
      rw [occurrences_filter named (memberReadings members)]
      cases occurrences name 0 ((memberReadings members).filter fun m => keep m.1) with
      | nil =>
          cases whenAbsent with
          | some a => rfl
          | none =>
              simp only [List.map_nil, moved, Except.mapError]
              rw [behind]
      | cons spot others =>
          cases taken : d .value spot.2 with
          | error e => simp [taken, moved, Except.mapError]
          | ok a => cases others <;> simp [taken, moved, Except.mapError]
  | map f front inductionHypothesis =>
      change both (.ok f) _ = moved _ (both (.ok f) _)
      rw [inductionHypothesis kept, ← both_moved (strictMono_placeAmong keep _)]
      rfl
  | seq front back first second =>
      have kept_front := fun d among => kept d (List.mem_append_left _ among)
      have kept_back := fun d among => kept d (List.mem_append_right _ among)
      change both _ _ = moved _ (both _ _)
      rw [first kept_front, second kept_back, both_moved (strictMono_placeAmong keep _)]

end Fields

/-- Of an object a record is decoded just as its fields say. -/
theorem decodeValue_object {name : String} {known : List String} {fields : Fields α}
    {members : List (String × Json)} :
    decodeValue (record name known fields) (.object members) =
      (fields.run (Fields.partsOf name known.length members)).mapError Prod.snd := by
  have parts : decodeValue (record name known fields) (.object members) =
      fields.close known (Fields.partsOf name known.length members) := rfl
  have rest : (Fields.remainder known).run (Fields.partsOf name known.length members) = .ok () :=
    Fields.remainder_membersOf known .value name known.length members
  rw [parts, Fields.close, rest]
  cases fields.run (Fields.partsOf name known.length members) with
  | error fault => rfl
  | ok a => rfl

/-- A record is decoded of an object just as of the members that its fields declare, down to the
error. -/
theorem decodeValue_filter {name : String} {known : List String} {fields : Fields α}
    {declared : List Declaration} (declares : fields.Declares declared) {keep : String → Bool}
    (kept : ∀ d ∈ declared, keep d.name = true) (members : List (String × Json)) :
    decodeValue (record name known fields) (.object members) =
      decodeValue (record name known fields) (.object (members.filter fun m => keep m.1)) := by
  rw [decodeValue_object, decodeValue_object, declares.run_filter kept]
  cases fields.run (Fields.partsOf name known.length (members.filter fun m => keep m.1)) with
  | error fault => rfl
  | ok a => rfl

/-! ### What is told of an object

A value that is refused stands somewhere in the object, an absent member is missed behind it. -/

/-- The field refuses what the members give it. -/
def Declaration.Refuses (d : Declaration) (members : List (String × Json)) (e : DecodeError) :
    Prop :=
  ∃ v, members.lookup d.name = some v ∧ d.refusal? v = some e

/-- The first of the fields that the members lack though they are needed. -/
def firstLacking? (declared : List Declaration) (members : List (String × Json)) :
    Option Declaration :=
  declared.find? fun d => d.needed && (members.lookup d.name).isNone

/-- What comes of fields with such declarations and an object with such members: some value is
refused; or none is, and the first needed field that is absent is missed; or all is well. -/
inductive Verdict (declared : List Declaration) (members : List (String × Json)) :
    Placed α → Prop where
  | refused {d : Declaration} {place : Nat} {e : DecodeError} (among : d ∈ declared)
      (refuses : d.Refuses members e) (inside : place < members.length) :
      Verdict declared members (.error (place, e))
  | missing {d : Declaration} (unrefused : ∀ d ∈ declared, ∀ e, ¬ d.Refuses members e)
      (first : firstLacking? declared members = some d) :
      Verdict declared members (.error (members.length + 1, .missingField d.name))
  | taken (a : α) (unrefused : ∀ d ∈ declared, ∀ e, ¬ d.Refuses members e)
      (complete : firstLacking? declared members = none) : Verdict declared members (.ok a)

/-- What is lacking first is looked for in the order of the declarations. -/
theorem firstLacking?_append (declared also : List Declaration)
    (members : List (String × Json)) :
    firstLacking? (declared ++ also) members =
      (firstLacking? declared members).or (firstLacking? also members) :=
  List.find?_append

theorem forall_mem_append {P : Declaration → Prop} {declared also : List Declaration}
    (front : ∀ d ∈ declared, P d) (back : ∀ d ∈ also, P d) : ∀ d ∈ declared ++ also, P d := by
  intro d among
  rcases List.mem_append.1 among with first | last
  · exact front d first
  · exact back d last

/-- The verdict on some fields and on others makes the verdict on both: a refused value comes
before anything that is missing, and of several missing fields the one that is declared first. -/
theorem Verdict.both {declared also : List Declaration} {members : List (String × Json)}
    {f : Placed (α → β)} {x : Placed α} (front : Verdict declared members f)
    (back : Verdict also members x) :
    Verdict (declared ++ also) members (Fields.both f x) := by
  cases front with
  | refused among refuses inside =>
      have whole := List.mem_append_left also among
      cases back with
      | refused among' refuses' inside' =>
          rw [Fields.both, Fields.earlier]
          split
          · exact .refused (List.mem_append_right _ among') refuses' inside'
          · exact .refused whole refuses inside
      | missing unrefused first =>
          have before : ¬ members.length + 1 < _ := Nat.not_lt.2 (Nat.le_succ_of_le inside.le)
          rw [Fields.both, Fields.earlier, if_neg before]
          exact .refused whole refuses inside
      | taken a unrefused complete => exact .refused whole refuses inside
  | @missing d unrefused first =>
      have lacks : firstLacking? (declared ++ also) members = some d := by
        rw [firstLacking?_append, first, Option.some_or]
      cases back with
      | refused among' refuses' inside' =>
          rw [Fields.both, Fields.earlier, if_pos (Nat.lt_succ_of_lt inside')]
          exact .refused (List.mem_append_right _ among') refuses' inside'
      | missing unrefused' first' =>
          rw [Fields.both, Fields.earlier, if_neg (Nat.lt_irrefl _)]
          exact .missing (forall_mem_append unrefused unrefused') lacks
      | taken a unrefused' complete =>
          exact .missing (forall_mem_append unrefused unrefused') lacks
  | taken g unrefused complete =>
      have rest : firstLacking? (declared ++ also) members = firstLacking? also members := by
        rw [firstLacking?_append, complete, Option.none_or]
      cases back with
      | refused among' refuses' inside' =>
          exact .refused (List.mem_append_right _ among') refuses' inside'
      | missing unrefused' first' =>
          exact .missing (forall_mem_append unrefused unrefused') (rest.trans first')
      | taken a unrefused' complete' =>
          exact .taken _ (forall_mem_append unrefused unrefused') (rest.trans complete')

/-- What is found in an object is found at a place in it. -/
theorem Fields.place_lt_of_occurrences {name : String} {members : List (String × Reading)}
    {place : Nat} {spot : Nat × Reading} (found : spot ∈ occurrences name place members) :
    spot.1 < place + members.length := by
  induction members generalizing place with
  | nil => cases found
  | cons m rest inductionHypothesis =>
      obtain ⟨key, r⟩ := m
      have shift : place + 1 + rest.length = place + (rest.length + 1) := by
        rw [Nat.add_assoc, Nat.add_comm 1]
      rw [List.length_cons, ← shift]
      rw [occurrences] at found
      split at found
      · rcases List.mem_cons.1 found with rfl | later
        · exact Nat.lt_of_lt_of_le (Nat.lt_succ_self place) (Nat.le_add_right _ _)
        · exact inductionHypothesis later
      · exact inductionHypothesis found

theorem length_memberReadings (members : List (String × Json)) :
    (memberReadings members).length = members.length := by
  rw [memberReadings_eq_map, List.length_map]

/-- The verdict on what fields make of an object in which no key stands twice. -/
theorem Fields.Declares.verdict {fields : Fields α} {declared : List Declaration}
    (declares : fields.Declares declared) {members : List (String × Json)}
    (distinct : (members.map Prod.fst).Nodup) (record : String) (size : Nat) :
    Verdict declared members (fields.run (partsOf record size members)) := by
  induction declares with
  | field index name d whenAbsent whenShort =>
      cases stands : members.lookup name with
      | none =>
          have unrefused : ∀ d' ∈ [(⟨name, whenAbsent.isNone, refusal? d⟩ : Declaration)],
              ∀ e, ¬ d'.Refuses members e := by
            intro d' among e refuses
            cases List.mem_singleton.1 among
            obtain ⟨v, given, -⟩ := refuses
            cases stands.symm.trans given
          simp only [Fields.field, partsOf, occurrences_eq_nil stands]
          cases whenAbsent with
          | some a => exact .taken a unrefused (by simp [firstLacking?])
          | none =>
              have first : firstLacking? [⟨name, true, refusal? d⟩] members =
                  some ⟨name, true, refusal? d⟩ := by simp [firstLacking?, stands]
              rw [length_memberReadings]
              exact .missing unrefused first
      | some v =>
          have complete : firstLacking? [⟨name, whenAbsent.isNone, refusal? d⟩] members = none := by
            simp [firstLacking?, stands]
          obtain ⟨place, spotted⟩ := occurrences_eq_singleton distinct stands 0
          have inside : place < 0 + (memberReadings members).length :=
            place_lt_of_occurrences (spotted ▸ List.mem_singleton_self _)
          rw [Nat.zero_add, length_memberReadings] at inside
          simp only [Fields.field, partsOf, spotted]
          cases taken : d .value v.toReading with
          | error e =>
              have refusal := refusal?_eq_some_iff.2 taken
              exact .refused List.mem_cons_self ⟨v, stands, refusal⟩ inside
          | ok a =>
              have fits : refusal? d v = none := refusal?_eq_none_iff.2 ⟨a, taken⟩
              refine .taken a ?_ complete
              intro d' among e refuses
              cases List.mem_singleton.1 among
              obtain ⟨w, given, refusal⟩ := refuses
              cases stands.symm.trans given
              cases fits.symm.trans refusal
  | map f front inductionHypothesis =>
      have made : Verdict [] members (.ok f) := .taken f (List.forall_mem_nil _) rfl
      exact made.both inductionHypothesis
  | seq front back first second => exact first.both second

/-! ### What is told of any value -/

/-- What can be objected to a value that is to be a record of fields with such declarations: it has
another shape or length, something in it is refused, or it is an object that lacks a field. -/
inductive Objection (declared : List Declaration) (v : Json) : DecodeError → Prop where
  | shape (found : Found) (expected : String) : Objection declared v (.invalidType found expected)
  | length (length : Nat) (expected : String) :
      Objection declared v (.invalidLength length expected)
  | part {d : Declaration} {part : Json} {e : DecodeError} (among : d ∈ declared)
      (refusal : d.refusal? part = some e) : Objection declared v e
  | absence {d : Declaration} {members : List (String × Json)} (object : v = .object members)
      (lacks : firstLacking? declared members = some d) :
      Objection declared v (.missingField d.name)

theorem Objection.mono {declared also : List Declaration} {items : List Json} {e : DecodeError}
    (objection : Objection declared (.array items) e) (more : declared ⊆ also) :
    Objection also (.array items) e := by
  cases objection with
  | shape found expected => exact .shape found expected
  | length length expected => exact .length length expected
  | part among refusal => exact .part (more among) refusal
  | absence object lacks => cases object

/-- Items to spare are complained of by the length of the array. -/
theorem invalidLength_of_surplus {known : List String} {name : String} {size : Nat}
    {items : List Reading} {fault : Nat × DecodeError}
    (failed : (Fields.remainder known).run ⟨.value, name, size, .inr items, none⟩ = .error fault) :
    ∃ length expected, fault.2 = .invalidLength length expected := by
  simp only [Fields.remainder, Fields.surplus] at failed
  cases behind : items.drop size with
  | nil =>
      simp only [behind] at failed
      cases failed
  | cons item rest =>
      simp only [behind] at failed
      cases failed
      exact ⟨_, _, rfl⟩

/-- What fields object to an array. -/
theorem Fields.Declares.objection_of_items {fields : Fields α} {declared : List Declaration}
    (declares : fields.Declares declared) {record : String} {size : Nat} {items : List Json}
    {fault : Nat × DecodeError}
    (failed : fields.run ⟨.value, record, size, .inr (itemReadings items), none⟩ = .error fault) :
    Objection declared (.array items) fault.2 := by
  induction declares generalizing fault with
  | field index name d whenAbsent whenShort =>
      simp only [Fields.field, itemReadings_eq_map, List.getElem?_map] at failed
      cases stands : items[index]? with
      | some item =>
          simp only [stands, Option.map_some] at failed
          cases taken : d .value item.toReading with
          | ok a =>
              rw [taken] at failed
              cases failed
          | error e =>
              rw [taken] at failed
              cases failed
              exact .part List.mem_cons_self (refusal?_eq_some_iff.2 taken)
      | none =>
          cases whenShort with
          | some a =>
              simp only [stands, Option.map_none] at failed
              cases failed
          | none =>
              simp only [stands, Option.map_none] at failed
              cases failed
              exact .length _ _
  | map f front inductionHypothesis =>
      obtain ⟨⟨⟩⟩ | failed := both_eq_error (f := .ok f) failed
      exact inductionHypothesis failed
  | seq front back first second =>
      obtain failed | failed := both_eq_error failed
      · exact (first failed).mono (List.subset_append_left _ _)
      · exact (second failed).mono (List.subset_append_right _ _)

/-- What a record objects to a value that it is not decoded of. -/
theorem Fields.Declares.objection {fields : Fields α} {declared : List Declaration}
    (declares : fields.Declares declared) {name : String} {known : List String} {v : Json}
    {e : DecodeError} (keyed : v.Keyed)
    (failed : decodeValue (record name known fields) v = .error e) :
    Objection declared v e := by
  cases v with
  | object members =>
      rw [decodeValue_object] at failed
      have verdict := declares.verdict keyed name known.length
      generalize fields.run (partsOf name known.length members) = result at failed verdict
      cases verdict with
      | refused among refuses inside =>
          cases failed
          obtain ⟨part, -, refusal⟩ := refuses
          exact .part among refusal
      | missing unrefused first =>
          cases failed
          exact .absence rfl first
      | taken a unrefused complete => cases failed
  | array items =>
      obtain ⟨fault, closed, rfl⟩ := mapError_eq_error.1 failed
      obtain front | surplus := both_eq_error closed
      · obtain ⟨⟨⟩⟩ | front := both_eq_error front
        exact declares.objection_of_items front
      · obtain ⟨length, expected, same⟩ := invalidLength_of_surplus surplus
        rw [same]
        exact .length length expected
  | null | bool | number | string =>
      cases failed
      exact .shape _ _

end LedgerAgent.Json
