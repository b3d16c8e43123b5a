/-
Module: LedgerAgent.Proofs.Json.Record
Purpose: Of which JSON values a record is decoded, and from which parts of them: the members of an
  object by their names, or the items of an array by their places.
Main exports: Json.Fields.seq_eq_ok, Json.Fields.pair_eq_ok_iff, Json.Fields.field_members_iff,
  Json.part?, Json.record_object_iff, Json.record_value_iff, Json.Fields.field_value_iff,
  Json.decodeList_iff
-/
import Mathlib.Data.List.Forall2
import LedgerAgent.Proofs.Json.Canonical

namespace LedgerAgent.Json

variable {α : Type}

/-! ### Fields -/

namespace Fields

/-- Two lots of fields are filled if each is. -/
theorem seq_eq_ok {β : Type} {fields : Fields (α → β)} {more : Fields α} {parts : Parts} {b : β} :
    (fields <*> more).run parts = .ok b ↔
      ∃ g a, fields.run parts = .ok g ∧ more.run parts = .ok a ∧ g a = b :=
  both_eq_ok

theorem map_run_eq_ok {β : Type} {f : α → β} {fields : Fields α} {parts : Parts} {b : β} :
    (f <$> fields).run parts = .ok b ↔ ∃ a, fields.run parts = .ok a ∧ f a = b := by
  refine (both_eq_ok (f := .ok f)).trans ⟨?_, ?_⟩
  · rintro ⟨g, a, ⟨⟩, made, same⟩
    exact ⟨a, made, same⟩
  · rintro ⟨a, made, same⟩
    exact ⟨f, a, rfl, made, same⟩

/-- A pair is made of what each of two fields makes. -/
theorem pair_eq_ok_iff {β : Type} {first : Fields α} {second : Fields β} {parts : Parts} {a : α}
    {b : β} :
    (Prod.mk <$> first <*> second).run parts = .ok (a, b) ↔
      first.run parts = .ok a ∧ second.run parts = .ok b := by
  rw [seq_eq_ok]
  constructor
  · rintro ⟨_, _, front, last, same⟩
    obtain ⟨_, head, rfl⟩ := map_run_eq_ok.1 front
    cases same
    exact ⟨head, last⟩
  · rintro ⟨head, last⟩
    exact ⟨_, b, map_run_eq_ok.2 ⟨a, head, rfl⟩, last, rfl⟩

/-- The members of an object as the parts of a record, wherever they come from. -/
def membersOf (origin : Origin) (name : String) (size : Nat) (members : List (String × Json)) :
    Parts :=
  ⟨origin, name, size, .inl (memberReadings members), none⟩

/-- The members of an object as the parts of a record that is decoded from a value. -/
def partsOf (name : String) (size : Nat) (members : List (String × Json)) : Parts :=
  ⟨.value, name, size, .inl (memberReadings members), none⟩

section

variable {origin : Origin} {index size : Nat} {name record : String} {d : Decoder α}
  {whenAbsent whenShort : Option α} {members : List (String × Json)} {a : α}

/-- A field that takes something takes its default where its name does not occur, and else
what stands under the name. -/
theorem field_members_eq_ok
    (taken : (field index name d whenAbsent whenShort).run
      (membersOf origin record size members) = .ok a) :
    (members.lookup name = none ∧ whenAbsent = some a) ∨
      ∃ v, members.lookup name = some v ∧ d origin v.toReading = .ok a := by
  have part : (membersOf origin record size members).part? index name =
      (members.lookup name).map toReading := lookup_memberReadings name members
  obtain ⟨nothing, same⟩ | ⟨r, stands, made⟩ := part_of_field taken
  · rw [part, Option.map_eq_none_iff] at nothing
    exact .inl ⟨nothing, same⟩
  · rw [part, Option.map_eq_some_iff] at stands
    obtain ⟨v, stands, rfl⟩ := stands
    exact .inr ⟨v, stands, made⟩

/-- A field of an object takes its default exactly where nothing stands under its name, and else
what the decoder makes of what stands there. -/
theorem field_members_iff (keyed : Keyed (.object members)) :
    (field index name d whenAbsent whenShort).run (membersOf origin record size members) = .ok a ↔
      (members.lookup name = none ∧ whenAbsent = some a) ∨
        ∃ v, members.lookup name = some v ∧ d origin v.toReading = .ok a := by
  constructor
  · exact field_members_eq_ok
  · rintro (⟨nothing, rfl⟩ | ⟨v, stands, made⟩)
    · simp [field, membersOf, occurrences_eq_nil nothing]
    · obtain ⟨found, spotted⟩ := occurrences_eq_singleton keyed stands 0
      simp [field, membersOf, spotted, made]

/-- What fills a field is the default where no member has its name, and else what is decoded of
one. -/
theorem field_eq_ok
    (taken : (field index name d whenAbsent whenShort).run (partsOf record size members) = .ok a) :
    (members.lookup name = none ∧ whenAbsent = some a) ∨
      ∃ v, members.lookup name = some v ∧ d .value v.toReading = .ok a :=
  field_members_eq_ok taken

/-- Where no key stands twice, a field is filled by the member of its name, or by the default. -/
theorem field_partsOf_iff (keyed : Keyed (.object members)) :
    (field index name d whenAbsent whenShort).run (partsOf record size members) = .ok a ↔
      (members.lookup name = none ∧ whenAbsent = some a) ∨
        ∃ v, members.lookup name = some v ∧ d .value v.toReading = .ok a :=
  field_members_iff keyed

end

end Fields

/-! ### The two shapes of a record -/

/-- What stands for a field of a record with so many fields: in an object the member of the
field's name, in an array the item in the field's place.  An array with items to spare is no such
record. -/
def part? (size index : Nat) (name : String) : Json → Option Json
  | .object members => members.lookup name
  | .array items => if items.length ≤ size then items[index]? else none
  | _ => none

/-- The parts in which a value gives a record with so many fields. -/
def recordParts? (name : String) (size : Nat) : Json → Option Parts
  | .object members => some (Fields.partsOf name size members)
  | .array items =>
    if items.length ≤ size then some ⟨.value, name, size, .inr (itemReadings items), none⟩
    else none
  | _ => none

theorem itemReadings_eq_map (items : List Json) : itemReadings items = items.map toReading := by
  induction items with
  | nil => rfl
  | cons item rest inductionHypothesis =>
      rw [itemReadings, inductionHypothesis, List.map_cons]

theorem memberReadings_eq_map (members : List (String × Json)) :
    memberReadings members = members.map fun m => (m.1, m.2.toReading) := by
  induction members with
  | nil => rfl
  | cons m rest inductionHypothesis => rw [memberReadings, inductionHypothesis, List.map_cons]

/-- Nothing is left over of an object. -/
theorem Fields.remainder_membersOf (known : List String) (origin : Origin) (name : String)
    (size : Nat) (members : List (String × Json)) :
    (remainder known).run (membersOf origin name size members) = .ok () := by
  simp [remainder, membersOf, strangersFault?_memberReadings]

/-- A record is decoded of an object exactly if its fields make it of the members; members of
other names do not count. -/
theorem record_object_iff {name : String} {known : List String} {fields : Fields α}
    {origin : Origin} {members : List (String × Json)} {a : α} :
    record name known fields origin (toReading (.object members)) = .ok a ↔
      fields.run (Fields.membersOf origin name known.length members) = .ok a := by
  rw [toReading, record, Fields.close_eq_ok]
  exact and_iff_left (Fields.remainder_membersOf known origin name known.length members)

/-- Nothing is left over of an array that has an item for each field at most. -/
theorem Fields.surplus_eq_ok_iff {name : String} {size : Nat}
    {given : List (String × Reading) ⊕ List Reading} {items : List Reading} :
    surplus ⟨.value, name, size, given, none⟩ items = .ok () ↔ items.length ≤ size := by
  rw [← List.drop_eq_nil_iff, surplus]
  cases items.drop size with
  | nil => simp
  | cons item rest => simp

/-- A record is decoded of a value exactly if the value has the shape of one, and the fields make
it of the parts. -/
theorem record_value_iff {name : String} {known : List String} {fields : Fields α} {v : Json}
    {a : α} :
    record name known fields .value v.toReading = .ok a ↔
      ∃ parts, v.recordParts? name known.length = some parts ∧ fields.run parts = .ok a := by
  cases v with
  | object members =>
      rw [record_object_iff]
      constructor
      · intro made
        exact ⟨_, rfl, made⟩
      · rintro ⟨_, ⟨⟩, made⟩
        exact made
  | array items =>
      have rest : (Fields.remainder known).run
          ⟨.value, name, known.length, .inr (itemReadings items), none⟩ = .ok () ↔
            items.length ≤ known.length := by
        refine Fields.surplus_eq_ok_iff.trans ?_
        rw [itemReadings_eq_map, List.length_map]
      rw [toReading, record, Fields.close_eq_ok, rest, recordParts?]
      constructor
      · rintro ⟨made, room⟩
        exact ⟨_, if_pos room, made⟩
      · rintro ⟨parts, shape, made⟩
        split at shape
        · cases shape
          exact ⟨made, ‹_›⟩
        · cases shape
  | _ =>
      constructor
      · intro decoded
        cases decoded
      · rintro ⟨_, shape, -⟩
        cases shape

section

variable {v : Json} {record key : String} {size index : Nat} {parts : Parts}

/-- What stands for a field among the parts of a value is what stands for it in the value. -/
theorem part?_of_recordParts? (shape : v.recordParts? record size = some parts) :
    parts.part? index key = (v.part? size index key).map toReading := by
  cases v with
  | object members =>
      cases shape
      exact lookup_memberReadings key members
  | array items =>
      rw [recordParts?] at shape
      split at shape
      · rename_i room
        cases shape
        rw [part?, if_pos room, ← List.getElem?_map, ← itemReadings_eq_map]
        rfl
      · cases shape
  | _ => cases shape

theorem origin_of_recordParts? (shape : v.recordParts? record size = some parts) :
    parts.origin = .value := by
  cases v with
  | object members =>
      cases shape
      rfl
  | array items =>
      rw [recordParts?] at shape
      split at shape <;> cases shape
      rfl
  | _ => cases shape

/-- A value in which something stands for a field has the shape of a record. -/
theorem exists_recordParts? {part : Json} (stands : v.part? size index key = some part)
    (record : String) : ∃ parts, v.recordParts? record size = some parts := by
  cases v with
  | object members => exact ⟨_, rfl⟩
  | array items =>
      rw [part?] at stands
      split at stands
      · exact ⟨_, if_pos ‹_›⟩
      · cases stands
  | _ => cases stands

/-- A field with one default for both shapes takes it exactly where nothing stands for the field,
and else what the decoder makes of what stands there. -/
theorem Fields.field_value_iff {d : Decoder α} {default : Option α} {a : α} (keyed : v.Keyed)
    (shape : v.recordParts? record size = some parts) :
    (field index key d default default).run parts = .ok a ↔
      (v.part? size index key = none ∧ default = some a) ∨
        ∃ part, v.part? size index key = some part ∧ d .value part.toReading = .ok a := by
  constructor
  · intro taken
    have both : parts.default? default default = default := by
      rw [Parts.default?]
      split <;> rfl
    obtain ⟨nothing, same⟩ | ⟨r, stands, made⟩ := part_of_field taken
    · rw [part?_of_recordParts? shape, Option.map_eq_none_iff] at nothing
      exact .inl ⟨nothing, both.symm.trans same⟩
    · rw [part?_of_recordParts? shape, Option.map_eq_some_iff] at stands
      obtain ⟨part, stands, rfl⟩ := stands
      rw [origin_of_recordParts? shape] at made
      exact .inr ⟨part, stands, made⟩
  · cases v with
    | object members =>
        cases shape
        exact (field_partsOf_iff keyed).2
    | array items =>
        rw [recordParts?] at shape
        split at shape
        · rename_i room
          cases shape
          rw [part?, if_pos room]
          rintro (⟨nothing, rfl⟩ | ⟨part, stands, made⟩)
          · simp only [field, itemReadings_eq_map, List.getElem?_map, nothing, Option.map_none]
          · simp only [field, itemReadings_eq_map, List.getElem?_map, stands, Option.map_some, made]
            rfl
        · cases shape
    | _ => cases shape

end

/-! ### Strings, options and lists -/

/-- A string is decoded of itself and of nothing else. -/
theorem decodeString_iff {origin : Origin} {v : Json} {s : String} :
    decodeString origin v.toReading = .ok s ↔ v = .string s := by
  constructor
  · intro decoded
    cases v with
    | string _ =>
        cases decoded
        rfl
    | _ => cases decoded
  · rintro rfl
    rfl

theorem decodeOption_of_ne_null {d : Decoder α} {origin : Origin} {v : Json}
    (present : v ≠ .null) :
    decodeOption d origin v.toReading = (d origin v.toReading).map some := by
  rw [decodeOption]
  intro nothing
  cases v with
  | null => exact present rfl
  | _ => cases nothing

theorem decodeItems_eq_mapM (d : Decoder α) (origin : Origin) (items : List Reading) :
    decodeItems d origin items = items.mapM (d origin) := by
  induction items with
  | nil => rfl
  | cons item rest inductionHypothesis =>
      rw [decodeItems, List.mapM_cons, inductionHypothesis]

/-- A list is decoded of an array exactly if every item of it is. -/
theorem decodeList_iff {d : Decoder α} {origin : Origin} {items : List Json} {as : List α} :
    decodeList d origin (toReading (.array items)) = .ok as ↔
      List.Forall₂ (fun item a => d origin item.toReading = .ok a) items as := by
  rw [toReading, decodeList, decodeItems_eq_mapM, itemReadings_eq_map, bind_eq_ok]
  refine Iff.trans ?_ (mapM_eq_ok.trans List.forall₂_map_left_iff)
  constructor
  · rintro ⟨_, made, ⟨⟩⟩
    exact made
  · intro made
    exact ⟨as, made, rfl⟩

end LedgerAgent.Json
