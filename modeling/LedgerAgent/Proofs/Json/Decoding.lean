/-
Module: LedgerAgent.Proofs.Json.Decoding
Purpose: What decoders make of JSON values that were written by encoders: lists,
  options, records and tagged objects give back their parts.  What decoders can
  yield at all, whatever they read, and from which parts of a record.
Main exports: Json.Reads, Json.reads_list, Json.Fields.Takes, Json.reads_record,
  Json.tagged_toReading, Json.decodeBytes_render, Json.Yields, Json.yields_record,
  Json.Fields.part_of_field, Json.parts_of_record
-/
import Mathlib.Data.List.Forall2
import LedgerAgent.Json.Decode
import LedgerAgent.Proofs.Json.RoundTrip

namespace LedgerAgent.Json

/-- The decoder makes `a` of a reading, wherever that comes from. -/
def Reads {α : Type} (d : Decoder α) (r : Reading) (a : α) : Prop :=
  ∀ origin, d origin r = .ok a

/-! ### Scalars -/

theorem reads_string (s : String) : Reads decodeString (toReading (.string s)) s :=
  fun _ => rfl

theorem reads_uint64 (n : UInt64) : Reads decodeUInt64 (uint64 n).toReading n :=
  fun _ => rfl

theorem reads_uint32 (n : UInt32) : Reads decodeUInt32 (uint32 n).toReading n := by
  intro origin
  have bound := n.toNat_lt
  simp only [uint32, toReading, decodeUInt32, UInt32.toNat_toUInt64]
  rw [if_pos bound]
  simp

theorem reads_int64 (n : Int64) : Reads decodeInt64 (int64 n).toReading n := by
  intro origin
  by_cases negative : n < 0
  · simp [int64, toReading, Number.ofInt64, negative, decodeInt64]
  · have natural : n.toUInt64.toNat < Nat.pow 2 63 := by
      rw [Int64.toNat_toUInt64_of_le (Int64.not_lt.1 negative), Nat.pow_eq]
      have := n.toInt_lt
      simp only [Int64.toNatClampNeg]
      omega
    simp only [int64, toReading, Number.ofInt64, negative, if_false, decodeInt64]
    rw [if_pos natural, Int64.toInt64_toUInt64]

theorem int64_integral (n : Int64) : (Number.ofInt64 n).Integral := by
  unfold Number.ofInt64
  split
  · rename_i negative
    simpa [Number.Integral, Int64.lt_iff_toInt_lt] using negative
  · trivial

/-- A text whose parser takes it is read as what the parser makes of it. -/
theorem reads_via {ε α : Type} {parse : String → Except ε α} {message : ε → String} {s : String}
    {a : α} (h : parse s = .ok a) : Reads (decodeVia parse message) (.string s) a := by
  intro origin
  simp [decodeVia, decodeString, h, bind, Except.bind, Except.mapError]

theorem reads_unitVariant {α : Type} {variants : List (String × α)} {name : String} {a : α}
    (h : variants.lookup name = some a) : Reads (unitVariant variants) (.string name) a := by
  intro origin
  simp [unitVariant, lookupVariant, h]

/-! ### Options and lists -/

theorem reads_option {α : Type} {d : Decoder α} {r : Reading} {a : α} (present : r ≠ .null)
    (h : Reads d r a) : Reads (decodeOption d) r (some a) := by
  intro origin
  rw [decodeOption]
  · rw [h origin]
    rfl
  · exact present

/-- Items that are each read as they were make the list that was written. -/
theorem decodeItems_map {α : Type} {d : Decoder α} {f : α → Json} {as : List α} (origin : Origin)
    (h : ∀ a ∈ as, Reads d (f a).toReading a) :
    decodeItems d origin (itemReadings (as.map f)) = .ok as := by
  induction as with
  | nil => rfl
  | cons a as inductionHypothesis =>
      have first := h a (by simp) origin
      have others := inductionHypothesis fun b member => h b (List.mem_cons_of_mem a member)
      simp [itemReadings, decodeItems, first, others, bind, Except.bind, pure, Except.pure]

/-- Items that are read one by one are read as a list. -/
theorem reads_list {α : Type} {d : Decoder α} {f : α → Json} {as : List α}
    (h : ∀ a ∈ as, Reads d (f a).toReading a) :
    Reads (decodeList d) (toReading (.array (as.map f))) as := by
  intro origin
  simp [toReading, decodeList, decodeItems_map origin h, bind, Except.bind]

theorem itemsFit_map {α : Type} {room : Nat} {f : α → Json} {as : List α}
    (h : ∀ a ∈ as, Fits room (f a)) : ItemsFit room (as.map f) := by
  induction as with
  | nil => trivial
  | cons a as inductionHypothesis =>
      exact ⟨h a (by simp), inductionHypothesis fun b member => h b (List.mem_cons_of_mem a member)⟩

/-! ### Values without faults -/

mutual

/-- A value that was written has no fault. -/
theorem fault?_toReading : ∀ v : Json, v.toReading.fault? = none
  | .null => rfl
  | .bool _ => rfl
  | .number _ => rfl
  | .string _ => rfl
  | .array items => by simp [toReading, Reading.fault?, itemsFault?_itemReadings items]
  | .object members => by simp [toReading, Reading.fault?, membersFault?_memberReadings members]

theorem itemsFault?_itemReadings : ∀ items : List Json,
    Reading.itemsFault? (itemReadings items) = none
  | [] => rfl
  | item :: rest => by
      simp [itemReadings, Reading.itemsFault?, fault?_toReading item,
        itemsFault?_itemReadings rest]

theorem membersFault?_memberReadings : ∀ members : List (String × Json),
    Reading.membersFault? (memberReadings members) = none
  | [] => rfl
  | (_, value) :: rest => by
      simp [memberReadings, Reading.membersFault?, fault?_toReading value,
        membersFault?_memberReadings rest]

end

mutual

/-- Nor has it one for a reader that skips it. -/
theorem skipFault?_toReading : ∀ v : Json, v.toReading.skipFault? = none
  | .null => rfl
  | .bool _ => rfl
  | .number _ => rfl
  | .string _ => rfl
  | .array items => by
      simp [toReading, Reading.skipFault?, itemsSkipFault?_itemReadings items]
  | .object members => by
      simp [toReading, Reading.skipFault?, membersSkipFault?_memberReadings members]

theorem itemsSkipFault?_itemReadings : ∀ items : List Json,
    Reading.itemsSkipFault? (itemReadings items) = none
  | [] => rfl
  | item :: rest => by
      simp [itemReadings, Reading.itemsSkipFault?, skipFault?_toReading item,
        itemsSkipFault?_itemReadings rest]

theorem membersSkipFault?_memberReadings : ∀ members : List (String × Json),
    Reading.membersSkipFault? (memberReadings members) = none
  | [] => rfl
  | (_, value) :: rest => by
      simp [memberReadings, Reading.membersSkipFault?, skipFault?_toReading value,
        membersSkipFault?_memberReadings rest]

end

/-! ### Records

The members of a record that an encoder wrote have different names, all of them known
to the decoder.  A field then finds the one value of its name, or none. -/

namespace Fields

/-- A name that no member has occurs nowhere. -/
theorem occurrences_eq_nil {name : String} {ms : List (String × Json)}
    (h : ms.lookup name = none) (place : Nat) :
    occurrences name place (memberReadings ms) = [] := by
  induction ms generalizing place with
  | nil => rfl
  | cons member ms inductionHypothesis =>
      obtain ⟨key, value⟩ := member
      by_cases same : key = name
      · simp [same] at h
      · have other : (name == key) = false := by simpa using Ne.symm same
        rw [List.lookup_cons, other] at h
        simp [memberReadings, occurrences, same, inductionHypothesis h]

/-- A name that one member has occurs once. -/
theorem occurrences_eq_singleton {name : String} {ms : List (String × Json)} {v : Json}
    (distinct : (ms.map Prod.fst).Nodup) (h : ms.lookup name = some v) (place : Nat) :
    ∃ found, occurrences name place (memberReadings ms) = [(found, v.toReading)] := by
  induction ms generalizing place with
  | nil => cases h
  | cons member ms inductionHypothesis =>
      obtain ⟨key, value⟩ := member
      simp only [List.map_cons, List.nodup_cons] at distinct
      by_cases same : key = name
      · subst same
        have absent : ms.lookup key = none := by
          rw [List.lookup_eq_none_iff]
          intro other member
          have : key ≠ other.1 := by
            rintro rfl
            exact distinct.1 (List.mem_map_of_mem member)
          simpa using this
        rw [List.lookup_cons_self, Option.some.injEq] at h
        subst h
        exact ⟨place, by simp [memberReadings, occurrences, occurrences_eq_nil absent]⟩
      · have other : (name == key) = false := by simpa using Ne.symm same
        rw [List.lookup_cons, other] at h
        obtain ⟨found, spotted⟩ := inductionHypothesis distinct.2 h (place + 1)
        exact ⟨found, by simp [memberReadings, occurrences, same, spotted]⟩

/-- Fields make `a` of the members of an object if all of those have different names,
whatever the record is called. -/
def Takes {α : Type} (fields : Fields α) (ms : List (String × Json)) (a : α) : Prop :=
  (ms.map Prod.fst).Nodup → ∀ origin name size,
    fields.run ⟨origin, name, size, .inl (memberReadings ms), none⟩ = .ok a

variable {α β : Type} {ms : List (String × Json)} {name : String} {d : Decoder α} {a : α}

theorem Takes.map {fields : Fields α} (h : fields.Takes ms a) (f : α → β) :
    (f <$> fields).Takes ms (f a) := by
  intro distinct origin name size
  change both (.ok f) (fields.run _) = _
  rw [h distinct]
  rfl

theorem Takes.seq {fields : Fields (α → β)} {more : Fields α} {f : α → β}
    (h : fields.Takes ms f) (h' : more.Takes ms a) : (fields <*> more).Takes ms (f a) := by
  intro distinct origin name size
  change both (fields.run _) (more.run _) = _
  rw [h distinct, h' distinct]
  rfl

/-- A field takes the value that stands under its name. -/
theorem takes_field {v : Json} {whenAbsent whenShort : Option α} {index : Nat}
    (present : ms.lookup name = some v) (h : Reads d v.toReading a) :
    (field index name d whenAbsent whenShort).Takes ms a := by
  intro distinct origin record size
  obtain ⟨found, spotted⟩ := occurrences_eq_singleton distinct present 0
  simp [field, spotted, h origin]

/-- A field whose name does not occur takes its default. -/
theorem takes_absent {whenShort : Option α} {index : Nat} (absent : ms.lookup name = none) :
    (field index name d (some a) whenShort).Takes ms a := by
  intro _ origin record size
  simp [field, occurrences_eq_nil absent]

/-- An optional field takes what was written if there was something to write. -/
theorem takes_omissible {f : α → Json} {o : Option α} {index : Nat}
    (written : ms.lookup name = o.map f)
    (present : ∀ a, (f a).toReading ≠ .null) (h : ∀ a ∈ o, Reads d (f a).toReading a) :
    (omissible index name d).Takes ms o := by
  cases o with
  | none => exact takes_absent written
  | some a => exact takes_field written (reads_option (present a) (h a rfl))

theorem strangerFault?_toReading (v : Json) : strangerFault? v.toReading = none := by
  cases v <;> exact skipFault?_toReading _

/-- Members that were written are harmless, known or not. -/
theorem strangersFault?_memberReadings (known : List String) (place : Nat) :
    strangersFault? known place (memberReadings ms) = none := by
  induction ms generalizing place with
  | nil => rfl
  | cons member ms inductionHypothesis =>
      obtain ⟨key, v⟩ := member
      simp [memberReadings, strangersFault?, strangerFault?_toReading, inductionHypothesis]

end Fields

/-- An object is a record of what its fields take if it has no members besides. -/
theorem record_toReading {α : Type} {name : String} {known : List String} {fields : Fields α}
    {ms : List (String × Json)} {a : α} {origin : Origin} (distinct : known.Nodup)
    (names : (ms.map Prod.fst).Sublist known) (h : fields.Takes ms a) :
    record name known fields origin (toReading (.object ms)) = .ok a := by
  simp only [toReading, record, Fields.close, h (names.nodup distinct) origin name known.length,
    Fields.remainder, Fields.strangersFault?_memberReadings]
  rfl

/-- A record is read whose members come in the order of the known names and are taken by its
fields. -/
theorem reads_record {α : Type} {name : String} {known : List String} {fields : Fields α}
    {ms : List (String × Json)} {a : α} (distinct : known.Nodup)
    (names : (ms.map Prod.fst).Sublist known) (h : fields.Takes ms a) :
    Reads (record name known fields) (toReading (.object ms)) a :=
  fun _ => record_toReading distinct names h

/-! ### Members by name -/

theorem lookup_cons_eq (key name : String) (v : Json) (ms : List (String × Json)) :
    ((name, v) :: ms).lookup key = if key = name then some v else ms.lookup key := by
  by_cases same : key = name
  · simp [same]
  · have other : (key == name) = false := by simpa using same
    simp [List.lookup_cons, other, same]

section OptionalMembers

variable {α : Type} (name : String) (f : α → Json) (o : Option α)

/-- A member that may be absent stands under its name, if there is something to stand there. -/
theorem lookup_member? (key : String) :
    (member? name f o).lookup key = if key = name then o.map f else none := by
  cases o with
  | none => simp [member?]
  | some a => exact lookup_cons_eq key name (f a) []

theorem names_member? : ((member? name f o).map Prod.fst).Sublist [name] := by
  cases o with
  | none => exact List.nil_sublist _
  | some a => exact List.Sublist.refl _

end OptionalMembers

theorem membersFit_append {room : Nat} {xs ys : List (String × Json)} :
    MembersFit room (xs ++ ys) ↔ MembersFit room xs ∧ MembersFit room ys := by
  induction xs with
  | nil => simp [MembersFit]
  | cons member xs inductionHypothesis => simp [MembersFit, inductionHypothesis, and_assoc]

theorem membersFit_member? {α : Type} {room : Nat} {name : String} {f : α → Json} {o : Option α}
    (h : ∀ a, Fits room (f a)) : MembersFit room (member? name f o) := by
  cases o with
  | none => trivial
  | some a => exact ⟨h a, trivial⟩

/-! ### Tagged objects -/

/-- Once the tag is found, the members behind it are kept as they are. -/
theorem splitTag_memberReadings {α : Type} {tag : String} {variants : List (String × α)} {a : α}
    {ms : List (String × Json)} (kept : List (String × Reading)) (h : ∀ m ∈ ms, m.1 ≠ tag) :
    splitTag tag variants none (some a) kept (memberReadings ms) =
      .ok ⟨a, .object (kept.reverse ++ memberReadings ms) none⟩ := by
  induction ms generalizing kept with
  | nil => simp [memberReadings, splitTag]
  | cons member ms inductionHypothesis =>
      obtain ⟨key, value⟩ := member
      have first : key ≠ tag := h (key, value) (by simp)
      simp [memberReadings, splitTag, first, fault?_toReading,
        inductionHypothesis _ fun m rest => h m (List.mem_cons_of_mem _ rest)]

/-- A tag in front names the variant, and the members behind it are its content. -/
theorem tagged_toReading {α : Type} {what tag name : String} {variants : List (String × α)} {a : α}
    {ms : List (String × Json)} (named : variants.lookup name = some a)
    (h : ∀ m ∈ ms, m.1 ≠ tag) :
    tagged what tag variants (toReading (.object ((tag, .string name) :: ms))) =
      .ok ⟨a, toReading (.object ms)⟩ := by
  simp [toReading, memberReadings, tagged, splitTag, decodeVariantName, lookupVariant, named,
    splitTag_memberReadings _ h]

/-! ### Whole texts -/

/-- The text of a value is decoded as the value is. -/
theorem decodeText_render {α : Type} {d : Decoder α} {v : Json} {a : α}
    (fits : Fits maxDepth v) (h : Reads d v.toReading a) :
    decodeText d v.render = .ok a := by
  simp [decodeText, Document.decode, read_render fits, h .text, bind, Except.bind]

/-- The bytes of a text are decoded as the text is. -/
theorem decodeBytes_bytes {α : Type} (d : Decoder α) (text : String) :
    decodeBytes d (Text.bytes text) = decodeText d text := by
  rw [decodeBytes, readBytes, Text.ofBytes?_bytes, decodeText]

/-- What is read of a value is decoded from its text in bytes. -/
theorem decodeBytes_render {α : Type} {d : Decoder α} {v : Json} {a : α}
    (fits : Fits maxDepth v) (h : Reads d v.toReading a) :
    decodeBytes d (Text.bytes v.render) = .ok a := by
  rw [decodeBytes_bytes, decodeText_render fits h]

/-! ### What decoders yield

What holds of every value that a decoder can give holds whatever text it is given. -/

section Outcomes

variable {ε α β : Type}

theorem bind_eq_ok {x : Except ε α} {f : α → Except ε β} {b : β} :
    (x >>= f) = .ok b ↔ ∃ a, x = .ok a ∧ f a = .ok b := by
  cases x with
  | error e => simp [bind, Except.bind]
  | ok a => simp [bind, Except.bind]

theorem bind_eq_error {x : Except ε α} {f : α → Except ε β} {e : ε} :
    (x >>= f) = .error e ↔ x = .error e ∨ ∃ a, x = .ok a ∧ f a = .error e := by
  cases x with
  | error e' => simp [bind, Except.bind]
  | ok a => simp [bind, Except.bind]

theorem map_eq_ok {x : Except ε α} {f : α → β} {b : β} :
    x.map f = .ok b ↔ ∃ a, x = .ok a ∧ f a = b := by
  cases x with
  | error e => simp [Except.map]
  | ok a => simp [Except.map]

theorem map_eq_error {x : Except ε α} {f : α → β} {e : ε} : x.map f = .error e ↔ x = .error e := by
  cases x with
  | error e' => simp [Except.map]
  | ok a => simp [Except.map]

theorem mapError_eq_ok {ε' : Type} {x : Except ε α} {f : ε → ε'} {a : α} :
    x.mapError f = .ok a ↔ x = .ok a := by
  cases x with
  | error e => simp [Except.mapError]
  | ok a => simp [Except.mapError]

theorem mapError_eq_error {ε' : Type} {x : Except ε α} {f : ε → ε'} {e : ε'} :
    x.mapError f = .error e ↔ ∃ e', x = .error e' ∧ f e' = e := by
  cases x with
  | error e' => simp [Except.mapError]
  | ok a => simp [Except.mapError]

/-- Of two lists that are related item by item, every item of the second has its like in the
first. -/
theorem exists_of_mem_right {R : α → β → Prop} {items : List α} {results : List β}
    (related : List.Forall₂ R items results) {result : β} (among : result ∈ results) :
    ∃ item ∈ items, R item result := by
  induction related with
  | nil => cases among
  | @cons item head items _ first _ inductionHypothesis =>
      rcases List.mem_cons.1 among with rfl | later
      · exact ⟨item, List.mem_cons_self, first⟩
      · obtain ⟨other, mem, holds⟩ := inductionHypothesis later
        exact ⟨other, List.mem_cons_of_mem item mem, holds⟩

/-- So has every item of the first in the second. -/
theorem exists_of_mem_left {R : α → β → Prop} {items : List α} {results : List β}
    (related : List.Forall₂ R items results) {item : α} (among : item ∈ items) :
    ∃ result ∈ results, R item result :=
  exists_of_mem_right (List.Forall₂.flip (R := flip R) related) among

/-- Items that each have their like have a list of them. -/
theorem exists_forall₂ {R : α → β → Prop} {items : List α}
    (each : ∀ item ∈ items, ∃ result, R item result) :
    ∃ results, List.Forall₂ R items results := by
  induction items with
  | nil => exact ⟨[], .nil⟩
  | cons item items inductionHypothesis =>
      obtain ⟨⟨result, first⟩, each⟩ := List.forall_mem_cons.1 each
      obtain ⟨results, rest⟩ := inductionHypothesis each
      exact ⟨result :: results, .cons first rest⟩

/-- A list is mapped exactly if every item of it is. -/
theorem mapM_eq_ok {f : α → Except ε β} {items : List α} {results : List β} :
    items.mapM f = .ok results ↔
      List.Forall₂ (fun item result => f item = .ok result) items results := by
  constructor
  · intro mapped
    induction items generalizing results with
    | nil =>
        cases mapped
        exact .nil
    | cons item items inductionHypothesis =>
        rw [List.mapM_cons] at mapped
        obtain ⟨result, first, mapped⟩ := bind_eq_ok.1 mapped
        obtain ⟨others, rest, ⟨⟩⟩ := bind_eq_ok.1 mapped
        exact .cons first (inductionHypothesis rest)
  · intro each
    induction each with
    | nil => rfl
    | cons first _ inductionHypothesis =>
        rw [List.mapM_cons]
        exact bind_eq_ok.2 ⟨_, first, bind_eq_ok.2 ⟨_, inductionHypothesis, rfl⟩⟩

/-- A list that is not mapped has an item that is not. -/
theorem exists_of_mapM_eq_error {f : α → Except ε β} {items : List α} {e : ε}
    (failed : items.mapM f = .error e) : ∃ item ∈ items, f item = .error e := by
  induction items with
  | nil => cases failed
  | cons item items inductionHypothesis =>
      rw [List.mapM_cons] at failed
      obtain first | ⟨result, -, failed⟩ := bind_eq_error.1 failed
      · exact ⟨item, List.mem_cons_self, first⟩
      · obtain rest | ⟨others, -, failed⟩ := bind_eq_error.1 failed
        · obtain ⟨other, among, failing⟩ := inductionHypothesis rest
          exact ⟨other, List.mem_cons_of_mem item among, failing⟩
        · cases failed

theorem both_eq_ok {f : Placed (α → β)} {x : Placed α} {b : β} :
    Fields.both f x = .ok b ↔ ∃ g a, f = .ok g ∧ x = .ok a ∧ g a = b := by
  cases f with
  | error e => cases x <;> simp [Fields.both]
  | ok g => cases x <;> simp [Fields.both]

/-- Where not both parts are there, the fault is that of one of them. -/
theorem both_eq_error {f : Placed (α → β)} {x : Placed α} {fault : Nat × DecodeError}
    (failed : Fields.both f x = .error fault) : f = .error fault ∨ x = .error fault := by
  cases f with
  | ok g =>
      cases x with
      | ok a => cases failed
      | error fault' => exact .inr (congrArg Except.error (Except.error.inj failed))
  | error first =>
      cases x with
      | ok a => exact .inl (congrArg Except.error (Except.error.inj failed))
      | error last =>
          rw [Fields.both, Fields.earlier, Except.error.injEq] at failed
          split at failed
          · exact .inr (congrArg Except.error failed)
          · exact .inl (congrArg Except.error failed)

/-- A record is closed over what its fields make of its parts, if the rest is in order. -/
theorem Fields.close_eq_ok {known : List String} {fields : Fields α} {parts : Parts} {a : α} :
    fields.close known parts = .ok a ↔
      fields.run parts = .ok a ∧ (remainder known).run parts = .ok () := by
  rw [close, mapError_eq_ok, both_eq_ok]
  constructor
  · rintro ⟨_, _, taken, rest, rfl⟩
    obtain ⟨_, _, ⟨⟩, made, rfl⟩ := both_eq_ok.1 taken
    exact ⟨made, rest⟩
  · rintro ⟨made, rest⟩
    exact ⟨_, (), both_eq_ok.2 ⟨_, a, rfl, made, rfl⟩, rest, rfl⟩

end Outcomes

/-- Whatever the decoder makes of a reading has a property. -/
def Yields {α : Type} (d : Decoder α) (P : α → Prop) : Prop :=
  ∀ origin r a, d origin r = .ok a → P a

/-- Whatever fields make of the parts of a record has a property. -/
def Fields.Yields {α : Type} (fields : Fields α) (P : α → Prop) : Prop :=
  ∀ parts a, fields.run parts = .ok a → P a

section Yielding

variable {α β : Type} {d : Decoder α} {P : α → Prop}

/-- What a parser ensures is ensured of whatever is decoded through it. -/
theorem yields_via {ε : Type} {parse : String → Except ε α} {message : ε → String}
    (h : ∀ s a, parse s = .ok a → P a) : Yields (decodeVia parse message) P := by
  intro origin r a decoded
  obtain ⟨s, _, parsed⟩ := bind_eq_ok.1 decoded
  exact h s a (mapError_eq_ok.1 parsed)

theorem Yields.option (h : Yields d P) : Yields (decodeOption d) fun o => ∀ a ∈ o, P a := by
  intro origin r o decoded a present
  cases present
  by_cases nothing : r = .null
  · simp [nothing, decodeOption] at decoded
  · rw [decodeOption] at decoded
    · obtain ⟨b, made, same⟩ := map_eq_ok.1 decoded
      exact Option.some.inj same ▸ h origin r b made
    · exact nothing

/-- A field yields what its decoder ensures and its defaults have. -/
theorem Fields.yields_field {index : Nat} {name : String} {whenAbsent whenShort : Option α}
    (h : Json.Yields d P) (absent : ∀ a ∈ whenAbsent, P a) (short : ∀ a ∈ whenShort, P a) :
    (field index name d whenAbsent whenShort).Yields P := by
  intro parts a taken
  simp only [field] at taken
  split at taken
  · split at taken
    · split at taken
      · exact absent a (by simpa using taken)
      · cases taken
    · split at taken
      · cases taken
      · rename_i made _
        cases taken
        exact h _ _ a made
      · cases taken
  · split at taken
    · exact h _ _ a (mapError_eq_ok.1 taken)
    · cases taken
    · exact short a (by simpa using taken)
    · cases taken

theorem Fields.Yields.map {fields : Fields α} {Q : β → Prop} {f : α → β} (h : fields.Yields P)
    (keeps : ∀ a, P a → Q (f a)) : (f <$> fields).Yields Q := by
  intro parts b taken
  obtain ⟨_, a, ⟨⟩, made, rfl⟩ := both_eq_ok.1 taken
  exact keeps a (h parts a made)

/-- What holds whatever the last field is follows from the fields before it. -/
theorem Fields.Yields.left {fields : Fields (α → β)} {more : Fields α} {Q : β → Prop}
    (h : fields.Yields fun f => ∀ a, Q (f a)) : (fields <*> more).Yields Q := by
  intro parts b taken
  obtain ⟨f, a, made, _, rfl⟩ := both_eq_ok.1 taken
  exact h parts f made a

/-- A record yields what its fields do. -/
theorem yields_record {name : String} {known : List String} {fields : Fields α}
    (h : fields.Yields P) : Yields (record name known fields) P := by
  intro origin r a decoded
  cases r with
  | object members cut => exact h _ a (Fields.close_eq_ok.1 decoded).1
  | array items cut => exact h _ a (Fields.close_eq_ok.1 decoded).1
  | _ => cases decoded

/-- What a decoder ensures holds of whatever a document is decoded as. -/
theorem Yields.of_decode {document : Document} {a : α} (h : Yields d P)
    (decoded : document.decode d = .ok a) : P a := by
  obtain ⟨b, made, ended⟩ := bind_eq_ok.1 decoded
  split at ended
  · cases ended
  · cases ended
    exact h _ _ a made

end Yielding

/-! ### Where fields come from

A field takes what stands for it in the record, whichever of the two shapes that has. -/

/-- What stands for the field of an index and a name: the first member of that name in an
object, the item in that place in an array. -/
def Reading.part? (index : Nat) (name : String) : Reading → Option Reading
  | .object members _ => members.lookup name
  | .array items _ => items[index]?
  | _ => none

namespace Parts

/-- What stands for a field among the parts of a record. -/
def part? (parts : Parts) (index : Nat) (name : String) : Option Reading :=
  match parts.given with
  | .inl members => members.lookup name
  | .inr items => items[index]?

/-- The one of two defaults that counts in the shape of a record. -/
def default? {α : Type} (parts : Parts) (whenAbsent whenShort : Option α) : Option α :=
  match parts.given with
  | .inl _ => whenAbsent
  | .inr _ => whenShort

end Parts

section Parting

variable {α : Type}

/-- Among members that were written stands what was written under a name. -/
theorem lookup_memberReadings (name : String) (members : List (String × Json)) :
    (memberReadings members).lookup name = (members.lookup name).map toReading := by
  induction members with
  | nil => rfl
  | cons member rest inductionHypothesis =>
      obtain ⟨key, v⟩ := member
      rw [memberReadings, List.lookup_cons, List.lookup_cons, inductionHypothesis]
      split <;> rfl

/-- The first occurrence of a name is what stands under it. -/
theorem Fields.head?_occurrences (name : String) (members : List (String × Reading))
    (place : Nat) : (occurrences name place members).head?.map Prod.snd = members.lookup name := by
  induction members generalizing place with
  | nil => rfl
  | cons member rest inductionHypothesis =>
      obtain ⟨key, r⟩ := member
      by_cases same : key = name
      · simp [occurrences, same]
      · have other : (name == key) = false := by simpa using Ne.symm same
        rw [occurrences, if_neg same, List.lookup_cons, other, inductionHypothesis]

/-- A field that takes something takes a default where nothing stands for it, and else what its
decoder makes of what stands there. -/
theorem Fields.part_of_field {index : Nat} {name : String} {d : Decoder α}
    {whenAbsent whenShort : Option α} {parts : Parts} {a : α}
    (taken : (field index name d whenAbsent whenShort).run parts = .ok a) :
    (parts.part? index name = none ∧ parts.default? whenAbsent whenShort = some a) ∨
      ∃ r, parts.part? index name = some r ∧ d parts.origin r = .ok a := by
  obtain ⟨origin, record, size, members | items, cut⟩ := parts
  · have first := head?_occurrences name members 0
    simp only [field] at taken
    split at taken
    · rename_i found
      rw [found] at first
      refine .inl ⟨first.symm, ?_⟩
      split at taken
      · exact congrArg some (Except.ok.inj taken)
      · cases taken
    · rename_i place r others found
      rw [found] at first
      refine .inr ⟨r, first.symm, ?_⟩
      split at taken
      · cases taken
      · rename_i made
        exact made.trans (congrArg Except.ok (Except.ok.inj taken))
      · cases taken
  · simp only [field] at taken
    split at taken
    · rename_i r found
      exact .inr ⟨r, found, mapError_eq_ok.1 taken⟩
    · cases taken
    · rename_i missing
      exact .inl ⟨missing, congrArg some (Except.ok.inj taken)⟩
    · cases taken

/-- A field is not its default exactly where something else stands for it than what its decoder
makes the default of. -/
theorem Fields.ne_default_iff {index : Nat} {name : String} {d : Decoder α} {default a : α}
    {blank : Reading} {parts : Parts}
    (taken : (defaulted index name d default).run parts = .ok a)
    (only : ∀ origin r, d origin r = .ok default ↔ r = blank) :
    a ≠ default ↔ ∃ r, parts.part? index name = some r ∧ r ≠ blank := by
  obtain ⟨nothing, same⟩ | ⟨r, stands, made⟩ := part_of_field taken
  · have unfilled : default = a := by
      obtain ⟨origin, record, size, members | items, cut⟩ := parts
      · exact Option.some.inj same
      · exact Option.some.inj same
    simp [nothing, unfilled]
  · rw [stands]
    constructor
    · intro other
      refine ⟨r, rfl, fun empty => other ?_⟩
      exact Except.ok.inj (made.symm.trans ((only _ r).2 empty))
    · rintro ⟨_, ⟨⟩, filled⟩ rfl
      exact filled ((only _ r).1 made)

/-- A record that is decoded is what its fields make of its parts. -/
theorem parts_of_record {name : String} {known : List String} {fields : Fields α}
    {origin : Origin} {r : Reading} {a : α} (decoded : record name known fields origin r = .ok a) :
    ∃ parts : Parts, fields.run parts = .ok a ∧
      ∀ index field, parts.part? index field = r.part? index field := by
  cases r with
  | object members cut => exact ⟨_, (Fields.close_eq_ok.1 decoded).1, fun _ _ => rfl⟩
  | array items cut => exact ⟨_, (Fields.close_eq_ok.1 decoded).1, fun _ _ => rfl⟩
  | _ => cases decoded

/-- Items that make no list of anything are none. -/
theorem decodeList_eq_nil_iff {d : Decoder α} {origin : Origin} {r : Reading} :
    decodeList d origin r = .ok [] ↔ r = .array [] none := by
  constructor
  · intro decoded
    cases r with
    | array items cut =>
        obtain ⟨values, made, ended⟩ := bind_eq_ok.1 decoded
        cases cut with
        | some fault => cases ended
        | none =>
            cases ended
            cases items with
            | nil => rfl
            | cons item rest =>
                obtain ⟨_, -, made⟩ := bind_eq_ok.1 made
                obtain ⟨_, -, made⟩ := bind_eq_ok.1 made
                cases made
    | _ => cases decoded
  · rintro rfl
    rfl

theorem decodeOption_eq_none_iff {d : Decoder α} {origin : Origin} {r : Reading} :
    decodeOption d origin r = .ok none ↔ r = .null := by
  constructor
  · intro decoded
    by_contra present
    rw [decodeOption] at decoded
    · obtain ⟨_, -, ⟨⟩⟩ := map_eq_ok.1 decoded
    · exact present
  · rintro rfl
    rfl

end Parting

end LedgerAgent.Json
