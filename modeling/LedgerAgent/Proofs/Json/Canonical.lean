/-
Module: LedgerAgent.Proofs.Json.Canonical
Purpose: Members in key order: each key stands once, with its last value.
Main exports: Json.nodup_canonicalMembers, Json.lookup_canonicalMembers,
  Json.canonicalMembers_of_rising, Json.filter_canonicalMembers, Json.parse_render,
  Json.parse_of_render, Json.decodeText_decodeJson_iff, Json.WasRead, Json.Keyed
-/
import Mathlib.Data.List.Nodup
import LedgerAgent.Proofs.Json.Decoding

namespace LedgerAgent.Json

variable {α : Type}

/-- Keys that rise from each member to all later ones. -/
def Rising (members : List (String × α)) : Prop :=
  members.Pairwise fun a b => a.1 < b.1

theorem mem_insertMember {key : String} {value : α} {members : List (String × α)}
    {m : String × α} (among : m ∈ insertMember key value members) :
    m = (key, value) ∨ m ∈ members := by
  induction members with
  | nil => exact .inl (List.mem_singleton.1 among)
  | cons first rest inductionHypothesis =>
      obtain ⟨k, v⟩ := first
      rw [insertMember] at among
      split at among
      · exact List.mem_cons.1 among
      · split at among
        · obtain new | old := List.mem_cons.1 among
          · exact .inl new
          · exact .inr (List.mem_cons_of_mem _ old)
        · obtain head | tail := List.mem_cons.1 among
          · exact .inr (head ▸ List.mem_cons_self)
          · exact (inductionHypothesis tail).imp_right (List.mem_cons_of_mem _)

theorem Rising.insertMember {key : String} {value : α} {members : List (String × α)}
    (rising : Rising members) : Rising (insertMember key value members) := by
  induction members with
  | nil => exact List.pairwise_singleton _ _
  | cons first rest inductionHypothesis =>
      obtain ⟨k, v⟩ := first
      have ⟨above, rest_rising⟩ := List.pairwise_cons.1 rising
      rw [Json.insertMember]
      split
      · rename_i before
        refine List.pairwise_cons.2 ⟨fun m among => ?_, rising⟩
        obtain rfl | later := List.mem_cons.1 among
        · exact before
        · exact String.lt_trans before (above m later)
      · rename_i notBefore
        split
        · rename_i same
          subst same
          exact List.pairwise_cons.2 ⟨above, rest_rising⟩
        · rename_i other
          refine List.pairwise_cons.2 ⟨fun m among => ?_, inductionHypothesis rest_rising⟩
          obtain rfl | later := mem_insertMember among
          · exact Std.lt_of_le_of_ne notBefore (Ne.symm other)
          · exact above m later

/-- However members stand, their keys rise once they are put in order. -/
theorem rising_canonicalMembers (members : List (String × α)) :
    Rising (canonicalMembers members) := by
  have onto : ∀ (members acc : List (String × α)), Rising acc →
      Rising (members.foldl (fun acc m => insertMember m.1 m.2 acc) acc) := by
    intro members
    induction members with
    | nil => exact fun acc rising => rising
    | cons m rest inductionHypothesis =>
        exact fun acc rising => inductionHypothesis _ rising.insertMember
  exact onto members [] List.Pairwise.nil

/-- No key stands twice where the keys rise. -/
theorem Rising.nodup_keys {members : List (String × α)} (rising : Rising members) :
    (members.map Prod.fst).Nodup := by
  rw [List.Nodup, List.pairwise_map]
  refine rising.imp fun {a b} before same => ?_
  rw [same] at before
  exact String.lt_irrefl _ before

/-- No key stands twice among members in key order. -/
theorem nodup_canonicalMembers (members : List (String × α)) :
    ((canonicalMembers members).map Prod.fst).Nodup :=
  (rising_canonicalMembers members).nodup_keys

/-- Members whose keys rise are told by what stands among them. -/
theorem Rising.eq_of_mem_iff {members others : List (String × α)} (rising : Rising members)
    (rising' : Rising others) (same : ∀ m, m ∈ members ↔ m ∈ others) : members = others := by
  have perm : members.Perm others :=
    (List.perm_ext_iff_of_nodup rising.nodup_keys.of_map rising'.nodup_keys.of_map).2 same
  refine perm.eq_of_pairwise (fun m other _ _ before after => ?_) rising rising'
  exact absurd (String.lt_trans before after) (String.lt_irrefl _)

/-- An inserted member hides another of its name, and no others. -/
theorem lookup_insertMember (key name : String) (value : Json) (members : List (String × Json)) :
    (insertMember key value members).lookup name =
      if name = key then some value else members.lookup name := by
  induction members with
  | nil => exact lookup_cons_eq name key value []
  | cons first rest inductionHypothesis =>
      obtain ⟨k, v⟩ := first
      rw [insertMember]
      split
      · exact lookup_cons_eq name key value _
      · split
        · rename_i same
          subst same
          rw [lookup_cons_eq, lookup_cons_eq]
          split <;> rfl
        · rename_i other
          rw [lookup_cons_eq, lookup_cons_eq, inductionHypothesis]
          split
          · rename_i found
            rw [if_neg fun same => other (same.symm.trans found)]
          · rfl

/-- The value of a key among members in key order is the last one that it was given. -/
theorem lookup_canonicalMembers (members : List (String × Json)) (name : String) :
    (canonicalMembers members).lookup name = members.reverse.lookup name := by
  have onto : ∀ (members acc : List (String × Json)),
      (members.foldl (fun acc m => insertMember m.1 m.2 acc) acc).lookup name =
        (members.reverse.lookup name).or (acc.lookup name) := by
    intro members
    induction members with
    | nil => exact fun acc => rfl
    | cons m rest inductionHypothesis =>
        obtain ⟨k, v⟩ := m
        intro acc
        rw [List.foldl_cons, inductionHypothesis, lookup_insertMember, List.reverse_cons,
          List.lookup_append, Option.or_assoc]
        congr 1
        rw [lookup_cons_eq]
        split <;> rfl
  exact (onto members []).trans (by simp)

/-- What is found under a key stands there. -/
theorem mem_of_lookup {key : String} {value : α} {members : List (String × α)}
    (found : members.lookup key = some value) : (key, value) ∈ members := by
  obtain ⟨before, behind, parted, -⟩ := List.lookup_eq_some_iff.1 found
  rw [parted]
  exact List.mem_append_right before List.mem_cons_self

/-- Where no key stands twice, what is found under a key is what stands there. -/
theorem lookup_eq_some_iff_mem {members : List (String × α)} {key : String} {value : α}
    (distinct : (members.map Prod.fst).Nodup) :
    members.lookup key = some value ↔ (key, value) ∈ members := by
  constructor
  · exact mem_of_lookup
  · intro among
    obtain ⟨before, behind, rfl⟩ := List.append_of_mem among
    rw [List.map_append, List.nodup_append] at distinct
    refine List.lookup_eq_some_iff.2 ⟨before, behind, rfl, ?_⟩
    intro m earlier
    have apart := distinct.2.2 m.1 (List.mem_map_of_mem earlier) key List.mem_cons_self
    simpa using apart.symm

/-- Where no key stands twice, leaving members out keeps or drops what is found. -/
theorem lookup_filter {members : List (String × Json)} (distinct : (members.map Prod.fst).Nodup)
    (keep : Json → Bool) (name : String) :
    (members.filter fun m => keep m.2).lookup name = (members.lookup name).filter keep := by
  induction members with
  | nil => rfl
  | cons m rest inductionHypothesis =>
      obtain ⟨k, v⟩ := m
      rw [List.map_cons, List.nodup_cons] at distinct
      rw [List.filter_cons, lookup_cons_eq]
      by_cases same : name = k
      · subst same
        have absent : rest.lookup name = none := by
          refine List.lookup_eq_none_iff.2 fun other member => ?_
          have apart : name ≠ other.1 :=
            fun same => distinct.1 (List.mem_map.2 ⟨other, member, same.symm⟩)
          simpa using apart
        rw [if_pos rfl, Option.filter_some]
        cases keep v with
        | true => simp
        | false => simp [inductionHypothesis distinct.2, absent]
      · rw [if_neg same, ← inductionHypothesis distinct.2]
        split
        · rw [lookup_cons_eq, if_neg same]
        · rfl

/-! ### Members with different keys -/

section

variable {members : List (String × Json)}

/-- Members whose keys are all different are all kept when they are put in key order. -/
theorem mem_canonicalMembers_iff (distinct : (members.map Prod.fst).Nodup) {m : String × Json} :
    m ∈ canonicalMembers members ↔ m ∈ members := by
  have distinct' : (members.reverse.map Prod.fst).Nodup := by
    rwa [List.map_reverse, List.nodup_reverse]
  rw [← lookup_eq_some_iff_mem (nodup_canonicalMembers members), lookup_canonicalMembers,
    lookup_eq_some_iff_mem distinct', List.mem_reverse]

/-- Members that stand in key order are left as they are. -/
theorem canonicalMembers_of_rising (rising : Rising members) :
    canonicalMembers members = members :=
  (rising_canonicalMembers members).eq_of_mem_iff rising fun _ =>
    mem_canonicalMembers_iff rising.nodup_keys

/-- It makes no difference whether members are left out before or after they are put in order. -/
theorem filter_canonicalMembers (distinct : (members.map Prod.fst).Nodup)
    (keep : String × Json → Bool) :
    (canonicalMembers members).filter keep = canonicalMembers (members.filter keep) := by
  have fewer : ((members.filter keep).map Prod.fst).Nodup :=
    distinct.sublist (List.filter_sublist.map Prod.fst)
  refine Rising.eq_of_mem_iff ((rising_canonicalMembers members).filter keep)
    (rising_canonicalMembers _) fun m => ?_
  rw [List.mem_filter, mem_canonicalMembers_iff distinct, mem_canonicalMembers_iff fewer,
    List.mem_filter]

end

/-! ### Parsed texts -/

/-- A reading has a value exactly if there is no fault in it. -/
theorem Reading.toJson_eq_ok_iff {r : Reading} {v : Json} :
    r.toJson = .ok v ↔ r.fault? = none ∧ r.value = v := by
  rw [toJson]
  cases r.fault? with
  | none => simp
  | some f => simp

/-- A text is parsed if it reads without a fault and nothing follows. -/
theorem parse_eq_ok_iff {text : String} {v : Json} :
    parse text = .ok v ↔ (read text).root.toJson = .ok v ∧ (read text).trailing = none := by
  rw [parse, Document.toJson]
  cases (read text).root.toJson with
  | error f => simp
  | ok w => cases (read text).trailing <;> simp

/-- A rendered value is parsed as it was, its members in key order. -/
theorem parse_render {v : Json} (fits : Fits maxDepth v) :
    parse v.render = .ok v.toReading.value := by
  rw [parse_eq_ok_iff, read_render fits, Reading.toJson_eq_ok_iff]
  exact ⟨⟨fault?_toReading v, rfl⟩, rfl⟩

/-- A text that renders a value whose members stand in key order already is parsed as that
value. -/
theorem parse_of_render {text : String} {v : Json} (written : text = v.render)
    (fits : Fits maxDepth v) (ordered : v.toReading.value = v) : parse text = .ok v := by
  rw [written, parse_render fits, ordered]

/-- Reading a text for a value of any kind is parsing it. -/
theorem decodeText_decodeJson_iff {text : String} {v : Json} :
    decodeText decodeJson text = .ok v ↔ parse text = .ok v := by
  rw [parse_eq_ok_iff, decodeText, Document.decode, bind_eq_ok]
  constructor
  · rintro ⟨w, decoded, ended⟩
    split at ended
    · cases ended
    · rename_i nothing
      cases ended
      exact ⟨mapError_eq_ok.1 decoded, nothing⟩
  · rintro ⟨decoded, nothing⟩
    exact ⟨v, mapError_eq_ok.2 decoded, by rw [nothing]⟩

/-! ### Values that were read -/

/-- A value that somebody has read. -/
def WasRead (v : Json) : Prop :=
  ∃ r : Reading, r.value = v

/-- What a text is parsed as has been read by somebody. -/
theorem wasRead_of_parse {text : String} {v : Json} (parsed : parse text = .ok v) : v.WasRead :=
  ⟨_, (Reading.toJson_eq_ok_iff.1 (parse_eq_ok_iff.1 parsed).1).2⟩

/-- No key stands twice in a value that is an object. -/
def Keyed : Json → Prop
  | .object members => (members.map Prod.fst).Nodup
  | _ => True

theorem memberValues_eq_map (members : List (String × Reading)) :
    Reading.memberValues members = members.map fun m => (m.1, m.2.value) := by
  induction members with
  | nil => rfl
  | cons m members inductionHypothesis =>
      rw [Reading.memberValues, inductionHypothesis, List.map_cons]

theorem itemValues_eq_map (items : List Reading) :
    Reading.itemValues items = items.map Reading.value := by
  induction items with
  | nil => rfl
  | cons item rest inductionHypothesis =>
      rw [Reading.itemValues, inductionHypothesis, List.map_cons]

namespace WasRead

/-- The members of an object that was read stand in key order, and were read themselves. -/
theorem members {members : List (String × Json)} (read : WasRead (.object members)) :
    ∃ given : List (String × Reading),
      members = canonicalMembers (given.map fun m => (m.1, m.2.value)) := by
  obtain ⟨r, value⟩ := read
  cases r with
  | object given cut =>
      rw [Reading.value, sorted, memberValues_eq_map, Json.object.injEq] at value
      exact ⟨given, value.symm⟩
  | _ =>
      rw [Reading.value] at value
      cases value

/-- What has been read has no key twice. -/
theorem keyed {v : Json} (read : v.WasRead) : v.Keyed := by
  cases v with
  | object members =>
      obtain ⟨given, rfl⟩ := read.members
      exact nodup_canonicalMembers _
  | _ => trivial

theorem of_lookup {members : List (String × Json)} {key : String} {v : Json}
    (read : WasRead (.object members)) (stands : members.lookup key = some v) : v.WasRead := by
  obtain ⟨given, rfl⟩ := read.members
  rw [lookup_canonicalMembers] at stands
  have among := mem_of_lookup stands
  obtain ⟨m, -, same⟩ := List.mem_map.1 (List.mem_reverse.1 among)
  exact ⟨m.2, congrArg Prod.snd same⟩

theorem of_mem {items : List Json} {item : Json} (read : WasRead (.array items))
    (among : item ∈ items) : item.WasRead := by
  obtain ⟨r, value⟩ := read
  cases r with
  | array given cut =>
      rw [Reading.value, itemValues_eq_map, Json.array.injEq] at value
      rw [← value] at among
      obtain ⟨r, -, same⟩ := List.mem_map.1 among
      exact ⟨r, same⟩
  | _ =>
      rw [Reading.value] at value
      cases value

end WasRead

end LedgerAgent.Json
