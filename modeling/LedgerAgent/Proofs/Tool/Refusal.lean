/-
Module: LedgerAgent.Proofs.Tool.Refusal
Purpose: Which of its parameters a tool call fails for before anything is done: one whose value does
  not suit, or else the first one that is missing.
Main exports: LedgerTool.Misfits, LedgerTool.lacking?, LedgerTool.request_of_misfits,
  LedgerTool.request_of_lacking, LedgerTool.call_tells_apart
-/
import LedgerAgent.Proofs.Tool.Suiting

namespace LedgerAgent

open Json (DecodeError Fields)
open Parameters (Spells isGiven RecipientsNamed)
open ToolError (Blames)

/-- No member of an object gives the parameter anything. -/
def Parameter.absentFrom (p : Parameter) (raw : List (String × Json)) : Bool :=
  raw.all fun m => !(m.1 == p.name && isGiven m.2)

namespace LedgerTool

/-- A member gives a parameter something that does not suit it. -/
def Misfits (tool : LedgerTool) (raw : List (String × Json)) : Prop :=
  ∃ p ∈ tool.parameters, ∃ v, (p.name, v) ∈ raw ∧ isGiven v = true ∧ ¬ p.kind.Suits v

/-- What a tool cannot do without: the parameters that are not read otherwise, in the order of
their declaration, and then what the tool asks for. -/
def needed (tool : LedgerTool) : List Parameter :=
  tool.parameters.filter Parameter.isRequired ++ tool.asked

/-- The first parameter that a tool cannot do without and is not given. -/
def lacking? (tool : LedgerTool) (raw : List (String × Json)) : Option Parameter :=
  tool.needed.find? fun p => p.absentFrom raw

/-- Where recipients are listed, as for an airdrop, each that is an object names its account. -/
def Named (tool : LedgerTool) (raw : List (String × Json)) : Prop :=
  ∀ p ∈ tool.parameters, p.kind = .recipients → ∀ v, (p.name, v) ∈ raw → RecipientsNamed v

end LedgerTool

/-! ### Members that are given -/

namespace Parameters

variable {raw : List (String × Json)} {name : String} {v : Json}

/-- A member counts if it stands there and is given anything. -/
theorem lookup_given_iff (distinct : (raw.map Prod.fst).Nodup) :
    (raw.filter fun m => isGiven m.2).lookup name = some v ↔
      (name, v) ∈ raw ∧ isGiven v = true := by
  rw [Json.lookup_filter distinct, Option.filter_eq_some_iff,
    Json.lookup_eq_some_iff_mem distinct]

end Parameters

namespace Parameter

variable {p : Parameter} {raw : List (String × Json)} {v : Json}

/-- A parameter is absent exactly where no member that counts has its name. -/
theorem absentFrom_eq_isNone :
    p.absentFrom raw = ((raw.filter fun m => isGiven m.2).lookup p.name).isNone := by
  rw [Bool.eq_iff_iff, Option.isNone_iff_eq_none, List.lookup_eq_none_iff, absentFrom,
    List.all_eq_true]
  constructor
  · intro absent m among
    obtain ⟨among, given⟩ := List.mem_filter.1 among
    have apart := absent m among
    rw [given, Bool.and_true, Bool.not_eq_true', beq_eq_false_iff_ne] at apart
    exact bne_iff_ne.2 apart.symm
  · intro absent m among
    cases given : isGiven m.2 with
    | false => rw [Bool.and_false, Bool.not_false]
    | true =>
        have apart := bne_iff_ne.1 (absent m (List.mem_filter.2 ⟨among, given⟩))
        rw [Bool.and_true, Bool.not_eq_true', beq_eq_false_iff_ne]
        exact apart.symm

/-- What a reader has against something that is given is what its decoder has against it. -/
theorem refusal?_of_given (given : isGiven v = true) :
    p.refusal? v = Json.refusal? p.kind.decoder v := by
  have present : v ≠ .null := by
    rintro rfl
    cases given
  obtain ⟨name, need, kind⟩ := p
  cases need with
  | optional =>
      change Json.refusal? (Json.decodeOption kind.decoder) v = _
      rw [Json.refusal?, Json.refusal?, Json.decodeOption_of_ne_null present]
      cases kind.decoder .value v.toReading with
      | error e => rfl
      | ok value => rfl
  | _ => rfl

/-- Something that is given is refused exactly if it does not suit. -/
theorem refusal?_eq_none_iff (read : v.WasRead) (given : isGiven v = true) :
    p.refusal? v = none ↔ p.kind.Suits v := by
  rw [refusal?_of_given given, Json.refusal?_eq_none_iff, ParameterKind.suits_iff read]

end Parameter

namespace LedgerTool

variable {tool : LedgerTool} {kit : Kit} {mode : Option Bool} {input : String}
  {raw : List (String × Json)} {outside : Outside} {journal : Journal}

/-- The first lacking parameter is the first of those needed that no member gives anything. -/
theorem firstLacking?_parameters :
    Json.firstLacking? (tool.parameters.map Parameter.declaration)
        (raw.filter fun m => isGiven m.2) =
      ((tool.parameters.filter Parameter.isRequired).find? fun p => p.absentFrom raw).map
        Parameter.declaration := by
  rw [Json.firstLacking?, List.find?_map, List.find?_filter]
  congr 2
  funext p
  simp only [Function.comp, Parameter.declaration, ← Parameter.absentFrom_eq_isNone,
    Bool.decide_and, Bool.decide_eq_true]

/-- A parameter refuses what is given for it exactly if that does not suit it. -/
theorem exists_refuses_iff {p : Parameter} (spells : Spells input raw) :
    (∃ e, p.declaration.Refuses (raw.filter fun m => isGiven m.2) e) ↔
      ∃ v, (p.name, v) ∈ raw ∧ isGiven v = true ∧ ¬ p.kind.Suits v := by
  have read := Parameters.wasRead_of_spells spells
  constructor
  · rintro ⟨e, v, found, refusal⟩
    obtain ⟨stands, given⟩ := (Parameters.lookup_given_iff read.keyed).1 found
    have wasRead := read.of_lookup ((Json.lookup_eq_some_iff_mem read.keyed).2 stands)
    refine ⟨v, stands, given, fun suits => ?_⟩
    cases refusal.symm.trans ((Parameter.refusal?_eq_none_iff wasRead given).2 suits)
  · rintro ⟨v, stands, given, misfit⟩
    have wasRead := read.of_lookup ((Json.lookup_eq_some_iff_mem read.keyed).2 stands)
    have refused := mt (Parameter.refusal?_eq_none_iff wasRead given).1 misfit
    obtain ⟨e, refusal⟩ := Option.ne_none_iff_exists'.1 refused
    exact ⟨e, v, (Parameters.lookup_given_iff read.keyed).2 ⟨stands, given⟩, refusal⟩

/-- What is refused of the parameters of a tool is blamed. -/
theorem blames_of_refuses {p : Parameter} {e : DecodeError} (spells : Spells input raw)
    (named : tool.Named raw) (among : p ∈ tool.parameters)
    (refuses : p.declaration.Refuses (raw.filter fun m => isGiven m.2) e) : Blames e := by
  have read := Parameters.wasRead_of_spells spells
  obtain ⟨v, found, refusal⟩ := refuses
  obtain ⟨stands, given⟩ := (Parameters.lookup_given_iff read.keyed).1 found
  have wasRead := read.of_lookup ((Json.lookup_eq_some_iff_mem read.keyed).2 stands)
  have refusal' : Json.refusal? p.kind.decoder v = some e :=
    (Parameter.refusal?_of_given given).symm.trans refusal
  exact ParameterKind.blames_of_refusal wasRead (fun listed => named p among listed v stands)
    (Json.refusal?_eq_some_iff.1 refusal')

/-- Reading the parameters of a tool fails for a value that does not suit, or else for the first
one that is not read otherwise, or succeeds. -/
theorem read_cases {α : Type} {fields : Fields α}
    (declares : fields.Declares (tool.parameters.map Parameter.declaration))
    (spells : Spells input raw) (named : tool.Named raw) :
    (tool.Misfits raw ∧ ∃ reason,
        Parameters.read tool.known fields input = .error (.invalidParameter reason)) ∨
      ¬ tool.Misfits raw ∧
        ((∃ p, (tool.parameters.filter Parameter.isRequired).find?
              (fun p => p.absentFrom raw) = some p ∧
            Parameters.read tool.known fields input = .error (.missingParameter p.name)) ∨
          (tool.parameters.filter Parameter.isRequired).find?
              (fun p => p.absentFrom raw) = none ∧
            ∃ a, Parameters.read tool.known fields input = .ok a ∧
              fields.run (Fields.partsOf "struct Parameters" tool.known.length
                (raw.filter fun m => isGiven m.2)) = .ok a) := by
  have distinct : ((raw.filter fun m => isGiven m.2).map Prod.fst).Nodup :=
    (Parameters.wasRead_of_spells spells).keyed.sublist (List.filter_sublist.map Prod.fst)
  have verdict := declares.verdict distinct "struct Parameters" tool.known.length
  have suits_of_unrefused : (∀ d ∈ tool.parameters.map Parameter.declaration, ∀ e,
      ¬ d.Refuses (raw.filter fun m => isGiven m.2) e) → ¬ tool.Misfits raw := by
    rintro unrefused ⟨p, among, misfit⟩
    obtain ⟨e, refuses⟩ := (exists_refuses_iff spells).2 misfit
    exact unrefused _ (List.mem_map_of_mem among) e refuses
  rw [Parameters.read_of_given (Parameters.given_of_spells spells), Json.decodeValue_object]
  generalize fields.run (Fields.partsOf "struct Parameters" tool.known.length
    (raw.filter fun m => isGiven m.2)) = result at verdict ⊢
  cases verdict with
  | @refused d place e declared refuses inside =>
      obtain ⟨p, among, rfl⟩ := List.mem_map.1 declared
      have misfit := (exists_refuses_iff spells).1 ⟨e, refuses⟩
      have blames := blames_of_refuses spells named among refuses
      refine .inl ⟨⟨p, among, misfit⟩, e.message, ?_⟩
      exact congrArg Except.error (ToolError.ofDecode_of_blames blames)
  | missing unrefused first =>
      rw [firstLacking?_parameters] at first
      obtain ⟨p, found, rfl⟩ := Option.map_eq_some_iff.1 first
      refine .inr ⟨suits_of_unrefused unrefused, .inl ⟨p, found, ?_⟩⟩
      exact congrArg Except.error (ToolError.ofDecode_missingField p.name)
  | taken a unrefused complete =>
      rw [firstLacking?_parameters, Option.map_eq_none_iff] at complete
      exact .inr ⟨suits_of_unrefused unrefused, .inr ⟨complete, a, rfl, rfl⟩⟩

/-- A tool that is given something that does not suit asks nothing of a kit, and blames a value. -/
theorem request_of_misfits (spells : Spells input raw) (named : tool.Named raw)
    (misfits : tool.Misfits raw) :
    ∃ reason, tool.request kit input = .error (.invalidParameter reason) := by
  obtain ⟨request, declares, rfl, -⟩ := tool.reads kit
  rcases read_cases declares spells named with ⟨-, reason, misread⟩ | ⟨suits, -⟩
  · refine ⟨reason, ?_⟩
    rw [request, misread]
    rfl
  · exact absurd misfits suits

/-- A tool that is given nothing unsuitable, but lacks something, asks nothing of a kit, and names
the first thing that it lacks. -/
theorem request_of_lacking (spells : Spells input raw) (named : tool.Named raw)
    (suits : ¬ tool.Misfits raw) {p : Parameter} (lacks : tool.lacking? raw = some p) :
    tool.request kit input = .error (.missingParameter p.name) := by
  obtain ⟨request, declares, rfl, misses⟩ := tool.reads kit
  rw [lacking?, needed, List.find?_append] at lacks
  rcases read_cases declares spells named with
    ⟨misfits, -⟩ | ⟨-, ⟨q, first, misread⟩ | ⟨complete, a, taken, made⟩⟩
  · exact absurd misfits suits
  · rw [first, Option.some_or, Option.some.injEq] at lacks
    rw [request, misread, lacks]
    rfl
  · rw [complete, Option.none_or] at lacks
    have missing : p.absentFrom raw = true := by simpa using List.find?_some lacks
    have absent : (raw.filter fun m => isGiven m.2).lookup p.name = none := by
      rw [← Option.isNone_iff_eq_none, ← Parameter.absentFrom_eq_isNone, missing]
    rw [request, taken]
    exact misses p (List.mem_of_find?_eq_some lacks) absent made

/-- A call is turned away with an error: nothing was asked of the kit, the answer is the error, and
the client, the mirror node and the clock were left alone. -/
structure TurnedAway (tool : LedgerTool) (kit : Kit) (input : String) (journal : Journal)
    (e : ToolError) (answer : String) (after : Journal) : Prop where
  unasked : tool.request kit input = .error e
  answer : answer = e.answer.render
  calls : after.calls = journal.calls
  requests : after.wire.requests = journal.wire.requests
  readings : after.wire.readings = journal.wire.readings

/-- A call that asks for nothing is turned away. -/
theorem ends_turnedAway {e : ToolError} (unasked : tool.request kit input = .error e) :
    Ends outside (tool.call kit mode input) journal fun answer after =>
      tool.TurnedAway kit input journal e answer after := by
  rw [call, run, unasked]
  exact ⟨unasked, rfl, rfl, rfl, rfl⟩

/-- Invalid parameters are told apart from missing ones, for every tool and every object that is
its input.  If a member gives a known parameter a value that it cannot be read from, the call is
turned away for an invalid parameter.  Otherwise, if the tool lacks something, the call is turned
away for a missing one, and the message names the first thing lacking: of the parameters that are
not read otherwise in the order of their declaration, else of those that the tool asks for. -/
theorem call_tells_apart (tool : LedgerTool) (kit : Kit) (mode : Option Bool)
    (spells : Spells input raw) (named : tool.Named raw) (outside : Outside) (journal : Journal) :
    Ends outside (tool.call kit mode input) journal fun answer after =>
      (tool.Misfits raw → ∃ e, tool.TurnedAway kit input journal e answer after ∧
        e.code = "INVALID_PARAMETER") ∧
      (¬ tool.Misfits raw → ∀ p, tool.lacking? raw = some p →
        ∃ e, tool.TurnedAway kit input journal e answer after ∧
          e.code = "MISSING_PARAMETER" ∧
          e.message = "Missing required parameter: " ++ p.name) := by
  constructor
  · intro misfits
    obtain ⟨reason, unasked⟩ := request_of_misfits spells named misfits
    exact ⟨_, ends_turnedAway unasked, rfl⟩
  · intro suits p lacks
    exact ⟨_, ends_turnedAway (request_of_lacking spells named suits lacks), rfl, rfl⟩

/-- The members of an input whose account speaks of a missing field. -/
def hostileMembers : List (String × Json) :=
  [("amount", .null), ("toAccountId", .string "missing field `amount`")]

theorem call_tells_apart_hostile :
    Ends Kit.cutOff (transferHbar.call Kit.unoperated none (Json.object hostileMembers).render)
        .empty (fun answer after => ∃ e, transferHbar.TurnedAway Kit.unoperated
          (Json.object hostileMembers).render .empty e answer after ∧
            e.code = "INVALID_PARAMETER") ∧
      Ends Kit.cutOff (transferHbar.call Kit.unoperated none " ") .empty (fun answer after =>
        ∃ e, transferHbar.TurnedAway Kit.unoperated " " .empty e answer after ∧
          e.code = "MISSING_PARAMETER" ∧
          e.message = "Missing required parameter: toAccountId") := by
  have listless : ∀ raw, transferHbar.Named raw := by
    intro raw p among listed
    rcases List.mem_cons.1 among with rfl | last
    · cases listed
    · cases List.mem_singleton.1 last
      cases listed
  constructor
  · have spells : Spells (Json.object hostileMembers).render hostileMembers := by
      have fits : Json.Fits Json.maxDepth (.object hostileMembers) := by
        simp [hostileMembers, Json.Fits, Json.MembersFit, Json.maxDepth]
      have solid : Text.trim (Json.object hostileMembers).render =
          (Json.object hostileMembers).render := by decide +kernel
      exact .inr (Json.parse_of_render solid fits rfl)
    have nobody : (EntityId.ofChars? "missing field `amount`".toList : Option AccountId) =
        none := by decide +kernel
    have misfits : transferHbar.Misfits hostileMembers := by
      refine ⟨_, List.mem_cons_self, .string "missing field `amount`", ?_, rfl, ?_⟩
      · exact List.mem_cons_of_mem _ List.mem_cons_self
      · rintro ⟨⟩
        rename_i spells
        obtain ⟨text, id, ⟨⟩, parsed⟩ := spells
        rw [EntityId.parse, nobody] at parsed
        cases parsed
    exact (call_tells_apart transferHbar Kit.unoperated none spells (listless _) Kit.cutOff
      .empty).1 misfits
  · have spells : Spells " " [] := .inl ⟨by decide +kernel, rfl⟩
    have suits : ¬ transferHbar.Misfits [] := by
      rintro ⟨p, -, v, among, -⟩
      cases among
    exact (call_tells_apart transferHbar Kit.unoperated none spells (listless _) Kit.cutOff
      .empty).2 suits _ rfl

end LedgerTool

end LedgerAgent
