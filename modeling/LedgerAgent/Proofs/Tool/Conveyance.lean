/-
Module: LedgerAgent.Proofs.Tool.Conveyance
Purpose: What a payment's transaction moves or allows: exactly the units that its amount means.
Main exports: Body.Conveys, LedgerTool.conveys_of_produces, LedgerTool.conveys_call
-/
import LedgerAgent.Proofs.Tool.Display
import LedgerAgent.Proofs.Tool.Production

namespace LedgerAgent

open Json (map_eq_ok)
open Parameters (Names Lacks Spelled)

/-! ### Units in a body -/

/-- A body moves units of an asset from an account to a party, or allows the party as many:
the whole body, as the tool is for. -/
inductive Body.Conveys (own party : AccountId) (units : Nat) :
    LedgerTool → Option TokenId → Body → Prop where
  | hbarTransfer {debit credit : Int64} (taken : debit.toInt = -units)
      (given : credit.toInt = units) :
      Conveys own party units .transferHbar none
        (.cryptoTransfer [⟨own, debit⟩, ⟨party, credit⟩] [])
  | tokenTransfer {token : TokenId} {debit credit : Int64} (taken : debit.toInt = -units)
      (given : credit.toInt = units) :
      Conveys own party units .transferToken (some token)
        (.cryptoTransfer [] [⟨token, own, debit⟩, ⟨token, party, credit⟩])
  | hbarAllowance {amount : UInt64} (allowed : amount.toNat = units) :
      Conveys own party units .approveAllowance none
        (.approveAllowance [⟨own, party, ⟨amount⟩⟩] [])
  | tokenAllowance {token : TokenId} {amount : UInt64} (allowed : amount.toNat = units) :
      Conveys own party units .approveAllowance (some token)
        (.approveAllowance [] [⟨token, own, party, amount⟩])

/-- How many units no longer fit: what moves is signed, what is allowed is not. -/
def LedgerTool.room : LedgerTool → Nat
  | .approveAllowance => 2 ^ 64
  | _ => 2 ^ 63

/-- Whatever is conveyed had room. -/
theorem Body.Conveys.lt_room {own party : AccountId} {units : Nat} {tool : LedgerTool}
    {asset : Option TokenId} {body : Body}
    (conveys : Body.Conveys own party units tool asset body) : units < tool.room := by
  cases conveys with
  | @hbarTransfer _ credit _ given | @tokenTransfer _ _ credit _ given =>
      have bound := credit.toInt_lt
      simp only [LedgerTool.room]
      omega
  | @hbarAllowance amount allowed | @tokenAllowance _ amount allowed =>
      have bound := amount.toNat_lt
      simp only [LedgerTool.room]
      omega

/-- The instruction of a payment conveys its units from the actor. -/
theorem LedgerTool.Pays.conveys {tool : LedgerTool} {asset : Option TokenId} {party : AccountId}
    {units : UInt64} {action : Action} {actor : Actor} {i : Instruction}
    (pays : tool.Pays asset party units action) (settled : action.instruction actor = .ok i) :
    Body.Conveys actor.account party units.toNat tool asset i.body := by
  cases pays with
  | hbarTransfer =>
      obtain ⟨n, signed, rfl⟩ := map_eq_ok.1 settled
      have ⟨taken, given⟩ := Amount.neg_of_toSigned signed
      exact .hbarTransfer taken given
  | tokenTransfer =>
      obtain ⟨n, signed, rfl⟩ := map_eq_ok.1 settled
      have ⟨taken, given⟩ := Amount.neg_of_toSigned signed
      exact .tokenTransfer taken given
  | allowance =>
      cases settled
      cases asset with
      | none => exact .hbarAllowance rfl
      | some token => exact .tokenAllowance rfl

namespace LedgerTool

variable {tool : LedgerTool} {kit : Kit} {mode : Option Bool} {input : String}
  {raw : List (String × Json)} {outside : Outside} {journal : Journal} {t : Transaction}

theorem isPayment_of_asks {asset : Option TokenId} {party : AccountId}
    (asks : Asks raw tool asset party) : tool.isPayment = true := by
  cases asks <;> rfl

/-- A payment is a change, however its input reads. -/
theorem changing_of_isPayment (payment : tool.isPayment = true) (question : Lookup Json) :
    tool.request kit input ≠ .ok (.question question) := by
  intro asked
  cases tool with
  | transferHbar =>
      obtain ⟨⟨recipient, amount?⟩, -, needing⟩ := Json.bind_eq_ok.1 asked
      obtain ⟨amount, -, asking⟩ := Json.bind_eq_ok.1 needing
      split at asking <;> cases asking
  | transferToken =>
      obtain ⟨⟨token, recipient, amount?⟩, -, needing⟩ := Json.bind_eq_ok.1 asked
      obtain ⟨amount, -, asking⟩ := Json.bind_eq_ok.1 needing
      cases Except.ok.inj asking
  | approveAllowance =>
      obtain ⟨⟨spender, amount?, asset⟩, -, needing⟩ := Json.bind_eq_ok.1 asked
      obtain ⟨amount, -, asking⟩ := Json.bind_eq_ok.1 needing
      cases Except.ok.inj asking
  | _ => cases payment

/-- What a payment settles on rests on its members, whichever payment it is. -/
theorem settles_of_isPayment {wire : Wire} {prepare : Lookup Action} {action : Action}
    (payment : tool.isPayment = true) (object : Json.parse (Text.trim input) = .ok (.object raw))
    (asked : tool.request kit input = .ok (.change prepare))
    (settled : (prepare.run outside wire).1 = .ok action) :
    tool.Settles kit raw outside wire action := by
  cases tool with
  | transferHbar => exact settles_transferHbar object asked settled
  | transferToken => exact settles_transferToken object asked settled
  | approveAllowance => exact settles_approveAllowance object asked settled
  | _ => cases payment

/-- A transaction that a payment produces conveys, from the account that the kit acts for, the
units that the amount among the members means. -/
theorem conveys_of_produces (payment : tool.isPayment = true)
    (object : Json.parse (Text.trim input) = .ok (.object raw))
    (clock : ∀ reading, (outside.clock reading).WithinSecond)
    (produced : tool.Produces kit mode input outside journal t) :
    ∃ value text asset party decimals units actor,
      raw.lookup "amount" = some value ∧ Spelled value text ∧ Asks raw tool asset party ∧
        kit.Reports outside journal.wire asset decimals ∧ Amount.Means text decimals units ∧
        kit.actor? mode = some actor ∧
        Body.Conveys actor.account party units tool asset t.body := by
  obtain ⟨prepare, action, actor, i, asked, settled, acting, made, body⟩ :=
    exists_of_produces (changing_of_isPayment payment) clock produced
  obtain ⟨value, text, asset, party, decimals, units, stands, spelled, asks, reported, counted,
    pays⟩ := settles_of_isPayment payment object asked settled
  exact ⟨value, text, asset, party, decimals, units.toNat, actor, stands, spelled, asks, reported,
    Amount.toBaseUnits_eq_ok_iff.1 counted, acting, body ▸ pays.conveys made⟩

end LedgerTool

/-! ### One meaning -/

/-- A member names one entity at most. -/
theorem Parameters.Names.unique {kind : EntityKind} {members : List (String × Json)} {key : String}
    {id id' : EntityId kind} (names : Names members key id) (names' : Names members key id') :
    id = id' := by
  obtain ⟨text, stands, parsed⟩ := names
  obtain ⟨text', stands', parsed'⟩ := names'
  cases stands.symm.trans stands'
  exact Except.ok.inj (parsed.symm.trans parsed')

/-- A member that names an entity is not lacking. -/
theorem Parameters.Names.not_lacks {kind : EntityKind} {members : List (String × Json)}
    {key : String} {id : EntityId kind} (names : Names members key id) : ¬ Lacks members key := by
  obtain ⟨text, stands, parsed⟩ := names
  intro lacking
  rw [Lacks, stands, Option.filter_some] at lacking
  split at lacking
  · cases lacking
  · rename_i empty
    have nothing : text = "" := by
      simpa [Parameters.isGiven] using empty
    rw [nothing] at parsed
    cases parsed

/-- An input asks for one payment at most. -/
theorem LedgerTool.Asks.unique {raw : List (String × Json)} {tool : LedgerTool}
    {asset asset' : Option TokenId} {party party' : AccountId} (asks : Asks raw tool asset party)
    (asks' : Asks raw tool asset' party') : asset = asset' ∧ party = party' := by
  cases asks with
  | hbarTransfer payee =>
      cases asks' with
      | hbarTransfer payee' => exact ⟨rfl, payee.unique payee'⟩
  | tokenTransfer named payee =>
      cases asks' with
      | tokenTransfer named' payee' =>
          exact ⟨congrArg some (named.unique named'), payee.unique payee'⟩
  | hbarAllowance lacking payee =>
      cases asks' with
      | hbarAllowance lacking' payee' => exact ⟨rfl, payee.unique payee'⟩
      | tokenAllowance named' payee' => exact absurd lacking named'.not_lacks
  | tokenAllowance named payee =>
      cases asks' with
      | hbarAllowance lacking' payee' => exact absurd lacking' named.not_lacks
      | tokenAllowance named' payee' =>
          exact ⟨congrArg some (named.unique named'), payee.unique payee'⟩

/-- One number of decimals is reported at most. -/
theorem Kit.Reports.unique {kit : Kit} {outside : Outside} {wire : Wire} {asset : Option TokenId}
    {decimals decimals' : UInt32} (reported : kit.Reports outside wire asset decimals)
    (reported' : kit.Reports outside wire asset decimals') : decimals = decimals' := by
  cases asset with
  | none =>
      cases reported
      cases reported'
      rfl
  | some token =>
      rw [reports_token_iff] at reported reported'
      exact Except.ok.inj (reported.symm.trans reported')

/-! ### Amounts given exactly -/

/-- The members give an amount as a string, or as an integer without a sign that fits 64
bits and stands for its digits. -/
inductive Parameters.GivesAmount (members : List (String × Json)) : String → Prop where
  | text {s : String} (stands : members.lookup "amount" = some (.string s)) :
      GivesAmount members s
  | integer {n : UInt64} (stands : members.lookup "amount" = some (.number (.natural n))) :
      GivesAmount members (String.ofList (Text.Numeral.digits n.toNat))

/-- The text that an amount is counted by is the one that is given. -/
theorem Parameters.GivesAmount.spelled {members : List (String × Json)} {amount text : String}
    {value : Json} (given : GivesAmount members amount)
    (stands : members.lookup "amount" = some value) (spelled : Spelled value text) :
    text = amount := by
  cases given with
  | text stands' =>
      cases stands.symm.trans stands'
      cases spelled
      rfl
  | integer stands' =>
      cases stands.symm.trans stands'
      cases spelled
      rfl

namespace LedgerTool

/-- A payment whose amount is a string or an integer conveys exactly the units that the amount
means at the decimal places of its asset, from the account that the kit acts for.  If it means
none, or more than there is room for, the call fails and no transaction is produced. -/
theorem conveys_call (tool : LedgerTool) (kit : Kit) (mode : Option Bool) (input : String)
    (outside : Outside) (journal : Journal) {raw : List (String × Json)} {amount : String}
    {asset : Option TokenId} {party : AccountId} {decimals : UInt32}
    (object : Json.parse (Text.trim input) = .ok (.object raw))
    (asks : Asks raw tool asset party) (given : Parameters.GivesAmount raw amount)
    (reported : kit.Reports outside journal.wire asset decimals)
    (clock : ∀ reading, (outside.clock reading).WithinSecond) :
    (∀ t, tool.Produces kit mode input outside journal t →
      ∃ units actor, Amount.Means amount decimals units ∧ kit.actor? mode = some actor ∧
        Body.Conveys actor.account party units tool asset t.body) ∧
    ((∀ units, Amount.Means amount decimals units → tool.room ≤ units) →
      tool.Fails kit mode input outside journal ∧
        ∀ t, ¬ tool.Produces kit mode input outside journal t) := by
  have conveyed : ∀ t, tool.Produces kit mode input outside journal t →
      ∃ units actor, Amount.Means amount decimals units ∧ kit.actor? mode = some actor ∧
        Body.Conveys actor.account party units tool asset t.body := by
    intro t produced
    obtain ⟨value, text, asset', party', decimals', units, actor, stands, spelled, asks',
      reported', means, acting, conveys⟩ :=
        conveys_of_produces (isPayment_of_asks asks) object clock produced
    obtain ⟨rfl, rfl⟩ := asks.unique asks'
    obtain rfl := reported.unique reported'
    obtain rfl := given.spelled stands spelled
    exact ⟨units, actor, means, acting, conveys⟩
  refine ⟨conveyed, fun none_fits => ?_⟩
  have unproduced : ∀ t, ¬ tool.Produces kit mode input outside journal t := by
    intro t produced
    obtain ⟨units, actor, means, acting, conveys⟩ := conveyed t produced
    exact absurd conveys.lt_room (Nat.not_lt.2 (none_fits units means))
  refine ⟨?_, unproduced⟩
  obtain ⟨t, produced⟩ | failing :=
    @produces_or_fails tool kit mode input outside journal
      (changing_of_isPayment (isPayment_of_asks asks)) clock
  · exact absurd produced (unproduced t)
  · exact failing

/-- The members of a reply about a token with two decimal places. -/
def roundMembers : List (String × Json) :=
  [("token_id", .string "0.0.5"), ("name", .string "Five"), ("symbol", .string "V"),
    ("decimals", .string "2")]

/-- A world in which every reply has these members. -/
def roundWorld : Outside where
  clock _ := ⟨0, 0⟩
  http _ _ := .reply 200 (Text.bytes (Json.object roundMembers).render)

theorem withinSecond_roundWorld (reading : Nat) : (roundWorld.clock reading).WithinSecond := by
  change Instant.WithinSecond ⟨0, 0⟩
  decide

/-- In that world two decimal places are reported of a token. -/
theorem reports_roundWorld {kit : Kit} (mirror : kit.mirror = MirrorNode.exposed) :
    kit.Reports roundWorld .empty (some ⟨0, 0, 5⟩) 2 := by
  have found : (MirrorNode.exposed.resolve
      s!"/api/v1/tokens/{(⟨0, 0, 5⟩ : TokenId).toText}").toOption.map Url.isRequestable =
        some true := by
    decide +kernel
  cases located : MirrorNode.exposed.resolve
      s!"/api/v1/tokens/{(⟨0, 0, 5⟩ : TokenId).toText}" with
  | error e =>
      rw [located] at found
      cases found
  | ok url =>
      rw [located] at found
      have answered : url.answer roundWorld [] =
          .reply 200 (Text.bytes (Json.object roundMembers).render) :=
        if_pos (Option.some.inj found)
      have said := Json.read_render (v := .object roundMembers)
        (by simp [roundMembers, Json.Fits, Json.MembersFit, Json.maxDepth])
      have keyed : (Json.object roundMembers).Keyed := by
        simp [roundMembers, Json.Keyed]
      have told : MirrorNode.TokenDetails.Told roundMembers
          ⟨⟨0, 0, 5⟩, "Five", "V", "2", none, none, none, none, none⟩ := {
        token := ⟨_, rfl, _, rfl, rfl⟩
        name := rfl
        symbol := rfl
        decimals := rfl
        tokenType := .inl rfl
        totalSupply := .inl rfl
        maxSupply := .inl rfl
        treasury := .inl rfl
        memo := .inl rfl }
      refine Kit.reports_some_iff.2 ⟨url, _, mirror ▸ located,
        (MirrorNode.fetched_tokenDetails_iff answered rfl keyed said).2 told, ?_⟩
      exact MirrorNode.TokenDetails.decimals_eq_ok_iff.1 rfl

/-- A kit that signs for its client's operator, with a mirror node that can be asked. -/
def served : Kit :=
  { Kit.operated with mirror := MirrorNode.exposed }

theorem actor?_served : served.actor? none = some Kit.operator :=
  Kit.actor?_eq_some_iff.2 (.inl ⟨rfl, _, _, rfl, rfl, rfl⟩)

/-- The members of an input that asks for a transfer of a token. -/
def tokenMembers : List (String × Json) :=
  [("amount", .string "2.5"), ("toAccountId", .string "0.0.5006"), ("tokenId", .string "0.0.5")]

theorem parse_tokenMembers :
    Json.parse (Text.trim (Json.object tokenMembers).render) = .ok (.object tokenMembers) := by
  have fits : Json.Fits Json.maxDepth (.object tokenMembers) := by
    simp [tokenMembers, Json.Fits, Json.MembersFit, Json.maxDepth]
  have solid : Text.trim (Json.object tokenMembers).render = (Json.object tokenMembers).render := by
    decide +kernel
  exact Json.parse_of_render solid fits rfl

/-- The kit makes a transaction of that input, once the token's decimals are known. -/
theorem exists_produces_served : ∃ t,
    LedgerTool.transferToken.Produces served none (Json.object tokenMembers).render roundWorld
      .empty t := by
  let prepare : Lookup Action := do
    let units ← (served.tokenUnits ⟨0, 0, 5⟩ "2.5").inLookup
    return .transferToken ⟨0, 0, 5⟩ ⟨0, 0, 5006⟩ units
  have asked : LedgerTool.transferToken.request served (Json.object tokenMembers).render =
      .ok (.change prepare) := by
    simp only [request, Parameters.read, Parameters.readWith,
      Parameters.given_of_parse parse_tokenMembers]
    rfl
  have units := tokenUnits_of_reports "2.5" (@reports_roundWorld served rfl)
  have settled : Ends roundWorld prepare.run .empty fun result _ =>
      result = .ok (.transferToken ⟨0, 0, 5⟩ ⟨0, 0, 5006⟩ 250) := by
    rw [ends_run_bind, Ends, fst_inLookup, units]
    rfl
  obtain ⟨t, produced, -⟩ := @produces_of_settled _ served none _ roundWorld .empty _ _ _ _
    asked settled actor?_served rfl (List.cons_ne_nil _ _) withinSecond_roundWorld
  exact ⟨t, produced⟩

theorem conveys_call_hbarAndToken :
    (∃ t, LedgerTool.transferHbar.Produces Kit.unoperated none
        "\x7b\"amount\":\"2.5\",\"toAccountId\":\"0.0.5006\"\x7d" Kit.cutOff .empty t ∧
      Body.Conveys Kit.unoperated.account ⟨0, 0, 5006⟩ 250000000 .transferHbar none t.body) ∧
    ∃ t, LedgerTool.transferToken.Produces served none (Json.object tokenMembers).render roundWorld
        .empty t ∧
      Body.Conveys Kit.operator.account ⟨0, 0, 5006⟩ 250 .transferToken (some ⟨0, 0, 5⟩)
        t.body := by
  constructor
  · let members : List (String × Json) :=
      [("amount", .string "2.5"), ("toAccountId", .string "0.0.5006")]
    have fits : Json.Fits Json.maxDepth (.object members) := by
      simp [members, Json.Fits, Json.MembersFit, Json.maxDepth]
    have object : Json.parse (Text.trim
        "\x7b\"amount\":\"2.5\",\"toAccountId\":\"0.0.5006\"\x7d") = .ok (.object members) :=
      Json.parse_of_render (by decide) fits rfl
    have asks : Asks members .transferHbar none ⟨0, 0, 5006⟩ := .hbarTransfer ⟨_, rfl, rfl⟩
    have asked : LedgerTool.transferHbar.request Kit.unoperated
        "\x7b\"amount\":\"2.5\",\"toAccountId\":\"0.0.5006\"\x7d" =
          .ok (.ofAction (.transferHbar ⟨0, 0, 5006⟩ ⟨250000000⟩)) := by
      simp only [request, Parameters.read, Parameters.readWith, Parameters.given_of_parse object]
      rfl
    obtain ⟨t, produced, -⟩ := @produces_of_settled _ Kit.unoperated none _ Kit.cutOff .empty _ _
      _ _ asked rfl rfl rfl (by decide) Kit.withinSecond_cutOff
    obtain ⟨units, actor, means, acting, conveys⟩ := (conveys_call .transferHbar Kit.unoperated
      none _ Kit.cutOff .empty object asks (.text rfl) .currency Kit.withinSecond_cutOff).1 _
      produced
    obtain rfl : Kit.unoperated.user = actor := Option.some.inj acting
    have counted : Amount.toBaseUnits "2.5" Amount.hbarDecimals = .ok 250000000 := rfl
    have meant : Amount.Means "2.5" Amount.hbarDecimals 250000000 :=
      Amount.toBaseUnits_eq_ok_iff.1 counted
    obtain rfl : units = 250000000 := means.unique meant
    exact ⟨_, produced, conveys⟩
  · have asks : Asks tokenMembers .transferToken (some ⟨0, 0, 5⟩) ⟨0, 0, 5006⟩ :=
      .tokenTransfer ⟨_, rfl, rfl⟩ ⟨_, rfl, rfl⟩
    have counted : Amount.toBaseUnits "2.5" 2 = .ok 250 := rfl
    obtain ⟨t, produced⟩ := exists_produces_served
    obtain ⟨units, actor, means, acting, conveys⟩ := (conveys_call .transferToken served none _
      roundWorld .empty parse_tokenMembers asks (.text rfl) (reports_roundWorld rfl)
      withinSecond_roundWorld).1 _ produced
    obtain rfl := Option.some.inj (actor?_served.symm.trans acting)
    obtain rfl : units = 250 := means.unique (Amount.toBaseUnits_eq_ok_iff.1 counted)
    exact ⟨t, produced, conveys⟩

end LedgerTool

end LedgerAgent
