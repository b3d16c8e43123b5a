/-
Module: LedgerAgent.Proofs.Tool.Airdrop
Purpose: An airdrop from its input to its transaction: what every recipient gets, what the mirror
  node is asked, and that one bad recipient spoils the whole airdrop.
Main exports: Parameters.Payee, Parameters.Portion, Parameters.Incomplete, Handout, Kit.payer?,
  LedgerTool.airdrop_call
-/
import LedgerAgent.Proofs.Movement
import LedgerAgent.Proofs.Tool.Conveyance
import LedgerAgent.Proofs.Tool.Display
import LedgerAgent.Proofs.Tool.Traffic

namespace LedgerAgent

open Json
open Parameters (Names)

/-! ### Recipients as they are given -/

namespace Parameters

/-- An item names the account that is to get something. -/
def Payee (item : Json) (account : AccountId) : Prop :=
  ∃ text, item.part? 2 0 "accountId" = some (.string text) ∧ EntityId.parse text = .ok account

/-- A value gives an amount exactly: a string as it stands, an integer without a sign that fits 64
bits by its digits. -/
inductive Exact : Json → String → Prop where
  | text (s : String) : Exact (.string s) s
  | integer (n : UInt64) :
      Exact (.number (.natural n)) (String.ofList (Text.Numeral.digits n.toNat))

/-- An item says exactly how much is to be got. -/
def Portion (item : Json) (amount : String) : Prop :=
  ∃ v, item.part? 2 1 "amount" = some v ∧ Exact v amount

/-- Where an item has an amount, that is given exactly. -/
def Portioned (item : Json) : Prop :=
  ∀ v, item.part? 2 1 "amount" = some v → v = .null ∨ ∃ amount, Exact v amount

/-- An item is of no use as a recipient: it names no account, or has no amount. -/
inductive Incomplete (item : Json) : Prop where
  | unnamed (nobody : ∀ account, ¬ Payee item account)
  | amountless (nothing : ∀ v, item.part? 2 1 "amount" = some v → v = .null)

/-- An item is decoded as a recipient, with or without an amount. -/
def Decodes (item : Json) (recipient : AccountId × Option String) : Prop :=
  LedgerTool.recipientDecoder .value item.toReading = .ok recipient

/-- What is wanted for an item: the account that it names, and its amount but for the white space
around it. -/
structure Wants (item : Json) (wanted : AccountId × String) : Prop where
  payee : Payee item wanted.1
  portion : ∃ amount, Portion item amount ∧
    Text.trimmed wanted.2.toList = Text.trimmed amount.toList

end Parameters

open Parameters (Payee Exact Portion Portioned Incomplete Decodes Wants)

/-- The transfers of an airdrop: for each item in order a debit of the payer and a credit of the
account that the item names, by exactly the units that its amount means. -/
inductive Handout (token : TokenId) (payer : AccountId) (decimals : UInt32) :
    List Json → List TokenTransfer → Prop where
  | nil : Handout token payer decimals [] []
  | cons {item : Json} {account : AccountId} {amount : String} {units : Nat} {debit credit : Int64}
      {items : List Json} {transfers : List TokenTransfer} (payee : Payee item account)
      (portion : Portion item amount) (means : Amount.Means amount decimals units)
      (taken : debit.toInt = -units) (given : credit.toInt = units)
      (rest : Handout token payer decimals items transfers) :
      Handout token payer decimals (item :: items)
        (⟨token, payer, debit⟩ :: ⟨token, account, credit⟩ :: transfers)

/-- Whose account pays for what a kit does in a mode: the client's operator's, or the kit's own. -/
def Kit.payer? (kit : Kit) (mode : Option Bool) : Option AccountId :=
  if mode.getD kit.custodial then kit.client.operatorAccount else some kit.account

/-! ### Reading them -/

namespace Parameters

variable {input : String} {raw : List (String × Json)} {item : Json}

/-- An amount that is given exactly is read as it is, but for the white space around it. -/
theorem decodeAmount_of_exact {v : Json} {text : String} (exact : Exact v text) :
    ∃ amount, decodeAmount .value v.toReading = .ok (some amount) ∧
      Text.trimmed amount.toList = Text.trimmed text.toList := by
  cases exact with
  | text =>
      refine ⟨Text.trim text, rfl, ?_⟩
      exact Text.trimmed_trim _
  | integer n => exact ⟨_, rfl, rfl⟩

/-- A recipient is read exactly of an item with an account and an amount. -/
theorem decodes_iff (keyed : item.Keyed) {account : AccountId} {amount : String} :
    Decodes item (account, some amount) ↔
      Payee item account ∧ ∃ v, item.part? 2 1 "amount" = some v ∧
        decodeAmount .value v.toReading = .ok (some amount) := by
  rw [Decodes, decodeRecipient_eq_ok_iff keyed]
  constructor
  · rintro ⟨⟨v, stands, decoded⟩, ⟨-, ⟨⟩⟩ | counted⟩
    obtain ⟨text, rfl, parsed⟩ := EntityId.string_of_decode decoded
    exact ⟨⟨text, stands, parsed⟩, counted⟩
  · rintro ⟨⟨text, stands, parsed⟩, counted⟩
    exact ⟨⟨_, stands, reads_via parsed .value⟩, .inr counted⟩

/-- A recipient that is read is the one that is wanted. -/
theorem wants_of_decodes {wanted : AccountId × String} (keyed : item.Keyed)
    (portioned : Portioned item)
    (decoded : Decodes item (wanted.1, some wanted.2)) : Wants item wanted := by
  obtain ⟨payee, v, stands, counted⟩ := (decodes_iff keyed).1 decoded
  obtain rfl | ⟨amount, exact⟩ := portioned v stands
  · cases counted
  · obtain ⟨_, counted', same⟩ := decodeAmount_of_exact exact
    cases counted.symm.trans counted'
    exact ⟨payee, amount, ⟨v, stands, exact⟩, same⟩

/-- An item is read as a recipient with an amount exactly if it is complete. -/
theorem exists_decodes_iff (keyed : item.Keyed) (portioned : Portioned item) :
    (∃ wanted : AccountId × String, Decodes item (wanted.1, some wanted.2)) ↔
      ¬ Incomplete item := by
  constructor
  · rintro ⟨wanted, decoded⟩ incomplete
    obtain ⟨payee, v, stands, counted⟩ := (decodes_iff keyed).1 decoded
    cases incomplete with
    | unnamed nobody => exact nobody _ payee
    | amountless nothing =>
        cases nothing v stands
        cases counted
  · intro complete
    obtain ⟨account, payee⟩ : ∃ account, Payee item account := by
      by_contra nobody
      exact complete (.unnamed (not_exists.1 nobody))
    obtain ⟨v, stands, something⟩ : ∃ v, item.part? 2 1 "amount" = some v ∧ v ≠ .null := by
      by_contra nothing
      refine complete (.amountless fun v stands => ?_)
      by_contra something
      exact nothing ⟨v, stands, something⟩
    obtain ⟨amount, exact⟩ := (portioned v stands).resolve_left something
    obtain ⟨amount, counted, -⟩ := decodeAmount_of_exact exact
    exact ⟨(account, amount), (decodes_iff keyed).2 ⟨payee, v, stands, counted⟩⟩

/-- Recipients all have an amount exactly if they are what somebody wants. -/
theorem mapM_needed_eq_ok_iff {recipients : List (AccountId × Option String)}
    {wanted : List (AccountId × String)} :
    (recipients.mapM fun (account, amount) =>
      (needed "amount" amount).map fun amount => (account, amount)) = .ok wanted ↔
      recipients = wanted.map fun w => (w.1, some w.2) := by
  rw [mapM_eq_ok, ← List.forall₂_eq_eq_eq, List.forall₂_map_right_iff]
  refine iff_of_eq (congrArg (List.Forall₂ · recipients wanted) ?_)
  funext ⟨account, amount⟩ w
  cases amount with
  | none => simp [needed, Except.map]
  | some amount => simp [needed, Except.map, Prod.ext_iff]

/-- A member that names an entity counts. -/
theorem lookup_of_names {kind : EntityKind} {members : List (String × Json)} {key : String}
    {id : EntityId kind} (object : Json.parse (Text.trim input) = .ok (.object raw))
    (counted : given input = .ok members) (names : Names raw key id) :
    ∃ text, members.lookup key = some (.string text) ∧ EntityId.parse text = .ok id := by
  have given : (raw.lookup key).filter isGiven ≠ none := names.not_lacks
  obtain ⟨text, stands, parsed⟩ := names
  refine ⟨text, ?_, parsed⟩
  rw [lookup_of_given object counted]
  rw [stands, Option.filter_some] at given ⊢
  split
  · rfl
  · exact absurd (if_neg ‹_›) given

/-- An airdrop is read of a token and of the recipients in all items. -/
theorem airdropParameters_eq_ok_iff {token token' : TokenId} {items : List Json}
    {wanted : List (AccountId × String)}
    (object : Json.parse (Text.trim input) = .ok (.object raw)) (named : Names raw "tokenId" token)
    (listed : raw.lookup "recipients" = some (.array items)) (nonempty : items ≠ []) :
    LedgerTool.airdropParameters input = .ok (token', wanted) ↔
      token' = token ∧
        List.Forall₂ (fun item w => Decodes item (w.1, some w.2)) items wanted := by
  have counted := given_of_parse object
  have entries : (raw.filter fun m => isGiven m.2).lookup "recipients" = some (.array items) := by
    rw [lookup_of_given object counted, listed]
    rfl
  have filled {recipients : List (AccountId × Option String)}
      (each : List.Forall₂ Decodes items recipients) : ¬ recipients.isEmpty = true := by
    intro empty
    rw [List.isEmpty_iff] at empty
    rw [empty, List.forall₂_nil_right_iff] at each
    exact nonempty each
  rw [LedgerTool.airdropParameters, bind_eq_ok]
  constructor
  · rintro ⟨⟨token'', recipients⟩, read, made⟩
    dsimp only at made
    obtain ⟨members, counted', first, second⟩ := read_pair_eq_ok_iff.1 read
    cases counted.symm.trans counted'
    obtain rfl := named.unique (names_of_field object counted first)
    obtain ⟨nothing, -⟩ | ⟨v, stands, decoded⟩ := Fields.field_eq_ok second
    · cases entries.symm.trans nothing
    · cases entries.symm.trans stands
      have each : List.Forall₂ Decodes items recipients := decodeList_iff.1 decoded
      rw [if_neg (filled each)] at made
      obtain ⟨_, needed, ⟨⟩⟩ := bind_eq_ok.1 made
      obtain rfl := mapM_needed_eq_ok_iff.1 needed
      exact ⟨rfl, List.forall₂_map_right_iff.1 each⟩
  · rintro ⟨rfl, each⟩
    obtain ⟨text, stands, parsed⟩ := lookup_of_names object counted named
    have keyed : Keyed (.object (raw.filter fun m => isGiven m.2)) :=
      (nodup_of_parse object).sublist (List.filter_sublist.map Prod.fst)
    have each := List.forall₂_map_right_iff.2 each
    refine ⟨(token', wanted.map fun w => (w.1, some w.2)),
      read_pair_eq_ok_iff.2 ⟨_, counted, ?_, ?_⟩, ?_⟩
    · rw [LedgerTool.tokenField, Fields.required]
      exact (Fields.field_value_iff keyed rfl).2 (.inr ⟨_, stands, reads_via parsed .value⟩)
    · exact (Fields.field_value_iff keyed rfl).2
        (.inr ⟨_, entries, decodeList_iff.2 each⟩)
    · dsimp only
      rw [if_neg (filled each)]
      exact bind_eq_ok.2 ⟨wanted, mapM_needed_eq_ok_iff.2 rfl, rfl⟩

end Parameters

/-! ### Handing them out -/

/-- Counted recipients get what is wanted for them, in base units. -/
theorem LedgerTool.airdropRecipients_eq_ok_iff {decimals : UInt32}
    {wanted : List (AccountId × String)} {recipients : List AirdropRecipient} :
    airdropRecipients decimals wanted = .ok recipients ↔
      List.Forall₂ (fun w recipient => recipient.account = w.1 ∧
        Amount.toBaseUnits w.2 decimals = .ok recipient.amount) wanted recipients := by
  rw [airdropRecipients, mapM_eq_ok]
  refine iff_of_eq (congrArg (List.Forall₂ · wanted recipients) ?_)
  funext ⟨account, amount⟩ ⟨account', units⟩
  dsimp only
  cases Amount.toBaseUnits amount decimals with
  | error e => simp
  | ok units => simp [eq_comm]

/-- The signed shares of counted recipients are handed out as the items ask. -/
theorem handout_of_shares {token : TokenId} {payer : AccountId} {decimals : UInt32}
    {items : List Json} {wanted : List (AccountId × String)} {recipients : List AirdropRecipient}
    {shares : List (AccountId × Int64)} (wants : List.Forall₂ Wants items wanted)
    (counted : List.Forall₂ (fun w recipient => recipient.account = w.1 ∧
      Amount.toBaseUnits w.2 decimals = .ok recipient.amount) wanted recipients)
    (signed : List.Forall₂ Signs (recipients.map fun r => (r.account, r.amount)) shares) :
    Handout token payer decimals items
      ((handing payer shares).map fun move => ⟨token, move.1, move.2⟩) := by
  induction wants generalizing recipients shares with
  | nil =>
      cases counted
      cases signed
      exact .nil
  | cons wants _ inductionHypothesis =>
      obtain ⟨payee, amount, portion, same⟩ := wants
      cases counted with
      | cons counts counted =>
          cases signed with
          | cons signs signed =>
              obtain ⟨named, units⟩ := counts
              obtain ⟨credited, narrowed⟩ := signs
              have ⟨debit, credit⟩ := Amount.neg_of_toSigned narrowed
              rw [Amount.toBaseUnits_congr decimals same] at units
              rw [handing_cons, List.map_cons, List.map_cons, credited.trans named]
              exact .cons payee portion (Amount.toBaseUnits_eq_ok_iff.1 units) debit credit
                (inductionHypothesis counted signed)

/-- Whatever is handed out has an amount that fits a signed number, for every item. -/
theorem Handout.fits {token : TokenId} {payer : AccountId} {decimals : UInt32} {items : List Json}
    {transfers : List TokenTransfer} (handout : Handout token payer decimals items transfers) :
    ∀ item ∈ items, ∃ amount units, Portion item amount ∧ Amount.Means amount decimals units ∧
      units < 2 ^ 63 := by
  induction handout with
  | nil => exact nofun
  | @cons _ _ _ _ _ credit _ _ _ portion means _ given _ inductionHypothesis =>
      have bound := credit.toInt_lt
      exact List.forall_mem_cons.2 ⟨⟨_, _, portion, means, by omega⟩, inductionHypothesis⟩

/-- Whomever a kit acts for pays. -/
theorem Kit.payer?_of_actor {kit : Kit} {mode : Option Bool} {actor : Actor}
    (acting : kit.actor? mode = some actor) : kit.payer? mode = some actor.account := by
  rw [actor?] at acting
  rw [payer?]
  split at acting
  · rw [if_pos ‹_›]
    exact payer_of_operator acting
  · rw [if_neg ‹_›]
    exact congrArg some (congrArg Actor.account (Option.some.inj acting))

/-! ### What the mirror node is asked -/

/-- Whoever gets to know a token's decimals has asked for the token's details, once. -/
theorem Kit.requests_tokenDecimals {kit : Kit} {outside : Outside} {wire : Wire} {token : TokenId}
    {decimals : UInt32} (reported : kit.Reports outside wire (some token) decimals) :
    ∃ url, kit.mirror.resolve s!"/api/v1/tokens/{token.toText}" = .ok url ∧
      ((kit.tokenDecimals token).run outside wire).2.requests = url.request :: wire.requests := by
  cases reported with
  | @token _ url _ _ located read numeric =>
      have requestable : url.isRequestable = true := by
        by_contra unasked
        rw [MirrorNode.fetched, Url.answer, if_neg unasked] at read
        cases read
      have asked := (kit.ends_tokenDecimals token outside wire).2 url located
      exact ⟨url, located, asked.trans (if_pos requestable)⟩

namespace LedgerTool

variable {kit : Kit} {mode : Option Bool} {input : String} {outside : Outside} {wire : Wire}

/-- What settles an airdrop: the decimals of its token, and the units of all its recipients. -/
def airdropping (kit : Kit) (token : TokenId) (wanted : List (AccountId × String)) :
    Lookup Action := do
  let decimals ← (kit.tokenDecimals token).inLookup
  let recipients ← ExceptT.mk (return airdropRecipients decimals wanted)
  return .airdropToken token recipients

/-- An airdrop is asked for exactly by the input that it is read of. -/
theorem request_airdropToken_iff {request : Request} :
    LedgerTool.airdropToken.request kit input = .ok request ↔
      ∃ token wanted, airdropParameters input = .ok (token, wanted) ∧
        request = .change (airdropping kit token wanted) := by
  refine bind_eq_ok.trans ⟨?_, ?_⟩
  · rintro ⟨⟨token, wanted⟩, read, ⟨⟩⟩
    exact ⟨token, wanted, read, rfl⟩
  · rintro ⟨token, wanted, read, rfl⟩
    exact ⟨(token, wanted), read, rfl⟩

/-- An airdrop is a change, however its input reads. -/
theorem changing_airdropToken (question : Lookup Json) :
    LedgerTool.airdropToken.request kit input ≠ .ok (.question question) := by
  intro asked
  obtain ⟨token, wanted, -, other⟩ := request_airdropToken_iff.1 asked
  cases other

/-- An airdrop is settled for the recipients that are counted with the token's decimals, and these
are all that is asked for. -/
theorem ends_airdropping {token : TokenId} {wanted : List (AccountId × String)}
    {decimals : UInt32} (reported : kit.Reports outside wire (some token) decimals) :
    Ends outside (airdropping kit token wanted).run wire fun result after =>
      result = (airdropRecipients decimals wanted).map (Action.airdropToken token) ∧
        after.requests = ((kit.tokenDecimals token).run outside wire).2.requests := by
  have told : ((kit.tokenDecimals token).inLookup.run outside wire).1 = .ok decimals := by
    rw [fst_inLookup, mapError_eq_ok, ← Kit.reports_token_iff]
    exact reported
  rw [airdropping, ends_run_bind, Ends, told, snd_inLookup]
  dsimp only
  rw [ends_run_bind, ExceptT.run_mk, ends_pure]
  cases airdropRecipients decimals wanted with
  | error e => exact ⟨rfl, rfl⟩
  | ok recipients =>
      dsimp only
      rw [ExceptT.run_pure, ends_pure]
      exact ⟨rfl, rfl⟩

section

variable {raw : List (String × Json)} {token : TokenId} {items : List Json} {decimals : UInt32}
  (object : Json.parse (Text.trim input) = .ok (.object raw)) (named : Names raw "tokenId" token)
  (listed : raw.lookup "recipients" = some (.array items)) (nonempty : items ≠ [])
  (portioned : ∀ item ∈ items, Portioned item)

include object listed in
/-- No key stands twice in an item of a list that was read. -/
theorem keyed_of_listed : ∀ item ∈ items, item.Keyed :=
  fun _ among => (((wasRead_of_parse object).of_lookup listed).of_mem among).keyed

include object named listed nonempty portioned

/-- Input with an incomplete recipient asks for nothing. -/
theorem request_of_incomplete (incomplete : ∃ item ∈ items, Incomplete item) :
    ∃ e, LedgerTool.airdropToken.request kit input = .error e := by
  cases asked : LedgerTool.airdropToken.request kit input with
  | error e => exact ⟨e, rfl⟩
  | ok request =>
      obtain ⟨item, among, incomplete⟩ := incomplete
      obtain ⟨_, wanted, read, -⟩ := request_airdropToken_iff.1 asked
      obtain ⟨-, each⟩ :=
        (Parameters.airdropParameters_eq_ok_iff object named listed nonempty).1 read
      obtain ⟨w, -, decoded⟩ := exists_of_mem_left each among
      have keyed := keyed_of_listed object listed item among
      exact absurd incomplete
        ((Parameters.exists_decodes_iff keyed (portioned item among)).1 ⟨w, decoded⟩)

/-- Input with complete recipients asks for the airdrop to all of them. -/
theorem request_of_complete (complete : ∀ item ∈ items, ¬ Incomplete item) :
    ∃ wanted, LedgerTool.airdropToken.request kit input =
      .ok (.change (airdropping kit token wanted)) := by
  obtain ⟨wanted, each⟩ := exists_forall₂ fun item among =>
    (Parameters.exists_decodes_iff (keyed_of_listed object listed item among)
      (portioned item among)).2 (complete item among)
  exact ⟨wanted, request_airdropToken_iff.2 ⟨token, wanted,
    (Parameters.airdropParameters_eq_ok_iff object named listed nonempty).2 ⟨rfl, each⟩, rfl⟩⟩

/-- Whatever an airdrop produces hands out what its items ask for. -/
theorem handout_of_produces {journal : Journal} {t : Transaction}
    (reported : kit.Reports outside journal.wire (some token) decimals)
    (clock : ∀ reading, (outside.clock reading).WithinSecond)
    (produced : LedgerTool.airdropToken.Produces kit mode input outside journal t) :
    ∃ payer transfers, kit.payer? mode = some payer ∧ t.body = .tokenAirdrop transfers ∧
      Handout token payer decimals items transfers := by
  obtain ⟨prepare, action, actor, i, asked, settled, acting, made, body⟩ :=
    exists_of_produces changing_airdropToken clock produced
  obtain ⟨token', wanted, read, same⟩ := request_airdropToken_iff.1 asked
  obtain rfl := Request.change.inj same
  obtain ⟨rfl, each⟩ := (Parameters.airdropParameters_eq_ok_iff object named listed nonempty).1 read
  obtain ⟨recipients, counted, rfl⟩ :=
    map_eq_ok.1 ((ends_airdropping reported).1.symm.trans settled)
  obtain ⟨shares, shared, -, handed⟩ :=
    Transfer.handing_of_instruction? (t := .airdrop token' recipients actor.account) made
  have wants : List.Forall₂ Wants items wanted := by
    have both := (List.forall₂_and_left items wanted).2 ⟨fun item among =>
      And.intro (keyed_of_listed object listed item among) (portioned item among), each⟩
    refine both.imp ?_
    rintro item w ⟨⟨keyed, portioned⟩, decoded⟩
    exact Parameters.wants_of_decodes keyed portioned decoded
  exact ⟨actor.account, _, Kit.payer?_of_actor acting, body.trans handed,
    handout_of_shares wants (airdropRecipients_eq_ok_iff.1 counted) (sharesOf_eq_ok.1 shared)⟩

end

/-- An airdrop of a named token to a list of recipients, whose amounts are strings or integers.  If
one of them lacks an account or an amount, the call fails and nothing is asked for.  If none does,
the mirror node is asked for the token's details, once, and only a client's exchanges follow.  What
is produced is an airdrop that hands out to each recipient in order, from the account that pays,
exactly the units that the amount means at the token's decimals; a call that does not fail produces
one.  If a single amount means no units, or more than a signed number holds, the whole call fails
and no transaction is produced. -/
theorem airdrop_call (kit : Kit) (mode : Option Bool) (input : String) (outside : Outside)
    (journal : Journal) {raw : List (String × Json)} {token : TokenId} {items : List Json}
    {decimals : UInt32} (object : Json.parse (Text.trim input) = .ok (.object raw))
    (named : Names raw "tokenId" token)
    (listed : raw.lookup "recipients" = some (.array items)) (nonempty : items ≠ [])
    (portioned : ∀ item ∈ items, Portioned item)
    (reported : kit.Reports outside journal.wire (some token) decimals)
    (clock : ∀ reading, (outside.clock reading).WithinSecond) :
    let produces := LedgerTool.airdropToken.Produces kit mode input outside journal
    let fails := LedgerTool.airdropToken.Fails kit mode input outside journal
    ((∃ item ∈ items, Incomplete item) → fails ∧ (∀ t, ¬ produces t) ∧
      Ends outside (LedgerTool.airdropToken.call kit mode input) journal fun _ after =>
        after.wire.requests = journal.wire.requests) ∧
    ((∀ item ∈ items, ¬ Incomplete item) →
      ∃ url, kit.mirror.resolve s!"/api/v1/tokens/{token.toText}" = .ok url ∧
        Ends outside (LedgerTool.airdropToken.call kit mode input) journal fun _ after =>
          kit.Traffic mode outside (⟨.get, url.requested, none⟩ :: journal.wire.requests) after) ∧
    (∀ t, produces t → ∃ payer transfers, kit.payer? mode = some payer ∧
      t.body = .tokenAirdrop transfers ∧ Handout token payer decimals items transfers) ∧
    (¬ fails → ∃! t, produces t) ∧
    ((∃ item ∈ items, ∀ amount units, Portion item amount → Amount.Means amount decimals units →
        2 ^ 63 ≤ units) → fails ∧ ∀ t, ¬ produces t) := by
  intro produces fails
  have handed : ∀ t, produces t → _ := fun t =>
    handout_of_produces object named listed nonempty portioned reported clock
  refine ⟨?_, ?_, handed, ?_, ?_⟩
  · intro incomplete
    obtain ⟨e, misread⟩ :=
      @request_of_incomplete kit input _ _ _ object named listed nonempty portioned incomplete
    have unproduced : ∀ t, ¬ produces t := by
      intro t produced
      obtain ⟨_, _, _, _, asked, -⟩ := exists_of_produces changing_airdropToken clock produced
      cases misread.symm.trans asked
    exact ⟨fails_of_unproduced changing_airdropToken clock unproduced, unproduced,
      requests_call_misasked misread⟩
  · intro complete
    obtain ⟨wanted, asked⟩ :=
      @request_of_complete kit input _ _ _ object named listed nonempty portioned complete
    obtain ⟨url, resolved, told⟩ := Kit.requests_tokenDecimals reported
    refine ⟨url, resolved, (traffic_call asked).mono fun _ after traffic => ?_⟩
    rw [(ends_airdropping reported).2, told] at traffic
    exact traffic
  · intro good
    obtain ⟨t, produced⟩ := (produces_or_fails changing_airdropToken clock).resolve_right good
    exact ⟨t, produced, fun t' produced' =>
      produces_unique changing_airdropToken clock produced' produced⟩
  · rintro ⟨item, among, spoilt⟩
    have unproduced : ∀ t, ¬ produces t := by
      intro t produced
      obtain ⟨payer, transfers, -, -, handout⟩ := handed t produced
      obtain ⟨amount, units, portion, means, fits⟩ := handout.fits item among
      exact absurd (spoilt amount units portion means) (Nat.not_le.2 fits)
    exact ⟨fails_of_unproduced changing_airdropToken clock unproduced, unproduced⟩

/-- Two recipients, one with a decimal and one with an integer. -/
def twoRecipients : List Json :=
  [.object [("accountId", .string "0.0.5006"), ("amount", .string "2.5")],
    .object [("accountId", .string "0.0.5007"), ("amount", .number (.natural 7))]]

/-- The input that asks for an airdrop to both. -/
def twoInput : String :=
  "\x7b\"recipients\":[\x7b\"accountId\":\"0.0.5006\",\"amount\":\"2.5\"\x7d," ++
    "\x7b\"accountId\":\"0.0.5007\",\"amount\":7\x7d],\"tokenId\":\"0.0.5\"\x7d"

theorem airdrop_call_two :
    (∃ t transfers, LedgerTool.airdropToken.Produces informed none twoInput roundWorld .empty t ∧
      t.body = .tokenAirdrop transfers ∧
      Handout ⟨0, 0, 5⟩ informed.account 2 twoRecipients transfers) ∧
    ∃ t transfers, LedgerTool.airdropToken.Produces served none twoInput roundWorld .empty t ∧
      t.body = .tokenAirdrop transfers ∧
      Handout ⟨0, 0, 5⟩ Kit.operator.account 2 twoRecipients transfers := by
  let members : List (String × Json) :=
    [("recipients", .array twoRecipients), ("tokenId", .string "0.0.5")]
  have written : Text.trim twoInput = (Json.object members).render := by decide +kernel
  have object : Json.parse (Text.trim twoInput) = .ok (.object members) := by
    have fits : Fits maxDepth (.object members) := by
      simp [members, twoRecipients, Fits, ItemsFit, MembersFit, Number.Integral, maxDepth]
    exact Json.parse_of_render written fits rfl
  have named : Names members "tokenId" (⟨0, 0, 5⟩ : TokenId) := ⟨_, rfl, rfl⟩
  have listed : members.lookup "recipients" = some (.array twoRecipients) := rfl
  have nonempty : twoRecipients ≠ [] := List.cons_ne_nil _ _
  have portioned : ∀ item ∈ twoRecipients, Portioned item := by
    refine List.forall_mem_cons.2
      ⟨fun v stands => ?_, List.forall_mem_singleton.2 fun v stands => ?_⟩
    · obtain rfl : v = .string "2.5" := Option.some.inj (stands.symm.trans rfl)
      exact .inr ⟨_, .text _⟩
    · obtain rfl : v = .number (.natural 7) := Option.some.inj (stands.symm.trans rfl)
      exact .inr ⟨_, .integer _⟩
  let wanted : List (AccountId × String) := [(⟨0, 0, 5006⟩, "2.5"), (⟨0, 0, 5007⟩, "7")]
  have each : List.Forall₂ (fun item w => Decodes item (w.1, some w.2)) twoRecipients wanted :=
    .cons rfl (.cons rfl .nil)
  -- The user pays where somebody else has to sign, and the operator where its client signs.
  have handed_by : ∀ kit actor, kit.mirror = MirrorNode.exposed → kit.actor? none = some actor →
      kit.client.nodes ≠ [] → ∃ t transfers,
        LedgerTool.airdropToken.Produces kit none twoInput roundWorld .empty t ∧
          t.body = .tokenAirdrop transfers ∧
          Handout ⟨0, 0, 5⟩ actor.account 2 twoRecipients transfers := by
    intro kit actor mirror acting nodes
    have reported : kit.Reports roundWorld .empty (some ⟨0, 0, 5⟩) 2 := reports_roundWorld mirror
    have asked : LedgerTool.airdropToken.request kit twoInput =
        .ok (.change (airdropping kit ⟨0, 0, 5⟩ wanted)) :=
      request_airdropToken_iff.2 ⟨_, wanted,
        (Parameters.airdropParameters_eq_ok_iff object named listed nonempty).2 ⟨rfl, each⟩, rfl⟩
    have settled : ((airdropping kit ⟨0, 0, 5⟩ wanted).run roundWorld Wire.empty).1 =
        .ok (.airdropToken ⟨0, 0, 5⟩ [⟨⟨0, 0, 5006⟩, 250⟩, ⟨⟨0, 0, 5007⟩, 700⟩]) :=
      (ends_airdropping reported).1
    obtain ⟨t, produced, -⟩ := @produces_of_settled _ kit none _ roundWorld .empty _ _ _ _
      asked settled acting rfl nodes withinSecond_roundWorld
    obtain ⟨-, -, handed, -⟩ := airdrop_call kit none twoInput roundWorld .empty object named
      listed nonempty portioned reported withinSecond_roundWorld
    obtain ⟨payer, transfers, paid, body, handout⟩ := handed t produced
    obtain rfl := Option.some.inj ((Kit.payer?_of_actor acting).symm.trans paid)
    exact ⟨t, transfers, produced, body, handout⟩
  exact ⟨handed_by informed informed.user rfl rfl (List.cons_ne_nil _ _),
    handed_by served Kit.operator rfl actor?_served (List.cons_ne_nil _ _)⟩

end LedgerTool

end LedgerAgent
