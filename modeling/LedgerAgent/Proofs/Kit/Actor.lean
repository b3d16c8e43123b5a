/-
Module: LedgerAgent.Proofs.Kit.Actor
Purpose: Whatever a kit does, it does for the account and with the key that it acts for.
Main exports: Body.ownAccounts, Body.keys, Transaction.IsFor, Action.isFor_instruction,
  Kit.perform_isFor
-/
import LedgerAgent.Proofs.Amount
import LedgerAgent.Proofs.Json.Decoding
import LedgerAgent.Proofs.Kit.Perform

namespace LedgerAgent

open Json (bind_eq_ok exists_of_mem_right map_eq_ok mapError_eq_ok mapM_eq_ok)

/-! ### Whose transaction it is -/

/-- The accounts that moves take from.  Moves come in pairs of a debit and a credit; a
credit below zero takes too. -/
def debited : List (AccountId × Int64) → List AccountId
  | [] => []
  | [(account, _)] => [account]
  | (account, _) :: (other, amount) :: rest =>
    account :: ((if amount < 0 then [other] else []) ++ debited rest)

namespace Body

/-- The accounts that pay, own or get what a body is about. -/
def ownAccounts : Body → List AccountId
  | .topicCreate .. | .topicDelete .. | .topicMessageSubmit .. | .tokenMint .. => []
  | .cryptoTransfer hbar tokens =>
    debited (hbar.map fun t => (t.account, t.amount)) ++
      debited (tokens.map fun t => (t.account, t.amount))
  | .tokenCreate token => [token.treasury]
  | .tokenAssociate account _ | .tokenDissociate account _ => [account]
  | .tokenAirdrop transfers => debited (transfers.map fun t => (t.account, t.amount))
  | .tokenClaimAirdrop airdrops => airdrops.map PendingAirdropId.receiver
  | .tokenReject owner _ => [owner]
  | .approveAllowance hbar tokens =>
    hbar.map HbarAllowance.owner ++ tokens.map TokenAllowance.owner

/-- The keys that a body sets. -/
def keys : Body → List PublicKey
  | .topicCreate _ adminKey submitKey => adminKey.toList ++ submitKey.toList
  | .tokenCreate token =>
    token.adminKey.toList ++ token.supplyKey.toList ++ token.metadataKey.toList
  | _ => []

/-- A body that takes, owns and gets for the actor alone, and sets no key but the actor's. -/
structure IsFor (body : Body) (actor : Actor) : Prop where
  own : ∀ account ∈ body.ownAccounts, account = actor.account
  keyed : ∀ key ∈ body.keys, key = actor.publicKey

end Body

/-- A transaction that the actor pays for, with a body for the actor. -/
structure Transaction.IsFor (t : Transaction) (actor : Actor) : Prop where
  paid : ∃ id, t.id = some id ∧ id.account = actor.account
  body : t.body.IsFor actor

/-- A token is moved at the expense of the payer alone. -/
theorem debited_tokenMove {token : TokenId} {payer account : AccountId} {amount : Int64}
    (credit : ¬ amount < 0) (rest : List (AccountId × Int64)) :
    debited ((Instruction.tokenMove token payer account amount).map
      (fun t => (t.account, t.amount)) ++ rest) = payer :: debited rest := by
  simp [Instruction.tokenMove, debited, credit]

/-- What is moved is no debt. -/
theorem Amount.not_neg_of_toSigned {units : UInt64} {n : Int64}
    (signed : Amount.toSigned units = .ok n) : ¬ n < 0 := by
  have value := (Amount.toSigned_eq_ok_iff.1 signed).2
  rw [Int64.lt_iff_toInt_lt, value]
  exact Int.not_lt.2 (Int.natCast_nonneg _)

namespace Instruction

/-- The accounts of an airdrop's body are debited once for each destination. -/
theorem debited_airdrop {token : TokenId} {payer : AccountId}
    {shares : List (AccountId × Int64)} (credits : ∀ share ∈ shares, ¬ share.2 < 0) :
    debited ((shares.flatMap fun (account, amount) => tokenMove token payer account amount).map
      fun t => (t.account, t.amount)) = List.replicate shares.length payer := by
  induction shares with
  | nil => rfl
  | cons share shares inductionHypothesis =>
      rw [List.forall_mem_cons] at credits
      rw [List.flatMap_cons, List.map_append, debited_tokenMove credits.1,
        inductionHypothesis credits.2]
      rfl

/-- Nobody's share of an airdrop is negative. -/
theorem not_neg_of_mem_shares {recipients : List AirdropRecipient}
    {shares : List (AccountId × Int64)} (shared : Instruction.shares recipients = .ok shares) :
    ∀ share ∈ shares, ¬ share.2 < 0 := by
  intro share among
  obtain ⟨recipient, -, made⟩ := exists_of_mem_right (mapM_eq_ok.1 shared) among
  obtain ⟨n, signed, rfl⟩ := map_eq_ok.1 made
  exact Amount.not_neg_of_toSigned signed

end Instruction

/-- Every key of a new token is the one key that it was asked for with. -/
theorem TokenOptions.eq_of_mem_keys {options : TokenOptions} {key : PublicKey}
    {treasury : AccountId} :
    ∀ k ∈ (Body.tokenCreate (options.creation key treasury)).keys, k = key := by
  have one : ∀ wished : Bool, ∀ k ∈ (if wished then some key else none : Option PublicKey).toList,
      k = key := by
    rintro (_ | _) k among
    · cases among
    · exact List.mem_singleton.1 among
  intro k among
  rw [Body.keys, List.mem_append, List.mem_append] at among
  obtain (admin | supply) | metadata := among
  · exact one _ k admin
  · exact one _ k supply
  · exact one _ k metadata

namespace Action

/-- The instruction that an action is for an actor is for the actor in all its parts. -/
theorem isFor_instruction {action : Action} {actor : Actor} {i : Instruction}
    (settled : action.instruction actor = .ok i) : i.body.IsFor actor := by
  cases action with
  | createTopic memo hasSubmitKey =>
      cases settled
      refine ⟨nofun, ?_⟩
      cases hasSubmitKey <;> simp [Instruction.body, Body.keys]
  | deleteTopic | submitTopicMessage | mintToken | mintNft =>
      cases settled
      exact ⟨nofun, nofun⟩
  | transferHbar recipient amount =>
      obtain ⟨n, signed, rfl⟩ := map_eq_ok.1 settled
      exact ⟨by simp [Instruction.body, Body.ownAccounts, Instruction.hbarMove, debited,
        Amount.not_neg_of_toSigned signed], nofun⟩
  | createFungibleToken options | createNonFungibleToken options =>
      cases settled
      exact ⟨by simp [Instruction.body, Body.ownAccounts, TokenOptions.creation],
        TokenOptions.eq_of_mem_keys⟩
  | transferToken token recipient amount =>
      obtain ⟨n, signed, rfl⟩ := map_eq_ok.1 settled
      exact ⟨by simp [Instruction.body, Body.ownAccounts, Instruction.tokenMove, debited,
        Amount.not_neg_of_toSigned signed], nofun⟩
  | associateToken | dissociateToken | rejectToken =>
      cases settled
      exact ⟨by simp [Instruction.body, Body.ownAccounts], nofun⟩
  | airdropToken token recipients =>
      obtain ⟨shares, shared, rfl⟩ := map_eq_ok.1 settled
      refine ⟨fun account own => ?_, nofun⟩
      rw [Instruction.body, Body.ownAccounts,
        Instruction.debited_airdrop (Instruction.not_neg_of_mem_shares shared)] at own
      exact List.eq_of_mem_replicate own
  | claimAirdrop token sender =>
      cases settled
      exact ⟨by simp [Instruction.body, Body.ownAccounts], nofun⟩
  | approveAllowance spender amount token =>
      cases settled
      cases token <;> exact ⟨by simp [Instruction.body, Body.ownAccounts], nofun⟩

end Action

/-! ### Whose transaction comes of it -/

/-- Freezing an open transaction without an identity puts the source's payer in, and keeps
the body. -/
theorem Transaction.isFor_freeze {t : Transaction} {source : FreezeSource} {now : Instant}
    {actor : Actor} (opened : t.frozen = false) (nameless : t.id = none)
    (payer : source.payer = some actor.account) (body : t.body.IsFor actor) :
    (t.freeze source now).1.IsFor actor := by
  have generated : t.idFrom source now = some (.generate actor.account now) := by
    simp [idFrom, nameless, payer]
  obtain ⟨nobody, -⟩ | ⟨id, found, ⟨-, done⟩ | ⟨-, done⟩⟩ := freeze_cases opened source now
  · cases nobody.symm.trans generated
  · cases found.symm.trans generated
    rw [done]
    exact ⟨⟨_, rfl, rfl⟩, body⟩
  · cases found.symm.trans generated
    rw [done]
    exact ⟨⟨_, rfl, rfl⟩, body⟩

/-- A relay freezes against itself too, so that the bytes which it signs and sends hold a
transaction for its operator. -/
theorem Relay.prepare_isFor {relay : Relay} {operator : Operator} {t : Transaction}
    {actor : Actor} {outside : Outside} {wire : Wire} {bytes : List UInt8}
    (owned : relay.operator = some operator) (own : actor.account = operator.account)
    (opened : t.frozen = false) (nameless : t.id = none) (body : t.body.IsFor actor)
    (clock : ∀ reading, (outside.clock reading).WithinSecond)
    (prepared : (relay.prepare operator t outside wire).1 = .ok bytes) :
    ∃ sent, Transaction.ofBytes bytes = .ok sent ∧ sent.IsFor actor := by
  let frozen := t.freeze relay.source (outside.clock wire.readings)
  have course : (frozen.2 >>= fun _ => frozen.1.sign operator.key >>= Transaction.toBytes) =
      .ok bytes := by
    rw [← mapError_eq_ok (f := ClientError.prepare), ← prepared]
    change _ = Except.mapError _ ((t.freezeNow relay.source outside wire).1.2 >>= fun _ =>
      (t.freezeNow relay.source outside wire).1.1.sign operator.key >>= Transaction.toBytes)
    rw [Transaction.freezeNow_fst]
  obtain ⟨_, granted, signing⟩ := bind_eq_ok.1 course
  obtain ⟨signed, made, written⟩ := bind_eq_ok.1 signing
  have payer : relay.source.payer = some actor.account := by
    rw [Relay.source, owned, own]
    rfl
  have isFor : frozen.1.IsFor actor := Transaction.isFor_freeze opened nameless payer body
  have settled : frozen.1.Settled :=
    Transaction.settled_of_freeze opened (by simp [nameless]) (clock _) granted
  obtain ⟨e, refused⟩ | ⟨message, signature, -, -, -, granted⟩ :=
    frozen.1.sign_cases operator.key
  · cases refused.symm.trans made
  · cases granted.symm.trans made
    have ⟨frozen, id, known, inRange⟩ := settled.withSignatures
      (Transaction.withoutKey operator.key.publicKey frozen.1.signatures ++
        [⟨operator.key.publicKey, Text.Hex.encode signature⟩])
    rw [Transaction.toBytes_of_frozen frozen] at written
    cases written
    exact ⟨_, Transaction.ofBytes_render known inRange, isFor.paid, isFor.body⟩

namespace Kit

/-- Whom a client freezes transactions for is the operator that a kit acts for. -/
theorem payer_of_operator {kit : Kit} {actor : Actor} (operator : kit.operator? = some actor) :
    kit.client.source.payer = some actor.account := by
  obtain ⟨account, key, known, -, rfl⟩ := operator?_eq_some_iff.1 operator
  exact known

/-- What a kit produces is for whom it acts in the mode of the call, its client's operator or its
own user (`actor?_eq_some_iff`): the transaction that a client freezes against itself, the one in
the bytes that a relay signs and sends, and the one in the bytes that the user is given.  Where
the operator should act and there is none, nothing is produced. -/
theorem perform_isFor (kit : Kit) (action : Action) (mode : Option Bool) (outside : Outside)
    (journal : Journal) (clock : ∀ reading, (outside.clock reading).WithinSecond) :
    Ends outside (kit.perform action mode).run journal fun result after =>
      ∃ submitted, after.submissions = submitted ++ journal.submissions ∧
        match kit.actor? mode with
        | none => result = .error .missingPrivateKey ∧ submitted = []
        | some actor =>
          (∀ t ∈ submitted, ∀ now, (t.freeze kit.client.source now).1.IsFor actor) ∧
          (∀ t ∈ submitted, ∀ relay operator, kit.client = Relay.client relay →
            relay.operator = some operator → ∀ wire bytes,
              (relay.prepare operator t outside wire).1 = .ok bytes →
                ∃ sent, Transaction.ofBytes bytes = .ok sent ∧ sent.IsFor actor) ∧
          ∀ operation text, result = .ok (.unsigned operation text) →
            ∃ t, Transaction.ofEncoded? text = some t ∧ t.IsFor actor := by
  refine ends_perform.mono fun result after ⟨submitted, concluded, put⟩ => ⟨submitted, put, ?_⟩
  cases concluded with
  | nobody vacant =>
      rw [vacant]
      exact ⟨rfl, rfl⟩
  | unsound acting refused =>
      rw [acting]
      exact ⟨by simp, by simp, by simp⟩
  | executed acting operated settled fulfilled =>
      rw [acting]
      have payer := payer_of_operator (operator_of_actor acting operated).2
      have body := Action.isFor_instruction settled
      refine ⟨fun t among now => ?_, fun t among relay operator relayed owned wire bytes made => ?_,
        fun operation text told => ?_⟩
      · obtain rfl := List.mem_singleton.1 among
        exact Transaction.isFor_freeze rfl rfl payer body
      · obtain rfl := List.mem_singleton.1 among
        have own : relay.operator.map Operator.account = some _ := relayed ▸ payer
        rw [owned] at own
        exact Relay.prepare_isFor owned (Option.some.inj own).symm rfl rfl body clock made
      · obtain ⟨completion, -, other⟩ := map_eq_ok.1 told
        cases other
  | nowhere acting unoperated settled nodeless =>
      rw [acting]
      exact ⟨by simp, by simp, by simp⟩
  | handedOut acting unoperated settled nodes =>
      rw [acting]
      refine ⟨by simp, by simp, fun operation text told => ?_⟩
      obtain rfl := user_of_actor acting unoperated
      cases told
      exact ⟨_, Transaction.ofEncoded?_encoded rfl rfl (clock _), ⟨_, rfl, rfl⟩,
        Action.isFor_instruction settled⟩

/-- A kit whose client signs for nobody. -/
def unoperated : Kit where
  client := Relay.client
    ⟨.testnet, ⟨"http".toList, [], [], none, none, .segments [], none, none⟩, none⟩
  mirror := ⟨⟨"http".toList, [], [], none, none, .segments [], none, none⟩⟩
  account := ⟨0, 0, 5005⟩
  publicKey := PrivateKey.publicKey ⟨1, Nat.one_pos, Key.one_lt_groupOrder⟩
  custodial := false

/-- A world in which every connection breaks and the clock stands still. -/
def cutOff : Outside where
  clock _ := ⟨1700000000, 5⟩
  http _ _ := .dropped

theorem withinSecond_cutOff (reading : Nat) : (cutOff.clock reading).WithinSecond := by
  change Instant.WithinSecond ⟨1700000000, 5⟩
  decide

/-- The kit of the same user with a client that signs for somebody else, with another key and by
default even. -/
def operated : Kit :=
  { unoperated with
    client := Relay.client
      ⟨.mainnet, ⟨"http".toList, [], [], none, none, .segments [], none, none⟩,
        some ⟨⟨0, 0, 1001⟩, ⟨2, Nat.two_pos, Key.two_lt_groupOrder⟩⟩⟩
    custodial := true }

/-- Whom that kit signs for. -/
def operator : Actor :=
  ⟨⟨0, 0, 1001⟩, PrivateKey.publicKey ⟨2, Nat.two_pos, Key.two_lt_groupOrder⟩, true⟩

/-- By default that kit acts for its operator. -/
theorem actor?_operated : operated.actor? none = some operator :=
  actor?_eq_some_iff.2 (.inl ⟨rfl, _, _, rfl, rfl, rfl⟩)

theorem perform_isFor_userAndOperator :
    (∀ reading, (cutOff.clock reading).WithinSecond) ∧
      (∃ text t, (unoperated.perform (.transferHbar ⟨0, 0, 5006⟩ ⟨250⟩) none cutOff .empty).1 =
          .ok (.unsigned .transferHbar text) ∧
        Transaction.ofEncoded? text = some t ∧ t.IsFor unoperated.user) ∧
      Ends cutOff (operated.perform (.createTopic "news" true) none).run .empty fun _ after =>
        ∃ t, after.submissions = [t] ∧ t.body.keys = [operator.publicKey, operator.publicKey] ∧
          operator.publicKey ≠ operated.publicKey ∧
          ∀ now, (t.freeze operated.client.source now).1.IsFor operator := by
  refine ⟨withinSecond_cutOff, ?_, ?_⟩
  · obtain ⟨submitted, -, -, -, handed⟩ :=
      perform_isFor unoperated (.transferHbar ⟨0, 0, 5006⟩ ⟨250⟩) none cutOff .empty
        withinSecond_cutOff
    obtain ⟨t, found, own⟩ := handed .transferHbar _ rfl
    exact ⟨_, t, rfl, found, own⟩
  · have other : operator.publicKey ≠ operated.publicKey := by decide +kernel
    have course := (perform_isFor operated (.createTopic "news" true) none cutOff .empty
      withinSecond_cutOff).and ends_perform
    rw [actor?_operated] at course
    refine course.mono ?_
    rintro result after ⟨⟨submitted, put, own, -⟩, submitted', concluded, put'⟩
    obtain rfl := List.append_cancel_right (put.symm.trans put')
    cases concluded with
    | nobody vacant => cases actor?_operated.symm.trans vacant
    | unsound acting refused => cases refused
    | executed acting _ settled _ =>
        cases actor?_operated.symm.trans acting
        cases settled
        have keys : (Instruction.createTopic "news" operator.publicKey true).body.keys =
            [operator.publicKey, operator.publicKey] := by
          simp [Instruction.body, Body.keys]
        exact ⟨_, put, keys, other, own _ (List.mem_singleton_self _)⟩
    | nowhere acting unoperated =>
        cases actor?_operated.symm.trans acting
        cases unoperated
    | handedOut acting unoperated =>
        cases actor?_operated.symm.trans acting
        cases unoperated

end Kit

end LedgerAgent
