/-
Module: LedgerAgent.Proofs.Movement
Purpose: Amounts that change hands: what is taken from the one side is given to the other, to the
  unit, for each destination by itself.
Main exports: paired, Transfer, Transfer.conserves
-/
import LedgerAgent.Instruction
import LedgerAgent.Proofs.Amount
import LedgerAgent.Proofs.Json.Decoding

namespace LedgerAgent

/-! ### Debits and credits -/

/-- For each request a debit of the source followed by a credit of the account that asks. -/
def paired (source : AccountId) (requests : List (AccountId × Nat)) : List (AccountId × Int) :=
  requests.flatMap fun request => [(source, -(request.2 : Int)), (request.1, (request.2 : Int))]

theorem paired_cons (source : AccountId) (request : AccountId × Nat)
    (requests : List (AccountId × Nat)) :
    paired source (request :: requests) =
      (source, -(request.2 : Int)) :: (request.1, (request.2 : Int)) :: paired source requests :=
  rfl

/-- Nothing is made and nothing is lost, whosever the accounts are. -/
theorem sum_paired (source : AccountId) (requests : List (AccountId × Nat)) :
    ((paired source requests).map Prod.snd).sum = 0 := by
  induction requests with
  | nil => rfl
  | cons request requests inductionHypothesis =>
      rw [paired_cons, List.map_cons, List.map_cons, List.sum_cons, List.sum_cons,
        inductionHypothesis]
      omega

/-- The moves that hand out shares: a debit of the source and a credit of the account for each. -/
def handing (source : AccountId) (shares : List (AccountId × Int64)) : List (AccountId × Int64) :=
  shares.flatMap fun share => [(source, -share.2), (share.1, share.2)]

theorem handing_cons (source : AccountId) (share : AccountId × Int64)
    (shares : List (AccountId × Int64)) :
    handing source (share :: shares) =
      (source, -share.2) :: (share.1, share.2) :: handing source shares :=
  rfl

/-- A share is the signed number of what was requested for the same account. -/
def Signs (request : AccountId × UInt64) (share : AccountId × Int64) : Prop :=
  share.1 = request.1 ∧ Amount.toSigned request.2 = .ok share.2

/-- Signed shares are handed out as the pairs of what was requested. -/
theorem map_handing {requests : List (AccountId × UInt64)} {shares : List (AccountId × Int64)}
    (signed : List.Forall₂ Signs requests shares) (source : AccountId) :
    (handing source shares).map (fun move => (move.1, move.2.toInt)) =
      paired source (requests.map fun request => (request.1, request.2.toNat)) := by
  induction signed with
  | nil => rfl
  | cons signs _ inductionHypothesis =>
      obtain ⟨same, narrowed⟩ := signs
      have ⟨debit, credit⟩ := Amount.neg_of_toSigned narrowed
      rw [handing_cons, List.map_cons, List.map_cons, List.map_cons, paired_cons,
        inductionHypothesis, debit, credit, same]

/-- No debit of a signed share overflows. -/
theorem neg_of_signs {requests : List (AccountId × UInt64)} {shares : List (AccountId × Int64)}
    (signed : List.Forall₂ Signs requests shares) :
    ∀ share ∈ shares, (-share.2).toInt = -share.2.toInt := by
  induction signed with
  | nil => exact nofun
  | cons signs _ inductionHypothesis =>
      have ⟨debit, credit⟩ := Amount.neg_of_toSigned signs.2
      refine List.forall_mem_cons.2 ⟨?_, inductionHypothesis⟩
      rw [debit, credit]

def sharesOf (requests : List (AccountId × UInt64)) :
    Except AmountError (List (AccountId × Int64)) :=
  requests.mapM fun request => (Amount.toSigned request.2).map fun n => (request.1, n)

/-- What is requested can be shared out exactly if each amount can be signed. -/
theorem sharesOf_eq_ok {requests : List (AccountId × UInt64)} {shares : List (AccountId × Int64)} :
    sharesOf requests = .ok shares ↔ List.Forall₂ Signs requests shares := by
  rw [sharesOf, Json.mapM_eq_ok]
  refine ⟨fun each => each.imp ?_, fun each => each.imp ?_⟩
  · intro request share made
    obtain ⟨n, signed, rfl⟩ := Json.map_eq_ok.1 made
    exact ⟨rfl, signed⟩
  · rintro request ⟨account, n⟩ ⟨rfl, signed⟩
    exact Json.map_eq_ok.2 ⟨n, signed, rfl⟩

/-- Sharing fails by an overflow alone, and only for an amount past the signed ones. -/
theorem overflow_of_sharesOf {requests : List (AccountId × UInt64)} {e : AmountError}
    (refused : sharesOf requests = .error e) :
    e = .overflow ∧ ∃ request ∈ requests, 2 ^ 63 ≤ request.2.toNat := by
  obtain ⟨request, among, unsigned⟩ := Json.exists_of_mapM_eq_error refused
  obtain ⟨beyond, rfl⟩ := Amount.toSigned_eq_error_iff.1 (Json.map_eq_error.1 unsigned)
  exact ⟨rfl, request, among, beyond⟩

/-- One request that is too large spoils all of them. -/
theorem sharesOf_of_large {requests : List (AccountId × UInt64)} {request : AccountId × UInt64}
    (among : request ∈ requests) (beyond : 2 ^ 63 ≤ request.2.toNat) :
    sharesOf requests = .error .overflow := by
  cases made : sharesOf requests with
  | error e => rw [(overflow_of_sharesOf made).1]
  | ok shares =>
      obtain ⟨share, -, -, narrowed⟩ := Json.exists_of_mem_left (sharesOf_eq_ok.1 made) among
      exact absurd (Amount.toSigned_eq_ok_iff.1 narrowed).1 (Nat.not_lt.2 beyond)

/-! ### Transfers -/

/-- What moves an amount, or several, from one account to others, before the amounts are
signed. -/
inductive Transfer where
  | hbar (sender recipient : AccountId) (amount : Tinybars)
  | token (asset : TokenId) (amount : UInt64) (recipient sender : AccountId)
  | airdrop (asset : TokenId) (recipients : List AirdropRecipient) (payer : AccountId)

namespace Transfer

/-- The instruction that the transfer becomes, if it becomes one. -/
def instruction? : Transfer → Except AmountError Instruction
  | .hbar sender recipient amount => Instruction.transferHbar? sender recipient amount
  | .token asset amount recipient sender => Instruction.transferToken? asset amount recipient sender
  | .airdrop asset recipients payer => Instruction.airdropToken? asset recipients payer

/-- The account that everything is taken from. -/
def source : Transfer → AccountId
  | .hbar sender _ _ => sender
  | .token _ _ _ sender => sender
  | .airdrop _ _ payer => payer

/-- Which account is to get how much, in order. -/
def requests : Transfer → List (AccountId × UInt64)
  | .hbar _ recipient amount => [(recipient, amount.count)]
  | .token _ amount recipient _ => [(recipient, amount)]
  | .airdrop _ recipients _ => recipients.map fun r => (r.account, r.amount)

/-- The body with these moves and nothing else. -/
def bodyOf (moves : List (AccountId × Int64)) : Transfer → Body
  | .hbar .. => .cryptoTransfer (moves.map fun move => ⟨move.1, move.2⟩) []
  | .token asset .. => .cryptoTransfer [] (moves.map fun move => ⟨asset, move.1, move.2⟩)
  | .airdrop asset .. => .tokenAirdrop (moves.map fun move => ⟨asset, move.1, move.2⟩)

end Transfer

/-- The amounts whose negatives an instruction's body debits. -/
def Instruction.amounts : Instruction → List Int64
  | .transferHbar _ _ amount => [amount]
  | .transferToken _ amount _ _ => [amount]
  | .airdropToken _ shares _ => shares.map Prod.snd
  | _ => []

theorem sharesOf_singleton (account : AccountId) (amount : UInt64) :
    sharesOf [(account, amount)] = (Amount.toSigned amount).map fun n => [(account, n)] := by
  rw [sharesOf, List.mapM_cons, List.mapM_nil]
  cases Amount.toSigned amount <;> rfl

/-- The shares of an airdrop are those of what its recipients request. -/
theorem Instruction.shares_eq (recipients : List AirdropRecipient) :
    Instruction.shares recipients = sharesOf (recipients.map fun r => (r.account, r.amount)) := by
  rw [Instruction.shares, sharesOf, List.mapM_map]
  rfl

/-- The body of an airdrop hands out its shares. -/
theorem Instruction.airdrop_moves (token : TokenId) (shares : List (AccountId × Int64))
    (payer : AccountId) :
    (shares.flatMap fun (account, amount) => tokenMove token payer account amount) =
      (handing payer shares).map fun move => ⟨token, move.1, move.2⟩ := by
  rw [handing, List.map_flatMap]
  rfl

namespace Transfer

/-- A transfer is refused as its shares are. -/
theorem instruction?_eq_error {t : Transfer} {e : AmountError} :
    t.instruction? = .error e ↔ sharesOf t.requests = .error e := by
  cases t with
  | hbar sender recipient amount =>
      rw [requests, sharesOf_singleton]
      exact Json.map_eq_error.trans Json.map_eq_error.symm
  | token asset amount recipient sender =>
      rw [requests, sharesOf_singleton]
      exact Json.map_eq_error.trans Json.map_eq_error.symm
  | airdrop asset recipients payer =>
      rw [requests, ← Instruction.shares_eq]
      exact Json.map_eq_error

/-- A transfer that becomes an instruction hands out its shares. -/
theorem handing_of_instruction? {t : Transfer} {i : Instruction} (made : t.instruction? = .ok i) :
    ∃ shares, sharesOf t.requests = .ok shares ∧ i.amounts = shares.map Prod.snd ∧
      i.body = t.bodyOf (handing t.source shares) := by
  cases t with
  | hbar sender recipient amount =>
      obtain ⟨n, signed, rfl⟩ := Json.map_eq_ok.1 made
      rw [requests, sharesOf_singleton, signed]
      exact ⟨_, rfl, rfl, rfl⟩
  | token asset amount recipient sender =>
      obtain ⟨n, signed, rfl⟩ := Json.map_eq_ok.1 made
      rw [requests, sharesOf_singleton, signed]
      exact ⟨_, rfl, rfl, rfl⟩
  | airdrop asset recipients payer =>
      obtain ⟨shares, shared, rfl⟩ := Json.map_eq_ok.1 made
      rw [requests, ← Instruction.shares_eq]
      refine ⟨shares, shared, rfl, ?_⟩
      rw [Instruction.body, Instruction.airdrop_moves]
      rfl

/-- Whoever the accounts are and however often they occur, a transfer is refused exactly if one of
its amounts does not fit a signed number, and always as an overflow.  Otherwise its transaction
holds, for each requested amount in order, one debit of the source and one credit of the account
by that amount, and nothing else: the moves come to nought, and no amount that is negated for a
debit overflows. -/
theorem conserves (t : Transfer) :
    (t.instruction? = .error .overflow ↔ ∃ request ∈ t.requests, 2 ^ 63 - 1 < request.2.toNat) ∧
      match t.instruction? with
      | .error e => e = .overflow
      | .ok i =>
        ∃ moves, i.transaction = .ofBody (t.bodyOf moves) ∧
          moves.map (fun move => (move.1, move.2.toInt)) =
            paired t.source (t.requests.map fun request => (request.1, request.2.toNat)) ∧
          (moves.map fun move => move.2.toInt).sum = 0 ∧
          ∀ n ∈ i.amounts, (-n).toInt = -n.toInt := by
  constructor
  · rw [instruction?_eq_error]
    constructor
    · intro refused
      obtain ⟨-, request, among, beyond⟩ := overflow_of_sharesOf refused
      exact ⟨request, among, beyond⟩
    · rintro ⟨request, among, beyond⟩
      exact sharesOf_of_large among beyond
  · cases made : t.instruction? with
    | error e => exact (overflow_of_sharesOf (instruction?_eq_error.1 made)).1
    | ok i =>
        obtain ⟨shares, shared, amounts, body⟩ := handing_of_instruction? made
        have signed : List.Forall₂ Signs t.requests shares := sharesOf_eq_ok.1 shared
        have pairs := map_handing signed t.source
        refine ⟨handing t.source shares, congrArg Transaction.ofBody body, pairs, ?_, ?_⟩
        · have units : (handing t.source shares).map (fun move => move.2.toInt) =
              (paired t.source
                (t.requests.map fun request => (request.1, request.2.toNat))).map Prod.snd := by
            rw [← pairs, List.map_map]
            rfl
          rw [units]
          exact sum_paired t.source _
        · intro n among
          rw [amounts] at among
          obtain ⟨share, mem, rfl⟩ := List.mem_map.1 among
          exact neg_of_signs signed share mem

end Transfer

end LedgerAgent
