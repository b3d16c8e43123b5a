/-
Module: LedgerAgent.Proofs.Tool.Display
Purpose: The token balances that tools show as people write them, and for which tokens what is
  shown is what is held.
Main exports: Holding, LedgerTool.Finds, DisplayKeys.Display, LedgerTool.shows_call
-/
import LedgerAgent.Proofs.Amount.Display
import LedgerAgent.Proofs.Kit.Actor
import LedgerAgent.Proofs.MirrorNode.Origin
import LedgerAgent.Proofs.Tool.Payment

namespace LedgerAgent

/-! ### Balances and where they are shown -/

/-- A balance of a token: its base units, and the decimal places that the mirror node reports
of the token. -/
structure Holding where
  units : UInt64
  decimals : UInt32

/-- What a detailed balance says is held. -/
def DetailedBalance.holding (b : DetailedBalance) : Holding :=
  ⟨b.balance, b.decimals⟩

/-- What a holder of a token holds. -/
def MirrorNode.TokenHolder.holding (h : MirrorNode.TokenHolder) : Holding :=
  ⟨h.balance, h.decimals⟩

/-- A holding is of the units that an account holds of a token, and has the decimals that the
details of the token give when the mirror node is asked for them. -/
def Holding.IsOf (holding : Holding) (node : MirrorNode) (outside : Outside)
    (entry : MirrorNode.TokenBalance) : Prop :=
  holding.units = entry.balance ∧ ∃ (wire : Wire) (details : MirrorNode.TokenDetails),
    (node.tokenDetails entry.token outside wire).1 = .ok details ∧
      details.decimals = .ok holding.decimals

/-- The holdings that a mirror node tells a tool of: an account's in all its tokens, or those of
the holders of a token, which come with decimals of their own. -/
inductive LedgerTool.Finds (node : MirrorNode) (outside : Outside) :
    LedgerTool → List Holding → Prop where
  | balances {account : AccountId} {wire : Wire} {entries : List MirrorNode.TokenBalance}
      {holdings : List Holding}
      (listed : (node.tokenBalances account outside wire).1 = .ok entries)
      (counted : List.Forall₂ (·.IsOf node outside ·) holdings entries) :
      Finds node outside .allTokenBalances holdings
  | holders {token : TokenId} {floor : Option UInt64} {wire : Wire}
      {holders : List MirrorNode.TokenHolder}
      (listed : (node.tokenHolders token floor outside wire).1 = .ok holders) :
      Finds node outside .tokenHolders (holders.map MirrorNode.TokenHolder.holding)

/-- Where balances are shown: the key of their list, and in each of its items those of the
balance as people write it and of the decimals of its token. -/
structure DisplayKeys where
  list : String
  shown : String
  decimals : String

/-- Where a tool shows token balances, if it does. -/
def LedgerTool.displayKeys? : LedgerTool → Option DisplayKeys
  | .allTokenBalances => some ⟨"balances", "balanceInDisplayUnit", "tokenDecimals"⟩
  | .tokenHolders => some ⟨"holders", "balance", "decimals"⟩
  | _ => none

/-- A value is an object with a member. -/
def Json.Has (v : Json) (key : String) (value : Json) : Prop :=
  ∃ members, v = .object members ∧ members.lookup key = some value

/-- An item shows a holding: beside the decimals of its token stands a numeral of its units in
eighteen decimal places at most.  That is what is held where the token has no more places, or
nothing is held. -/
structure DisplayKeys.Shows (keys : DisplayKeys) (holding : Holding) (item : Json) : Prop where
  decimals : item.Has keys.decimals (.uint32 holding.decimals)
  shown : ∃ text, item.Has keys.shown (.string text) ∧
    Amount.Denotes text (holding.units.toNat / 10 ^ min holding.decimals.toNat 18) ∧
    (Amount.Denotes text (holding.units.toNat / 10 ^ holding.decimals.toNat) ↔
      holding.decimals.toNat ≤ 18 ∨ holding.units = 0)

/-- An answer shows holdings, one item for each. -/
def DisplayKeys.Display (keys : DisplayKeys) (holdings : List Holding) (answer : Json) : Prop :=
  ∃ items, answer.Has keys.list (.array items) ∧ List.Forall₂ keys.Shows holdings items

/-! ### Showing them -/

/-- The last of several members of a name stands in the object. -/
theorem Json.has_sorted {members : List (String × Json)} {key : String} {value : Json}
    (stands : members.reverse.lookup key = some value) : (Json.sorted members).Has key value :=
  ⟨_, rfl, (lookup_canonicalMembers members key).trans stands⟩

theorem DisplayKeys.shows_of_members {keys : DisplayKeys} {holding : Holding}
    {members : List (String × Json)}
    (decimals : members.reverse.lookup keys.decimals = some (.uint32 holding.decimals))
    (shown : members.reverse.lookup keys.shown =
      some (.string (Amount.ofBaseUnits holding.units holding.decimals))) :
    keys.Shows holding (Json.sorted members) :=
  ⟨Json.has_sorted decimals, _, Json.has_sorted shown, Amount.denotes_ofBaseUnits _ _,
    Amount.denotes_ofBaseUnits_iff⟩

/-- What is done for each item of a list gave a result for each of them. -/
theorem forall₂_of_run_mapM {α β ε σ : Type} {f : α → ExceptT ε (ReaderT Outside (StateM σ)) β}
    {outside : Outside} {s : σ} {items : List α} {results : List β}
    (found : ((items.mapM f).run outside s).1 = .ok results) :
    List.Forall₂ (fun result item => ∃ s', ((f item).run outside s').1 = .ok result)
      results items := by
  induction items generalizing s results with
  | nil =>
      rw [List.mapM_nil] at found
      obtain rfl := run_pure_eq_ok found
      exact .nil
  | cons item items inductionHypothesis =>
      rw [List.mapM_cons] at found
      obtain ⟨result, first, found⟩ := run_bind_eq_ok found
      obtain ⟨results, rest, found⟩ := run_bind_eq_ok found
      obtain rfl := run_pure_eq_ok found
      exact .cons ⟨s, first⟩ (inductionHypothesis rest)

namespace Kit

variable {kit : Kit} {outside : Outside} {wire : Wire}

/-- A balance with its details is that of the entry it was told for. -/
theorem isOf_of_detailed {entry : MirrorNode.TokenBalance} {b : DetailedBalance}
    (found : ((kit.detailed entry).run outside wire).1 = .ok b) :
    b.holding.IsOf kit.mirror outside entry := by
  obtain ⟨details, told, found⟩ := run_bind_eq_ok found
  obtain ⟨decimals, reported, found⟩ := run_bind_eq_ok found
  obtain rfl := run_pure_eq_ok found
  rw [tokenDetails, fst_ofMirror, Json.mapError_eq_ok] at told
  rw [fst_ofMirror, Json.mapError_eq_ok] at reported
  exact ⟨rfl, wire, details, told, reported⟩

/-- What a kit tells of all balances was found with the mirror node. -/
theorem finds_allTokenBalances {account : Option AccountId} {balances : List DetailedBalance}
    (found : ((kit.allTokenBalances account).run outside wire).1 = .ok balances) :
    LedgerTool.allTokenBalances.Finds kit.mirror outside
      (balances.map DetailedBalance.holding) := by
  obtain ⟨entries, listed, found⟩ := run_bind_eq_ok found
  rw [fst_ofMirror, Json.mapError_eq_ok] at listed
  refine .balances listed ?_
  rw [List.forall₂_map_left_iff]
  exact (forall₂_of_run_mapM found).imp fun b entry ⟨wire, detailed⟩ => isOf_of_detailed detailed

end Kit

/-- A request is a question, and its answer shows what a tool finds. -/
inductive Request.Displays (tool : LedgerTool) (keys : DisplayKeys) (node : MirrorNode) :
    Request → Prop where
  | question {answer : Lookup Json}
      (shows : ∀ outside wire value, (answer.run outside wire).1 = .ok value →
        ∃ holdings, tool.Finds node outside holdings ∧ keys.Display holdings value) :
      Displays tool keys node (.question answer)

namespace LedgerTool

/-- A list that is told of has an item for each of the holdings in it. -/
theorem display_success {α : Type} {keys : DisplayKeys} (message : String) {things : List α}
    {members : α → List (String × Json)} {holding : α → Holding}
    (shows : ∀ thing, keys.Shows (holding thing) (Json.sorted (members thing))) :
    keys.Display (things.map holding)
      (success [("message", .string message),
        (keys.list, listed (fun thing => .object (members thing)) things)]) := by
  refine ⟨_, Json.has_sorted List.lookup_cons_self, ?_⟩
  rw [List.forall₂_map_left_iff, List.forall₂_map_right_iff, List.forall₂_same]
  exact fun thing _ => shows thing

/-- The tools that show balances ask a question, and show all that they find. -/
theorem displays_request {tool : LedgerTool} {keys : DisplayKeys} {kit : Kit} {input : String}
    {request : Request} (showing : tool.displayKeys? = some keys)
    (asked : tool.request kit input = .ok request) : request.Displays tool keys kit.mirror := by
  cases tool with
  | allTokenBalances =>
      cases showing
      obtain ⟨account, -, asked⟩ := Json.bind_eq_ok.1 asked
      cases asked
      refine .question fun outside wire value found => ?_
      obtain ⟨balances, told, found⟩ := run_bind_eq_ok found
      obtain rfl := run_pure_eq_ok found
      rw [fst_inLookup, Json.mapError_eq_ok] at told
      refine ⟨_, Kit.finds_allTokenBalances told, display_success _ fun b => ?_⟩
      exact DisplayKeys.shows_of_members rfl rfl
  | tokenHolders =>
      cases showing
      obtain ⟨⟨token, threshold⟩, -, asked⟩ := Json.bind_eq_ok.1 asked
      cases asked
      refine .question fun outside wire value found => ?_
      obtain ⟨floor, -, found⟩ := run_bind_eq_ok found
      obtain ⟨holders, told, found⟩ := run_bind_eq_ok found
      obtain rfl := run_pure_eq_ok found
      rw [fst_inLookup, Json.mapError_eq_ok, Kit.tokenHolders, fst_ofMirror,
        Json.mapError_eq_ok] at told
      refine ⟨_, .holders told, display_success _ fun holder => ?_⟩
      exact DisplayKeys.shows_of_members rfl rfl
  | _ => cases showing

/-- Every answer of a tool that shows balances shows what it found. -/
theorem ends_run_display {tool : LedgerTool} {keys : DisplayKeys}
    (showing : tool.displayKeys? = some keys) (kit : Kit) (mode : Option Bool) (input : String)
    (outside : Outside) (journal : Journal) :
    Ends outside (tool.run kit mode input).run journal fun result _ =>
      ∀ value, result = .ok value →
        ∃ holdings, tool.Finds kit.mirror outside holdings ∧ keys.Display holdings value := by
  refine ends_run.mono fun result after ⟨submitted, concluded, put⟩ value given => ?_
  cases concluded with
  | misasked | unsettled => cases given
  | answered asked found =>
      cases displays_request showing asked with
      | question shows => exact shows _ _ _ (found.trans given)
  | performed asked settled concluded => cases displays_request showing asked

/-- A call of a tool that shows token balances is answered with the error that the tool fails
with, or with all the balances that the mirror node tells of, each as a numeral of its units in
eighteen decimal places at most.  What is shown is what is held exactly where the token has no
more places than that, or nothing is held. -/
theorem shows_call {tool : LedgerTool} {keys : DisplayKeys}
    (showing : tool.displayKeys? = some keys) (kit : Kit) (mode : Option Bool) (input : String)
    (outside : Outside) (journal : Journal) :
    let result := ((tool.run kit mode input).run outside journal).1
    Ends outside (tool.call kit mode input) journal fun answer _ =>
      (∃ e, result = .error e ∧ answer = e.answer.render) ∨
        ∃ value holdings, result = .ok value ∧ answer = value.render ∧
          tool.Finds kit.mirror outside holdings ∧ keys.Display holdings value := by
  have displayed := ends_run_display showing kit mode input outside journal
  rw [Ends] at displayed
  intro result
  rw [call, ends_bind, Ends]
  cases told : ((tool.run kit mode input).run outside journal).1 with
  | error e => exact .inl ⟨e, told, rfl⟩
  | ok value =>
      obtain ⟨holdings, finds, display⟩ := displayed value told
      exact .inr ⟨value, holdings, told, rfl, finds, display⟩

/-! ### A token with nineteen places -/

/-- A kit whose mirror node has a base URL without a path. -/
def informed : Kit :=
  { Kit.unoperated with mirror := MirrorNode.exposed }

/-- A world in which a token has nineteen decimal places, and its one holder one base unit. -/
def fineWorld : Outside where
  clock _ := ⟨0, 0⟩
  http _ _ := .reply 200 (Text.bytes
    "\x7b\"balances\":[\x7b\"account\":\"0.0.1\",\"balance\":1,\"decimals\":19\x7d]\x7d")

/-- The input that asks for the holders of the token. -/
def fineInput : String :=
  "\x7b\"tokenId\":\"0.0.5\"\x7d"

theorem shows_call_fine :
    LedgerTool.tokenHolders.displayKeys? = some ⟨"holders", "balance", "decimals"⟩ ∧
      ∃ value holdings,
        (LedgerTool.tokenHolders.call informed none fineInput fineWorld .empty).1 = value.render ∧
        LedgerTool.tokenHolders.Finds informed.mirror fineWorld holdings ∧
        (DisplayKeys.mk "holders" "balance" "decimals").Display holdings value := by
  have answered : ((LedgerTool.tokenHolders.run informed none fineInput).run fineWorld
      .empty).1.toBool = true := by decide +kernel
  have showing : LedgerTool.tokenHolders.displayKeys? =
      some ⟨"holders", "balance", "decimals"⟩ := rfl
  refine ⟨showing, ?_⟩
  obtain ⟨e, failed, -⟩ | ⟨value, holdings, -, shown⟩ :=
    shows_call showing informed none fineInput fineWorld .empty
  · rw [failed] at answered
    cases answered
  · exact ⟨value, holdings, shown⟩

/-- One base unit in nineteen decimal places is shown as one in eighteen. -/
theorem tokenHolders_shows_nineteen :
    LedgerTool.tokenHolders.Finds informed.mirror fineWorld [⟨1, 19⟩] ∧
    (LedgerTool.tokenHolders.call informed none fineInput fineWorld .empty).1 =
      "\x7b\"holders\":[\x7b\"account\":\"0.0.1\",\"balance\":\"0.000000000000000001\"," ++
        "\"decimals\":19\x7d],\"message\":\"Token holders retrieved\",\"status\":\"success\"\x7d" ∧
    ¬ Amount.Denotes "0.000000000000000001" (1 / 10 ^ 19) := by
  refine ⟨?_, by decide +kernel, fun denotes => ?_⟩
  · have listed : (informed.mirror.tokenHolders ⟨0, 0, 5⟩ none fineWorld .empty).1 =
        .ok [⟨⟨0, 0, 1⟩, 1, 19⟩] := by decide +kernel
    exact .holders listed
  · have shown : Amount.ofBaseUnits 1 19 = "0.000000000000000001" := by decide +kernel
    have held : ((1 : UInt64).toNat / 10 ^ (19 : UInt32).toNat : ℚ) = 1 / 10 ^ 19 := by simp
    rw [← shown, ← held, Amount.denotes_ofBaseUnits_iff] at denotes
    exact absurd denotes (by decide)

end LedgerTool

end LedgerAgent
