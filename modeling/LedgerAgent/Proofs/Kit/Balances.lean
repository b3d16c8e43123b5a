/-
Module: LedgerAgent.Proofs.Kit.Balances
Purpose: All token balances of an account, whatever the mirror node answers: every entry of the
  listing with the details of its own token, or an error and no balance at all.
Main exports: MirrorNode.Inquiry, MirrorNode.Detailed, MirrorNode.Accounted,
  Kit.ends_allTokenBalances
-/
import LedgerAgent.Proofs.Tool.Display

namespace LedgerAgent

variable {outside : Outside}

/-- The entry of a listing that a detailed balance is of. -/
def DetailedBalance.entry (b : DetailedBalance) : MirrorNode.TokenBalance :=
  ⟨b.token, b.balance⟩

namespace MirrorNode

/-! ### One entry -/

/-- What becomes of an entry of a listing, and the requests made when it is settled.  The mirror
node is asked for the details of the entry's own token, once; name, symbol and decimals are those
of its answer, and token and balance stay those of the entry. -/
inductive Inquiry (node : MirrorNode) (outside : Outside) (before : List HttpRequest)
    (entry : TokenBalance) : Except MirrorNodeError DetailedBalance → List HttpRequest → Prop where
  | told {url : Url} {details : TokenDetails} {decimals : UInt32}
      (located : node.resolve s!"/api/v1/tokens/{entry.token.toText}" = .ok url)
      (read : fetched TokenDetails.decode outside before url = .ok details)
      (numeric : details.Counts decimals) :
      Inquiry node outside before entry
        (.ok ⟨entry.token, details.name, details.symbol, decimals, entry.balance⟩)
        (url.asking before)
  | unlocated {e : MirrorNodeError}
      (nowhere : node.resolve s!"/api/v1/tokens/{entry.token.toText}" = .error e) :
      Inquiry node outside before entry (.error e) before
  | unread {url : Url} {e : MirrorNodeError}
      (located : node.resolve s!"/api/v1/tokens/{entry.token.toText}" = .ok url)
      (failed : fetched TokenDetails.decode outside before url = .error e) :
      Inquiry node outside before entry (.error e) (url.asking before)
  | uncounted {url : Url} {details : TokenDetails}
      (located : node.resolve s!"/api/v1/tokens/{entry.token.toText}" = .ok url)
      (read : fetched TokenDetails.decode outside before url = .ok details)
      (nonNumeric : ∀ n, ¬ details.Counts n) :
      Inquiry node outside before entry (.error (.decode
        s!"token {details.token.toText} has non-numeric decimals `{details.decimalsText}`"))
        (url.asking before)

/-- There is an answer to every inquiry. -/
theorem exists_inquiry (node : MirrorNode) (outside : Outside) (before : List HttpRequest)
    (entry : TokenBalance) : ∃ result after, Inquiry node outside before entry result after := by
  cases located : node.resolve s!"/api/v1/tokens/{entry.token.toText}" with
  | error e => exact ⟨_, _, .unlocated located⟩
  | ok url =>
      cases read : fetched TokenDetails.decode outside before url with
      | error e => exact ⟨_, _, .unread located read⟩
      | ok details =>
          by_cases numeric : ∃ n, details.Counts n
          · obtain ⟨n, numeric⟩ := numeric
            exact ⟨_, _, .told located read numeric⟩
          · exact ⟨_, _, .uncounted located read (not_exists.1 numeric)⟩

/-- Whatever becomes of an entry, the kit comes to it. -/
theorem Inquiry.ends {kit : Kit} {wire : Wire} {entry : TokenBalance}
    {result : Except MirrorNodeError DetailedBalance} {after : List HttpRequest}
    (inquiry : Inquiry kit.mirror outside wire.requests entry result after) :
    Ends outside (kit.detailed entry).run wire fun given wire' =>
      given = result.mapError KitError.mirrorNode ∧ wire'.requests = after := by
  rw [Kit.detailed, ends_run_bind, Kit.tokenDetails, ends_ofMirror, tokenDetails]
  cases inquiry with
  | unlocated nowhere =>
      rw [nowhere]
      exact ⟨rfl, rfl⟩
  | unread located failed =>
      rw [located]
      refine ends_fetch fun wire' asked => ?_
      rw [failed]
      exact ⟨rfl, asked⟩
  | told located read numeric =>
      rw [located]
      refine ends_fetch fun wire' asked => ?_
      rw [read]
      simp only [Except.mapError, ends_run_bind, ends_ofMirror, ends_pure,
        TokenDetails.decimals_eq_ok_iff.2 numeric]
      exact ⟨rfl, asked⟩
  | uncounted located read nonNumeric =>
      rw [located]
      refine ends_fetch fun wire' asked => ?_
      rw [read]
      simp only [Except.mapError, ends_run_bind, ends_ofMirror, ends_pure,
        TokenDetails.decimals_of_not_counts nonNumeric, true_and]
      exact asked

/-! ### Entry after entry -/

/-- Entries become detailed balances, one for each, in their order.  Each is asked for behind the
requests for those before it. -/
inductive Detailed (node : MirrorNode) (outside : Outside) :
    List HttpRequest → List TokenBalance → List DetailedBalance → List HttpRequest → Prop where
  | nil {before : List HttpRequest} : Detailed node outside before [] [] before
  | cons {before between after : List HttpRequest} {entry : TokenBalance}
      {entries : List TokenBalance} {b : DetailedBalance} {balances : List DetailedBalance}
      (told : Inquiry node outside before entry (.ok b) between)
      (rest : Detailed node outside between entries balances after) :
      Detailed node outside before (entry :: entries) (b :: balances) after

variable {node : MirrorNode} {before after : List HttpRequest} {entries : List TokenBalance}
  {balances : List DetailedBalance}

/-- No entry is lost, doubled or moved, and none takes another's token or balance. -/
theorem Detailed.map_entry (detailed : Detailed node outside before entries balances after) :
    balances.map DetailedBalance.entry = entries := by
  induction detailed with
  | nil => rfl
  | cons told rest inductionHypothesis =>
      cases told with
      | told located read numeric => rw [List.map_cons, inductionHypothesis, DetailedBalance.entry]

/-- Either all entries become detailed balances, or there is a first that does not. -/
theorem exists_detailed (node : MirrorNode) (outside : Outside) (before : List HttpRequest)
    (entries : List TokenBalance) :
    (∃ balances after, Detailed node outside before entries balances after) ∨
      ∃ done entry rest balances between e after, entries = done ++ entry :: rest ∧
        Detailed node outside before done balances between ∧
        Inquiry node outside between entry (.error e) after := by
  induction entries generalizing before with
  | nil => exact .inl ⟨_, _, .nil⟩
  | cons entry entries inductionHypothesis =>
      obtain ⟨result, between, inquiry⟩ := exists_inquiry node outside before entry
      cases result with
      | error e => exact .inr ⟨[], entry, entries, _, _, e, between, rfl, .nil, inquiry⟩
      | ok b =>
          rcases inductionHypothesis between with ⟨balances, after, rest⟩ |
            ⟨done, last, rest, balances, between', e, after, rfl, told, failed⟩
          · exact .inl ⟨_, _, .cons inquiry rest⟩
          · exact .inr ⟨entry :: done, last, rest, _, _, e, after, rfl, .cons inquiry told, failed⟩

/-- The kit goes through entries that become detailed balances, on to those behind them. -/
theorem Detailed.ends {kit : Kit} {wire : Wire} {rest : List TokenBalance}
    (detailed : Detailed kit.mirror outside wire.requests entries balances after)
    {Q : Except KitError (List DetailedBalance) → Wire → Prop}
    (onward : ∀ wire' : Wire, wire'.requests = after →
      Ends outside (rest.mapM kit.detailed).run wire' fun result =>
        Q (result.map (balances ++ ·))) :
    Ends outside ((entries ++ rest).mapM kit.detailed).run wire Q := by
  -- On the entries, not on the relation: each step starts from the requests of another wire.
  induction entries generalizing wire balances Q with
  | nil =>
      cases detailed
      refine (onward wire rfl).mono fun result wire' ends => ?_
      cases result <;> exact ends
  | cons entry entries inductionHypothesis =>
      cases detailed with
      | cons told others =>
          rw [List.cons_append, List.mapM_cons]
          refine told.ends.run_bind fun wire' asked => ?_
          rw [← asked] at others
          rw [ends_run_bind]
          refine inductionHypothesis others fun last asked' => ?_
          refine (onward last asked').mono fun result _ ends => ?_
          cases result <;> exact ends

/-- The kit goes through all entries if each becomes a detailed balance. -/
theorem Detailed.ends_all {kit : Kit} {wire : Wire}
    (detailed : Detailed kit.mirror outside wire.requests entries balances after) :
    Ends outside (entries.mapM kit.detailed).run wire fun given wire' =>
      given = .ok balances ∧ wire'.requests = after := by
  have course : Ends outside ((entries ++ []).mapM kit.detailed).run wire fun given wire' =>
      given = .ok balances ∧ wire'.requests = after := by
    refine detailed.ends fun wire' asked => ?_
    exact ⟨congrArg Except.ok (List.append_nil balances), asked⟩
  rwa [List.append_nil] at course

/-- The first entry without details to be used is the end of all. -/
theorem Detailed.ends_failed {kit : Kit} {wire : Wire} {entry : TokenBalance}
    {rest : List TokenBalance} {between : List HttpRequest} {e : MirrorNodeError}
    (detailed : Detailed kit.mirror outside wire.requests entries balances between)
    (failed : Inquiry kit.mirror outside between entry (.error e) after) :
    Ends outside ((entries ++ entry :: rest).mapM kit.detailed).run wire fun given wire' =>
      given = .error (.mirrorNode e) ∧ wire'.requests = after := by
  refine detailed.ends fun wire' asked => ?_
  rw [← asked] at failed
  rw [List.mapM_cons]
  exact failed.ends.run_bind_error fun last asked' => ⟨rfl, asked'⟩

/-! ### All balances of an account -/

/-- What becomes of the balances of an account, and the requests made when that is settled.  All
are told if every entry of every page of their listing becomes a detailed balance; else none is,
for want of a URL, of a page, or of the details of the first entry that has none to be used. -/
inductive Accounted (node : MirrorNode) (account : AccountId) (outside : Outside)
    (before : List HttpRequest) :
    Except MirrorNodeError (List DetailedBalance) → List HttpRequest → Prop where
  | complete {first : Url} {asked : List Url} {items : List AccountBalance}
      {balances : List DetailedBalance} {after : List HttpRequest}
      (located : node.balancesUrl account = .ok first)
      (listed : Listed node balancesPage outside before first (.ok items) asked)
      (detailed : Detailed node outside (asked.foldl Url.asking before)
        (items.flatMap AccountBalance.tokens) balances after) :
      Accounted node account outside before (.ok balances) after
  | unlocated {e : MirrorNodeError} (nowhere : node.balancesUrl account = .error e) :
      Accounted node account outside before (.error e) before
  | unlisted {first : Url} {asked : List Url} {e : MirrorNodeError}
      (located : node.balancesUrl account = .ok first)
      (broken : Listed node balancesPage outside before first (.error e) asked) :
      Accounted node account outside before (.error e) (asked.foldl Url.asking before)
  | undetailed {first : Url} {asked : List Url} {items : List AccountBalance}
      {done rest : List TokenBalance} {entry : TokenBalance} {balances : List DetailedBalance}
      {between after : List HttpRequest} {e : MirrorNodeError}
      (located : node.balancesUrl account = .ok first)
      (listed : Listed node balancesPage outside before first (.ok items) asked)
      (split : items.flatMap AccountBalance.tokens = done ++ entry :: rest)
      (detailed : Detailed node outside (asked.foldl Url.asking before) done balances between)
      (failed : Inquiry node outside between entry (.error e) after) :
      Accounted node account outside before (.error e) after

/-- The balances of every account can be accounted for. -/
theorem exists_accounted (node : MirrorNode) (account : AccountId) (outside : Outside)
    (wire : Wire) : ∃ result after, Accounted node account outside wire.requests result after := by
  cases located : node.balancesUrl account with
  | error e => exact ⟨_, _, .unlocated located⟩
  | ok first =>
      obtain ⟨asked, listed⟩ := listing_eq_iff.1
        (rfl : (node.listing balancesPage first outside wire).1 = _)
      cases outcome : (node.listing balancesPage first outside wire).1 with
      | error e =>
          rw [outcome] at listed
          exact ⟨_, _, .unlisted located listed⟩
      | ok items =>
          rw [outcome] at listed
          rcases exists_detailed node outside (asked.foldl Url.asking wire.requests)
              (items.flatMap AccountBalance.tokens) with
            ⟨balances, after, detailed⟩ | ⟨done, entry, rest, balances, between, e, after, split,
              detailed, failed⟩
          · exact ⟨_, _, .complete located listed detailed⟩
          · exact ⟨_, _, .undetailed located listed split detailed failed⟩

/-- The entries are those of the listing, all of them or none. -/
theorem ends_tokenBalances {node : MirrorNode} {account : AccountId} {wire : Wire} {first : Url}
    {result : Except MirrorNodeError (List AccountBalance)} {asked : List Url}
    (located : node.balancesUrl account = .ok first)
    (listed : Listed node balancesPage outside wire.requests first result asked) :
    Ends outside (Query.ofMirror (node.tokenBalances account)).run wire fun given wire' =>
      given = (result.map (List.flatMap AccountBalance.tokens)).mapError KitError.mirrorNode ∧
        wire'.requests = asked.foldl Url.asking wire.requests := by
  rw [ends_ofMirror, tokenBalances, located, withUrl, ends_bind]
  refine listed.ends.mono ?_
  rintro _ wire' ⟨rfl, told⟩
  exact ⟨rfl, told⟩

/-- Whatever becomes of the balances of an account, the kit comes to it. -/
theorem Accounted.ends {kit : Kit} {account : Option AccountId} {wire : Wire}
    {result : Except MirrorNodeError (List DetailedBalance)} {after : List HttpRequest}
    (accounted : Accounted kit.mirror (kit.subject account) outside wire.requests result after) :
    Ends outside (kit.allTokenBalances account).run wire fun given wire' =>
      given = result.mapError KitError.mirrorNode ∧ wire'.requests = after := by
  rw [Kit.allTokenBalances]
  cases accounted with
  | unlocated nowhere =>
      rw [tokenBalances, nowhere]
      exact ⟨rfl, rfl⟩
  | unlisted located broken =>
      exact (ends_tokenBalances located broken).run_bind_error fun wire' asked => ⟨rfl, asked⟩
  | complete located listed detailed =>
      refine (ends_tokenBalances located listed).run_bind fun wire' asked => ?_
      rw [← asked] at detailed
      exact detailed.ends_all
  | undetailed located listed split detailed failed =>
      refine (ends_tokenBalances located listed).run_bind fun wire' asked => ?_
      rw [← asked] at detailed
      rw [split]
      exact detailed.ends_failed failed

end MirrorNode

/-! ### What the kit tells -/

/-- A detailed balance shows a numeral of its units in eighteen decimal places at most, and that
is the balance where the token has no more places, or nothing is held. -/
theorem DetailedBalance.shown (b : DetailedBalance) :
    ∃ text, b.toJson.Has "balanceInDisplayUnit" (.string text) ∧
      (Amount.Denotes text (b.balance.toNat / 10 ^ b.decimals.toNat) ↔
        b.decimals.toNat ≤ 18 ∨ b.balance = 0) :=
  ⟨_, ⟨_, rfl, rfl⟩, Amount.denotes_ofBaseUnits_iff⟩

open MirrorNode in
/-- A kit tells an account's token balances exactly if the listing of them comes to its end and
the details of every token in it can be had and give a number for its decimals.  Then each entry
of each page becomes one balance, in the order of the pages and of the entries on each.  It has
the token and the balance of its entry, and the name, the symbol and the decimals that were
answered when the details of this token were asked for, after all that was asked before; and it
shows its units as people write them.  In every other case there is no balance at all but the
error of the URL, page, link or entry that was the first to fail, or of too many pages. -/
theorem Kit.ends_allTokenBalances (kit : Kit) (account : Option AccountId) (outside : Outside)
    (wire : Wire) :
    Ends outside (kit.allTokenBalances account).run wire fun result after =>
      (∀ balances, result = .ok balances ↔ ∃ first urls pages url page entries,
        kit.mirror.balancesUrl (kit.subject account) = .ok first ∧
        Trail kit.mirror balancesPage outside wire.requests first urls pages url ∧
        urls.length < maxPages ∧
        fetched balancesPage outside (urls.foldl Url.asking wire.requests) url = .ok page ∧
        kit.mirror.Closes (urls ++ [url]) page ∧
        entries = ((pages ++ [page]).flatMap Page.items).flatMap AccountBalance.tokens ∧
        Detailed kit.mirror outside ((urls ++ [url]).foldl Url.asking wire.requests) entries
          balances after.requests ∧
        balances.map DetailedBalance.entry = entries) ∧
      (∀ e, result = .error e ↔ ∃ cause, e = .mirrorNode cause ∧
        Accounted kit.mirror (kit.subject account) outside wire.requests (.error cause)
          after.requests) ∧
      ∀ b : DetailedBalance, ∃ text, b.toJson.Has "balanceInDisplayUnit" (.string text) ∧
        (Amount.Denotes text (b.balance.toNat / 10 ^ b.decimals.toNat) ↔
          b.decimals.toNat ≤ 18 ∨ b.balance = 0) := by
  obtain ⟨told, requests, accounted⟩ :=
    exists_accounted kit.mirror (kit.subject account) outside wire
  have course := accounted.ends
  rw [Ends, course.1, course.2]
  -- There is one end for each wire, so whatever is accounted for is what the kit comes to.
  refine ⟨fun balances => ⟨fun same => ?_, ?_⟩, fun e => ⟨fun same => ?_, ?_⟩,
    DetailedBalance.shown⟩
  · rw [Json.mapError_eq_ok] at same
    subst same
    cases accounted with
    | complete located listed detailed =>
        cases listed with
        | complete trail within read closing =>
            exact ⟨_, _, _, _, _, _, located, trail, within, read, closing, rfl, detailed,
              detailed.map_entry⟩
  · rintro ⟨first, urls, pages, url, page, _, located, trail, within, read, closing, rfl,
      detailed, -⟩
    have whole := Accounted.complete located (.complete trail within read closing) detailed
    rw [← course.1]
    exact whole.ends.1
  · obtain ⟨cause, rfl, rfl⟩ := Json.mapError_eq_error.1 same
    exact ⟨cause, rfl, accounted⟩
  · rintro ⟨cause, rfl, withheld⟩
    rw [← course.1]
    exact withheld.ends.1

/-- A mirror node's answers in turn: two pages of balances, and the details of their tokens. -/
def pagedWorld : Outside where
  clock _ := ⟨0, 0⟩
  http before _ := .reply 200 (Text.bytes (
    match before.length with
    | 0 => "\x7b\"balances\":[\x7b\"balance\":1,\"tokens\":[\x7b\"token_id\":\"0.0.5\"," ++
        "\"balance\":250\x7d]\x7d],\"links\":\x7b\"next\":\"/api/v1/balances?page=2\"\x7d\x7d"
    | 1 => "\x7b\"balances\":[\x7b\"balance\":1,\"tokens\":[\x7b\"token_id\":\"0.0.6\"," ++
        "\"balance\":7\x7d]\x7d],\"links\":\x7b\"next\":null\x7d\x7d"
    | 2 => "\x7b\"token_id\":\"0.0.5\",\"name\":\"Five\",\"symbol\":\"V\",\"decimals\":\"2\"\x7d"
    | _ => "\x7b\"symbol\":\"VI\",\"decimals\":\"0\",\"name\":\"Six\",\"token_id\":\"0.0.6\"\x7d"))

example : ((LedgerTool.informed.allTokenBalances none).run pagedWorld .empty).1.toOption =
    some [⟨⟨0, 0, 5⟩, "Five", "V", 2, 250⟩, ⟨⟨0, 0, 6⟩, "Six", "VI", 0, 7⟩] := by
  decide +kernel

end LedgerAgent
