/-
Module: LedgerAgent.Proofs.MirrorNode.Revisit
Purpose: Which listings ask for a page twice: those in which a link spells the URL of a page
  that was read in another way.
Main exports: Url.Target, Url.Respells, MirrorNode.Native, MirrorNode.Trail.nodup_targets,
  MirrorNode.ends_listing_targets
-/
import LedgerAgent.Proofs.MirrorNode.Origin
import LedgerAgent.Proofs.Url.Query

namespace LedgerAgent

open Json (Decoder)

namespace Url

/-! ### Pages and the spellings of their URLs -/

/-- What is asked for by a request: a page, however its URL is spelled. -/
structure Target where
  scheme : List Char
  host : Option Host
  portNumber : Option Nat
  path : Path
  pairs : List (List UInt8 × List UInt8)
deriving DecidableEq

/-- The page that a URL is for.  A request has no use for the user and the fragment. -/
def target (url : Url) : Target :=
  ⟨url.scheme, url.host, url.portNumber, url.path, url.queryPairs⟩

/-- Two URLs are for one page, and differ in the user, in the spelling of the query's pairs
or in the fragment. -/
structure Respells (url known : Url) : Prop where
  target : url.target = known.target
  spelling : url.username ≠ known.username ∨ url.password ≠ known.password ∨
    url.query ≠ known.query ∨ url.fragment ≠ known.fragment

/-- Two URLs that ask for one target are two spellings of it. -/
theorem respells_of_ne {url known : Url} (target : url.target = known.target)
    (other : url ≠ known) : url.Respells known := by
  refine ⟨target, ?_⟩
  by_contra same
  simp only [not_or, not_not] at same
  apply other
  cases url
  cases known
  simp_all [Url.target]

end Url

namespace MirrorNode

variable {α : Type} {node : MirrorNode} {d : Decoder (Page α)} {outside : Outside}
  {before : List HttpRequest} {wire : Wire} {first : Url}

/-- A URL in the spelling of the client: with the base URL's user, without a fragment, and
with a query as encoding its pairs spells it. -/
structure Native (node : MirrorNode) (url : Url) : Prop where
  username : url.username = node.base.username
  password : url.password = node.base.password
  query : Url.Canonical url.query
  fragment : url.fragment = none

/-- In the client's own spelling each page has one URL. -/
theorem Native.not_respells {url known : Url} (native : node.Native url)
    (native' : node.Native known) : ¬ url.Respells known := by
  rintro ⟨target, username | password | query | fragment⟩
  · exact username (native.username.trans native'.username.symm)
  · exact password (native.password.trans native'.password.symm)
  · exact query (native.query.eq_of_pairs native'.query (congrArg Url.Target.pairs target))
  · exact fragment (native.fragment.trans native'.fragment.symm)

theorem isRequestable_of_fetched {β : Type} {d : Decoder β} {url : Url} {b : β}
    (read : fetched d outside before url = .ok b) : url.isRequestable = true := by
  cases requestable : url.isRequestable with
  | true => rfl
  | false =>
      rw [fetched, Url.answer, requestable] at read
      cases read

/-- All that was read on the way was asked for. -/
theorem Trail.filter_isRequestable {urls : List Url} {pages : List (Page α)} {url : Url}
    (trail : Trail node d outside before first urls pages url) :
    urls.filter Url.isRequestable = urls := by
  induction trail with
  | start => rfl
  | onward trail read linked resolved fresh inductionHypothesis =>
      rw [List.filter_append, inductionHypothesis,
        List.filter_cons_of_pos (isRequestable_of_fetched read), List.filter_nil]

/-- No URL that a listing comes to spells that of an earlier page in another way. -/
def Faithful (node : MirrorNode) (d : Decoder (Page α)) (outside : Outside)
    (before : List HttpRequest) (first : Url) : Prop :=
  ∀ urls pages url, Trail node d outside before first urls pages url →
    urls.length < maxPages → url.isRequestable = true → ∀ known ∈ urls, ¬ url.Respells known

/-- A listing without respelled pages never comes to a target that it has asked for. -/
theorem Faithful.target_not_mem {urls : List Url} {pages : List (Page α)} {url : Url}
    (faithful : Faithful node d outside before first)
    (trail : Trail node d outside before first urls pages url) (within : urls.length < maxPages)
    (requestable : url.isRequestable = true) : url.target ∉ urls.map Url.target := by
  intro member
  obtain ⟨known, read, target⟩ := List.mem_map.1 member
  refine faithful urls pages url trail within requestable known read
    (Url.respells_of_ne target.symm ?_)
  rintro rfl
  exact List.disjoint_of_nodup_append trail.nodup read (List.mem_singleton_self url)

theorem Faithful.nodup_concat {urls : List Url} {pages : List (Page α)} {url : Url}
    (faithful : Faithful node d outside before first)
    (trail : Trail node d outside before first urls pages url) (within : urls.length < maxPages)
    (requestable : url.isRequestable = true) (distinct : (urls.map Url.target).Nodup) :
    ((urls ++ [url]).map Url.target).Nodup := by
  rw [List.map_append]
  exact distinct.append (List.nodup_singleton _)
    (List.disjoint_singleton.2 (faithful.target_not_mem trail within requestable))

/-- No page is read twice on the way of a faithful listing. -/
theorem Faithful.nodup_targets {urls : List Url} {pages : List (Page α)} {url : Url}
    (faithful : Faithful node d outside before first)
    (trail : Trail node d outside before first urls pages url)
    (within : urls.length ≤ maxPages) : (urls.map Url.target).Nodup := by
  induction trail with
  | start => exact List.nodup_nil
  | onward trail read linked resolved fresh inductionHypothesis =>
      rw [List.length_append, List.length_singleton] at within
      exact faithful.nodup_concat trail within (isRequestable_of_fetched read)
        (inductionHypothesis (Nat.le_of_succ_le within))

/-- No target is asked for twice. -/
theorem Faithful.nodup_asked {result : Except MirrorNodeError (List α)} {asked : List Url}
    (faithful : Faithful node d outside before first)
    (listed : Listed node d outside before first result asked) :
    ((asked.filter Url.isRequestable).map Url.target).Nodup := by
  cases listed with
  | @complete urls pages url page trail within | @broken urls pages url e trail within =>
      have distinct := faithful.nodup_targets trail (Nat.le_of_lt within)
      rw [List.filter_append, trail.filter_isRequestable]
      cases requestable : url.isRequestable with
      | false =>
          rw [List.filter_cons_of_neg (by simp [requestable]), List.filter_nil, List.append_nil]
          exact distinct
      | true =>
          rw [List.filter_cons_of_pos requestable, List.filter_nil]
          exact faithful.nodup_concat trail within requestable distinct
  | full trail exhausted =>
      rw [trail.filter_isRequestable]
      exact faithful.nodup_targets trail (Nat.le_of_eq exhausted)

/-- The requests of a listing that comes to an end, whichever end that is. -/
theorem Listed.requests_eq {result : Except MirrorNodeError (List α)} {asked : List Url}
    (listed : Listed node d outside wire.requests first result asked) :
    (node.listing d first outside wire).2.requests =
      ((asked.filter Url.isRequestable).map Url.request).reverse ++ wire.requests := by
  rw [← Url.foldl_asking]
  exact listed.ends.2

theorem nodup_targets_reverse {asked : List Url} :
    ((asked.map Url.request).reverse.map (·.url.target)).Nodup ↔
      (asked.map Url.target).Nodup := by
  rw [List.map_reverse, List.nodup_reverse, List.map_map]
  rfl

/-- A listing that asks for no page twice is faithful. -/
theorem faithful_of_nodup {made : List HttpRequest}
    (told : (node.listing d first outside wire).2.requests = made ++ wire.requests)
    (distinct : (made.map (·.url.target)).Nodup) :
    Faithful node d outside wire.requests first := by
  intro urls pages url trail within requestable known read respells
  obtain ⟨left, remaining⟩ := Nat.exists_eq_add_of_le (Nat.le_of_lt within)
  obtain ⟨result, asked, listed, -, through⟩ := trail.exists_listed remaining.symm
  rw [listed.requests_eq] at told
  rw [← List.append_cancel_right told, nodup_targets_reverse] at distinct
  have front := (through within).filter Url.isRequestable
  rw [List.filter_append, trail.filter_isRequestable, List.filter_cons_of_pos requestable,
    List.filter_nil] at front
  have apart := distinct.sublist (front.map Url.target).sublist
  rw [List.map_append] at apart
  refine List.disjoint_of_nodup_append apart (List.mem_map_of_mem read) ?_
  rw [← respells.target]
  exact List.mem_singleton_self _

/-- What is read on the way was come to before. -/
theorem Trail.exists_of_mem {urls : List Url} {pages : List (Page α)} {url known : Url}
    (trail : Trail node d outside before first urls pages url) (read : known ∈ urls) :
    ∃ urls' pages', Trail node d outside before first urls' pages' known ∧
      urls'.length < urls.length := by
  induction trail with
  | start => cases read
  | @onward urls pages url next page link trail _ linked resolved fresh inductionHypothesis =>
      rw [List.length_append, List.length_singleton]
      rcases List.mem_append.1 read with earlier | last
      · obtain ⟨urls', pages', trail', shorter⟩ := inductionHypothesis earlier
        exact ⟨urls', pages', trail', Nat.lt_succ_of_lt shorter⟩
      · rw [List.mem_singleton.1 last]
        exact ⟨urls, pages, trail, Nat.lt_succ_self _⟩

/-- A listing whose URLs are all native is without respelled pages. -/
theorem faithful_of_native
    (native : ∀ urls pages url, Trail node d outside before first urls pages url →
      urls.length < maxPages → node.Native url) :
    Faithful node d outside before first := by
  intro urls pages url trail within requestable known read
  obtain ⟨urls', pages', trail', shorter⟩ := trail.exists_of_mem read
  exact (native urls pages url trail within).not_respells
    (native urls' pages' known trail' (Nat.lt_trans shorter within))

/-- The requests of a listing are for distinct pages exactly if no page's link leads to an
earlier page by a URL with another user, fragment or spelling of the query than the one it
was read by; and there is no such link where all URLs are spelled as the client spells its
own. -/
theorem ends_listing_targets (node : MirrorNode) (d : Decoder (Page α)) (first : Url)
    (outside : Outside) (wire : Wire) :
    Ends outside (node.listing d first) wire fun _ after =>
      ∃ made, after.requests = made ++ wire.requests ∧
        ((made.map (·.url.target)).Nodup ↔ Faithful node d outside wire.requests first) ∧
        ((∀ urls pages url, Trail node d outside wire.requests first urls pages url →
            urls.length < maxPages → node.Native url) →
          (made.map (·.url.target)).Nodup) := by
  obtain ⟨asked, listed⟩ := listing_eq_iff.1 (rfl : (node.listing d first outside wire).1 = _)
  have distinct (faithful : Faithful node d outside wire.requests first) :=
    nodup_targets_reverse.2 (faithful.nodup_asked listed)
  exact ⟨_, listed.requests_eq, ⟨faithful_of_nodup listed.requests_eq, distinct⟩,
    fun native => distinct (faithful_of_native native)⟩

/-- A page of a token's holders with a link back to itself, in which a colon is not encoded. -/
def respelledPage : String :=
  "\x7b\"balances\":[\x7b\"account\":\"0.0.100\",\"balance\":500,\"decimals\":2\x7d]," ++
    "\"links\":\x7b\"next\":\"/api/v1/tokens/0.0.5/balances?limit=100&account.balance=gt:0\"" ++
    "\x7d\x7d"

/-- A world in which that page is all that there is. -/
def respellingWorld : Outside where
  clock _ := ⟨0, 0⟩
  http _ _ := .reply 200 (Text.bytes respelledPage)

/-- The holders of a token are asked for twice, and each is listed twice. -/
theorem tokenHolders_revisits :
    Ends respellingWorld ((Question.tokenHolders ⟨0, 0, 5⟩ none).ask exposed) .empty
      fun result after => result = .ok [⟨⟨0, 0, 100⟩, 500, 2⟩, ⟨⟨0, 0, 100⟩, 500, 2⟩] ∧
        ¬ (after.requests.map (·.url.target)).Nodup := by
  have given : ((Question.tokenHolders ⟨0, 0, 5⟩ none).ask exposed respellingWorld
      .empty).1.toOption = some [⟨⟨0, 0, 100⟩, 500, 2⟩, ⟨⟨0, 0, 100⟩, 500, 2⟩] := by
    decide +kernel
  have asked : ¬ (((Question.tokenHolders ⟨0, 0, 5⟩ none).ask exposed respellingWorld
      .empty).2.requests.map (·.url.target)).Nodup := by
    decide +kernel
  have ok {answer : Except MirrorNodeError (List TokenHolder)} {items : List TokenHolder}
      (held : answer.toOption = some items) : answer = .ok items := by
    cases answer with
    | error e => cases held
    | ok items' => exact congrArg Except.ok (Option.some.inj held)
  exact ⟨ok given, asked⟩

end MirrorNode

end LedgerAgent
