/-
Module: LedgerAgent.Proofs.MirrorNode.Origin
Purpose: Which requests of a mirror node's questions stay with its base URL: all of them, as
  long as no page's link goes on with the authority of a base URL that nothing follows.
Main exports: MirrorNode.Question, MirrorNode.Home, MirrorNode.Kept, MirrorNode.Trail.kept,
  MirrorNode.ends_ask
-/
import LedgerAgent.MirrorNode.Query
import LedgerAgent.Proofs.MirrorNode.Listing
import LedgerAgent.Proofs.Url.Origin

namespace LedgerAgent

open Json (Decoder)

namespace Url

variable {url other : Url}

/-- A pair more in the query changes nothing about the origin. -/
theorem SameOrigin.addPair (same : url.SameOrigin other) (name value : String) :
    (url.addPair name value).SameOrigin other :=
  ⟨same.scheme, same.host, same.portNumber⟩

theorem SameOrigin.requested (same : url.SameOrigin other) : url.requested.SameOrigin other :=
  ⟨same.scheme, same.host, same.portNumber⟩

/-- Requests are made for two of the special schemes, and not for files. -/
theorem web_of_isRequestable (requestable : url.isRequestable = true) :
    isSpecial url.scheme = true ∧ url.scheme ≠ fileScheme := by
  have web : ∀ scheme ∈ ["http".toList, "https".toList],
      isSpecial scheme = true ∧ scheme ≠ fileScheme := by
    decide
  rw [isRequestable, Bool.and_eq_true, Bool.and_eq_true] at requestable
  exact web url.scheme (List.contains_iff_mem.1 requestable.1.1)

end Url

namespace MirrorNode

variable {node : MirrorNode} {outside : Outside} {start before : List HttpRequest} {wire : Wire}

/-- The questions of a mirror node, by what answers them. -/
inductive Question : Type → Type where
  | hbarBalance (account : AccountId) : Question UInt64
  | tokenBalance (token : TokenId) (account : AccountId) : Question UInt64
  | tokenBalances (account : AccountId) : Question (List TokenBalance)
  | tokenDetails (token : TokenId) : Question TokenDetails
  | tokenHolders (token : TokenId) (threshold : Option UInt64) : Question (List TokenHolder)
  | topicInfo (topic : TopicId) : Question Json
  | topicMessages (topic : TopicId) (lower upper : Option String) : Question (List TopicMessage)
  | pendingAirdrops (account : AccountId) : Question (List PendingAirdrop)

def Question.ask (node : MirrorNode) {β : Type} :
    Question β → Exchange (Except MirrorNodeError β)
  | .hbarBalance account => node.hbarBalance account
  | .tokenBalance token account => node.tokenBalance token account
  | .tokenBalances account => node.tokenBalances account
  | .tokenDetails token => node.tokenDetails token
  | .tokenHolders token threshold => node.tokenHolders token threshold
  | .topicInfo topic => node.topicInfo topic
  | .topicMessages topic lower upper => node.topicMessages topic lower upper
  | .pendingAirdrops account => node.pendingAirdrops account

/-! ### Where paths and links lead -/

/-- A mirror node as it is created. -/
structure Sound (node : MirrorNode) : Prop where
  grounded : node.base.Grounded
  based : node.base.hasOpaquePath = false

/-- A mirror node is created of a URL that is parsed and has a path to add to. -/
theorem parse_of_create {text : String} (created : create text = .ok node) :
    Url.parse text = .ok node.base ∧ node.base.hasOpaquePath = false := by
  rw [create] at created
  split at created
  · cases created
  · next base read =>
    split at created
    · cases created
    · next based =>
      cases created
      exact ⟨read, by simpa using based⟩

/-- Whatever mirror node is created, it is sound. -/
theorem sound_of_create {text : String} (created : create text = .ok node) : node.Sound :=
  ⟨Url.grounded_of_parse (parse_of_create created).1, (parse_of_create created).2⟩

/-- A path is resolved by parsing it behind the base URL without the slashes at its end. -/
theorem parse_of_resolve {path : String} {url : Url} (resolved : node.resolve path = .ok url) :
    Url.parse (String.ofList
      (node.base.chars.rdropWhile (· = '/') ++ path.toList)) = .ok url := by
  rw [MirrorNode.resolve] at resolved
  cases parsed : Url.parse (node.root ++ path) with
  | error e =>
      rw [parsed] at resolved
      cases resolved
  | ok again =>
      rw [parsed] at resolved
      cases resolved
      rw [← parsed, root, Url.toText, String.toList_ofList, String.ofList_append,
        String.ofList_toList]
      rfl

/-- A URL has the scheme of the base URL, and the host and port number as well if requests can
be made for that scheme. -/
structure Home (node : MirrorNode) (url : Url) : Prop where
  scheme : url.scheme = node.base.scheme
  origin : Url.isSpecial url.scheme = true → url.scheme ≠ Url.fileScheme →
    url.SameOrigin node.base

theorem Home.addPair {url : Url} (home : node.Home url) (name value : String) :
    node.Home (url.addPair name value) :=
  ⟨home.scheme, fun special web => (home.origin special web).addPair name value⟩

/-- A link that can lead away from the base URL: nothing but slashes follows the base URL's
authority, and the link does not begin with a character that ends it. -/
structure Misleading (node : MirrorNode) (link : String) : Prop where
  bare : node.base.Bare
  onward : ¬ Url.Beside link.toList

/-- No path or link leads to another scheme, and none but a misleading one away from home. -/
theorem Sound.resolve {path : String} {url : Url} (sound : node.Sound)
    (resolved : node.resolve path = .ok url) :
    url.scheme = node.base.scheme ∧ (¬ node.Misleading path → node.Home url) := by
  obtain ⟨scheme, origin⟩ := sound.grounded.sameOrigin sound.based (parse_of_resolve resolved)
  refine ⟨scheme, fun straight => ⟨scheme, fun special web => ?_⟩⟩
  rw [scheme] at special web
  apply origin special web
  by_contra parted
  rw [not_or, not_not] at parted
  exact straight ⟨parted.2, parted.1⟩

/-- A path with a slash in front misleads nobody. -/
theorem not_misleading_of_rooted {path : String} (rooted : path.toList.head? = some '/') :
    ¬ node.Misleading path := by
  intro misleading
  apply misleading.onward
  intro c first
  rw [rooted] at first
  cases first
  decide

theorem rooted_append {front : String} (rooted : front.toList.head? = some '/') (text : String) :
    (front ++ text).toList.head? = some '/' := by
  rw [String.toList_append, List.head?_append, rooted]
  rfl

theorem rooted_tokenBalancesPath (token : TokenId) :
    (tokenBalancesPath token).toList.head? = some '/' :=
  rooted_append (rooted_append rfl _) _

/-- A path with a slash in front stays at home. -/
theorem Sound.home_of_rooted {path : String} {url : Url} (sound : node.Sound)
    (rooted : path.toList.head? = some '/') (resolved : node.resolve path = .ok url) :
    node.Home url :=
  (sound.resolve resolved).2 (not_misleading_of_rooted rooted)

/-- The URLs of the questions' own paths are at home, whatever is asked of them. -/
theorem Sound.home_of_endpoint {path : String} {pairs : List (String × String)} {url : Url}
    (sound : node.Sound) (rooted : path.toList.head? = some '/')
    (found : node.endpoint path pairs = .ok url) : node.Home url := by
  obtain ⟨first, resolved, rfl⟩ := Json.map_eq_ok.1 found
  have home := sound.home_of_rooted rooted resolved
  clear found resolved
  induction pairs generalizing first with
  | nil => exact home
  | cons pair pairs inductionHypothesis => exact inductionHypothesis _ (home.addPair _ _)

/-! ### The requests of a question -/

/-- The decoders of a mirror node's pages. -/
inductive Paged : {α : Type} → Decoder (Page α) → Prop where
  | balances : Paged balancesPage
  | holders : Paged holdersPage
  | messages : Paged messagesPage
  | airdrops : Paged airdropsPage

/-- What stands at a URL, for one who made some requests before, is a page with a link. -/
inductive Links (outside : Outside) (before : List HttpRequest) (url : Url) (link : String) :
    Prop where
  | page {α : Type} {d : Decoder (Page α)} {page : Page α} (paged : Paged d)
      (read : fetched d outside before url = .ok page) (linked : page.next = some link)

/-- Requests that stay with the base URL, the latest first, but for those that were just told
by a page's misleading link; and even these keep the scheme. -/
inductive Kept (node : MirrorNode) (outside : Outside) (start : List HttpRequest) :
    List HttpRequest → Prop where
  | start : Kept node outside start start
  | home {before : List HttpRequest} {request : HttpRequest}
      (kept : Kept node outside start before) (origin : request.url.SameOrigin node.base) :
      Kept node outside start (request :: before)
  | astray {before : List HttpRequest} {url next : Url} {link : String}
      (kept : Kept node outside start (url.asking before))
      (linked : Links outside before url link) (misleading : node.Misleading link)
      (resolved : node.resolve link = .ok next) (scheme : next.scheme = node.base.scheme) :
      Kept node outside start (next.request :: url.asking before)

theorem Kept.asking {url : Url} (kept : Kept node outside start before) (home : node.Home url) :
    Kept node outside start (url.asking before) := by
  rw [Url.asking]
  split
  · next requestable =>
    obtain ⟨special, web⟩ := Url.web_of_isRequestable requestable
    exact .home kept (home.origin special web).requested
  · exact kept

/-- Where no page misleads, every request has the base URL's scheme, host and port number. -/
theorem Kept.sameOrigin {made : List HttpRequest} (kept : Kept node outside start made)
    (straight : ∀ before url link, Links outside before url link → ¬ node.Misleading link) :
    ∀ request ∈ made, request ∈ start ∨ request.url.SameOrigin node.base := by
  induction kept with
  | start => exact fun request member => .inl member
  | home kept origin inductionHypothesis =>
      intro request member
      rcases List.mem_cons.1 member with rfl | earlier
      · exact .inr origin
      · exact inductionHypothesis request earlier
  | astray kept linked misleading resolved scheme inductionHypothesis =>
      exact absurd misleading (straight _ _ _ linked)

section

variable {α : Type} {d : Decoder (Page α)} {first : Url}

/-- One step of a listing: the page behind a link is asked for at home, or the link misleads. -/
theorem Sound.kept_onward {url next : Url} {page : Page α} {link : String} (sound : node.Sound)
    (paged : Paged d) (kept : Kept node outside start (url.asking before))
    (read : fetched d outside before url = .ok page) (linked : page.next = some link)
    (resolved : node.resolve link = .ok next) :
    Kept node outside start (next.asking (url.asking before)) := by
  rcases sound.resolve resolved with ⟨scheme, home⟩
  by_cases misleading : node.Misleading link
  · rw [Url.asking]
    split
    · exact .astray kept (.page paged read linked) misleading resolved scheme
    · exact kept
  · exact kept.asking (home misleading)

/-- Every request on the way of a listing is kept, the one for the next URL included. -/
theorem Trail.kept {urls : List Url} {pages : List (Page α)} {url : Url} (sound : node.Sound)
    (paged : Paged d) (home : node.Home first)
    (trail : Trail node d outside start first urls pages url) :
    Kept node outside start (urls.foldl Url.asking start) ∧
      Kept node outside start (url.asking (urls.foldl Url.asking start)) := by
  induction trail with
  | start => exact ⟨.start, Kept.start.asking home⟩
  | onward trail read linked resolved fresh inductionHypothesis =>
      rw [List.foldl_append, List.foldl_cons, List.foldl_nil]
      exact ⟨inductionHypothesis.2,
        sound.kept_onward paged inductionHypothesis.2 read linked resolved⟩

/-- All requests of a listing are kept that starts at home. -/
theorem Listed.kept {result : Except MirrorNodeError (List α)} {asked : List Url}
    (sound : node.Sound) (paged : Paged d) (home : node.Home first)
    (listed : Listed node d outside start first result asked) :
    Kept node outside start (asked.foldl Url.asking start) := by
  cases listed with
  | complete trail | broken trail =>
      rw [List.foldl_append, List.foldl_cons, List.foldl_nil]
      exact (trail.kept sound paged home).2
  | full trail => exact (trail.kept sound paged home).1

theorem Sound.kept_listing (sound : node.Sound) (paged : Paged d) (home : node.Home first) :
    Ends outside (node.listing d first) wire fun _ after =>
      Kept node outside wire.requests after.requests := by
  obtain ⟨asked, listed⟩ := listing_eq_iff.1 (rfl : (node.listing d first outside wire).1 = _)
  apply listed.ends.mono
  rintro _ after ⟨-, told⟩
  rw [told]
  exact listed.kept sound paged home

end

theorem Home.kept_fetch {β : Type} {d : Decoder β} {url : Url} (home : node.Home url) :
    Ends outside (fetch d url) wire fun _ after =>
      Kept node outside wire.requests after.requests := by
  refine MirrorNode.ends_fetch fun after told => ?_
  rw [told]
  exact Kept.start.asking home

theorem kept_withUrl {β : Type} {url : Except MirrorNodeError Url}
    {next : Url → Exchange (Except MirrorNodeError β)}
    (onward : ∀ found, url = .ok found → Ends outside (next found) wire fun _ after =>
      Kept node outside wire.requests after.requests) :
    Ends outside (withUrl url next) wire fun _ after =>
      Kept node outside wire.requests after.requests := by
  cases url with
  | error e => exact Kept.start
  | ok found => exact onward found rfl

/-- Every question is asked with kept requests. -/
theorem Sound.kept_ask {β : Type} (sound : node.Sound) (question : Question β) :
    Ends outside (question.ask node) wire fun _ after =>
      Kept node outside wire.requests after.requests := by
  cases question with
  | hbarBalance account =>
      rw [Question.ask, hbarBalance, balancesUrl]
      refine kept_withUrl fun url found => ?_
      simp only [ends_bind, ends_pure]
      exact (sound.home_of_endpoint rfl found).kept_fetch
  | tokenBalance token account =>
      rw [Question.ask, tokenBalance]
      refine kept_withUrl fun url found => ?_
      simp only [ends_bind, ends_pure]
      exact (sound.home_of_endpoint (rooted_tokenBalancesPath token) found).kept_fetch
  | tokenBalances account =>
      rw [Question.ask, tokenBalances, balancesUrl]
      refine kept_withUrl fun url found => ?_
      simp only [ends_bind, ends_pure]
      exact sound.kept_listing .balances (sound.home_of_endpoint rfl found)
  | tokenDetails token =>
      rw [Question.ask, tokenDetails]
      refine kept_withUrl fun url found => ?_
      exact (sound.home_of_rooted (rooted_append rfl _) found).kept_fetch
  | tokenHolders token threshold =>
      unfold Question.ask tokenHolders
      refine kept_withUrl fun url found => ?_
      exact sound.kept_listing .holders
        (sound.home_of_endpoint (rooted_tokenBalancesPath token) found)
  | topicInfo topic =>
      rw [Question.ask, topicInfo]
      refine kept_withUrl fun url found => ?_
      exact (sound.home_of_rooted (rooted_append rfl _) found).kept_fetch
  | topicMessages topic lower upper =>
      rw [Question.ask, topicMessages]
      refine kept_withUrl fun url found => ?_
      exact sound.kept_listing .messages
        (sound.home_of_endpoint (rooted_append (rooted_append rfl _) _) found)
  | pendingAirdrops account =>
      rw [Question.ask, pendingAirdrops]
      refine kept_withUrl fun url found => ?_
      exact sound.kept_listing .airdrops
        (sound.home_of_rooted (rooted_append (rooted_append rfl _) _) found)

/-- Whatever is asked and answered, each request has the base URL's scheme, host and port
number, but for one that follows a page with a misleading link; and all of them do where
there is no such page. -/
theorem ends_ask {β : Type} {text : String} {node : MirrorNode} (created : create text = .ok node)
    (question : Question β) (outside : Outside) (wire : Wire) :
    Ends outside (question.ask node) wire fun _ after =>
      Kept node outside wire.requests after.requests ∧
      ((∀ before url link, Links outside before url link → ¬ node.Misleading link) →
        ∀ request ∈ after.requests,
          request ∈ wire.requests ∨ request.url.SameOrigin node.base) :=
  ((sound_of_create created).kept_ask question).mono fun _ _ kept => ⟨kept, kept.sameOrigin⟩

/-- A mirror node whose base URL has no path. -/
def exposed : MirrorNode :=
  ⟨⟨"http".toList, [], [], some (.domain "mirror.test".toList), none, .segments [[]], none, none⟩⟩

theorem ends_ask_exposed : create "http://mirror.test" = .ok exposed ∧
    ∀ outside : Outside, Ends outside ((Question.tokenHolders ⟨0, 0, 5⟩ none).ask exposed) .empty
      fun _ after => Kept exposed outside [] after.requests ∧
        ((∀ before url link, Links outside before url link → ¬ exposed.Misleading link) →
          ∀ request ∈ after.requests, request ∈ [] ∨ request.url.SameOrigin exposed.base) :=
  have created : create "http://mirror.test" = .ok exposed := by rfl
  ⟨created, fun outside => ends_ask created (.tokenHolders ⟨0, 0, 5⟩ none) outside .empty⟩

/-- A world in which the mirror node's page has a link with a host of its own. -/
def misleadingWorld : Outside where
  clock _ := ⟨0, 0⟩
  http _ request :=
    .reply 200 (Text.bytes (if request.url.host = exposed.base.host then
      "\x7b\"links\":\x7b\"next\":\"@other.test/p2\"\x7d\x7d" else "\x7b\x7d"))

/-- The holders of a token are asked for at a host that the mirror node names. -/
theorem tokenHolders_leaves_exposed : create "http://mirror.test" = .ok exposed ∧
    ¬ Ends misleadingWorld ((Question.tokenHolders ⟨0, 0, 5⟩ none).ask exposed) .empty
      fun _ after => ∀ request ∈ after.requests, request.url.SameOrigin exposed.base := by
  refine ⟨rfl, fun all => ?_⟩
  have hosts : ((Question.tokenHolders ⟨0, 0, 5⟩ none).ask exposed misleadingWorld
      .empty).2.requests.map (·.url.host) =
      [some (.domain "other.test".toList), some (.domain "mirror.test".toList)] := by
    decide +kernel
  obtain ⟨request, member, named⟩ := List.mem_map.1 (hosts ▸ List.mem_cons_self)
  rw [(all request member).host] at named
  exact absurd named (by decide)

end MirrorNode

end LedgerAgent
