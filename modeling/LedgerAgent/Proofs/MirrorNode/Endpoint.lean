/-
Module: LedgerAgent.Proofs.MirrorNode.Endpoint
Purpose: Where the first request of each of a mirror node's questions goes: behind the path of
  a base URL that ends with its path, and to the base URL's own path otherwise.
Main exports: MirrorNode.Question.path, MirrorNode.Question.pairs, MirrorNode.Opens,
  MirrorNode.opens_ask, MirrorNode.ends_ask_endpoint
-/
import LedgerAgent.Proofs.MirrorNode.Origin
import LedgerAgent.Proofs.Url.Onward

namespace LedgerAgent

open Json (Decoder)

/-- An identifier is a segment of a path. -/
theorem EntityId.settled_chars {kind : EntityKind} (id : EntityId kind) : Url.Settled id.chars := by
  have digit {n : Nat} {c : Char} (member : c ∈ Text.Numeral.digits n) :
      c ≠ '.' ∧ Url.isSchemePart c = true := by
    have own := Text.Numeral.isDigit_of_mem_digits member
    refine Url.forall_ascii (P := fun c => Text.Numeral.isDigit c = true →
      c ≠ '.' ∧ Url.isSchemePart c = true) ?_ (Url.small_of_isDigit own).1.1 own
    decide
  obtain ⟨first, others, lead⟩ :=
    List.exists_cons_of_ne_nil (Text.Numeral.digits_ne_nil id.shard.toNat)
  have front : first ∈ Text.Numeral.digits id.shard.toNat := lead ▸ List.mem_cons_self
  have whole : ∃ rest, id.chars = first :: rest := by
    rw [chars, lead]
    exact ⟨_, rfl⟩
  obtain ⟨rest, whole⟩ := whole
  rw [whole]
  refine Url.settled_word (digit front).1 ?_
  rw [← whole]
  intro c member
  rcases mem_chars member with rfl | ⟨n, own⟩
  · decide
  · exact (digit own).2

namespace MirrorNode

variable {node : MirrorNode} {outside : Outside} {wire : Wire} {β : Type}

/-! ### The endpoints -/

namespace Question

/-- The segments of the path of a question's endpoint. -/
def words : Question β → List String
  | .hbarBalance _ => ["api", "v1", "balances"]
  | .tokenBalance token _ => ["api", "v1", "tokens", token.toText, "balances"]
  | .tokenBalances _ => ["api", "v1", "balances"]
  | .tokenDetails token => ["api", "v1", "tokens", token.toText]
  | .tokenHolders token _ => ["api", "v1", "tokens", token.toText, "balances"]
  | .topicInfo topic => ["api", "v1", "topics", topic.toText]
  | .topicMessages topic _ _ => ["api", "v1", "topics", topic.toText, "messages"]
  | .pendingAirdrops account => ["api", "v1", "accounts", account.toText, "airdrops", "pending"]

/-- The path of a question's endpoint. -/
def path (question : Question β) : String :=
  String.join (question.words.map ("/" ++ ·))

/-- The pairs that a question adds to the query. -/
def pairs : Question β → List (String × String)
  | .hbarBalance account => [("account.id", account.toText)]
  | .tokenBalance _ account =>
    [("account.id", s!"eq:{account.toText}"), ("limit", "1"), ("order", "asc")]
  | .tokenBalances account => [("account.id", account.toText)]
  | .tokenDetails _ => []
  | .tokenHolders _ none => [("limit", toString pageLimit), ("account.balance", "gt:0")]
  | .tokenHolders _ (some threshold) =>
    [("limit", toString pageLimit), ("account.balance", s!"gte:{threshold.toNat}")]
  | .topicInfo _ => []
  | .topicMessages _ lower upper =>
    [("encoding", "UTF-8"), ("limit", toString pageLimit), ("order", "desc")] ++
      (lower.map fun t => ("timestamp", "gte:" ++ t)).toList ++
      (upper.map fun t => ("timestamp", "lte:" ++ t)).toList
  | .pendingAirdrops _ => []

variable (question : Question β)

/-- The path of an endpoint is its segments behind slashes. -/
theorem toList_path :
    question.path.toList = (Url.Path.segments (question.words.map String.toList)).chars := by
  rw [path, Url.Path.chars, String.toList_join]
  simp [List.flatMap_map]

theorem words_ne_nil : question.words ≠ [] := by
  cases question <;> exact List.cons_ne_nil _ _

/-- A segment of an endpoint is a fixed word or an identifier. -/
theorem fixed_or_named {text : String} (member : text ∈ question.words) :
    text ∈ ["api", "v1", "balances", "tokens", "topics", "messages", "accounts", "airdrops",
      "pending"] ∨ ∃ kind, ∃ id : EntityId kind, text = id.toText := by
  cases question <;>
    simp only [words, List.mem_cons, List.not_mem_nil, or_false] at member ⊢ <;> grind

/-- The segments of an endpoint mean themselves in a path. -/
theorem settled_words : ∀ segment ∈ question.words.map String.toList, Url.Settled segment := by
  rw [List.forall_mem_map]
  intro text member
  rcases question.fixed_or_named member with fixed | ⟨kind, id, rfl⟩
  · have word : ∀ text ∈ ["api", "v1", "balances", "tokens", "topics", "messages", "accounts",
        "airdrops", "pending"], text.toList.head?.any (· != '.') = true ∧
          text.toList.all Url.isSchemePart = true := by
      decide
    obtain ⟨lead, parts⟩ := word text fixed
    cases own : text.toList with
    | nil => exact Url.settled_nil
    | cons first rest =>
        rw [own] at lead parts
        exact Url.settled_word (bne_iff_ne.1 lead) (List.all_eq_true.1 parts)
  · rw [EntityId.toText, String.toList_ofList]
    exact id.settled_chars

/-- The path of an endpoint is not made of slashes alone. -/
theorem exists_mem_path : ∃ c ∈ question.path.toList, c ≠ '/' := by
  have lead : "api" ∈ question.words := by
    cases question <;> exact List.mem_cons_self
  rw [toList_path, Url.Path.chars]
  refine ⟨'a', List.mem_flatMap.2 ⟨_, List.mem_map_of_mem lead, ?_⟩, by decide⟩
  decide

end Question

/-! ### The first request -/

/-- What was asked for first, if anything was; if nothing was, there is an error. -/
def Opens (opening : HttpRequest → Prop) (wire : Wire) (result : Except MirrorNodeError β)
    (after : Wire) : Prop :=
  ∃ made, after.requests = made ++ wire.requests ∧
    (made = [] → ∃ e, result = .error e) ∧ ∀ first ∈ made.getLast?, opening first

variable {opening : HttpRequest → Prop} {url : Url}

theorem Opens.map {γ : Type} {result : Except MirrorNodeError β} {after : Wire}
    (opens : Opens opening wire result after) (f : β → γ) :
    Opens opening wire (result.map f) after := by
  obtain ⟨made, told, failed, first⟩ := opens
  refine ⟨made, told, fun unasked => ?_, first⟩
  obtain ⟨e, rfl⟩ := failed unasked
  exact ⟨e, rfl⟩

theorem Opens.refused {e : MirrorNodeError} {after : Wire}
    (told : after.requests = wire.requests) :
    Opens opening wire (.error e : Except MirrorNodeError β) after :=
  ⟨[], told, fun _ => ⟨e, rfl⟩, nofun⟩

/-- A URL that allows no request gives an error without one. -/
theorem fetched_of_refused {d : Decoder β} {before : List HttpRequest}
    (refused : url.isRequestable = false) :
    fetched d outside before url = .error (.request (unaskedMessage url)) := by
  rw [fetched, Url.answer, refused]
  rfl

/-- A page that is fetched opens with the request for it. -/
theorem opens_fetch {d : Decoder β} (asked : url.isRequestable = true → opening url.request) :
    Ends outside (fetch d url) wire (Opens opening wire) := by
  refine ends_fetch fun after told => ?_
  rw [Url.asking] at told
  cases requestable : url.isRequestable with
  | false =>
      rw [requestable] at told
      rw [fetched_of_refused requestable]
      exact .refused told
  | true =>
      rw [requestable] at told
      refine ⟨[url.request], told, fun none => absurd none (List.cons_ne_nil _ _), ?_⟩
      rintro _ ⟨⟩
      exact asked requestable

/-- A listing opens with the request for its first page. -/
theorem opens_listing {d : Decoder (Page β)}
    (asked : url.isRequestable = true → opening url.request) :
    Ends outside (node.listing d url) wire (Opens opening wire) := by
  cases requestable : url.isRequestable with
  | false =>
      refine ends_listFrom_broken (.unread (fetched_of_refused requestable)) fun after told => ?_
      rw [Url.asking, requestable] at told
      exact .refused told
  | true =>
      obtain ⟨urls, listed⟩ :=
        listing_eq_iff.1 (rfl : (node.listing d url outside wire).1 = _)
      apply listed.ends.mono
      rintro _ after ⟨-, told⟩
      obtain ⟨others, rfl⟩ := List.head?_eq_some_iff.1 listed.head?
      rw [Url.foldl_asking, List.filter_cons_of_pos requestable, List.map_cons,
        List.reverse_cons] at told
      refine ⟨_, told, fun none => absurd none (by simp), fun first last => ?_⟩
      rw [List.getLast?_concat] at last
      cases last
      exact asked requestable

/-- A question opens as it goes on from its URL. -/
theorem opens_withUrl {found : Except MirrorNodeError Url}
    {next : Url → Exchange (Except MirrorNodeError β)}
    (onward : ∀ url, found = .ok url → Ends outside (next url) wire (Opens opening wire)) :
    Ends outside (withUrl found next) wire (Opens opening wire) := by
  cases found with
  | error e => exact .refused rfl
  | ok url => exact onward url rfl

/-- An endpoint is a path with pairs behind it. -/
theorem exists_of_endpoint {path : String} {pairs : List (String × String)}
    (found : node.endpoint path pairs = .ok url) :
    ∃ start, node.resolve path = .ok start ∧ url = start.addPairs pairs := by
  obtain ⟨start, resolved, added⟩ := Json.map_eq_ok.1 found
  exact ⟨start, resolved, added.symm⟩

theorem endpoint_nil {path : String} : node.endpoint path [] = node.resolve path := by
  rw [endpoint]
  cases node.resolve path <;> rfl

/-- The request for the endpoint of a question. -/
def Question.Opening (node : MirrorNode) (question : Question β) (request : HttpRequest) : Prop :=
  ∃ url, node.endpoint question.path question.pairs = .ok url ∧ url.isRequestable = true ∧
    request = url.request

/-- The URL of a question's endpoint is what the question opens with. -/
theorem Question.Opening.of_endpoint (question : Question β)
    (found : node.endpoint question.path question.pairs = .ok url)
    (requestable : url.isRequestable = true) : question.Opening node url.request :=
  ⟨url, found, requestable, rfl⟩

theorem path_pendingAirdrops (account : AccountId) :
    s!"/api/v1/accounts/{account.toText}/airdrops/pending" =
      (Question.pendingAirdrops account).path := by
  apply String.toList_inj.1
  simp [Question.path, Question.words, toString]

/-- A question asks for its endpoint first. -/
theorem opens_ask (question : Question β) :
    Ends outside (question.ask node) wire (Opens (question.Opening node) wire) := by
  cases question with
  | hbarBalance account =>
      rw [Question.ask, hbarBalance, balancesUrl]
      refine opens_withUrl fun url found => ?_
      have asked := Question.Opening.of_endpoint (.hbarBalance account) found
      simp only [ends_bind, ends_pure]
      exact (opens_fetch asked).mono fun _ _ opens => opens.map _
  | tokenBalance token account =>
      rw [Question.ask, tokenBalance]
      refine opens_withUrl fun url found => ?_
      have asked := Question.Opening.of_endpoint (.tokenBalance token account) found
      simp only [ends_bind, ends_pure]
      exact (opens_fetch asked).mono fun _ _ opens => opens.map _
  | tokenBalances account =>
      rw [Question.ask, tokenBalances, balancesUrl]
      refine opens_withUrl fun url found => ?_
      have asked := Question.Opening.of_endpoint (.tokenBalances account) found
      simp only [ends_bind, ends_pure]
      exact (opens_listing asked).mono fun _ _ opens => opens.map _
  | tokenDetails token =>
      rw [Question.ask, tokenDetails, ← endpoint_nil]
      refine opens_withUrl fun url found => ?_
      have asked := Question.Opening.of_endpoint (.tokenDetails token) found
      exact opens_fetch asked
  | tokenHolders token threshold =>
      unfold Question.ask tokenHolders
      refine opens_withUrl fun url found => ?_
      cases threshold with
      | none =>
          have asked := Question.Opening.of_endpoint (.tokenHolders token none) found
          exact opens_listing asked
      | some threshold =>
          have asked := Question.Opening.of_endpoint (.tokenHolders token (some threshold)) found
          exact opens_listing asked
  | topicInfo topic =>
      rw [Question.ask, topicInfo, ← endpoint_nil]
      refine opens_withUrl fun url found => ?_
      have asked := Question.Opening.of_endpoint (.topicInfo topic) found
      exact opens_fetch asked
  | topicMessages topic lower upper =>
      rw [Question.ask, topicMessages]
      refine opens_withUrl fun url found => ?_
      have asked := Question.Opening.of_endpoint (.topicMessages topic lower upper) found
      exact opens_listing asked
  | pendingAirdrops account =>
      rw [Question.ask, pendingAirdrops, path_pendingAirdrops, ← endpoint_nil]
      refine opens_withUrl fun url found => ?_
      have asked := Question.Opening.of_endpoint (.pendingAirdrops account) found
      exact opens_listing asked

/-! ### Where the endpoints lead -/

/-- Where a path of settled segments leads at a base URL of the web. -/
theorem path_of_resolve {text path : String} {segments : List (List Char)}
    (created : create text = .ok node) (spelled : path.toList = (Url.Path.segments segments).chars)
    (filled : segments ≠ []) (settled : ∀ segment ∈ segments, Url.Settled segment)
    (resolved : node.resolve path = .ok url) (special : Url.isSpecial url.scheme = true)
    (web : url.scheme ≠ Url.fileScheme) :
    (node.base.markedChars = [] → url.path.chars =
      node.base.path.chars.rdropWhile (· = '/') ++ path.toList) ∧
    (node.base.markedChars ≠ [] → url.path = node.base.path) := by
  have sound := sound_of_create created
  rw [(sound.resolve resolved).1] at special web
  obtain ⟨own, path, filled', settled'⟩ :=
    Url.exists_settled_of_parse (parse_of_create created).1 special web
  have read := parse_of_resolve resolved
  rw [spelled] at read ⊢
  exact sound.grounded.path_onward special web path filled' settled' filled settled read

/-- Where the first request of a question goes, for each base URL that a mirror node can have:
to the question's endpoint, behind the base URL's path without the slashes at its end, if
the base URL has neither query nor fragment, and to the base URL's own path if it has one of
them; the question's pairs are the last ones of its query in both cases.  If there is no
request at all, the question has an error for its answer. -/
theorem ends_ask_endpoint {text : String} (created : create text = .ok node)
    (question : Question β) (outside : Outside) (wire : Wire) :
    Ends outside (question.ask node) wire fun result after =>
      ∃ made, after.requests = made ++ wire.requests ∧
        (made = [] → ∃ e, result = .error e) ∧
        ∀ first ∈ made.getLast?,
          (first.url.path.chars =
              node.base.path.chars.rdropWhile (· = '/') ++ question.path.toList ↔
            node.base.query = none ∧ node.base.fragment = none) ∧
          (¬ (node.base.query = none ∧ node.base.fragment = none) →
            first.url.path = node.base.path) ∧
          question.pairs.map Url.pairBytes <:+ first.url.queryPairs := by
  refine (opens_ask question).mono fun result after opens => ?_
  obtain ⟨made, told, failed, asked⟩ := opens
  refine ⟨made, told, failed, fun first last => ?_⟩
  obtain ⟨url, found, requestable, rfl⟩ := asked first last
  obtain ⟨start, resolved, rfl⟩ := exists_of_endpoint found
  obtain ⟨query, added⟩ := start.addPairs_eq question.pairs
  have path : (start.addPairs question.pairs).request.url.path = start.path := by
    rw [added]
    rfl
  have web := Url.web_of_isRequestable requestable
  have scheme : (start.addPairs question.pairs).scheme = start.scheme := by rw [added]
  rw [scheme] at web
  have onward := path_of_resolve created question.toList_path
    (by simpa using question.words_ne_nil) question.settled_words resolved web.1 web.2
  simp only [ne_eq, Url.markedChars_eq_nil_iff, ← path] at onward
  refine ⟨⟨fun whole => ?_, onward.1⟩, onward.2, ?_⟩
  · -- Behind its own slashes the base URL's path has no letters left for an endpoint.
    by_contra marked
    obtain ⟨c, member, other⟩ := question.exists_mem_path
    rw [onward.2 marked] at whole
    have slashes := whole.symm.trans
      (List.rdropWhile_append_rtakeWhile (p := fun c => decide (c = '/'))).symm
    rw [List.append_cancel_left slashes] at member
    have slash := List.mem_rtakeWhile_imp (p := fun c => decide (c = '/')) member
    exact other (of_decide_eq_true slash)
  · refine ⟨start.queryPairs, ?_⟩
    rw [← Url.queryPairs_addPairs]
    rfl

/-- A mirror node whose base URL has a query. -/
def keyed : MirrorNode :=
  ⟨⟨"http".toList, [], [], some (.domain "mirror.test".toList), none,
    .segments ["rest".toList, []], some "key=1".toList, none⟩⟩

theorem ends_ask_endpoint_keyed : create "http://mirror.test/rest/?key=1" = .ok keyed ∧
    ∀ outside : Outside, Ends outside ((Question.tokenHolders ⟨0, 0, 5⟩ none).ask keyed) .empty
      fun result after => ∃ made, after.requests = made ++ [] ∧
        (made = [] → ∃ e, result = .error e) ∧
        ∀ first ∈ made.getLast?,
          (first.url.path.chars = keyed.base.path.chars.rdropWhile (· = '/') ++
              (Question.tokenHolders ⟨0, 0, 5⟩ none).path.toList ↔
            keyed.base.query = none ∧ keyed.base.fragment = none) ∧
          (¬ (keyed.base.query = none ∧ keyed.base.fragment = none) →
            first.url.path = keyed.base.path) ∧
          (Question.tokenHolders ⟨0, 0, 5⟩ none).pairs.map Url.pairBytes <:+
            first.url.queryPairs :=
  have created : create "http://mirror.test/rest/?key=1" = .ok keyed := by rfl
  ⟨created, fun outside => ends_ask_endpoint created (.tokenHolders ⟨0, 0, 5⟩ none) outside .empty⟩

/-- A world that breaks each connection. -/
def brokenWorld : Outside where
  clock _ := ⟨0, 0⟩
  http _ _ := .dropped

/-- The balances of an account are asked for at the path of the base URL, under which nothing
of them is found. -/
theorem hbarBalance_misses_endpoint : create "http://mirror.test/rest/?key=1" = .ok keyed ∧
    ¬ Ends brokenWorld ((Question.hbarBalance ⟨0, 0, 5⟩).ask keyed) .empty
      fun _ after => ∀ first ∈ after.requests.getLast?, first.url.path.chars =
        keyed.base.path.chars.rdropWhile (· = '/') ++
          (Question.hbarBalance ⟨0, 0, 5⟩).path.toList := by
  refine ⟨rfl, fun all => ?_⟩
  have paths : ((Question.hbarBalance ⟨0, 0, 5⟩).ask keyed brokenWorld .empty).2.requests.map
      (·.url.path) = [.segments ["rest".toList, []]] := by
    decide +kernel
  obtain ⟨first, made, path⟩ := List.map_eq_singleton_iff.1 paths
  have whole := all first (by rw [made]; rfl)
  rw [path] at whole
  exact absurd whole (by decide)

end MirrorNode

end LedgerAgent
