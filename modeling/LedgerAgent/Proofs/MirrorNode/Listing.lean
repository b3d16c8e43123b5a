/-
Module: LedgerAgent.Proofs.MirrorNode.Listing
Purpose: Which pages a listing reads and what it gives, whatever the mirror node answers.
Main exports: Url.asking, MirrorNode.fetched, MirrorNode.Trail, MirrorNode.Listed,
  MirrorNode.Listed.ends, MirrorNode.listing_eq_iff, MirrorNode.ends_listing
-/
import Mathlib.Data.List.Nodup
import LedgerAgent.MirrorNode.Basic
import LedgerAgent.Proofs.Session

namespace LedgerAgent

open Json (Decoder)

variable {outside : Outside} {before : List HttpRequest} {wire : Wire}

/-! ### One page -/

/-- The request for what stands at a URL. -/
def Url.request (url : Url) : HttpRequest :=
  ⟨.get, url.requested, none⟩

/-- The requests after one more URL was asked for, the latest first; a URL that allows no
request adds none. -/
def Url.asking (before : List HttpRequest) (url : Url) : List HttpRequest :=
  if url.isRequestable then url.request :: before else before

/-- What is asked for is each URL that allows a request, once, the latest first. -/
theorem Url.foldl_asking (urls : List Url) :
    urls.foldl asking before =
      ((urls.filter Url.isRequestable).map Url.request).reverse ++ before := by
  induction urls generalizing before with
  | nil => rfl
  | cons url rest inductionHypothesis =>
      rw [List.foldl_cons, inductionHypothesis, List.filter_cons, asking]
      split
      · rw [List.map_cons, List.reverse_cons, List.append_assoc, List.singleton_append]
      · rfl

/-- What the world answers to one who asks for a URL. -/
def Url.answer (outside : Outside) (before : List HttpRequest) (url : Url) : HttpAnswer :=
  if url.isRequestable then outside.http before url.request else .unasked

/-- A request goes to the URL, if it allows one, and is answered by the world. -/
theorem Exchange.ends_send {url : Url} {Q : HttpAnswer → Wire → Prop}
    (sent : ∀ after : Wire, after.requests = url.asking wire.requests →
      Q (url.answer outside wire.requests) after) :
    Ends outside (send .get url none) wire Q := by
  rw [send]
  cases requestable : url.isRequestable with
  | false =>
      have unasked := sent wire (by rw [Url.asking, requestable]; rfl)
      rw [Url.answer, requestable] at unasked
      exact unasked
  | true =>
      have asked := sent { wire with requests := url.request :: wire.requests }
        (by rw [Url.asking, requestable]; rfl)
      rw [Url.answer, requestable] at asked
      exact asked

namespace MirrorNode

/-- What stands at a URL, for one who made some requests before. -/
def fetched {β : Type} (d : Decoder β) (outside : Outside) (before : List HttpRequest)
    (url : Url) : Except MirrorNodeError β :=
  readReply d url (url.answer outside before)

/-- Asking for a URL makes its request, and gives what stands there; all else that changes is
the log. -/
theorem ends_fetch {β : Type} {d : Decoder β} {url : Url}
    {Q : Except MirrorNodeError β → Wire → Prop}
    (asked : ∀ after : Wire, after.requests = url.asking wire.requests →
      Q (fetched d outside wire.requests url) after) :
    Ends outside (fetch d url) wire Q := by
  rw [fetch]
  simp only [ends_bind, Exchange.ends_log]
  refine Exchange.ends_send fun sent told => ?_
  split
  · simp only [ends_bind, Exchange.ends_log, ends_pure]
    exact asked _ told
  · exact asked _ told

/-! ### From page to page -/

section

variable {α : Type} (node : MirrorNode) (d : Decoder (Page α)) (outside : Outside)
  (before : List HttpRequest) (first : Url)

/-- The way of a listing as long as every link leads to a new page: the URLs that were read,
what stood there, and the URL to be read next. -/
inductive Trail : List Url → List (Page α) → Url → Prop where
  | start : Trail [] [] first
  | onward {urls : List Url} {pages : List (Page α)} {url next : Url} {page : Page α}
      {link : String} (trail : Trail urls pages url)
      (read : fetched d outside (urls.foldl Url.asking before) url = .ok page)
      (linked : page.next = some link) (resolved : node.resolve link = .ok next)
      (fresh : next ∉ urls ++ [url]) :
      Trail (urls ++ [url]) (pages ++ [page]) next

/-- A page ends a listing: it has no link, or one back to a URL that was read. -/
inductive Closes (urls : List Url) (page : Page α) : Prop where
  | unlinked (alone : page.next = none)
  | back {link : String} {url : Url} (linked : page.next = some link)
      (resolved : node.resolve link = .ok url) (known : url ∈ urls)

/-- A listing breaks at a URL: nothing can be read there, or the link of what was read
leads nowhere. -/
inductive Breaks (before : List HttpRequest) (url : Url) (e : MirrorNodeError) : Prop where
  | unread (failed : fetched d outside before url = .error e)
  | misled {page : Page α} {link : String} (read : fetched d outside before url = .ok page)
      (linked : page.next = some link) (unresolved : node.resolve link = .error e)

/-- The ends of a listing, with the URLs that were asked for. -/
inductive Listed : Except MirrorNodeError (List α) → List Url → Prop where
  | complete {urls : List Url} {pages : List (Page α)} {url : Url} {page : Page α}
      (trail : Trail node d outside before first urls pages url) (within : urls.length < maxPages)
      (read : fetched d outside (urls.foldl Url.asking before) url = .ok page)
      (closing : node.Closes (urls ++ [url]) page) :
      Listed (.ok ((pages ++ [page]).flatMap Page.items)) (urls ++ [url])
  | broken {urls : List Url} {pages : List (Page α)} {url : Url} {e : MirrorNodeError}
      (trail : Trail node d outside before first urls pages url) (within : urls.length < maxPages)
      (breaking : node.Breaks d outside (urls.foldl Url.asking before) url e) :
      Listed (.error e) (urls ++ [url])
  | full {urls : List Url} {pages : List (Page α)} {url : Url}
      (trail : Trail node d outside before first urls pages url)
      (exhausted : urls.length = maxPages) :
      Listed (.error (.tooManyPages maxPages)) urls

end

variable {α : Type} {node : MirrorNode} {d : Decoder (Page α)} {first : Url}

/-- It makes no difference in which order the pages before were asked for. -/
theorem Closes.reverse {urls : List Url} {page : Page α} (closing : node.Closes urls page) :
    node.Closes urls.reverse page := by
  cases closing with
  | unlinked alone => exact .unlinked alone
  | back linked resolved known => exact .back linked resolved (List.mem_reverse.2 known)

/-- No URL is read twice on the way, or read before it is the next. -/
theorem Trail.nodup {urls : List Url} {pages : List (Page α)} {url : Url}
    (trail : Trail node d outside before first urls pages url) : (urls ++ [url]).Nodup := by
  induction trail with
  | start => exact List.nodup_singleton first
  | onward trail read linked resolved fresh inductionHypothesis =>
      exact List.Nodup.append inductionHypothesis (List.nodup_singleton _)
        (List.disjoint_singleton.2 fresh)

/-- The way begins with the first URL. -/
theorem Trail.head? {urls : List Url} {pages : List (Page α)} {url : Url}
    (trail : Trail node d outside before first urls pages url) :
    (urls ++ [url]).head? = some first := by
  induction trail with
  | start => rfl
  | onward trail read linked resolved fresh inductionHypothesis =>
      rw [List.head?_append, inductionHypothesis]
      rfl

/-- A listing starts with its first page. -/
theorem Listed.head? {result : Except MirrorNodeError (List α)} {asked : List Url}
    (listed : Listed node d outside before first result asked) : asked.head? = some first := by
  cases listed with
  | complete trail | broken trail => exact trail.head?
  | full trail exhausted =>
      cases trail with
      | start => cases exhausted
      | onward trail => exact trail.head?

/-- No page of a listing is asked for twice, and no more pages than are allowed. -/
theorem Listed.nodup {result : Except MirrorNodeError (List α)} {asked : List Url}
    (listed : Listed node d outside before first result asked) :
    asked.Nodup ∧ asked.length ≤ maxPages := by
  cases listed with
  | complete trail within | broken trail within =>
      refine ⟨trail.nodup, ?_⟩
      rw [List.length_append, List.length_singleton]
      exact within
  | full trail exhausted => exact ⟨trail.nodup.of_append_left, Nat.le_of_eq exhausted⟩

/-- However far a listing has come, it comes to one of its ends, and asks for the next URL if
it may read one more page. -/
theorem Trail.exists_listed {left : Nat} {urls : List Url} {pages : List (Page α)} {url : Url}
    (trail : Trail node d outside before first urls pages url)
    (remaining : urls.length + left = maxPages) :
    ∃ result asked, Listed node d outside before first result asked ∧ urls <+: asked ∧
      (urls.length < maxPages → urls ++ [url] <+: asked) := by
  induction left generalizing urls pages url with
  | zero =>
      refine ⟨_, _, .full trail remaining, List.prefix_rfl, fun within => ?_⟩
      rw [← remaining] at within
      exact absurd within (Nat.lt_irrefl _)
  | succ left inductionHypothesis =>
      have within : urls.length < maxPages := by omega
      have way : urls <+: urls ++ [url] ∧
          (urls.length < maxPages → urls ++ [url] <+: urls ++ [url]) :=
        ⟨List.prefix_append _ _, fun _ => List.prefix_rfl⟩
      cases read : fetched d outside (urls.foldl Url.asking before) url with
      | error e => exact ⟨_, _, .broken trail within (.unread read), way⟩
      | ok page =>
          cases linked : page.next with
          | none => exact ⟨_, _, .complete trail within read (.unlinked linked), way⟩
          | some link =>
              cases resolved : node.resolve link with
              | error e => exact ⟨_, _, .broken trail within (.misled read linked resolved), way⟩
              | ok next =>
                  by_cases known : next ∈ urls ++ [url]
                  · exact ⟨_, _, .complete trail within read (.back linked resolved known), way⟩
                  · have longer : (urls ++ [url]).length + left = maxPages := by
                      rw [List.length_append, List.length_singleton]
                      omega
                    obtain ⟨result, asked, listed, through, -⟩ :=
                      inductionHypothesis (.onward trail read linked resolved known) longer
                    exact ⟨result, asked, listed, way.1.trans through, fun _ => through⟩

/-! ### What a listing does -/

variable {Q : Except MirrorNodeError (List α) → Wire → Prop} {left : Nat} {seen : List Url}
  {items : List α} {url : Url} {page : Page α}

/-- A page with a link to a new page is read and left behind. -/
theorem ends_listFrom_onward {link : String} {next : Url}
    (read : fetched d outside wire.requests url = .ok page) (linked : page.next = some link)
    (resolved : node.resolve link = .ok next) (fresh : next ∉ url :: seen)
    (onward : ∀ after : Wire, after.requests = url.asking wire.requests →
      Ends outside (node.listFrom d left (url :: seen) (items ++ page.items) next) after Q) :
    Ends outside (node.listFrom d (left + 1) seen items url) wire Q := by
  rw [listFrom, ends_bind]
  refine ends_fetch fun after told => ?_
  rw [read]
  simp only [following, linked, resolved, if_neg fresh, ends_bind, ends_pure]
  exact onward after told

/-- A page that ends the listing adds its items to those before. -/
theorem ends_listFrom_complete (read : fetched d outside wire.requests url = .ok page)
    (closing : node.Closes (url :: seen) page)
    (given : ∀ after : Wire, after.requests = url.asking wire.requests →
      Q (.ok (items ++ page.items)) after) :
    Ends outside (node.listFrom d (left + 1) seen items url) wire Q := by
  rw [listFrom, ends_bind]
  refine ends_fetch fun after told => ?_
  rw [read]
  cases closing with
  | unlinked alone =>
      simp only [following, alone, ends_bind, ends_pure, Exchange.ends_log]
      exact given _ told
  | back linked resolved known =>
      simp only [following, linked, resolved, if_pos known, ends_bind, ends_pure,
        Exchange.ends_log]
      exact given _ told

/-- A listing ends with the first page that breaks it. -/
theorem ends_listFrom_broken {e : MirrorNodeError}
    (breaking : node.Breaks d outside wire.requests url e)
    (failed : ∀ after : Wire, after.requests = url.asking wire.requests → Q (.error e) after) :
    Ends outside (node.listFrom d (left + 1) seen items url) wire Q := by
  rw [listFrom, ends_bind]
  refine ends_fetch fun after told => ?_
  cases breaking with
  | unread unread =>
      rw [unread]
      exact failed after told
  | misled read linked unresolved =>
      rw [read]
      simp only [following, linked, unresolved, ends_bind, ends_pure]
      exact failed after told

/-- A listing goes the whole of its way. -/
theorem Trail.ends {urls : List Url} {pages : List (Page α)}
    (trail : Trail node d outside wire.requests first urls pages url)
    (onward : ∀ after : Wire, after.requests = urls.foldl Url.asking wire.requests →
      Ends outside (node.listFrom d left urls.reverse (pages.flatMap Page.items) url) after Q) :
    Ends outside (node.listFrom d (urls.length + left) [] [] first) wire Q := by
  induction trail generalizing left with
  | start =>
      rw [List.length_nil, Nat.zero_add]
      exact onward wire rfl
  | @onward urls pages url next page link trail read linked resolved fresh inductionHypothesis =>
      rw [List.length_append, List.length_singleton, Nat.add_assoc, Nat.add_comm 1]
      apply inductionHypothesis
      intro after told
      rw [← told] at read
      rw [← List.mem_reverse, List.reverse_concat] at fresh
      refine ends_listFrom_onward read linked resolved fresh fun after' told' => ?_
      have arrived := onward after' (by rw [told', told, List.foldl_append]; rfl)
      rw [List.reverse_concat, List.flatMap_append, List.flatMap_singleton] at arrived
      exact arrived

/-- Whatever end there is, the listing comes to it. -/
theorem Listed.ends {result : Except MirrorNodeError (List α)} {asked : List Url}
    (listed : Listed node d outside wire.requests first result asked) :
    Ends outside (node.listing d first) wire fun result' after =>
      result' = result ∧ after.requests = asked.foldl Url.asking wire.requests := by
  rw [listing]
  cases listed with
  | @complete urls pages url page trail within read closing =>
      obtain ⟨left, remaining⟩ := Nat.exists_eq_add_of_lt within
      rw [remaining, Nat.add_assoc]
      refine trail.ends fun after told => ?_
      rw [← told] at read
      have closing := closing.reverse
      rw [List.reverse_concat] at closing
      refine ends_listFrom_complete read closing fun after' told' => ⟨?_, ?_⟩
      · rw [List.flatMap_append, List.flatMap_singleton]
      · rw [told', told, List.foldl_append]
        rfl
  | broken trail within breaking =>
      obtain ⟨left, remaining⟩ := Nat.exists_eq_add_of_lt within
      rw [remaining, Nat.add_assoc]
      refine trail.ends fun after told => ?_
      rw [← told] at breaking
      refine ends_listFrom_broken breaking fun after' told' => ⟨rfl, ?_⟩
      rw [told', told, List.foldl_append]
      rfl
  | full trail exhausted =>
      rw [← exhausted]
      change Ends outside (node.listFrom d (asked.length + 0) [] [] first) wire _
      refine trail.ends fun after told => ?_
      simp only [listFrom, ends_bind, Exchange.ends_log, ends_pure]
      exact ⟨by rw [exhausted], told⟩

/-- The ends told above are those of the listing, and there is just one for what the mirror
node answers. -/
theorem listing_eq_iff {result : Except MirrorNodeError (List α)} :
    (node.listing d first outside wire).1 = result ↔
      ∃ asked, Listed node d outside wire.requests first result asked := by
  constructor
  · rintro rfl
    have way : Trail node d outside wire.requests first [] [] first := .start
    obtain ⟨result, asked, listed, -⟩ := way.exists_listed (Nat.zero_add _)
    refine ⟨asked, ?_⟩
    rw [listed.ends.1]
    exact listed
  · rintro ⟨asked, listed⟩
    exact listed.ends.1

/-- No link is refused as one page too many. -/
theorem resolve_ne_tooManyPages {link : String} {n : Nat} :
    node.resolve link ≠ .error (.tooManyPages n) := by
  rw [resolve]
  cases Url.parse (node.root ++ link) with
  | error e => nofun
  | ok url => nofun

/-- Nor is a reply. -/
theorem readReply_ne_tooManyPages {β : Type} {d : Decoder β} {url : Url} {answer : HttpAnswer}
    {n : Nat} : readReply d url answer ≠ .error (.tooManyPages n) := by
  cases answer with
  | unasked => nofun
  | dropped => nofun
  | reply status body =>
      rw [readReply]
      split
      · nofun
      · cases Json.decodeBytes d body with
        | error e => nofun
        | ok value => nofun

/-- No single page or link is blamed for too many pages. -/
theorem Breaks.ne_tooManyPages {e : MirrorNodeError} {n : Nat}
    (breaking : node.Breaks d outside before url e) : e ≠ .tooManyPages n := by
  rintro rfl
  cases breaking with
  | unread failed => exact readReply_ne_tooManyPages failed
  | misled read linked unresolved => exact resolve_ne_tooManyPages unresolved

/-- A listing reads page after page, each but the first behind the link of the one before,
none of them twice and at most a thousand of them.  It gives the items of all pages in order
where one of them has no link or one back; it complains of too many pages where all thousand
have a link to a new page, and otherwise of the first page or link that cannot be read. -/
theorem ends_listing (node : MirrorNode) (d : Decoder (Page α)) (first : Url)
    (outside : Outside) (wire : Wire) :
    Ends outside (node.listing d first) wire fun result after =>
      (∃ asked : List Url, asked.Nodup ∧ asked.length ≤ maxPages ∧
        Listed node d outside wire.requests first result asked ∧
        after.requests =
          ((asked.filter Url.isRequestable).map Url.request).reverse ++ wire.requests) ∧
      (∀ items, result = .ok items ↔ ∃ urls pages url page,
        Trail node d outside wire.requests first urls pages url ∧ urls.length < maxPages ∧
        fetched d outside (urls.foldl Url.asking wire.requests) url = .ok page ∧
        node.Closes (urls ++ [url]) page ∧ items = (pages ++ [page]).flatMap Page.items) ∧
      (result = .error (.tooManyPages maxPages) ↔ ∃ urls pages url,
        Trail node d outside wire.requests first urls pages url ∧ urls.length = maxPages) ∧
      ∀ e, result = .error e ∧ e ≠ .tooManyPages maxPages ↔ ∃ urls pages url,
        Trail node d outside wire.requests first urls pages url ∧ urls.length < maxPages ∧
        node.Breaks d outside (urls.foldl Url.asking wire.requests) url e := by
  rw [Ends]
  refine ⟨?_, fun items => ?_, ?_, fun e => ?_⟩
  · obtain ⟨asked, listed⟩ := listing_eq_iff.1 rfl
    refine ⟨asked, listed.nodup.1, listed.nodup.2, listed, ?_⟩
    rw [← Url.foldl_asking]
    exact listed.ends.2
  · rw [listing_eq_iff]
    constructor
    · rintro ⟨asked, listed⟩
      cases listed with
      | complete trail within read closing =>
          exact ⟨_, _, _, _, trail, within, read, closing, rfl⟩
    · rintro ⟨urls, pages, url, page, trail, within, read, closing, rfl⟩
      exact ⟨_, .complete trail within read closing⟩
  · rw [listing_eq_iff]
    constructor
    · rintro ⟨asked, listed⟩
      cases listed with
      | broken trail within breaking => exact absurd rfl breaking.ne_tooManyPages
      | full trail exhausted => exact ⟨_, _, _, trail, exhausted⟩
    · rintro ⟨urls, pages, url, trail, exhausted⟩
      exact ⟨_, .full trail exhausted⟩
  · rw [listing_eq_iff]
    constructor
    · rintro ⟨⟨asked, listed⟩, other⟩
      cases listed with
      | broken trail within breaking => exact ⟨_, _, _, trail, within, breaking⟩
      | full trail exhausted => exact absurd rfl other
    · rintro ⟨urls, pages, url, trail, within, breaking⟩
      exact ⟨⟨_, .broken trail within breaking⟩, breaking.ne_tooManyPages⟩

end MirrorNode

end LedgerAgent
