/-
Module: LedgerAgent.MirrorNode.Basic
Purpose: Reading from a mirror node: single answers, and listings over many pages.
Main exports: MirrorNode, MirrorNode.create, MirrorNode.resolve, MirrorNode.fetch,
  MirrorNode.listing
-/
import LedgerAgent.MirrorNode.Entry
import LedgerAgent.Session
import LedgerAgent.Url.Parser

namespace LedgerAgent

open Json (Decoder)

/-- A read-only record of the ledger, found at a base URL. -/
structure MirrorNode where
  base : Url

namespace MirrorNode

/-- The most pages that one listing follows. -/
def maxPages : Nat := 1000

/-- The mirror node at an address.  Its URL must have a path that can be added to. -/
def create (url : String) : Except MirrorNodeError MirrorNode :=
  match Url.parse url with
  | .error e => .error (.invalidUrl s!"{url}: {e.message}")
  | .ok parsed =>
    if parsed.hasOpaquePath then .error (.invalidUrl parsed.toText) else .ok ⟨parsed⟩

/-- The text that paths are put behind: the base URL without slashes at its end. -/
def root (node : MirrorNode) : String :=
  String.ofList ((node.base.toText.toList.reverse.dropWhile (· = '/')).reverse)

/-- The URL of a path, which may bring a query. -/
def resolve (node : MirrorNode) (path : String) : Except MirrorNodeError Url :=
  (Url.parse (node.root ++ path)).mapError fun e => .invalidUrl s!"{path}: {e.message}"

/-- The value that a reply holds. -/
def readReply {α : Type} (d : Decoder α) (url : Url) : HttpAnswer → Except MirrorNodeError α
  | .unasked => .error (.request (unaskedMessage url))
  | .dropped => .error (.request (droppedMessage url))
  | .reply status body =>
    if !isSuccessStatus status then .error (.status status url.toText)
    else (Json.decodeBytes d body).mapError fun _ => .decode undecodableMessage

/-- Ask for one URL. -/
def fetch {α : Type} (d : Decoder α) (url : Url) : Exchange (Except MirrorNodeError α) := do
  Exchange.log .debug "Mirror node request" [("url", url.toText)]
  let result := readReply d url (← Exchange.send .get url none)
  match result with
  | .error (.status code text) =>
    Exchange.log .warn "Mirror node returned an error" [("url", text), ("status", toString code)]
  | _ => pure ()
  return result

/-- The page behind a link, unless there is no link or the page was seen before. -/
def following (node : MirrorNode) (seen : List Url) :
    Option String → Exchange (Except MirrorNodeError (Option Url))
  | none => return .ok none
  | some link =>
    match node.resolve link with
    | .error e => return .error e
    | .ok url => do
      if url ∈ seen then
        Exchange.log .warn "Mirror node repeated a page link" [("url", url.toText)]
        return .ok none
      else return .ok (some url)

/-- The items of a listing from `url` on.  `left` is how many pages may still be
read, `seen` the pages already read, `items` what they held. -/
def listFrom {α : Type} (node : MirrorNode) (d : Decoder (Page α)) (left : Nat)
    (seen : List Url) (items : List α) (url : Url) :
    Exchange (Except MirrorNodeError (List α)) := do
  match left with
  | 0 =>
    Exchange.log .warn "Mirror node page limit reached"
      [("url", url.toText), ("pages", toString seen.length)]
    return .error (.tooManyPages maxPages)
  | left + 1 =>
    match ← fetch d url with
    | .error e => return .error e
    | .ok page =>
      let seen := url :: seen
      let items := items ++ page.items
      match ← node.following seen page.next with
      | .error e => return .error e
      | .ok (some next) => node.listFrom d left seen items next
      | .ok none =>
        Exchange.log .debug "Mirror node pagination complete"
          [("pages", toString seen.length), ("items", toString items.length)]
        return .ok items

/-- The items of a listing, page after page.  A link back to a page that was read
ends the listing. -/
def listing {α : Type} (node : MirrorNode) (d : Decoder (Page α)) (first : Url) :
    Exchange (Except MirrorNodeError (List α)) :=
  node.listFrom d maxPages [] [] first

end MirrorNode

end LedgerAgent
