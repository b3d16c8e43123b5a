/-
Module: LedgerAgent.Url.Basic
Purpose: Absolute URLs: writing them, adding to path and query, what a request takes.
Main exports: Url, Url.toText, Url.hasOpaquePath, Url.addSegments, Url.addPair,
  Url.withoutUser, Url.requested, Url.isRequestable
-/
import LedgerAgent.Url.Host
import LedgerAgent.Url.Path

namespace LedgerAgent

/-- An absolute URL. -/
structure Url where
  scheme : List Char
  username : List Char
  password : List Char
  host : Option Url.Host
  /-- The number behind the host, unless it is the scheme's own. -/
  portNumber : Option Nat
  path : Url.Path
  query : Option (List Char)
  fragment : Option (List Char)
deriving Repr, Inhabited, DecidableEq

namespace Url

/-- The schemes whose URLs have a host and a path of segments, with the port
numbers that go without saying. -/
def specialSchemes : List (List Char × Nat) :=
  [("http".toList, 80), ("https".toList, 443), ("ws".toList, 80), ("wss".toList, 443),
    ("ftp".toList, 21)]

def fileScheme : List Char := "file".toList

/-- Whether a scheme is one of the special ones. -/
def isSpecial (scheme : List Char) : Bool :=
  scheme == fileScheme || specialSchemes.any fun (s, _) => s == scheme

/-- The number that goes without saying. -/
def defaultNumber? (scheme : List Char) : Option Nat :=
  specialSchemes.lookup scheme

/-- Whether the path is plain text, to which nothing can be added. -/
def hasOpaquePath (url : Url) : Bool :=
  match url.path with
  | .opaqueText _ => true
  | .segments _ => false

/-- What stands between the slashes and the path. -/
def authorityChars (url : Url) : List Char :=
  let userinfo :=
    if url.username.isEmpty && url.password.isEmpty then []
    else
      url.username ++ (if url.password.isEmpty then [] else ':' :: url.password) ++ ['@']
  let host := (url.host.map Host.chars).getD []
  let number := (url.portNumber.map fun n => ':' :: Nat.toDigits 10 n).getD []
  userinfo ++ host ++ number

def chars (url : Url) : List Char :=
  let authority :=
    if url.host.isSome || url.scheme == fileScheme then '/' :: '/' :: url.authorityChars else []
  let guard :=
    match url.host, url.path with
    | none, .segments ([] :: _ :: _) => if url.scheme == fileScheme then [] else ['/', '.']
    | _, _ => []
  url.scheme ++ ':' :: authority ++ guard ++ url.path.chars ++
    (url.query.map ('?' :: ·)).getD [] ++ (url.fragment.map ('#' :: ·)).getD []

def toText (url : Url) : String :=
  String.ofList url.chars

/-- The segments to which more can be added: an empty last one is not counted, and
neither is an empty one that is left alone. -/
def openSegments (found : List (List Char)) : List (List Char) :=
  let kept := if found.getLast? = some [] then found.dropLast else found
  if kept = [[]] then [] else kept

/-- The URL with segments behind its path; a slash at the end of the path is not
doubled. -/
def addSegments (url : Url) (more : List String) : Url :=
  match url.path with
  | .opaqueText _ => url
  | .segments segments =>
    let set := if isSpecial url.scheme then EncodeSet.specialPathSegment else .pathSegment
    { url with path := .segments (openSegments segments ++
        more.map fun s => percentEncode set s.toList) }

/-- The URL with one more pair in its query. -/
def addPair (url : Url) (name value : String) : Url :=
  let pair := formEncode name.toList ++ '=' :: formEncode value.toList
  let query :=
    match url.query with
    | none => pair
    | some [] => pair
    | some q => q ++ '&' :: pair
  { url with query := some query }

/-- The URL without a user. -/
def withoutUser (url : Url) : Url :=
  { url with username := [], password := [] }

/-- The URL as a request names it: without fragment and without user. -/
def requested (url : Url) : Url :=
  { url.withoutUser with fragment := none }

/-- The most bytes that the URL of a request may have. -/
def requestLimit : Nat := 65534

/-- The characters that a host may have and the host of a request may not. -/
def unaskableChars : List Char := "\"`\x7b\x7d".toList

/-- Whether a request can be made for a URL: by its scheme, its host and its length. -/
def isRequestable (url : Url) : Bool :=
  ["http".toList, "https".toList].contains url.scheme &&
    (url.host.any fun host => host.chars.all fun c => !unaskableChars.contains c) &&
    url.withoutUser.chars.length ≤ requestLimit

end Url

end LedgerAgent
