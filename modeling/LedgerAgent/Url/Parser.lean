/-
Module: LedgerAgent.Url.Parser
Purpose: Reading absolute URLs.
Main exports: Url.parse, Url.parseAuthority, Url.parseFile
-/
import LedgerAgent.Url.Basic

namespace LedgerAgent.Url

/-- Text without the control characters and spaces around it. -/
def withoutEdges (cs : List Char) : List Char :=
  let isEdge (c : Char) : Bool := c.toNat ≤ 32
  ((cs.dropWhile isEdge).reverse.dropWhile isEdge).reverse

/-- The scheme in lower case and the text behind its colon. -/
def splitScheme? (cs : List Char) : Option (List Char × List Char) :=
  let isPart (c : Char) : Bool := c.isAlphanum || c = '+' || c = '-' || c = '.'
  match cs with
  | first :: _ =>
    if first.isAlpha then
      match cs.dropWhile isPart with
      | ':' :: rest => some ((cs.takeWhile isPart).map Char.toLower, rest)
      | _ => none
    else none
  | [] => none

/-- The text before and behind the last `@`. -/
def splitLastAt (cs : List Char) : Option (List Char × List Char) :=
  (Text.cutAt '@' cs.reverse).map fun (behind, before) => (before.reverse, behind.reverse)

/-- The host's text, which a colon outside brackets ends, and the text behind it. -/
def splitHost : Bool → List Char → List Char × List Char
  | _, [] => ([], [])
  | bracketed, c :: rest =>
    if c = ':' && !bracketed then ([], c :: rest)
    else
      let bracketed := if c = '[' then true else if c = ']' then false else bracketed
      let (host, behind) := splitHost bracketed rest
      (c :: host, behind)

/-- The number behind a colon, none if there are no digits, and the text behind it,
which begins with a backslash. -/
def parseNumber (text : List Char) : Except UrlError (Option Nat × List Char) :=
  let digits := text.takeWhile (· != '\\')
  let behind := text.dropWhile (· != '\\')
  if digits.isEmpty then .ok (none, behind)
  else
    match Text.Numeral.extend 65536 .tooLarge 0 digits with
    | .ok n => .ok (some n, behind)
    | .error _ => .error .invalidPortNumber

/-- The authority of a URL. -/
structure Authority where
  username : List Char
  password : List Char
  host : Host
  portNumber : Option Nat

/-- User name and password before the `@`. -/
def parseUserinfo (info : List Char) : List Char × List Char :=
  match Text.cutAt ':' info with
  | none => (percentEncode .userinfo info, [])
  | some (name, password) => (percentEncode .userinfo name, percentEncode .userinfo password)

/-- The parts of an authority's text, and what of that text belongs to the path.
`isLast` tells whether the URL ends with it.  A host may be missing only where no user
is named, and behind a lone `@` only at the end. -/
def parseAuthority (scheme : List Char) (isLast : Bool) (text : List Char) :
    Except UrlError (Authority × List Char) := do
  let special := isSpecial scheme
  let (info, address) := (splitLastAt text).getD ([], text)
  if text = ['@'] && !isLast then throw .emptyHost
  let (username, password) := parseUserinfo info
  let (hostText, behind) := splitHost false address
  if special && hostText.isEmpty then throw .emptyHost
  let host ← if special then parseHost hostText else parseOpaqueHost hostText
  if hostText.isEmpty && behind.head? = some ':' then throw .emptyHost
  let (number, more) ← parseNumber (behind.drop 1)
  if hostText.isEmpty && !(username.isEmpty && password.isEmpty) then throw .emptyHost
  let kept := if number = defaultNumber? scheme then none else number
  return (⟨username, password, host, kept⟩, more)

/-- The path of a text behind the authority; a slash at its front belongs to it. -/
def parsePath (scheme : List Char) (text : List Char) : Path :=
  let special := isSpecial scheme
  match text with
  | [] => .segments (if special then [[]] else [])
  | c :: rest =>
    let text := if isSlash special c then rest else text
    .segments (followSegments false [] (splitSegments special text))

/-- The host and path of a file's URL, whose segments may hold breaks.  A drive's letter is no
host, the own host is not named, and a drive at the front of the path needs none. -/
def parseFile (segments : List (List Char)) : Except UrlError (Option Host × Path) := do
  let here (segments : List (List Char)) : Option Host × Path :=
    (none, .segments (fileSegments segments))
  match segments with
  | [] => return here []
  | first :: others =>
    if !(withoutBreaks first).isEmpty then return here segments
    match others with
    | second :: hostText :: rest =>
      if !(withoutBreaks second).isEmpty then return here others
      let name := withoutBreaks hostText
      if name.isEmpty || isDriveLetter name then return here (hostText :: rest)
      let host ← parseHost name
      if host = .domain "localhost".toList then return here ([] :: rest)
      let bare := followSegments true [] (rest.map withoutBreaks)
      let hasDrive := bare.head?.any isDriveLetter
      return (if hasDrive then none else some host, .segments (fileSegments rest))
    | _ => return here others

/-- The parts of a text before its query, of its query, and of its fragment. -/
def splitTail (cs : List Char) : List Char × Option (List Char) × Option (List Char) :=
  let (main, fragment) :=
    match Text.cutAt '#' cs with
    | none => (cs, none)
    | some (before, behind) => (before, some behind)
  match Text.cutAt '?' main with
  | none => (main, none, fragment)
  | some (before, behind) => (before, some behind, fragment)

def parse (text : String) : Except UrlError Url := do
  let raw := withoutEdges text.toList
  match splitScheme? (withoutBreaks raw) with
  | none => throw .relative
  | some (scheme, rest) =>
    let special := isSpecial scheme
    let (main, query, fragment) := splitTail rest
    let query := query.map (percentEncode (if special then .specialQuery else .query))
    let fragment := fragment.map (percentEncode .fragment)
    let url (a : Option Authority) (path : Path) : Url :=
      { scheme := scheme
        username := (a.map Authority.username).getD []
        password := (a.map Authority.password).getD []
        host := a.map Authority.host
        portNumber := a.bind Authority.portNumber
        path := path
        query := query
        fragment := fragment }
    let isLast (text : List Char) : Bool := text.isEmpty && query.isNone && fragment.isNone
    let behindAuthority (slashes : Bool) (text : List Char) : Except UrlError Url := do
      let rest := text.dropWhile (!isSlash slashes ·)
      let (authority, more) ←
        parseAuthority scheme (isLast rest) (text.takeWhile (!isSlash slashes ·))
      return url (some authority) (parsePath scheme (more ++ rest))
    if scheme = fileScheme then
      let (broken, _) := splitTail ((raw.dropWhile (· != ':')).drop 1)
      let (host, path) ← parseFile (splitSegments true broken)
      return url (host.map fun h => ⟨[], [], h, none⟩) path
    else if special then behindAuthority true (main.dropWhile (isSlash true))
    else
      match main with
      | '/' :: '/' :: behind => behindAuthority false behind
      | '/' :: _ => return url none (parsePath scheme main)
      | _ => return url none (.opaqueText (percentEncode .control main))

end LedgerAgent.Url
