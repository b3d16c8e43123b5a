/-
Module: LedgerAgent.Url.Host
Purpose: Host names and addresses in URLs.
Main exports: Url.Host, Url.parseHost, Url.Host.chars, Url.UrlError
-/
import LedgerAgent.Text.Numeral
import LedgerAgent.Url.Domain
import LedgerAgent.Url.Encoding

namespace LedgerAgent.Url

/-- Why a text is no URL. -/
inductive UrlError where
  | emptyHost
  | invalidDomain
  | invalidPortNumber
  | invalidIpv4
  | invalidIpv6
  | invalidHostCharacter
  | relative
deriving Repr, Inhabited, DecidableEq

def UrlError.message : UrlError → String
  | .emptyHost => "empty host"
  | .invalidDomain => "invalid international domain name"
  | .invalidPortNumber => "invalid port number"
  | .invalidIpv4 => "invalid IPv4 address"
  | .invalidIpv6 => "invalid IPv6 address"
  | .invalidHostCharacter => "invalid domain character"
  | .relative => "relative URL without a base"

/-- The host of a URL: a name, or an address as a number or as eight pieces. -/
inductive Host where
  | domain (name : List Char)
  | ipv4 (address : Nat)
  | ipv6 (pieces : List Nat)
deriving Repr, Inhabited, DecidableEq

/-- A digit's value in a radix. -/
def radixDigit? (radix : Nat) (c : Char) : Option Nat :=
  match hexDigit? c with
  | some d => if d < radix then some d else none
  | none => none

/-- The number of digits in a radix. -/
def radixValue? (radix : Nat) (ds : List Char) : Option Nat :=
  ds.foldl (fun acc c =>
    match acc, radixDigit? radix c with
    | some n, some d => some (n * radix + d)
    | _, _ => none) (some 0)

/-- A part of an IPv4 address: decimal, octal behind `0`, hexadecimal behind `0x`. -/
def ipv4Number? (part : List Char) : Option Nat :=
  match part with
  | [] => none
  | '0' :: 'x' :: ds => radixValue? 16 ds
  | '0' :: 'X' :: ds => radixValue? 16 ds
  | '0' :: d :: ds => radixValue? 8 (d :: ds)
  | ds => radixValue? 10 ds

/-- The parts of a name, without an empty last one. -/
def nameParts (name : List Char) : List (List Char) :=
  let parts := Text.fields '.' name
  if parts.getLast? = some [] then parts.dropLast else parts

/-- A name whose last part is a number must be an address. -/
def endsInNumber (name : List Char) : Bool :=
  match (nameParts name).getLast? with
  | none => false
  | some last =>
    (!last.isEmpty && last.all Text.Numeral.isDigit) || (ipv4Number? last).isSome

/-- The address of at most four numbers: the last fills what the others leave. -/
def parseIpv4 (name : List Char) : Except UrlError Nat :=
  let parts := nameParts name
  if 4 < parts.length then .error .invalidIpv4
  else
    match parts.mapM ipv4Number? with
    | none => .error .invalidIpv4
    | some numbers =>
      let last := numbers.getLast?.getD 0
      let others := numbers.dropLast
      if Nat.pow 256 (4 - others.length) ≤ last ∨ others.any (255 < ·) then .error .invalidIpv4
      else
        .ok (others.zipIdx.foldr (fun (n, i) sum => n * Nat.pow 256 (3 - i) + sum) last)

/-- Decimal numbers below 256 without leading zeros, four between points. -/
def embeddedIpv4? (cs : List Char) : Option (Nat × Nat) := do
  match Text.fields '.' cs with
  | [a, b, c, d] =>
    let byte? (ds : List Char) : Option Nat :=
      if ds.isEmpty || !ds.all Text.Numeral.isDigit || (1 < ds.length && ds.head? == some '0') then
        none
      else (radixValue? 10 ds).bind fun n => if n < 256 then some n else none
    let a ← byte? a
    let b ← byte? b
    let c ← byte? c
    let d ← byte? d
    return (a * 256 + b, c * 256 + d)
  | _ => none

/-- A piece of an IPv6 address: one to four hexadecimal digits. -/
def ipv6Piece? (ds : List Char) : Option Nat :=
  if ds.isEmpty || 4 < ds.length then none else radixValue? 16 ds

/-- The pieces between colons; the last may be an IPv4 address, which makes two. -/
def ipv6Pieces? : List (List Char) → Option (List Nat)
  | [] => some []
  | [last] =>
    if last.contains '.' then (embeddedIpv4? last).map fun (high, low) => [high, low]
    else (ipv6Piece? last).map fun n => [n]
  | first :: rest => do
    let n ← ipv6Piece? first
    let ns ← ipv6Pieces? rest
    return n :: ns

/-- The pieces of one side of a `::`, which may be empty. -/
def ipv6Side? (cs : List Char) : Option (List Nat) :=
  if cs.isEmpty then some [] else ipv6Pieces? (Text.fields ':' cs)

/-- Eight pieces; one `::` stands for as many zeros as are missing, at least one. -/
def parseIpv6 (cs : List Char) : Except UrlError (List Nat) :=
  let pieces? : Option (List Nat) :=
    match Text.cutAtText [':', ':'] cs with
    | none => (ipv6Pieces? (Text.fields ':' cs)).bind fun ns =>
      if ns.length = 8 then some ns else none
    | some (left, right) => do
      if left.contains '.' then none
      else
        let ls ← ipv6Side? left
        let rs ← ipv6Side? right
        if 7 < ls.length + rs.length then none
        else return ls ++ List.replicate (8 - ls.length - rs.length) 0 ++ rs
  match pieces? with
  | some ns => .ok ns
  | none => .error .invalidIpv6

/-- Characters that no name may contain. -/
def isForbidden (c : Char) : Bool :=
  c.toNat ≤ 32 || c.toNat = 127 ||
    ['#', '/', ':', '<', '>', '?', '@', '[', '\\', ']', '^', '|', '%'].contains c

/-- Characters that no host of a URL with an unknown scheme may contain. -/
def isForbiddenOpaque (c : Char) : Bool :=
  [0, 9, 10, 13, 32].contains c.toNat ||
    ['#', '/', ':', '<', '>', '?', '@', '[', '\\', ']', '^', '|'].contains c

/-- The host of a URL whose scheme is a special one. -/
def parseHost (text : List Char) : Except UrlError Host :=
  match text with
  | '[' :: inner =>
    if inner.getLast? = some ']' then (parseIpv6 inner.dropLast).map .ipv6
    else .error .invalidIpv6
  | _ =>
    match Text.ofBytes? (percentDecode text) with
    | none => .error .invalidDomain
    | some decoded =>
      match asciiDomain? decoded.toList with
      | none => .error .invalidDomain
      | some name =>
        if name.any isForbidden then .error .invalidDomain
        else if name.isEmpty then .error .emptyHost
        else if endsInNumber name then (parseIpv4 name).map .ipv4
        else .ok (.domain name)

/-- The host of a URL of another scheme: any text. -/
def parseOpaqueHost (text : List Char) : Except UrlError Host :=
  match text with
  | '[' :: inner =>
    if inner.getLast? = some ']' then (parseIpv6 inner.dropLast).map .ipv6
    else .error .invalidIpv6
  | _ =>
    if text.any isForbiddenOpaque then .error .invalidHostCharacter
    else .ok (.domain (percentEncode .control text))

/-- The length of the run of zeros at the front. -/
def zeroRun (ns : List Nat) : Nat :=
  (ns.takeWhile (· = 0)).length

/-- The start and length of the first longest run of at least two zeros. -/
def longestZeroRun (ns : List Nat) : Option (Nat × Nat) :=
  let runs := (List.range ns.length).map fun i => (i, zeroRun (ns.drop i))
  let best := runs.foldl (fun (b : Nat × Nat) r => if b.2 < r.2 then r else b) (0, 0)
  if best.2 < 2 then none else some best

/-- The pieces of an IPv6 address between colons, the longest run of zeros left
out. -/
def ipv6Chars (ns : List Nat) : List Char :=
  let pieces (ps : List Nat) : List Char := [':'].intercalate (ps.map (Nat.toDigits 16))
  match longestZeroRun ns with
  | none => pieces ns
  | some (start, length) =>
    pieces (ns.take start) ++ ':' :: ':' :: pieces (ns.drop (start + length))

/-- A host as it stands in a URL. -/
def Host.chars : Host → List Char
  | .domain name => name
  | .ipv4 n =>
    ['.'].intercalate ([n / 16777216, n / 65536 % 256, n / 256 % 256, n % 256].map
      (Nat.toDigits 10))
  | .ipv6 ns => '[' :: ipv6Chars ns ++ [']']

end LedgerAgent.Url
