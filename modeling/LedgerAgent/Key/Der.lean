/-
Module: LedgerAgent.Key.Der
Purpose: Private keys in their two standard binary encodings.
Main exports: Key.sec1PrivateKey?, Key.pkcs8PrivateKey?, Key.EncodedPrivateKey
-/

namespace LedgerAgent.Key

/-- A tagged value of the distinguished encoding: its tag byte and content. -/
structure DerValue where
  tag : UInt8
  content : List UInt8
deriving Repr, DecidableEq

/-- The tags of the common types, besides which there are those that an application
or its context gives a meaning. -/
def commonTags : List UInt8 :=
  [0x01, 0x02, 0x03, 0x04, 0x05, 0x06, 0x09, 0x0a, 0x0c, 0x12, 0x13, 0x14, 0x15, 0x16, 0x17, 0x18,
    0x1a, 0x1e, 0x30, 0x31]

/-- Whether a byte is a tag.  The number 31 would announce a longer tag, of which
there are none. -/
def isTag (tag : UInt8) : Bool :=
  if tag < 0x40 then commonTags.contains tag else tag % 32 != 31

/-- The number of a tag to which only the context gives a meaning. -/
def contextNumber? (tag : UInt8) : Option Nat :=
  if 0x80 ≤ tag ∧ tag < 0xc0 then some (tag.toNat % 32) else none

/-- A length in its only valid spelling: one byte below 128, else the fewest
bytes behind their count, four at most. -/
def derLength? : List UInt8 → Option (Nat × List UInt8)
  | [] => none
  | first :: rest =>
    if first < 0x80 then some (first.toNat, rest)
    else
      let count := first.toNat - 128
      if count = 0 ∨ 4 < count ∨ rest.length < count then none
      else
        let n := (rest.take count).foldl (fun n b => n * 256 + b.toNat) 0
        if n < 128 ∨ (1 < count ∧ n < Nat.pow 256 (count - 1)) then none
        else some (n, rest.drop count)

/-- The value at the front of bytes and the bytes behind it. -/
def derValue? : List UInt8 → Option (DerValue × List UInt8)
  | [] => none
  | tag :: rest => do
    let (length, body) ← derLength? rest
    if isTag tag = false ∨ body.length < length then none
    else some (⟨tag, body.take length⟩, body.drop length)

/-- All values in bytes, one behind the other; `fuel` bounds their number. -/
def derValues? : Nat → List UInt8 → Option (List DerValue)
  | _, [] => some []
  | 0, _ => none
  | fuel + 1, bs => do
    let (value, rest) ← derValue? bs
    let others ← derValues? fuel rest
    some (value :: others)

/-- The values in a sequence that is all there is. -/
def derSequence? (bs : List UInt8) : Option (List DerValue) := do
  let (value, rest) ← derValue? bs
  if value.tag = 0x30 ∧ rest = [] then derValues? value.content.length value.content else none

/-- The one value inside an explicit tag. -/
def derInner? (value : DerValue) : Option DerValue := do
  let (inner, rest) ← derValue? value.content
  if rest = [] then some inner else none

/-- The object identifier of elliptic-curve keys. -/
def ellipticCurveKeyOid : List UInt8 := [0x2a, 0x86, 0x48, 0xce, 0x3d, 0x02, 0x01]

/-- The object identifier of the curve. -/
def curveOid : List UInt8 := [0x2b, 0x81, 0x04, 0x00, 0x0a]

/-- The scalar of an encoded private key and, if it is given too, its point. -/
structure EncodedPrivateKey where
  scalar : List UInt8
  point : Option (List UInt8)
deriving Repr, DecidableEq

/-- Whether bytes go on as well-formed numbers, one behind the other, `count` bytes of
the first one having been read: seven bits a byte, all but the last byte marked, in
four bytes or in five whose last one is below 16. -/
def isArcs (count : Nat) : List UInt8 → Bool
  | [] => count == 0
  | b :: rest =>
    if 4 ≤ count ∧ 0x10 ≤ b then false else isArcs (if b < 0x80 then 0 else count + 1) rest

/-- Whether content is an object identifier: a first byte for two numbers, at least
two further bytes, and 39 bytes at most. -/
def isObjectIdentifier (content : List UInt8) : Bool :=
  match content with
  | [] => false
  | first :: arcs => first < 120 && 2 ≤ arcs.length && arcs.length ≤ 38 && isArcs 0 arcs

/-- Curve parameters: nothing but an object identifier names a curve. -/
def isCurveName (value : DerValue) : Bool :=
  match derInner? value with
  | some inner => inner.tag == 0x06 && isObjectIdentifier inner.content
  | none => false

/-- The bytes of a bit string's content without unused bits. -/
def bits? : List UInt8 → Option (List UInt8)
  | 0 :: bits => some bits
  | _ => none

/-- The value with a number among values to which the context gives a meaning, and
the values behind it.  Values with lower numbers are passed over; whatever else
stands there ends the search. -/
def contextValue (number : Nat) : List DerValue → Option DerValue × List DerValue
  | [] => (none, [])
  | v :: rest =>
    match contextNumber? v.tag with
    | none => (none, v :: rest)
    | some n =>
      if number < n then (none, v :: rest)
      else if n = number then (some v, rest)
      else contextValue number rest

/-- The point inside a tag that holds it as a bit string. -/
def encodedPoint? (value : DerValue) : Option (List UInt8) := do
  let inner ← derInner? value
  if value.tag = 0xa1 ∧ inner.tag = 0x03 then bits? inner.content else none

/-- The encoding of elliptic-curve keys alone: version one, the scalar, and
optionally the curve's name and the point. -/
def sec1PrivateKey? (bs : List UInt8) : Option EncodedPrivateKey := do
  match ← derSequence? bs with
  | ⟨0x02, [1]⟩ :: ⟨0x04, scalar⟩ :: rest =>
    let (name, rest) := contextValue 0 rest
    let (point, rest) := contextValue 1 rest
    if name.any (fun v => v.tag != 0xa0 || !isCurveName v) || !rest.isEmpty then none
    else
      match point with
      | none => some ⟨scalar, none⟩
      | some v => (encodedPoint? v).map fun p => ⟨scalar, some p⟩
  | _ => none

/-- Whether a value is an extension: one value inside an explicit tag. -/
def isExtension (value : DerValue) : Bool :=
  (contextNumber? value.tag).isSome && 0xa0 ≤ value.tag && (derInner? value).isSome

/-- The encoding of keys of any algorithm: a version, the algorithm and curve, and
the key itself inside; attributes may follow.  The second version has a public key,
which is not looked at, and the first has none. -/
def pkcs8PrivateKey? (bs : List UInt8) : Option EncodedPrivateKey := do
  match ← derSequence? bs with
  | ⟨0x02, [version]⟩ :: ⟨0x30, algorithm⟩ :: ⟨0x04, inner⟩ :: rest =>
    let known ←
      match ← derValues? algorithm.length algorithm with
      | [⟨0x06, oid⟩, ⟨0x06, curve⟩] => some (oid == ellipticCurveKeyOid && curve == curveOid)
      | _ => none
    let (publicKey, rest) := contextValue 1 rest
    let shape :=
      match publicKey with
      | none => version == 0
      | some v => version == 1 && v.tag == 0x81 && (bits? v.content).isSome
    if known && shape && rest.all isExtension then sec1PrivateKey? inner else none
  | _ => none

end LedgerAgent.Key
