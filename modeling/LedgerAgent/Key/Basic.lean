/-
Module: LedgerAgent.Key.Basic
Purpose: Operator keys, their spellings, and signatures with them.
Main exports: PrivateKey, PublicKey, KeyError, PrivateKey.sign, PublicKey.verify
-/
import LedgerAgent.FileTree
import LedgerAgent.Json.Decode
import LedgerAgent.Key.Curve
import LedgerAgent.Key.Der
import LedgerAgent.Key.Pem
import LedgerAgent.Key.Sha256
import LedgerAgent.Text.Hex

namespace LedgerAgent

open Text Key

/-- Why a key or signature is refused. -/
inductive KeyError where
  | invalidPrivateKey (reason : String)
  | invalidKeyFormat (reason : String)
  | invalidPublicKey (reason : String)
  | invalidSignature (reason : String)
  | unreadable (path : String) (fault : FileFault)
deriving Repr, Inhabited, DecidableEq

def KeyError.message : KeyError → String
  | .invalidPrivateKey reason => s!"Invalid private key: {reason}"
  | .invalidKeyFormat reason => s!"Invalid private key: Invalid key format: {reason}"
  | .invalidPublicKey reason => s!"Invalid public key: {reason}"
  | .invalidSignature reason => s!"Invalid signature: {reason}"
  | .unreadable path fault => s!"Failed to read key file {path}: {fault.message}"

/-- The words in which the decoder of binary keys refuses contents.  They are the
decoder's own. -/
abbrev RefusalText := List UInt8 → String

/-- What is said about bytes that are no key or no signature. -/
def cryptographicFault : String := "signature error"

/-- The encoding's fixed beginning in front of a raw private key. -/
def privateKeyLead : List Char := "3030020100300706052b8104000a04220420".toList

/-- The encoding's fixed beginning in front of a compressed public key. -/
def publicKeyLead : List Char := "302d300706052b8104000a032200".toList

/-- The hexadecimal digits of a spelled key, in lower case: white space around
it, one leading `0x` and then one leading `lead` are set aside. -/
def keyDigits (lead : List Char) (text : String) : String :=
  let bare := withoutLead ['0', 'x'] (trimmed text.toList)
  String.ofList (withoutLead lead (bare.map Char.toLower))

/-- A public key: the compressed encoding of a point on the curve. -/
structure PublicKey where
  x : Nat
  odd : Bool
  onCurve : (liftX? x odd).isSome = true
deriving DecidableEq

namespace PublicKey

/-- The key with these coordinates, if they are a point on the curve. -/
def ofCompressed? (x : Nat) (odd : Bool) : Option PublicKey :=
  if h : (liftX? x odd).isSome = true then some ⟨x, odd, h⟩ else none

def point (key : PublicKey) : Point :=
  ⟨key.x, (liftX? key.x key.odd).getD 0, 1⟩

/-- The key that bytes encode: a compressed point, a full point, or an abscissa
alone, which stands for the even point above it. -/
def ofBytes? : List UInt8 → Option PublicKey
  | [] => none
  | tag :: rest =>
    if (tag = 2 ∨ tag = 3) ∧ rest.length = 32 then ofCompressed? (natOfBytes rest) (tag = 3)
    else if tag = 5 ∧ rest.length = 32 then ofCompressed? (natOfBytes rest) false
    else if tag = 4 ∧ rest.length = 64 then
      let x := natOfBytes (rest.take 32)
      let y := natOfBytes (rest.drop 32)
      let odd := y % 2 == 1
      if liftX? x odd = some y then ofCompressed? x odd else none
    else none

/-- The compressed encoding, 33 bytes. -/
def toBytes (key : PublicKey) : List UInt8 :=
  (if key.odd then 3 else 2) :: bytesOfNat 32 key.x

/-- The full encoding, both coordinates in 65 bytes. -/
def toFullBytes (key : PublicKey) : List UInt8 :=
  4 :: bytesOfNat 32 key.x ++ bytesOfNat 32 key.point.y

/-- The compressed encoding in hexadecimal. -/
def toText (key : PublicKey) : String :=
  Hex.encode key.toBytes

/-- The hexadecimal text behind the encoding's fixed beginning. -/
def toTextWithLead (key : PublicKey) : String :=
  String.ofList publicKeyLead ++ key.toText

def parse (text : String) : Except KeyError PublicKey :=
  match Hex.decode (keyDigits publicKeyLead text) with
  | .error e => .error (.invalidPublicKey ("Invalid hex: " ++ e.message))
  | .ok bs =>
    match ofBytes? bs with
    | some key => .ok key
    | none => .error (.invalidPublicKey cryptographicFault)

def toJson (key : PublicKey) : Json :=
  .string key.toText

def decode : Json.Decoder PublicKey :=
  Json.decodeVia parse KeyError.message

end PublicKey

/-- Two numbers that sign a message, each between one and the group's order. -/
structure Signature where
  r : Nat
  s : Nat
deriving Repr, DecidableEq

namespace Signature

/-- The signature that 64 bytes encode. -/
def ofBytes? (bs : List UInt8) : Option Signature :=
  let r := natOfBytes (bs.take 32)
  let s := natOfBytes (bs.drop 32)
  if bs.length = 64 ∧ 0 < r ∧ r < groupOrder ∧ 0 < s ∧ s < groupOrder then some ⟨r, s⟩ else none

/-- The encoding, 64 bytes. -/
def toBytes (sig : Signature) : List UInt8 :=
  bytesOfNat 32 sig.r ++ bytesOfNat 32 sig.s

/-- Whether the second number is in the upper half, where its negative would sign
the same message. -/
def isHigh (sig : Signature) : Bool :=
  groupOrder / 2 < sig.s

end Signature

/-- A private key: a scalar between one and the group's order. -/
structure PrivateKey where
  scalar : Nat
  pos : 0 < scalar
  lt : scalar < groupOrder
deriving DecidableEq

namespace PrivateKey

/-- The key that bytes encode.  Short keys of at least 24 bytes count as if zeros
stood before them. -/
def ofBytes? (bs : List UInt8) : Option PrivateKey :=
  let k := natOfBytes bs
  if bs.length < 24 ∨ 32 < bs.length then none
  else if h : 0 < k ∧ k < groupOrder then some ⟨k, h.1, h.2⟩
  else none

/-- The encoding, 32 bytes. -/
def toBytes (key : PrivateKey) : List UInt8 :=
  bytesOfNat 32 key.scalar

def parse (text : String) : Except KeyError PrivateKey :=
  match Hex.decode (keyDigits privateKeyLead text) with
  | .error e => .error (.invalidPrivateKey ("Invalid hex: " ++ e.message))
  | .ok bs =>
    match ofBytes? bs with
    | some key => .ok key
    | none => .error (.invalidPrivateKey cryptographicFault)

/-- The coordinates of the key's point. -/
def coordinates (key : PrivateKey) : Nat × Nat :=
  ((generator.mul key.scalar).affine?).getD (generator.x, generator.y)

/-- The public key of the generator, which stands in where none can be computed. -/
private def generatorKey : PublicKey :=
  ⟨generator.x, false, by decide +kernel⟩

def publicKey (key : PrivateKey) : PublicKey :=
  let (x, y) := key.coordinates
  (PublicKey.ofCompressed? x (y % 2 == 1)).getD generatorKey

/-- The private key of a binary encoding; a point that is given too must be the
key's own, compressed or in full. -/
def ofEncoded? (encoded : EncodedPrivateKey) : Option PrivateKey := do
  let key ← ofBytes? encoded.scalar
  match encoded.point with
  | none => return key
  | some point =>
    if point = key.publicKey.toBytes ∨ point = key.publicKey.toFullBytes then return key else none

/-- The key that framed bytes encode, in either standard encoding. -/
def ofPem (refusal : RefusalText) (bs : List UInt8) : Except KeyError PrivateKey :=
  match utf8Fault? bs, ofBytes?Text bs with
  | some fault, _ => .error (.invalidPrivateKey ("Invalid UTF-8: " ++ fault.message))
  | none, text =>
    match pemContents text with
    | .error e => .error (.invalidPrivateKey ("Invalid PEM: " ++ e.message))
    | .ok contents =>
      match (sec1PrivateKey? contents).bind ofEncoded? with
      | some key => .ok key
      | none =>
        match (pkcs8PrivateKey? contents).bind ofEncoded? with
        | some key => .ok key
        | none => .error (.invalidKeyFormat (refusal contents))
where
  /-- The text of bytes that are text. -/
  ofBytes?Text (bs : List UInt8) : String := (Text.ofBytes? bs).getD ""

/-!
The nonce of a signature is drawn from the key and the message alone, by the
deterministic generator over the authentication code; a draw outside the group's
range is followed by another.
-/

/-- The state of the generator. -/
structure NonceState where
  k : List UInt8
  v : List UInt8

/-- The state with more input mixed in. -/
def NonceState.mix (s : NonceState) (input : List UInt8) : NonceState :=
  let k := hmacSha256 s.k (s.v ++ input)
  ⟨k, hmacSha256 k s.v⟩

/-- The first draw in range among at most `tries`. -/
def NonceState.draw? : Nat → NonceState → Option Nat
  | 0, _ => none
  | tries + 1, s =>
    let v := hmacSha256 s.k s.v
    let n := natOfBytes v
    if 0 < n ∧ n < groupOrder then some n else draw? tries (NonceState.mix ⟨s.k, v⟩ [0])

/-- The nonce for a hash. -/
def nonce? (key : PrivateKey) (z : Nat) : Option Nat :=
  let seed := key.toBytes ++ bytesOfNat 32 z
  let start : NonceState := ⟨List.replicate 32 0, List.replicate 32 1⟩
  ((start.mix (0 :: seed)).mix (1 :: seed)).draw? 64

/-- The signature of a hash, its second number in the lower half. -/
def signHash? (key : PrivateKey) (hash : List UInt8) : Option Signature := do
  let n := groupOrder
  let z := natOfBytes hash % n
  let k ← key.nonce? z
  let (x, _) ← (generator.mul k).affine?
  let r := x % n
  let s := inverseMod n k * (z + r * key.scalar) % n
  if r = 0 ∨ s = 0 then none
  else
    let sig : Signature := ⟨r, s⟩
    return if sig.isHigh then ⟨r, n - s⟩ else sig

/-- The signature of a message: 64 bytes over its SHA-256 hash. -/
def sign (key : PrivateKey) (message : List UInt8) : Except KeyError (List UInt8) :=
  match key.signHash? (sha256 message) with
  | some sig => .ok sig.toBytes
  | none => .error (.invalidSignature cryptographicFault)

end PrivateKey

namespace PublicKey

/-- Whether a signature signs a hash.  Of the two numbers that would, only the one
in the lower half does. -/
def accepts (key : PublicKey) (hash : List UInt8) (sig : Signature) : Bool :=
  if sig.isHigh then false
  else
    let n := groupOrder
    let z := natOfBytes hash % n
    let w := inverseMod n sig.s
    let sum := (generator.mul (z * w % n)).add (key.point.mul (sig.r * w % n))
    match sum.affine? with
    | some (x, _) => x % n == sig.r
    | none => false

/-- Check a signature of a message. -/
def verify (key : PublicKey) (message signature : List UInt8) : Except KeyError Unit :=
  match Signature.ofBytes? signature with
  | none => .error (.invalidSignature cryptographicFault)
  | some sig =>
    if key.accepts (sha256 message) sig then .ok ()
    else .error (.invalidSignature cryptographicFault)

end PublicKey

end LedgerAgent
