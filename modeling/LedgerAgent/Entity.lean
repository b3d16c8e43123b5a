/-
Module: LedgerAgent.Entity
Purpose: Identifiers of accounts, tokens, topics and transactions.
Main exports: EntityId, AccountId, TokenId, TopicId, TransactionId, IdError
-/
import LedgerAgent.Text.Blank
import LedgerAgent.Text.Split
import LedgerAgent.Text.Numeral
import LedgerAgent.Json.Decode

namespace LedgerAgent

open Text

/-- What an entity of the ledger is. -/
inductive EntityKind where
  | account
  | token
  | topic
deriving Repr, Inhabited, DecidableEq

def EntityKind.name : EntityKind → String
  | .account => "account"
  | .token => "token"
  | .topic => "topic"

/-- Why a text is no identifier.  The text is kept as it was given. -/
inductive IdError where
  | invalidEntity (kind : EntityKind) (text : String)
  | invalidTransaction (text : String)
deriving Repr, Inhabited, DecidableEq

def IdError.message : IdError → String
  | .invalidEntity kind text =>
    s!"Invalid {kind.name} id `{text}`: expected shard.realm.num"
  | .invalidTransaction text =>
    s!"Invalid transaction id `{text}`: expected account@seconds.nanos"

/-- An entity of a kind: its shard, its realm in the shard, its number there. -/
structure EntityId (kind : EntityKind) where
  shard : UInt64
  realm : UInt64
  num : UInt64
deriving Repr, Inhabited, DecidableEq

abbrev AccountId := EntityId .account

abbrev TokenId := EntityId .token

abbrev TopicId := EntityId .topic

namespace EntityId

variable {kind : EntityKind}

/-- Three unsigned integers between two points, white space around them. -/
def ofChars? (cs : List Char) : Option (EntityId kind) :=
  match fields '.' (trimmed cs) with
  | [shard, realm, num] =>
    match Numeral.uint64 shard, Numeral.uint64 realm, Numeral.uint64 num with
    | .ok s, .ok r, .ok n => some ⟨s, r, n⟩
    | _, _, _ => none
  | _ => none

def parse (text : String) : Except IdError (EntityId kind) :=
  match ofChars? text.toList with
  | some id => .ok id
  | none => .error (.invalidEntity kind text)

def chars (id : EntityId kind) : List Char :=
  Numeral.digits id.shard.toNat ++ '.' :: Numeral.digits id.realm.toNat ++
    '.' :: Numeral.digits id.num.toNat

def toText (id : EntityId kind) : String :=
  String.ofList id.chars

/-- Order by shard, then realm, then number. -/
def compare (a b : EntityId kind) : Ordering :=
  (Ord.compare a.shard b.shard).then
    ((Ord.compare a.realm b.realm).then (Ord.compare a.num b.num))

def toJson (id : EntityId kind) : Json :=
  .string id.toText

def decode : Json.Decoder (EntityId kind) :=
  Json.decodeVia parse IdError.message

end EntityId

/-- A point in time: seconds since 1970 and nanoseconds of the second. -/
structure Instant where
  seconds : Int64
  nanos : UInt32
deriving Repr, Inhabited, DecidableEq

/-- A transaction's identity: who pays for it and from when on it is valid. -/
structure TransactionId where
  account : AccountId
  validStart : Instant
deriving Repr, Inhabited, DecidableEq

namespace TransactionId

/-- The number of bytes that characters take in UTF-8. -/
def byteLength (cs : List Char) : Nat :=
  cs.foldr (fun c n => c.utf8Size + n) 0

/-- Nanoseconds from the text behind the point, a decimal fraction of a second:
zeros are added behind it, so `5.1` is a tenth past five. -/
def nanos? (cs : List Char) : Option UInt32 :=
  if cs.isEmpty || 9 < byteLength cs then none
  else (Numeral.uint32 (Numeral.padRight 9 cs)).toOption

/-- An account, `@`, whole seconds, a point and a fraction, white space around
them. -/
def ofChars? (cs : List Char) : Option TransactionId := do
  let (account, time) ← cutAt '@' (trimmed cs)
  let (seconds, fraction) ← cutAt '.' time
  let nanos ← nanos? fraction
  let account ← EntityId.ofChars? account
  let seconds ← (Numeral.int64 seconds).toOption
  return ⟨account, ⟨seconds, nanos⟩⟩

def parse (text : String) : Except IdError TransactionId :=
  match ofChars? text.toList with
  | some id => .ok id
  | none => .error (.invalidTransaction text)

/-- The canonical spelling, with nine digits behind the point. -/
def chars (id : TransactionId) : List Char :=
  let s := id.validStart.seconds.toInt
  id.account.chars ++ '@' :: (if s < 0 then ['-'] else []) ++ Numeral.digits s.natAbs ++
    '.' :: Numeral.padded 9 id.validStart.nanos.toNat

def toText (id : TransactionId) : String :=
  String.ofList id.chars

/-- The identity of a transaction that an account pays for from now on. -/
def generate (account : AccountId) (now : Instant) : TransactionId :=
  ⟨account, now⟩

def toJson (id : TransactionId) : Json :=
  .string id.toText

def decode : Json.Decoder TransactionId :=
  Json.decodeVia parse IdError.message

end TransactionId

end LedgerAgent
