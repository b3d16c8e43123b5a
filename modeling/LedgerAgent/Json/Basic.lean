/-
Module: LedgerAgent.Json.Basic
Purpose: JSON values, their numbers, and the canonical order of members.
Main exports: Json, Json.Number, Json.canonicalMembers, Json.get?
-/
import LedgerAgent.Decimal.Shortest

namespace LedgerAgent

namespace Json

/-- A JSON number in the narrowest of three classes that holds it: an unsigned
integer of 64 bits, a negative integer of 64 bits, or the nearest binary
floating-point number. -/
inductive Number where
  | natural (n : UInt64)
  | negative (n : Int64)
  | real (x : Decimal.Binary64)
deriving Repr, Inhabited, DecidableEq

/-- The class of a signed integer. -/
def Number.ofInt64 (n : Int64) : Number :=
  if n < 0 then .negative n else .natural n.toUInt64

end Json

/-- A JSON value.  Members stand in the order in which they are written. -/
inductive Json where
  | null
  | bool (b : Bool)
  | number (n : Json.Number)
  | string (s : String)
  | array (items : List Json)
  | object (members : List (String × Json))
deriving Repr, Inhabited

namespace Json

def uint64 (n : UInt64) : Json := .number (.natural n)

def uint32 (n : UInt32) : Json := .number (.natural n.toUInt64)

def int64 (n : Int64) : Json := .number (.ofInt64 n)

/-- A value that may be absent, written as `null` then. -/
def nullable {α : Type} (f : α → Json) : Option α → Json
  | none => .null
  | some a => f a

/-- The member of a field that is left out when it is absent. -/
def member? {α : Type} (name : String) (f : α → Json) : Option α → List (String × Json)
  | none => []
  | some a => [(name, f a)]

/-- Members in key order after one more is set; a key that is there already gets
the new value. -/
def insertMember {α : Type} (key : String) (value : α) :
    List (String × α) → List (String × α)
  | [] => [(key, value)]
  | (k, v) :: rest =>
    if key < k then (key, value) :: (k, v) :: rest
    else if key = k then (key, value) :: rest
    else (k, v) :: insertMember key value rest

/-- Members in key order, each key once with its last value. -/
def canonicalMembers {α : Type} (members : List (String × α)) : List (String × α) :=
  members.foldl (fun acc (k, v) => insertMember k v acc) []

/-- The object whose members stand in key order. -/
def sorted (members : List (String × Json)) : Json :=
  .object (canonicalMembers members)

def get? (key : String) : Json → Option Json
  | .object members => (members.find? fun (k, _) => k == key).map Prod.snd
  | _ => none

end Json

end LedgerAgent
