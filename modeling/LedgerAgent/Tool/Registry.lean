/-
Module: LedgerAgent.Tool.Registry
Purpose: Tools by name.
Main exports: Registry, Registry.register, Registry.get?, Registry.definitions,
  Registry.ofLedger
-/
import LedgerAgent.Tool.Basic

namespace LedgerAgent

/-- Tools in the order of their names, no two of them with the same name. -/
structure Registry where
  tools : List Tool

namespace Registry

def empty : Registry := ⟨[]⟩

/-- Tools in the order of their names after one more is set. -/
def insert (tool : Tool) : List Tool → List Tool
  | [] => [tool]
  | other :: rest =>
    if tool.name < other.name then tool :: other :: rest
    else if tool.name = other.name then tool :: rest
    else other :: insert tool rest

/-- The registry with one more tool, which takes the place of one with its name. -/
def register (registry : Registry) (tool : Tool) : Registry :=
  ⟨insert tool registry.tools⟩

def get? (registry : Registry) (name : String) : Option Tool :=
  registry.tools.find? fun tool => tool.name == name

def names (registry : Registry) : List String :=
  registry.tools.map Tool.name

def size (registry : Registry) : Nat :=
  registry.tools.length

/-- Whether there is no tool. -/
def isEmpty (registry : Registry) : Bool :=
  registry.tools.isEmpty

def definition (tool : Tool) : Json :=
  .object [("name", .string tool.name), ("description", .string tool.description)]

/-- What a language model is told of the tools. -/
def definitions (registry : Registry) : Json :=
  .array (registry.tools.map definition)

/-- The ledger's tools over a kit, their calls logged. -/
def ofLedger (kit : Kit) : Exchange Registry := do
  let registry := LedgerTool.all.foldl
    (fun registry tool => registry.register (tool.withKit kit).logged) empty
  Exchange.log .debug "Ledger tools registered" [("tools", toString registry.size)]
  return registry

end Registry

end LedgerAgent
