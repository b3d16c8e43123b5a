/-
Module: LedgerAgent.Network
Purpose: The public networks, their endpoints and nodes.
Main exports: Network, Network.parse, Network.nodes, NetworkError
-/
import LedgerAgent.Entity
import LedgerAgent.Amount

namespace LedgerAgent

/-- A public network of the ledger. -/
inductive Network where
  | mainnet
  | testnet
  | previewnet
deriving Repr, Inhabited, DecidableEq

/-- A name that is no network's, trimmed and in lower case. -/
structure NetworkError where
  name : String
deriving Repr, Inhabited, DecidableEq

def NetworkError.message (e : NetworkError) : String :=
  s!"Unsupported network `{e.name}` (expected mainnet, testnet or previewnet)"

namespace Network

def table : List (String × Network) :=
  [("mainnet", .mainnet), ("testnet", .testnet), ("previewnet", .previewnet)]

def name : Network → String
  | .mainnet => "mainnet"
  | .testnet => "testnet"
  | .previewnet => "previewnet"

/-- The network's name for people. -/
def title : Network → String
  | .mainnet => "Hedera Mainnet"
  | .testnet => "Hedera Testnet"
  | .previewnet => "Hedera Previewnet"

/-- The public history service of the network. -/
def mirrorUrl : Network → String
  | .mainnet => "https://mainnet-public.mirrornode.hedera.com"
  | .testnet => "https://testnet.mirrornode.hedera.com"
  | .previewnet => "https://previewnet.mirrornode.hedera.com"

/-- The public explorer of the network. -/
def explorerUrl (network : Network) : String :=
  "https://hashscan.io/" ++ network.name

/-- The accounts of the consensus nodes, the same seven in every network. -/
def nodes (_ : Network) : List AccountId :=
  [3, 4, 5, 6, 7, 8, 9].map fun num => ⟨0, 0, num⟩

/-- The network that a name means, in any letter case. -/
def parse (text : String) : Except NetworkError Network :=
  let name := Text.asciiLower (Text.trim text)
  match table.lookup name with
  | some network => .ok network
  | none => .error ⟨name⟩

def toJson (network : Network) : Json :=
  .string network.name

def decode : Json.Decoder Network :=
  Json.unitVariant table

end Network

/-- The most a transaction may cost when it does not say so itself. -/
def defaultMaxFee : Tinybars := ⟨200000000⟩

end LedgerAgent
