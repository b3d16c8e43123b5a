/-
Module: LedgerAgent.MirrorNode.Query
Purpose: The questions that a mirror node answers.
Main exports: MirrorNode.hbarBalance, MirrorNode.tokenBalance, MirrorNode.tokenBalances,
  MirrorNode.tokenDetails, MirrorNode.tokenHolders, MirrorNode.topicInfo,
  MirrorNode.topicMessages, MirrorNode.pendingAirdrops, mirrorTimestamp
-/
import LedgerAgent.MirrorNode.Basic
import LedgerAgent.Timestamp

namespace LedgerAgent

/-- A date as mirror nodes write it: seconds, a point, nanoseconds. -/
def mirrorTimestamp (text : String) : Except MirrorNodeError String :=
  match Timestamp.parse? text with
  | none => .error (.invalidTimestamp text)
  | some t => .ok t.toText

namespace MirrorNode

/-- How many items a page should hold. -/
def pageLimit : Nat := 100

/-- The URL of a path with query pairs. -/
def endpoint (node : MirrorNode) (path : String) (pairs : List (String × String)) :
    Except MirrorNodeError Url :=
  (node.resolve path).map fun url => pairs.foldl (fun url (name, value) => url.addPair name value) url

def balancesUrl (node : MirrorNode) (account : AccountId) : Except MirrorNodeError Url :=
  node.endpoint "/api/v1/balances" [("account.id", account.toText)]

def tokenBalancesPath (token : TokenId) : String :=
  s!"/api/v1/tokens/{token.toText}/balances"

/-- Go on with a URL, unless it is an error. -/
def withUrl {α : Type} (url : Except MirrorNodeError Url)
    (next : Url → Exchange (Except MirrorNodeError α)) : Exchange (Except MirrorNodeError α) :=
  match url with
  | .error e => return .error e
  | .ok url => next url

/-- An account's balance in the ledger's own currency; zero if it is unknown. -/
def hbarBalance (node : MirrorNode) (account : AccountId) :
    Exchange (Except MirrorNodeError UInt64) :=
  withUrl (node.balancesUrl account) fun url => do
    return (← fetch balancesPage url).map fun page =>
      (page.items.head?.map AccountBalance.balance).getD 0

/-- An account's balance of a token in base units; zero if it holds none. -/
def tokenBalance (node : MirrorNode) (token : TokenId) (account : AccountId) :
    Exchange (Except MirrorNodeError UInt64) :=
  withUrl (node.endpoint (tokenBalancesPath token)
    [("account.id", s!"eq:{account.toText}"), ("limit", "1"), ("order", "asc")]) fun url => do
    return (← fetch holdersPage url).map fun page =>
      (page.items.head?.map TokenHolder.balance).getD 0

def tokenBalances (node : MirrorNode) (account : AccountId) :
    Exchange (Except MirrorNodeError (List TokenBalance)) :=
  withUrl (node.balancesUrl account) fun url => do
    return (← node.listing balancesPage url).map fun entries => entries.flatMap AccountBalance.tokens

def tokenDetails (node : MirrorNode) (token : TokenId) :
    Exchange (Except MirrorNodeError TokenDetails) :=
  withUrl (node.resolve s!"/api/v1/tokens/{token.toText}") fun url => fetch TokenDetails.decode url

/-- The holders of a token with at least `threshold` base units; without a threshold
those that hold anything. -/
def tokenHolders (node : MirrorNode) (token : TokenId) (threshold : Option UInt64) :
    Exchange (Except MirrorNodeError (List TokenHolder)) :=
  let floor :=
    match threshold with
    | some threshold => s!"gte:{threshold.toNat}"
    | none => "gt:0"
  withUrl (node.endpoint (tokenBalancesPath token)
    [("limit", toString pageLimit), ("account.balance", floor)]) fun url =>
    node.listing holdersPage url

def topicInfo (node : MirrorNode) (topic : TopicId) : Exchange (Except MirrorNodeError Json) :=
  withUrl (node.resolve s!"/api/v1/topics/{topic.toText}") fun url => fetch Json.decodeJson url

/-- The messages of a topic, the newest first, between two timestamps, both of them
included. -/
def topicMessages (node : MirrorNode) (topic : TopicId) (lower upper : Option String) :
    Exchange (Except MirrorNodeError (List TopicMessage)) :=
  let bound (relation : String) (timestamp : Option String) : List (String × String) :=
    (timestamp.map fun t => ("timestamp", relation ++ t)).toList
  withUrl (node.endpoint s!"/api/v1/topics/{topic.toText}/messages"
    ([("encoding", "UTF-8"), ("limit", toString pageLimit), ("order", "desc")] ++
      bound "gte:" lower ++ bound "lte:" upper)) fun url =>
    node.listing messagesPage url

def pendingAirdrops (node : MirrorNode) (account : AccountId) :
    Exchange (Except MirrorNodeError (List PendingAirdrop)) :=
  withUrl (node.resolve s!"/api/v1/accounts/{account.toText}/airdrops/pending") fun url =>
    node.listing airdropsPage url

end MirrorNode

end LedgerAgent
