/-
Module: LedgerAgent.Proofs.Tool.Declared
Purpose: The parameters of each tool: their names, what kind of thing they are and whether the tool
  needs them; and that each tool reads just these from its input.
Main exports: ParameterKind, Need, Parameter, LedgerTool.parameters, LedgerTool.known,
  LedgerTool.reads
-/
import LedgerAgent.Proofs.Json.Declaration
import LedgerAgent.Proofs.Tool.Parameters
import LedgerAgent.Tool.Request

namespace LedgerAgent

open Json (Fields)

/-- What a parameter of a tool is. -/
inductive ParameterKind where
  | text
  | flag
  | entity (kind : EntityKind)
  | amount
  | wholeNumber
  | recipients

/-- How much a tool needs a parameter. -/
inductive Need where
  /-- The parameters are not read without it. -/
  | required
  /-- The parameters are read without it, but then the tool asks for it. -/
  | asked
  /-- It may be left out. -/
  | defaulted
  /-- It may be left out, and may be `null`. -/
  | optional

namespace ParameterKind

/-- What is read for a parameter of a kind. -/
def Value : ParameterKind → Type
  | .text => String
  | .flag => Bool
  | .entity kind => EntityId kind
  | .amount => Option String
  | .wholeNumber => Option UInt64
  | .recipients => List (AccountId × Option String)

/-- How it is read. -/
def decoder : (kind : ParameterKind) → Json.Decoder kind.Value
  | .text => Json.decodeString
  | .flag => Json.decodeBool
  | .entity _ => EntityId.decode
  | .amount => Parameters.decodeAmount
  | .wholeNumber => Parameters.decodeWholeNumber
  | .recipients => Json.decodeList LedgerTool.recipientDecoder

end ParameterKind

/-- A parameter of a tool. -/
structure Parameter where
  name : String
  need : Need
  kind : ParameterKind

namespace Parameter

def isRequired (p : Parameter) : Bool :=
  match p.need with
  | .required => true
  | _ => false

/-- Whether the tool asks for it. -/
def isAsked (p : Parameter) : Bool :=
  match p.need with
  | .asked => true
  | _ => false

/-- What a reader has against a value of the parameter. -/
def refusal? (p : Parameter) : Json → Option Json.DecodeError :=
  match p.need with
  | .optional => Json.refusal? (Json.decodeOption p.kind.decoder)
  | _ => Json.refusal? p.kind.decoder

/-- The parameter as the field of a record. -/
def declaration (p : Parameter) : Json.Declaration :=
  ⟨p.name, p.isRequired, p.refusal?⟩

/-- The parameter of tools that are about a topic. -/
def topic : Parameter := ⟨"topicId", .required, .entity .topic⟩

/-- The parameter of tools that are about a token. -/
def token : Parameter := ⟨"tokenId", .required, .entity .token⟩

/-- The parameter of tools that are about an account, by default the caller's. -/
def account : Parameter := ⟨"accountId", .optional, .entity .account⟩

/-- The parameters of a new token. -/
def ofToken : List Parameter :=
  [⟨"name", .required, .text⟩, ⟨"symbol", .required, .text⟩,
    ⟨"decimals", .defaulted, .wholeNumber⟩, ⟨"initialSupply", .defaulted, .wholeNumber⟩,
    ⟨"maxSupply", .defaulted, .wholeNumber⟩, ⟨"isSupplyKey", .defaulted, .flag⟩,
    ⟨"isMetadataKey", .defaulted, .flag⟩, ⟨"isAdminKey", .defaulted, .flag⟩,
    ⟨"memo", .optional, .text⟩, ⟨"tokenMetadata", .optional, .text⟩]

end Parameter

namespace LedgerTool

/-- The parameters of a tool, in the order of their declaration. -/
def parameters : LedgerTool → List Parameter
  | .createTopic => [⟨"name", .required, .text⟩, ⟨"isSubmitKey", .defaulted, .flag⟩]
  | .deleteTopic | .topicInfo => [.topic]
  | .submitTopicMessage => [.topic, ⟨"message", .required, .text⟩]
  | .topicMessages =>
    [.topic, ⟨"lowerThreshold", .optional, .text⟩, ⟨"upperThreshold", .optional, .text⟩]
  | .hbarBalance | .allTokenBalances | .pendingAirdrops => [.account]
  | .transferHbar => [⟨"toAccountId", .required, .entity .account⟩, ⟨"amount", .asked, .amount⟩]
  | .createFungibleToken | .createNonFungibleToken => Parameter.ofToken
  | .mintToken => [.token, ⟨"amount", .asked, .wholeNumber⟩]
  | .mintNft => [.token, ⟨"tokenMetadata", .required, .text⟩]
  | .transferToken =>
    [.token, ⟨"toAccountId", .required, .entity .account⟩, ⟨"amount", .asked, .amount⟩]
  | .associateToken | .dissociateToken | .rejectToken => [.token]
  | .airdropToken => [.token, ⟨"recipients", .asked, .recipients⟩]
  | .claimAirdrop => [.token, ⟨"senderAccountId", .required, .entity .account⟩]
  | .tokenBalance => [.token, .account]
  | .tokenHolders => [.token, ⟨"threshold", .defaulted, .amount⟩]
  | .approveAllowance =>
    [⟨"spenderAccountId", .required, .entity .account⟩, ⟨"amount", .asked, .amount⟩,
      ⟨"tokenId", .optional, .entity .token⟩]

/-- The keys that a tool knows. -/
def known (tool : LedgerTool) : List String :=
  tool.parameters.map Parameter.name

/-- The parameters that a tool asks for once it has read the others. -/
def asked (tool : LedgerTool) : List Parameter :=
  tool.parameters.filter Parameter.isAsked

/-- A tool reads its parameters from its input, and decides by what it has read.  Without a
parameter that it asks for it then says so. -/
inductive Reads (tool : LedgerTool) (kit : Kit) : Prop where
  | intro {α : Type} {fields : Fields α} {next : α → Except ToolError Request}
      {declared : List Json.Declaration}
      (request : ∀ input, tool.request kit input =
        Parameters.read tool.known fields input >>= next)
      (declares : fields.Declares declared)
      (table : declared = tool.parameters.map Parameter.declaration)
      (misses : ∀ p ∈ tool.asked, ∀ {size members a}, members.lookup p.name = none →
        fields.run (Fields.partsOf "struct Parameters" size members) = .ok a →
        next a = .error (.missingParameter p.name))

/-! ### What each tool asks -/

variable {kit : Kit} {tool : LedgerTool}

/-- A tool that asks for nothing more reads its parameters. -/
theorem Reads.of_read {α : Type} {fields : Fields α} {next : α → Except ToolError Request}
    {declared : List Json.Declaration}
    (request : ∀ input, tool.request kit input = Parameters.read tool.known fields input >>= next)
    (declares : fields.Declares declared)
    (table : declared = tool.parameters.map Parameter.declaration) (nothing : tool.asked = []) :
    tool.Reads kit := by
  refine .intro request declares table ?_
  intro p among
  rw [nothing] at among
  cases among

theorem declares_topicField : topicField.Declares [Parameter.topic.declaration] :=
  .field 0 "topicId" EntityId.decode none none

theorem declares_tokenField : tokenField.Declares [Parameter.token.declaration] :=
  .field 0 "tokenId" EntityId.decode none none

/-- A parameter that is not needed by its reader is taken for its default where it is absent. -/
theorem default_of_absent {α : Type} {index size : Nat} {name : String} {d : Json.Decoder α}
    {members : List (String × Json)} {default a : α} (absent : members.lookup name = none)
    (taken : (Fields.defaulted index name d default).run
      (Fields.partsOf "struct Parameters" size members) = .ok a) : a = default := by
  obtain ⟨-, same⟩ | ⟨v, stands, -⟩ := Fields.field_eq_ok taken
  · exact (Option.some.inj same).symm
  · cases absent.symm.trans stands

/-- What a tool asks of a kit begins with its parameters. -/
theorem reads (tool : LedgerTool) (kit : Kit) : tool.Reads kit := by
  cases tool with
  | createTopic => exact .of_read (fun _ => rfl) (.seq (.map _ (.field ..)) (.field ..)) rfl rfl
  | deleteTopic | topicInfo => exact .of_read (fun _ => rfl) declares_topicField rfl rfl
  | submitTopicMessage =>
      exact .of_read (fun _ => rfl) (.seq (.map _ declares_topicField) (.field ..)) rfl rfl
  | topicMessages =>
      exact .of_read (fun _ => rfl)
        (.seq (.seq (.map _ declares_topicField) (.field ..)) (.field ..)) rfl rfl
  | hbarBalance | allTokenBalances | pendingAirdrops =>
      exact .of_read (fun _ => rfl) (.field ..) rfl rfl
  | associateToken | dissociateToken | rejectToken =>
      exact .of_read (fun _ => rfl) declares_tokenField rfl rfl
  | mintNft | claimAirdrop | tokenBalance | tokenHolders =>
      exact .of_read (fun _ => rfl) (.seq (.map _ declares_tokenField) (.field ..)) rfl rfl
  | createFungibleToken | createNonFungibleToken =>
      exact .of_read (fun _ => bind_assoc _ _ _)
        (.seq (.seq (.seq (.seq (.seq (.seq (.seq (.seq (.seq (.map _ (.field ..)) (.field ..))
          (.field ..)) (.field ..)) (.field ..)) (.field ..)) (.field ..)) (.field ..))
          (.field ..)) (.field ..)) rfl rfl
  | transferHbar =>
      refine .intro (fun _ => rfl) (.seq (.map _ (.field ..)) (.field ..)) rfl ?_
      rintro p among size members ⟨recipient, amount⟩ absent taken
      cases List.mem_singleton.1 among
      cases default_of_absent absent (Fields.pair_eq_ok_iff.1 taken).2
      rfl
  | mintToken =>
      refine .intro (fun _ => rfl) (.seq (.map _ declares_tokenField) (.field ..)) rfl ?_
      rintro p among size members ⟨token, amount⟩ absent taken
      cases List.mem_singleton.1 among
      cases default_of_absent absent (Fields.pair_eq_ok_iff.1 taken).2
      rfl
  | airdropToken =>
      refine .intro (fun _ => bind_assoc _ _ _) (.seq (.map _ declares_tokenField) (.field ..)) rfl
        ?_
      rintro p among size members ⟨token, recipients⟩ absent taken
      cases List.mem_singleton.1 among
      cases default_of_absent absent (Fields.pair_eq_ok_iff.1 taken).2
      rfl
  | transferToken =>
      refine .intro (fun _ => rfl)
        (.seq (.seq (.map _ declares_tokenField) (.field ..)) (.field ..)) rfl ?_
      rintro p among size members wanted absent taken
      cases List.mem_singleton.1 among
      obtain ⟨_, amount, front, given, rfl⟩ := Fields.seq_eq_ok.1 taken
      obtain ⟨_, recipient, first, -, rfl⟩ := Fields.seq_eq_ok.1 front
      obtain ⟨token, -, rfl⟩ := Fields.map_run_eq_ok.1 first
      cases default_of_absent absent given
      rfl
  | approveAllowance =>
      refine .intro (fun _ => rfl) (.seq (.seq (.map _ (.field ..)) (.field ..)) (.field ..)) rfl ?_
      rintro p among size members wanted absent taken
      cases List.mem_singleton.1 among
      obtain ⟨_, token, front, -, rfl⟩ := Fields.seq_eq_ok.1 taken
      obtain ⟨_, amount, first, given, rfl⟩ := Fields.seq_eq_ok.1 front
      obtain ⟨spender, -, rfl⟩ := Fields.map_run_eq_ok.1 first
      cases default_of_absent absent given
      rfl

end LedgerTool

end LedgerAgent
