/-
Module: LedgerAgent.Proofs.Tool.Content
Purpose: Texts that a caller gives to be kept on the ledger: messages, memos, names, symbols and
  metadata stand in the body character for character as they were meant, however they are spelled.
Main exports: Parameters.Gives, Body.Holds, LedgerTool.contents, LedgerTool.holds_of_produces,
  LedgerTool.holds_written
-/
import LedgerAgent.Proofs.Json.Written
import LedgerAgent.Proofs.Kit.Actor
import LedgerAgent.Proofs.Tool.Payment
import LedgerAgent.Proofs.Tool.Production

namespace LedgerAgent

open Json (Source ElementText Fields bind_eq_ok map_eq_ok)

/-! ### Texts among the parameters -/

namespace Parameters

variable {input key record : String} {members : List (String × Json)} {index size : Nat}

/-- An input gives a text under a key, or nothing there that counts. -/
def Gives (input key : String) (text : Option String) : Prop :=
  ∃ members, given input = .ok members ∧ members.lookup key = text.map .string

/-- Only members that are given anything count. -/
theorem isGiven_of_given (counted : given input = .ok members) :
    ∀ m ∈ members, isGiven m.2 = true := by
  rw [given] at counted
  split at counted
  · cases counted
    exact List.forall_mem_nil _
  · split at counted
    · cases counted
      intro m among
      exact (List.mem_filter.1 among).2
    · cases counted

theorem isGiven_of_lookup (counted : given input = .ok members) {v : Json}
    (stands : members.lookup key = some v) : isGiven v = true :=
  isGiven_of_given counted _ (Json.mem_of_lookup stands)

/-- A required text that is read is given. -/
theorem gives_of_required (counted : given input = .ok members) {s : String}
    (taken : (Fields.required index key Json.decodeString).run
      (Fields.partsOf record size members) = .ok s) : Gives input key (some s) := by
  obtain ⟨-, ⟨⟩⟩ | ⟨v, stands, decoded⟩ := Fields.field_eq_ok taken
  rw [Json.decodeString_iff.1 decoded] at stands
  exact ⟨members, counted, stands⟩

/-- An optional text that is read is given, or nothing is. -/
theorem gives_of_optional (counted : given input = .ok members) {text : Option String}
    (taken : (Fields.optional index key Json.decodeString).run
      (Fields.partsOf record size members) = .ok text) : Gives input key text := by
  obtain ⟨absent, ⟨⟩⟩ | ⟨v, stands, decoded⟩ := Fields.field_eq_ok taken
  · exact ⟨members, counted, absent⟩
  · have present : v ≠ .null := by
      intro nothing
      cases nothing ▸ isGiven_of_lookup counted stands
    rw [Json.decodeOption_of_ne_null present] at decoded
    obtain ⟨s, made, rfl⟩ := map_eq_ok.1 decoded
    rw [Json.decodeString_iff.1 made] at stands
    exact ⟨members, counted, stands⟩

/-- A text that is given is not empty. -/
theorem Gives.nonEmpty {text : Option String} (gives : Gives input key text) :
    TokenOptions.nonEmpty text = text := by
  obtain ⟨members, counted, stands⟩ := gives
  cases text with
  | none => rfl
  | some s =>
      have something : (!s.isEmpty) = true := isGiven_of_lookup counted stands
      rw [TokenOptions.nonEmpty, Option.filter_some, if_pos something]

/-- What a written value gives as a text: what it spells, unless that is empty. -/
def written? : Option Source → Option String
  | some (.string s) => if s = "" then none else some s
  | _ => none

/-- Only strings are read as strings. -/
theorem eq_string_of_reading {v : Source} {s : String}
    (read : (v.reading 1).value = .string s) : v = .string s := by
  cases v with
  | string _ =>
      cases read
      rfl
  | number l =>
      rw [Source.reading, Json.Literal.reading] at read
      split at read
      · cases read
      · cases read
  | null | bool _ | array _ | object _ => cases read

/-- What is written last under a key is given there. -/
theorem Gives.eq_of_written {text : Option String} {members : List (String × Source)}
    (gives : Gives input key text)
    (written : ElementText (Text.trimmed input.toList) (.object members)) :
    text = written? (members.reverse.lookup key) := by
  have written : ElementText (Text.trim input).toList (.object members) := by
    rwa [Text.trim, String.toList_ofList]
  have something : Text.trim input ≠ "" := by
    intro nothing
    rw [nothing] at written
    exact absurd written.length_pos (by decide)
  obtain ⟨among, counted, stands⟩ := gives
  obtain ⟨raw, object⟩ := parse_of_given counted something
  rw [lookup_of_given object counted, Json.lookup_eq_of_written written object] at stands
  cases text with
  | some s =>
      obtain ⟨found, kept⟩ := Option.filter_eq_some_iff.1 stands
      obtain ⟨v, here, read⟩ := Option.map_eq_some_iff.1 found
      have filled : s ≠ "" := by simpa [isGiven] using kept
      rw [here, eq_string_of_reading read, written?, if_neg filled]
  | none =>
      unfold written?
      split
      · rename_i s here
        by_cases empty : s = ""
        · rw [if_pos empty]
        · have kept : isGiven (.string s) = true := by simpa [isGiven] using empty
          rw [here, Option.map_some, Option.filter_some, if_pos (by exact kept)] at stands
          cases stands
      · rfl

end Parameters

open Parameters (Gives)

/-! ### Texts in bodies -/

namespace LedgerTool

/-- The parameters of a tool whose texts are kept on the ledger. -/
def contents : LedgerTool → List String
  | .submitTopicMessage => ["message"]
  | .createTopic => ["name"]
  | .mintNft => ["tokenMetadata"]
  | .createFungibleToken | .createNonFungibleToken => ["name", "symbol", "memo", "tokenMetadata"]
  | _ => []

/-- The tools that create tokens. -/
def createsToken : LedgerTool → Bool
  | .createFungibleToken | .createNonFungibleToken => true
  | _ => false

end LedgerTool

/-- In the place that a tool has for the text of a parameter a body has just this text, or none;
the body is one that the tool makes. -/
inductive Body.Holds : LedgerTool → String → Option String → Body → Prop where
  | message (topic : TopicId) (text : String) :
      Holds .submitTopicMessage "message" (some text) (.topicMessageSubmit topic text)
  | topicMemo (text : String) (adminKey submitKey : Option PublicKey) :
      Holds .createTopic "name" (some text) (.topicCreate (some text) adminKey submitKey)
  | nftMetadata (token : TokenId) (text : String) :
      Holds .mintNft "tokenMetadata" (some text) (.tokenMint token 0 [text])
  | tokenName {tool : LedgerTool} (creates : tool.createsToken = true) (c : TokenCreation) :
      Holds tool "name" (some c.name) (.tokenCreate c)
  | tokenSymbol {tool : LedgerTool} (creates : tool.createsToken = true) (c : TokenCreation) :
      Holds tool "symbol" (some c.symbol) (.tokenCreate c)
  | tokenMemo {tool : LedgerTool} (creates : tool.createsToken = true) (c : TokenCreation) :
      Holds tool "memo" c.memo (.tokenCreate c)
  | tokenMetadata {tool : LedgerTool} (creates : tool.createsToken = true) (c : TokenCreation) :
      Holds tool "tokenMetadata" c.metadata (.tokenCreate c)

/-- The texts among the options for a token are given by an input. -/
structure TokenOptions.GivenBy (input : String) (o : TokenOptions) : Prop where
  name : Gives input "name" (some o.name)
  symbol : Gives input "symbol" (some o.symbol)
  memo : Gives input "memo" o.memo
  metadata : Gives input "tokenMetadata" o.metadata

namespace LedgerTool

variable {tool : LedgerTool} {kit : Kit} {mode : Option Bool} {input : String} {outside : Outside}
  {wire : Wire} {journal : Journal} {prepare : Lookup Action} {action : Action} {actor : Actor}
  {i : Instruction}

/-- A body has what an input gives in all places that a tool has for texts. -/
def Keeps (tool : LedgerTool) (input : String) (body : Body) : Prop :=
  ∀ key ∈ tool.contents, ∃ text, Gives input key text ∧ Body.Holds tool key text body

theorem keeps_submitTopicMessage
    (asked : LedgerTool.submitTopicMessage.request kit input = .ok (.change prepare))
    (settled : (prepare.run outside wire).1 = .ok action)
    (made : action.instruction actor = .ok i) :
    LedgerTool.submitTopicMessage.Keeps input i.body := by
  obtain ⟨⟨topic, message⟩, read, asking⟩ := bind_eq_ok.1 asked
  obtain ⟨members, counted, -, text⟩ := Parameters.read_pair_eq_ok_iff.1 read
  cases asking
  cases settled
  cases made
  exact List.forall_mem_singleton.2
    ⟨some message, Parameters.gives_of_required counted text, .message topic message⟩

theorem keeps_createTopic
    (asked : LedgerTool.createTopic.request kit input = .ok (.change prepare))
    (settled : (prepare.run outside wire).1 = .ok action)
    (made : action.instruction actor = .ok i) : LedgerTool.createTopic.Keeps input i.body := by
  obtain ⟨⟨name, hasSubmitKey⟩, read, asking⟩ := bind_eq_ok.1 asked
  obtain ⟨members, counted, text, -⟩ := Parameters.read_pair_eq_ok_iff.1 read
  cases asking
  cases settled
  cases made
  exact List.forall_mem_singleton.2
    ⟨some name, Parameters.gives_of_required counted text, .topicMemo name _ _⟩

theorem keeps_mintNft (asked : LedgerTool.mintNft.request kit input = .ok (.change prepare))
    (settled : (prepare.run outside wire).1 = .ok action)
    (made : action.instruction actor = .ok i) : LedgerTool.mintNft.Keeps input i.body := by
  obtain ⟨⟨token, metadata⟩, read, asking⟩ := bind_eq_ok.1 asked
  obtain ⟨members, counted, -, text⟩ := Parameters.read_pair_eq_ok_iff.1 read
  cases asking
  cases settled
  cases made
  exact List.forall_mem_singleton.2
    ⟨some metadata, Parameters.gives_of_required counted text, .nftMetadata token metadata⟩

/-- The options for a token that are read have the texts that the input gives. -/
theorem givenBy_of_tokenParameters {options : TokenOptions}
    (read : tokenParameters input = .ok options) : options.GivenBy input := by
  obtain ⟨⟨options', decimals⟩, read, checked⟩ := bind_eq_ok.1 read
  obtain ⟨members, counted, taken⟩ := Parameters.read_eq_ok_iff.1 read
  obtain ⟨_, _, upToMemo, metadata, same⟩ := Fields.seq_eq_ok.1 taken
  obtain ⟨_, _, upToAdminKey, memo, rfl⟩ := Fields.seq_eq_ok.1 upToMemo
  obtain ⟨_, _, upToMetadataKey, -, rfl⟩ := Fields.seq_eq_ok.1 upToAdminKey
  obtain ⟨_, _, upToSupplyKey, -, rfl⟩ := Fields.seq_eq_ok.1 upToMetadataKey
  obtain ⟨_, _, upToMaxSupply, -, rfl⟩ := Fields.seq_eq_ok.1 upToSupplyKey
  obtain ⟨_, _, upToInitialSupply, -, rfl⟩ := Fields.seq_eq_ok.1 upToMaxSupply
  obtain ⟨_, _, upToDecimals, -, rfl⟩ := Fields.seq_eq_ok.1 upToInitialSupply
  obtain ⟨_, _, upToSymbol, -, rfl⟩ := Fields.seq_eq_ok.1 upToDecimals
  obtain ⟨_, _, upToName, symbol, rfl⟩ := Fields.seq_eq_ok.1 upToSymbol
  obtain ⟨_, name, rfl⟩ := Fields.map_run_eq_ok.1 upToName
  cases same
  dsimp only at checked
  split at checked
  · cases checked
  · cases checked
    constructor
    · exact Parameters.gives_of_required counted name
    · exact Parameters.gives_of_required counted symbol
    · exact Parameters.gives_of_optional counted memo
    · exact Parameters.gives_of_optional counted metadata

/-- All tools that create tokens have the same contents. -/
theorem contents_of_createsToken (creates : tool.createsToken = true) :
    tool.contents = ["name", "symbol", "memo", "tokenMetadata"] := by
  cases tool with
  | createFungibleToken | createNonFungibleToken => rfl
  | _ => cases creates

/-- The token that options describe has the texts that the input gives. -/
theorem keeps_of_givenBy (creates : tool.createsToken = true) {o : TokenOptions}
    (given : o.GivenBy input) (key : PublicKey) (treasury : AccountId) :
    tool.Keeps input (.tokenCreate (o.creation key treasury)) := by
  rw [Keeps, contents_of_createsToken creates]
  simp only [List.forall_mem_cons, List.not_mem_nil, IsEmpty.forall_iff, implies_true, and_true]
  refine ⟨?_, ?_, ?_, ?_⟩
  · exact ⟨some o.name, given.name, .tokenName creates (o.creation key treasury)⟩
  · exact ⟨some o.symbol, given.symbol, .tokenSymbol creates (o.creation key treasury)⟩
  · refine ⟨o.memo, given.memo, ?_⟩
    rw [← given.memo.nonEmpty]
    exact .tokenMemo creates (o.creation key treasury)
  · refine ⟨o.metadata, given.metadata, ?_⟩
    rw [← given.metadata.nonEmpty]
    exact .tokenMetadata creates (o.creation key treasury)

theorem keeps_createFungibleToken
    (asked : LedgerTool.createFungibleToken.request kit input = .ok (.change prepare))
    (settled : (prepare.run outside wire).1 = .ok action)
    (made : action.instruction actor = .ok i) :
    LedgerTool.createFungibleToken.Keeps input i.body := by
  obtain ⟨options, read, asking⟩ := bind_eq_ok.1 asked
  cases asking
  cases settled
  cases made
  have ⟨name, symbol, memo, metadata⟩ := givenBy_of_tokenParameters read
  -- the most supply is dropped and the type is set, but no text is touched
  have given : TokenOptions.GivenBy input
      (TokenOptions.fungible { options with maxSupply := none }) :=
    ⟨name, symbol, memo, metadata⟩
  exact @keeps_of_givenBy .createFungibleToken _ rfl _ given _ _

theorem keeps_createNonFungibleToken
    (asked : LedgerTool.createNonFungibleToken.request kit input = .ok (.change prepare))
    (settled : (prepare.run outside wire).1 = .ok action)
    (made : action.instruction actor = .ok i) :
    LedgerTool.createNonFungibleToken.Keeps input i.body := by
  obtain ⟨options, read, asking⟩ := bind_eq_ok.1 asked
  cases asking
  cases settled
  cases made
  have ⟨name, symbol, memo, metadata⟩ := givenBy_of_tokenParameters read
  have given : TokenOptions.GivenBy input options.nonFungible := ⟨name, symbol, memo, metadata⟩
  exact @keeps_of_givenBy .createNonFungibleToken _ rfl _ given _ _

/-- A tool that keeps texts makes a change, however its input reads. -/
theorem changing_of_contents {key : String} (content : key ∈ tool.contents)
    (question : Lookup Json) : tool.request kit input ≠ .ok (.question question) := by
  intro asked
  cases tool with
  | submitTopicMessage | createTopic | mintNft | createFungibleToken | createNonFungibleToken =>
      obtain ⟨_, -, asking⟩ := bind_eq_ok.1 asked
      cases asking
  | _ => cases content

/-- What a tool's call produces has the texts that its input gives. -/
theorem holds_of_produces {key : String} (content : key ∈ tool.contents)
    (clock : ∀ reading, (outside.clock reading).WithinSecond) {t : Transaction}
    (produced : tool.Produces kit mode input outside journal t) :
    ∃ text, Gives input key text ∧ Body.Holds tool key text t.body := by
  obtain ⟨prepare, action, actor, i, asked, settled, -, made, body⟩ :=
    exists_of_produces (changing_of_contents content) clock produced
  have keeps : tool.Keeps input i.body := by
    cases tool with
    | submitTopicMessage => exact keeps_submitTopicMessage asked settled made
    | createTopic => exact keeps_createTopic asked settled made
    | mintNft => exact keeps_mintNft asked settled made
    | createFungibleToken => exact keeps_createFungibleToken asked settled made
    | createNonFungibleToken => exact keeps_createNonFungibleToken asked settled made
    | _ => cases content
  rw [body]
  exact keeps key content

/-! ### Messages in any spelling -/

/-- The text of a message to a topic, the message being spelled in some way. -/
def messageText (cs : List Char) : List Char :=
  '\x7b' :: ("\"message\":\"".toList ++ cs ++ "\",\"topicId\":\"0.0.77\"".toList) ++ ['\x7d']

def messageMembers (s : String) : List (String × Source) :=
  [("message", .string s), ("topicId", .string "0.0.77")]

/-- The text is an object with its message and its topic. -/
theorem element_messageText {cs : List Char} {s : String} (spelled : Json.Spelling cs s.toList) :
    ElementText (messageText cs) (.object (messageMembers s)) := by
  have message : Json.ValueText ('"' :: cs ++ ['"']) (.string s) := .string spelled
  have topic : Json.ValueText ('"' :: "0.0.77".toList ++ ['"']) (.string "0.0.77") := by
    apply Json.ValueText.string
    exact .self rfl
  have pair := ElementText.pair (.self rfl : Json.Spelling "message".toList "message".toList)
    message (.self rfl : Json.Spelling "topicId".toList "topicId".toList) topic
  simpa [messageText, messageMembers] using pair

theorem written_messageText {cs : List Char} {s : String} (spelled : Json.Spelling cs s.toList) :
    ElementText (Text.trimmed (String.ofList (messageText cs)).toList)
      (.object (messageMembers s)) := by
  have solid : Text.trimmed (messageText cs) = messageText cs :=
    Text.trimmed_of_solid_ends _ (by decide) (by decide)
  rw [String.toList_ofList, solid]
  exact element_messageText spelled

/-- The members are parsed of the text, whatever spelling the message has. -/
theorem parse_messageText {cs : List Char} {s : String} (spelled : Json.Spelling cs s.toList) :
    Json.parse (Text.trim (String.ofList (messageText cs))) =
      .ok (.object [("message", .string s), ("topicId", .string "0.0.77")]) := by
  have element : ElementText (Text.trim (String.ofList (messageText cs))).toList
      (.object (messageMembers s)) := by
    rw [Text.trim, String.toList_ofList]
    exact written_messageText spelled
  rw [Json.parse_eq_ok_iff, Json.read_element element, Json.Reading.toJson_eq_ok_iff]
  exact ⟨⟨rfl, rfl⟩, rfl⟩

/-- A message is submitted, or handed out, however it is spelled, unless it is empty. -/
theorem produces_messageText {cs : List Char} {s : String} (spelled : Json.Spelling cs s.toList)
    (filled : s ≠ "") (acting : kit.actor? none = some actor) (nodes : kit.client.nodes ≠ []) :
    ∃ t, LedgerTool.submitTopicMessage.Produces kit none
      (String.ofList (messageText cs)) Kit.cutOff .empty t := by
  have kept : ∀ m ∈ [("message", Json.string s), ("topicId", .string "0.0.77")],
      Parameters.isGiven m.2 = true := by
    simpa [Parameters.isGiven] using filled
  have taken : Parameters.read ["topicId", "message"]
      (Prod.mk <$> topicField <*> .required 1 "message" Json.decodeString)
      (String.ofList (messageText cs)) = .ok ((⟨0, 0, 77⟩ : TopicId), s) := by
    rw [Parameters.read, Parameters.readWith, Parameters.given_of_parse (parse_messageText spelled),
      List.filter_eq_self.2 kept]
    rfl
  have asked : LedgerTool.submitTopicMessage.request kit
      (String.ofList (messageText cs)) = .ok (.ofAction (.submitTopicMessage ⟨0, 0, 77⟩ s)) :=
    bind_eq_ok.2 ⟨_, taken, rfl⟩
  obtain ⟨t, produced, -⟩ := @produces_of_settled _ kit none _ Kit.cutOff .empty _ _
    _ _ asked rfl acting rfl nodes Kit.withinSecond_cutOff
  exact ⟨t, produced⟩

/-! ### Texts that are written -/

/-- Wherever a tool keeps a text on the ledger, what it produces, submitted or decoded from the
bytes in the answer, has exactly the text that is written last under the parameter's key, in
whatever spelling; a text that is empty or missing, or `null`, is not there, and where there has
to be one nothing is produced without. -/
theorem holds_written (tool : LedgerTool) (kit : Kit) (mode : Option Bool) (input : String)
    (outside : Outside) (journal : Journal) {members : List (String × Source)} {key : String}
    (content : key ∈ tool.contents)
    (written : ElementText (Text.trimmed input.toList) (.object members))
    (clock : ∀ reading, (outside.clock reading).WithinSecond) {t : Transaction}
    (produced : tool.Produces kit mode input outside journal t) :
    (∀ s, s ≠ "" → members.reverse.lookup key = some (.string s) →
      Body.Holds tool key (some s) t.body) ∧
    (members.reverse.lookup key ∈ [some (.string ""), some .null, none] →
      Body.Holds tool key none t.body) := by
  obtain ⟨text, gives, holds⟩ := holds_of_produces content clock produced
  have same := gives.eq_of_written written
  constructor
  · intro s filled stands
    rw [stands, Parameters.written?, if_neg filled] at same
    rwa [same] at holds
  · intro stands
    have nothing : text = none := by
      simp only [List.mem_cons, List.not_mem_nil, or_false] at stands
      rw [same]
      rcases stands with empty | null | missing
      · rw [empty]
        rfl
      · rw [null]
        rfl
      · rw [missing]
        rfl
    rwa [nothing] at holds

/-- A blank, an escaped line break, an escaped letter and an escaped pair of surrogates. -/
def escapes : List Char :=
  " \\n\\u00e9\\ud83d\\uDE00".toList

theorem spelling_escapes : Json.Spelling escapes " \né😀".toList := by
  have letter : Json.Hex4 '0' '0' 'e' '9' 0xe9 := ⟨0, 0, 14, 9, rfl, rfl, rfl, rfl, rfl⟩
  have leading : Json.Hex4 'd' '8' '3' 'd' 0xd83d := ⟨13, 8, 3, 13, rfl, rfl, rfl, rfl, rfl⟩
  have trailing : Json.Hex4 'D' 'E' '0' '0' 0xde00 := ⟨13, 14, 0, 0, rfl, rfl, rfl, rfl, rfl⟩
  apply Json.Spelling.plain (by decide) (by decide) (by decide)
  apply Json.Spelling.letter rfl
  apply Json.Spelling.code letter (by decide)
  apply Json.Spelling.pair leading trailing (by decide) (by decide)
  exact .nil

theorem holds_written_escapes :
    Kit.unoperated.actor? none = some Kit.unoperated.user ∧
      Kit.operated.actor? none = some Kit.operator ∧
      ∀ kit ∈ [Kit.unoperated, Kit.operated],
        ∃ t, LedgerTool.submitTopicMessage.Produces kit none
            (String.ofList (messageText escapes)) Kit.cutOff .empty t ∧
          Body.Holds .submitTopicMessage "message" (some " \né😀") t.body := by
  have held (kit : Kit) {actor : Actor} (acting : kit.actor? none = some actor)
      (nodes : kit.client.nodes ≠ []) :
      ∃ t, LedgerTool.submitTopicMessage.Produces kit none
          (String.ofList (messageText escapes)) Kit.cutOff .empty t ∧
        Body.Holds .submitTopicMessage "message" (some " \né😀") t.body := by
    obtain ⟨t, produced⟩ := produces_messageText spelling_escapes (by decide) acting nodes
    obtain ⟨held, -⟩ := holds_written .submitTopicMessage kit none _ Kit.cutOff .empty
      (List.mem_singleton_self _) (written_messageText spelling_escapes) Kit.withinSecond_cutOff
      produced
    exact ⟨t, produced, held _ (by decide) rfl⟩
  refine ⟨rfl, Kit.actor?_operated, List.forall_mem_cons.2 ⟨?_, List.forall_mem_singleton.2 ?_⟩⟩
  · exact held Kit.unoperated rfl (by decide)
  · exact held Kit.operated Kit.actor?_operated (by decide)

end LedgerTool

end LedgerAgent
