/-
Module: LedgerAgent.Tool.Description
Purpose: The ledger's tools: their names, and what a language model is told of them.
Main exports: LedgerTool, LedgerTool.all, LedgerTool.name, LedgerTool.description
-/

namespace LedgerAgent

/-- A tool over the ledger. -/
inductive LedgerTool where
  | createTopic
  | deleteTopic
  | submitTopicMessage
  | topicInfo
  | topicMessages
  | hbarBalance
  | transferHbar
  | createFungibleToken
  | createNonFungibleToken
  | mintToken
  | mintNft
  | transferToken
  | associateToken
  | dissociateToken
  | airdropToken
  | claimAirdrop
  | rejectToken
  | tokenBalance
  | allTokenBalances
  | tokenHolders
  | pendingAirdrops
  | approveAllowance
deriving Repr, Inhabited, DecidableEq

namespace LedgerTool

def all : List LedgerTool :=
  [.createTopic, .deleteTopic, .submitTopicMessage, .topicInfo, .topicMessages, .hbarBalance,
    .transferHbar, .createFungibleToken, .createNonFungibleToken, .mintToken, .mintNft,
    .transferToken, .associateToken, .dissociateToken, .airdropToken, .claimAirdrop,
    .rejectToken, .tokenBalance, .allTokenBalances, .tokenHolders, .pendingAirdrops,
    .approveAllowance]

def name : LedgerTool → String
  | .createTopic => "hedera_create_topic"
  | .deleteTopic => "hedera_delete_topic"
  | .submitTopicMessage => "hedera_submit_topic_message"
  | .topicInfo => "hedera_get_topic_info"
  | .topicMessages => "hedera_get_topic_messages"
  | .hbarBalance => "hedera_get_hbar_balance"
  | .transferHbar => "hedera_transfer_native_hbar_token"
  | .createFungibleToken => "hedera_create_fungible_token"
  | .createNonFungibleToken => "hedera_create_non_fungible_token"
  | .mintToken => "hedera_mint_fungible_token"
  | .mintNft => "hedera_mint_nft"
  | .transferToken => "hedera_transfer_token"
  | .associateToken => "hedera_associate_token"
  | .dissociateToken => "hedera_dissociate_token"
  | .airdropToken => "hedera_airdrop_token"
  | .claimAirdrop => "hedera_claim_airdrop"
  | .rejectToken => "hedera_reject_token"
  | .tokenBalance => "hedera_get_hts_balance"
  | .allTokenBalances => "hedera_get_all_token_balances"
  | .tokenHolders => "hedera_get_token_holders"
  | .pendingAirdrops => "hedera_get_pending_airdrop"
  | .approveAllowance => "hedera_approve_asset_allowance"

/-- Lines of text, each of them ended. -/
def lines (ls : List String) : String :=
  String.join (ls.map (· ++ "\n"))

/-- What the tool does and takes. -/
def description : LedgerTool → String
  | .createTopic => lines
    ["Create a topic on Hedera",
      "Inputs (input is a JSON string):",
      "name: string, the name of the topic e.g. My Topic,",
      "isSubmitKey: boolean, decides whether submit key should be set, false if not passed",
      "Example usage:",
      "1. Create a topic with memo \"My Topic\":",
      "  '\x7b\"name\": \"My Topic\", \"isSubmitKey\": false\x7d'",
      "2. Create a topic with memo \"My Topic\". Restrict posting with a key:",
      "  '\x7b\"name\": \"My Topic\", \"isSubmitKey\": true\x7d'"]
  | .deleteTopic => lines
    ["Delete a topic on Hedera",
      "Inputs (input is a JSON string):",
      "topicId: string, the ID of the topic to delete e.g. 0.0.123456,",
      "Example usage:",
      "1. Delete topic 0.0.123456:",
      "  '\x7b\"topicId\": \"0.0.123456\"\x7d'"]
  | .submitTopicMessage => lines
    ["Submit a message to a topic on Hedera",
      "Inputs (input is a JSON string):",
      "topicId: string, the ID of the topic to submit the message to e.g. 0.0.123456,",
      "message: string, the message to submit to the topic e.g. \"Hello, Hedera!\"",
      "Example usage:",
      "1. Submit a message to topic 0.0.123456:",
      "  '\x7b\"topicId\": \"0.0.123456\", \"message\": \"Hello, Hedera!\"\x7d'"]
  | .topicInfo => lines
    ["Get information about a topic on Hedera",
      "Inputs (input is a JSON string):",
      "topicId: string, the ID of the topic to get the information for e.g. 0.0.123456,",
      "Example usage:",
      "1. Get information about topic 0.0.123456:",
      "  '\x7b\"topicId\": \"0.0.123456\"\x7d'"]
  | .topicMessages => lines
    ["Get messages from a topic on Hedera within an optional time range.",
      "Inputs (input is a JSON string):",
      "- topicId: string, the ID of the topic to get the messages from e.g. \"0.0.123456\"",
      "- lowerThreshold: string (optional), ISO date string for the start of the time range e.g. \"2025-01-02T00:00:00.000Z\"",
      "- upperThreshold: string (optional), ISO date string for the end of the time range e.g. \"2025-01-20T12:50:30.123Z\"",
      "Example usage:",
      "1. Get all messages from topic 0.0.123456:",
      "  '\x7b\"topicId\": \"0.0.123456\"\x7d'",
      "2. Get messages from topic after January 2, 2025:",
      "  '\x7b\"topicId\": \"0.0.123456\", \"lowerThreshold\": \"2025-01-02T00:00:00.000Z\"\x7d'",
      "3. Get messages between two dates:",
      "  '\x7b\"topicId\": \"0.0.123456\", \"lowerThreshold\": \"2024-03-05T13:40:00.000Z\", \"upperThreshold\": \"2025-01-20T12:50:30.123Z\"\x7d'"]
  | .hbarBalance => lines
    ["Retrieves the HBAR balance of a specified Hedera account.",
      "If an account ID is provided, it returns the balance of that account.",
      "If no input is given (empty JSON '\x7b\x7d'), it returns the balance of the connected account.",
      "Inputs (optional, input is a JSON string):",
      "- accountId (string, optional): The Hedera account ID to check the balance for (e.g., \"0.0.789012\").",
      "Example usage:",
      "1. Get balance of a specific account:",
      "   '\x7b\"accountId\": \"0.0.123456\"\x7d'",
      "2. Get balance of the connected account:",
      "   '\x7b\x7d'"]
  | .transferHbar => lines
    ["Transfer HBAR to an account on Hedera",
      "Inputs (input is a JSON string):",
      "toAccountId: string, the account ID to transfer to e.g. 0.0.789012,",
      "amount: number, the amount of HBAR to transfer e.g. 100,",
      "Example usage:",
      "1. Transfer 100 HBAR to account 0.0.789012:",
      "  '\x7b\"toAccountId\": \"0.0.789012\", \"amount\": 100\x7d'"]
  | .createFungibleToken => lines
    ["Create a fungible token on Hedera",
      "Inputs (input is a JSON string):",
      "name: string, the name of the token e.g. My Token,",
      "symbol: string, the symbol of the token e.g. MT,",
      "decimals: number, the amount of decimals of the token, 0 if not passed",
      "initialSupply: number, optional, the initial supply of the token, given in base unit, 0 if not passed",
      "isSupplyKey: boolean, decides whether supply key should be set, false if not passed",
      "isMetadataKey: boolean, decides whether metadata key should be set, false if not passed",
      "isAdminKey: boolean, decides whether admin key should be set, false if not passed",
      "memo: string, containing memo associated with this token, empty string if not passed",
      "tokenMetadata: string, containing metadata associated with this token, empty string if not passed",
      "Example usage:",
      "1. Create a token with 2 decimals and 1000.00 initial supply:",
      "  '\x7b\"name\": \"My Token\", \"symbol\": \"MT\", \"decimals\": 2, \"initialSupply\": 100000\x7d'"]
  | .createNonFungibleToken => lines
    ["Create a non-fungible (NFT) token on Hedera.",
      "Inputs (input is a JSON string):",
      "- name: string (e.g. \"My Token\")",
      "- symbol: string (e.g. \"MT\")",
      "- maxSupply: number (optional), the maximum supply of the token. The supply is infinite if not provided.",
      "- isMetadataKey: boolean, determines whether a metadata key should be set. Defaults to `false` if not provided.",
      "- isAdminKey: boolean, determines whether an admin key should be set. Defaults to `false` if not provided.",
      "- memo: string, containing a memo associated with the token. Defaults to an empty string if not provided.",
      "- tokenMetadata: string, containing metadata associated with the token. Defaults to an empty string if not provided.",
      "Example usage:",
      "1. Create a collection of at most 500 NFTs:",
      "  '\x7b\"name\": \"My Collection\", \"symbol\": \"MC\", \"maxSupply\": 500\x7d'"]
  | .mintToken => lines
    ["Mint fungible tokens to an account on Hedera",
      "Inputs (input is a JSON string):",
      "tokenId: string, the ID of the token to mint e.g. 0.0.123456,",
      "amount: number, the amount of tokens to mint in base unit e.g. 100,",
      "Example usage:",
      "1. Mint 100 base units of token 0.0.123456:",
      "  '\x7b\"tokenId\": \"0.0.123456\", \"amount\": 100\x7d'"]
  | .mintNft => lines
    ["Mint an NFT to an account on Hedera",
      "Inputs (input is a JSON string):",
      "tokenId: string, the ID of the token to mint e.g. 0.0.123456,",
      "tokenMetadata: string, the metadata of the NFT e.g. \"My NFT\",",
      "Example usage:",
      "1. Mint an NFT with metadata \"My NFT\" to token 0.0.123456:",
      "  '\x7b\"tokenId\": \"0.0.123456\", \"tokenMetadata\": \"My NFT\"\x7d'"]
  | .transferToken => lines
    ["Transfer fungible tokens on Hedera",
      "Inputs (input is a JSON string):",
      "tokenId: string, the ID of the token to transfer e.g. 0.0.123456,",
      "toAccountId: string, the account ID to transfer to e.g. 0.0.789012,",
      "amount: number, the amount of tokens to transfer in display unit e.g. 12.5",
      "Example usage:",
      "1. Transfer 12.5 of token 0.0.123456 to account 0.0.789012:",
      "  '\x7b\"tokenId\": \"0.0.123456\", \"toAccountId\": \"0.0.789012\", \"amount\": 12.5\x7d'"]
  | .associateToken => lines
    ["Associate a token to an account on Hedera",
      "Inputs (input is a JSON string):",
      "tokenId: string, the ID of the token to associate e.g. 0.0.123456,",
      "Example usage:",
      "1. Associate token 0.0.123456:",
      "  '\x7b\"tokenId\": \"0.0.123456\"\x7d'"]
  | .dissociateToken => lines
    ["Dissociate a token from an account on Hedera",
      "Inputs (input is a JSON string):",
      "tokenId: string, the ID of the token to dissociate e.g. 0.0.123456,",
      "Example usage:",
      "1. Dissociate token 0.0.123456:",
      "  '\x7b\"tokenId\": \"0.0.123456\"\x7d'"]
  | .airdropToken => lines
    ["Airdrop fungible tokens to multiple accounts on Hedera",
      "Inputs (input is a JSON string):",
      "tokenId: string, the ID of the token to airdrop e.g. 0.0.123456,",
      "recipients: array of objects containing:",
      "  - accountId: string, the account ID to send tokens to e.g. 0.0.789012",
      "  - amount: number, the amount of tokens to send in display unit e.g. 100",
      "Example usage:",
      "1. Airdrop 100 tokens to account 0.0.789012 and 200 tokens to account 0.0.789013:",
      "  '\x7b",
      "    \"tokenId\": \"0.0.123456\",",
      "    \"recipients\": [",
      "      \x7b\"accountId\": \"0.0.789012\", \"amount\": 100\x7d,",
      "      \x7b\"accountId\": \"0.0.789013\", \"amount\": 200\x7d",
      "    ]",
      "  \x7d'"]
  | .claimAirdrop => lines
    ["Claim an airdrop for a token on Hedera",
      "Inputs (input is a JSON string):",
      "tokenId: string, the ID of the token to claim the airdrop for e.g. 0.0.123456,",
      "senderAccountId: string, the account ID of the sender e.g. 0.0.789012,",
      "Example usage:",
      "1. Claim an airdrop for token 0.0.123456 from account 0.0.789012:",
      "  '\x7b\"tokenId\": \"0.0.123456\", \"senderAccountId\": \"0.0.789012\"\x7d'"]
  | .rejectToken => lines
    ["Reject a token from an account on Hedera",
      "Inputs (input is a JSON string):",
      "tokenId: string, the ID of the token to reject e.g. 0.0.123456,",
      "Example usage:",
      "1. Reject token 0.0.123456:",
      "  '\x7b\"tokenId\": \"0.0.123456\"\x7d'"]
  | .tokenBalance => lines
    ["Retrieves the balance of a specified Hedera Token Service (HTS) token for a given account in base unit.",
      "If an account ID is provided, it returns the balance of that account.",
      "If no account ID is given, it returns the balance for the connected account.",
      "Inputs (input is a JSON string):",
      "- tokenId (string, required): The ID of the token to check the balance for (e.g., \"0.0.112233\").",
      "- accountId (string, optional): The Hedera account ID to check the balance for (e.g., \"0.0.789012\").",
      "Example usage:",
      "1. Get balance of token 0.0.112233 for account 0.0.123456:",
      "   '\x7b\"accountId\": \"0.0.123456\", \"tokenId\": \"0.0.112233\"\x7d'",
      "2. Get balance of token 0.0.112233 for the connected account:",
      "   '\x7b\"tokenId\": \"0.0.112233\"\x7d'"]
  | .allTokenBalances => lines
    ["Get all token balances for an account on Hedera",
      "Inputs (input is a JSON string):",
      "- accountId (string, optional): The Hedera account ID to get the token balances for (e.g., \"0.0.789012\").",
      "  If omitted, the tool returns the balances of the connected account.",
      "Example usage:",
      "1. Get all token balances for account 0.0.789012:",
      "  '\x7b\"accountId\": \"0.0.789012\"\x7d'",
      "2. Get all token balances for the connected account:",
      "   '\x7b\x7d'"]
  | .tokenHolders => lines
    ["Get the holders of a token on Hedera",
      "Inputs (input is a JSON string):",
      "tokenId: string, the ID of the token to get the holders for e.g. 0.0.123456,",
      "threshold (optional): number, the minimum balance in display unit e.g. 100,",
      "Example usage:",
      "1. Get the holders of token 0.0.123456 with a threshold of 100:",
      "  '\x7b\"tokenId\": \"0.0.123456\", \"threshold\": 100\x7d'"]
  | .pendingAirdrops => lines
    ["Get the pending airdrops for the given account on Hedera",
      "Inputs (input is a JSON string):",
      "- accountId: string, optional, the account ID to get the pending airdrops for e.g. 0.0.789012,",
      "  the connected account if not passed",
      "Example usage:",
      "1. Get the pending airdrops for account 0.0.789012:",
      "  '\x7b\"accountId\": \"0.0.789012\"\x7d'"]
  | .approveAllowance => lines
    ["Approve an allowance of HBAR or fungible tokens for a spender on Hedera",
      "Inputs (input is a JSON string):",
      "spenderAccountId: string, the account ID allowed to spend e.g. 0.0.789012,",
      "amount: number, the allowance in display unit e.g. 12.5,",
      "tokenId: string, optional, the token to approve e.g. 0.0.123456, HBAR if not passed",
      "Example usage:",
      "1. Allow 0.0.789012 to spend 10 HBAR:",
      "  '\x7b\"spenderAccountId\": \"0.0.789012\", \"amount\": 10\x7d'",
      "2. Allow 0.0.789012 to spend 12.5 of token 0.0.123456:",
      "  '\x7b\"spenderAccountId\": \"0.0.789012\", \"amount\": 12.5, \"tokenId\": \"0.0.123456\"\x7d'"]

end LedgerTool

end LedgerAgent
