import Tollbooth.Chain.Address
import Tollbooth.Chain.Id
/-!
# Known networks and their default token

The table of networks that have a name, in the order in which they are listed, and for each of
them the token that is paid with when an offer names none.
-/

set_option autoImplicit false

namespace Tollbooth

namespace KnownNetwork

/-- The named networks. -/
def all : List KnownNetwork :=
  [("gatelayer_testnet", "10087"), ("base", "8453"), ("base-sepolia", "84532"), ("polygon", "137"),
    ("polygon-amoy", "80002"), ("avalanche", "43114"), ("avalanche-fuji", "43113")].map
    fun (name, reference) => ⟨name, ⟨"eip155", reference⟩⟩

/-- The chain of a name. -/
def chain? (name : String) : Option ChainId := (all.find? (·.name == name)).map (·.chain)

end KnownNetwork

namespace ChainId

/-- The name of a chain. -/
def name? (c : ChainId) : Option String := (KnownNetwork.all.find? (·.chain == c)).map (·.name)

/-- The chain that a text denotes: an identifier if it has a colon, else a name. -/
def resolve? (s : String) : Option ChainId :=
  if s.toList.contains ':' then parse? s else KnownNetwork.chain? s

end ChainId

/-- A token contract on a chain, with what its signing domain needs. -/
structure Token where
  chain : ChainNumber
  address : Address
  decimals : Nat
  /-- The name in the token's signing domain. -/
  domainName : String
  /-- The version in the token's signing domain. -/
  domainVersion : String

namespace Token

/-- The default tokens: chain, address and name. -/
def table : List (Nat × String × String) :=
  [(10087, "0x9be8Df37C788B244cFc28E46654aD5Ec28a880AF", "USDC"),
   (8453, "0x833589fCD6eDb6E08f4c7C32D4f71b54bdA02913", "USD Coin"),
   (84532, "0x036CbD53842c5426634e7929541eC2318f3dCF7e", "USDC"),
   (137, "0x3c499c542cEF5E3811e1192ce70d8cC03d5c3359", "USDC"),
   (80002, "0x41E94Eb019C0762f9Bfcf9Fb1E58725BfB0e7582", "USDC"),
   (43114, "0xB97EF9Ef8734C71904D8002F8b6Bc66Dd9c48a6E", "USD Coin"),
   (43113, "0x5425890298aed601595a70AB815c96711a31Bc65", "USD Coin")]

/-- The default token of a chain. -/
def default? (chain : ChainNumber) : Option Token := do
  let (_, address, name) ← table.find? (·.1 == chain.number)
  return ⟨chain, ← Address.parse? address, 6, name, "2"⟩

end Token

end Tollbooth
