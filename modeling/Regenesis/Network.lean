import Regenesis.Failure
import Regenesis.Address

/-!
# Network — what differs between the chains

A network's configuration gives the token, the chain's name, the label of addresses, the address
that holds the reserve for legacy balances, and the numbers of the consensus rules. Three networks
are known by name; `mainnet` is meant where none is named.
-/

namespace Regenesis

/-- The hex text of the address that holds the reserve unless a network names another. -/
def legacyReserveAddress : String :=
  Hex.encode (Address.ofPublicKey (Octets.ofText "legacyReserve"))

/-- The configuration of a network. -/
structure Network where
  networkId : String
  /-- The hex text of the token's id. -/
  tokenId : String
  chainName : String
  /-- The label of addresses. -/
  addressLabel : String := "lsk"
  /-- The hex text of the reserve's address. -/
  reserveAddress : String := legacyReserveAddress
  /-- The number of blocks of a round. -/
  roundLength : Int := 103
  /-- The greatest number of initial validators. -/
  maxInitValidators : Int := 101
  /-- The number of rounds for which the initial validators stay. -/
  initRounds : Int := 60480
  /-- The seconds from the snapshot block to the genesis block. -/
  genesisDelay : Int := 7200
  /-- The version that the genesis block states. -/
  genesisVersion : Int := 0
deriving DecidableEq, Repr

namespace Network

/-- The chain's id: the first four bytes of the token's id. -/
def chainId (n : Network) : String := String.ofList (n.tokenId.toList.take 8)

/-- The production network. -/
def mainnet : Network :=
  { networkId := "mainnet", tokenId := "0000000000000000", chainName := "lisk_mainchain" }

/-- The test network. -/
def testnet : Network := { mainnet with networkId := "testnet", tokenId := "0100000000000000" }

/-- The development network, whose genesis block follows without delay. -/
def devnet : Network :=
  { mainnet with networkId := "devnet", tokenId := "0400000000000000", genesisDelay := 0 }

/-- The known networks. -/
def known : List Network := [mainnet, testnet, devnet]

/-- The network of a name. -/
def named (name : String) : Except Failure Network :=
  match known.find? (·.networkId == name) with
  | some n => .ok n
  | none => .error (.unknownNetwork name)

end Network

end Regenesis
