import Regenesis.Genesis.Asset
import Regenesis.Network
import Regenesis.Record.Block

/-!
# Genesis.Block — the first block of the new chain

The genesis block follows the block of the snapshot. Its header states the snapshot's block, the
root of the assets and the root of no transactions, and its id is the digest of the canonical text
of the header. So the id commits to everything in the block. The digest is a parameter here as
well.
-/

namespace Regenesis.Genesis

open Record

/-- The header of a genesis block. Nobody generates or signs it. -/
structure Header where
  version : Int
  timestamp : Int
  height : Int
  previousBlockId : Octets
  generatorAddress : String := ""
  transactionRoot : Octets
  assetRoot : Octets
  signature : String := ""
deriving DecidableEq, Repr

namespace Header

/-- The members in the order of the shape `GenesisBlockHeader`. -/
def toJson (h : Header) : Json := .obj [
  ("version", .int h.version),
  ("timestamp", .int h.timestamp),
  ("height", .int h.height),
  ("previousBlockID", hexJson h.previousBlockId),
  ("generatorAddress", .str h.generatorAddress),
  ("transactionRoot", hexJson h.transactionRoot),
  ("assetRoot", hexJson h.assetRoot),
  ("signature", .str h.signature)]

/-- The byte string by which the header is hashed. -/
def preimage (h : Header) : Octets := Octets.ofText (Json.canonicalText h.toJson)

/-- Whether the numbers of a header can be written. -/
def isWritable (h : Header) : Bool := h.toJson.allNumbers Decimal.fits fun _ => true

end Header

/-- A genesis block. It has no transactions. -/
structure Block where
  id : Octets
  header : Header
  assets : List Asset

namespace Block

/-- The members in the order of the shape `GenesisBlock`; the assets without their schemas. -/
def toJson (b : Block) : Json := .obj [
  ("id", hexJson b.id),
  ("header", b.header.toJson),
  ("assets", .arr (b.assets.map Asset.body)),
  ("transactions", .arr [])]

/-- The greatest depth of a value in the data of an asset. -/
def maxDepth : Nat := 255

/-- The members, unless the data of an asset are nested too deep. -/
def present (b : Block) : Except Failure Json :=
  if b.assets.all fun a => Json.depth a.data ≤ maxDepth + 1 then .ok b.toJson
  else .error (.value .tooDeep)

/-- The text of the file that holds a block. -/
def fileText (b : Block) : String := b.toJson.indented

end Block

/-- The text of the file that holds assets with their schemas. -/
def assetsFileText (assets : List Asset) : String :=
  (Json.obj [("assets", .arr (assets.map Asset.toJson))]).indented

/-- The header that follows a block. -/
def headerAfter (hash : Octets → Octets) (assets : List Asset) (snapshotBlock : BlockHeader)
    (n : Network) : Header where
  version := n.genesisVersion
  timestamp := snapshotBlock.timestamp + n.genesisDelay
  height := snapshotBlock.height + 1
  previousBlockId := snapshotBlock.id
  transactionRoot := hash []
  assetRoot := assetRoot hash assets

/-- The genesis block that follows a block. -/
def blockAfter (hash : Octets → Octets) (assets : List Asset) (snapshotBlock : BlockHeader)
    (n : Network) : Except Failure Block :=
  let header := headerAfter hash assets snapshotBlock n
  if header.isWritable then .ok ⟨hash header.preimage, header, assets⟩
  else .error (.value (.integer .tooLarge))

/-- The shape of a genesis block. -/
def blockDescriptor : Json.Descriptor where
  root := ⟨"GenesisBlock", [
    { name := "id", kind := .text },
    { name := "header", kind := .shape "GenesisBlockHeader" },
    { name := "assets", kind := .list (.shape "GenesisBlockAsset") },
    { name := "transactions", kind := .list .openObject, required := false }]⟩
  definitions := [
    ⟨"GenesisBlockAsset", [
      { name := "module", kind := .text },
      { name := "data", kind := .openObject }]⟩,
    ⟨"GenesisBlockHeader", [
      { name := "version", kind := .integer },
      { name := "timestamp", kind := .integer },
      { name := "height", kind := .integer },
      { name := "previousBlockID", kind := .text },
      { name := "generatorAddress", kind := .text, required := false, default := some "" },
      { name := "transactionRoot", kind := .text },
      { name := "assetRoot", kind := .text },
      { name := "signature", kind := .text, required := false, default := some "" }]⟩]

end Regenesis.Genesis
