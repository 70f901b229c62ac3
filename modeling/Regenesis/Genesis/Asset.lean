import Regenesis.Digest.Merkle
import Regenesis.Digest.Sha256
import Regenesis.Json.Descriptor
import Regenesis.Json.Writer
import Regenesis.Text.Collation

/-!
# Genesis.Asset — what a module brings into the genesis block

Every module of the new chain starts from one asset: the name of the module and its data. For
inspection an asset also carries the JSON schema of its data. The asset root commits to a list of
assets: it is the Merkle root over the digests of the canonical texts of name and data.
-/

namespace Regenesis.Genesis

/-- The asset of a module. -/
structure Asset where
  name : String
  data : Json
  schema : Json := .obj []

namespace Asset

/-- Name and data, which is what the genesis block commits to. -/
def body (a : Asset) : Json := .obj [("module", .str a.name), ("data", a.data)]

/-- The asset as it is written out for inspection. -/
def toJson (a : Asset) : Json :=
  .obj [("module", .str a.name), ("data", a.data), ("schema", a.schema)]

/-- The byte string by which the asset is hashed. -/
def preimage (a : Asset) : Octets := Octets.ofText (Json.canonicalText a.body)

end Asset

/-- The Merkle root over the digests of assets. -/
def assetRoot (hash : Octets → Octets) (assets : List Asset) : Octets :=
  Digest.merkleRoot hash (assets.map fun a => hash a.preimage)

/-- Assets in the alphabetical order of their names; assets of one name keep their order. -/
def sortAssets (assets : List Asset) : List Asset :=
  assets.mergeSort fun a b => Text.keyLe (Text.collationKey a.name) (Text.collationKey b.name)

/-- A list of texts as a JSON value. -/
def textsJson (texts : List String) : Json := .arr (texts.map Json.str)

end Regenesis.Genesis
