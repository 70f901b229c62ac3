import Mathlib
import Regenesis.Proofs.Block.Commitment
import Regenesis.Proofs.Json.Indented

/-!
# Proofs.Block.File — the file of a block verifies itself

Who has nothing but the file of a genesis block can compute the id of the block from the header that
the file shows, and the asset root from the assets that it shows. The file is printed in one form
and hashed in another, and the reader has only what the parser makes of it. Together:
`file_verifies_itself`.
-/

namespace Regenesis.Genesis

open Record Digest

-- ---------------------------------------------------------------------------
-- What a reader computes
-- ---------------------------------------------------------------------------

section
variable (hash : Octets → Octets)

/-- The digest of the canonical text of a value. -/
def digestOf (v : Json) : Octets := hash (Octets.ofText (Json.canonicalText v))

/-- The id that belongs to the header which a block shows. -/
def recomputedId? (v : Json) : Option Json := do
  return hexJson (digestOf hash (← v.get? "header"))

/-- The digest that belongs to module and data of an entry. -/
def recomputedLeaf? (entry : Json) : Option Octets := do
  return digestOf hash (.obj [("module", ← entry.get? "module"), ("data", ← entry.get? "data")])

/-- The asset root that belongs to the entries which a block shows, in their order. -/
def recomputedRoot? (v : Json) : Option Json :=
  match v.get? "assets" with
  | some (.arr entries) => do
    return hexJson (merkleRoot hash (← entries.mapM (recomputedLeaf? hash)))
  | _ => none

/-- The asset root that a block states. -/
def statedRoot? (v : Json) : Option Json := do (← v.get? "header").get? "assetRoot"

/-- The leaf of an asset is computed again from its body. -/
theorem recomputedLeaf?_body (a : Asset) :
    recomputedLeaf? hash a.body = some (hash a.preimage) := rfl

/-- A block shows what its id is computed from. -/
theorem recomputedId?_toJson (b : Block) :
    recomputedId? hash b.toJson = some (hexJson (hash b.header.preimage)) := rfl

/-- A block shows what its asset root is computed from. -/
theorem recomputedRoot?_toJson (b : Block) :
    recomputedRoot? hash b.toJson = some (hexJson (assetRoot hash b.assets)) := by
  have hleaves : (b.assets.map Asset.body).mapM (recomputedLeaf? hash) =
      some (b.assets.map fun a => hash a.preimage) := by
    rw [List.mapM_map, show recomputedLeaf? hash ∘ Asset.body = fun a => some (hash a.preimage) from
      funext (recomputedLeaf?_body hash)]
    exact List.mapM_pure
  have hassets : b.toJson.get? "assets" = some (.arr (b.assets.map Asset.body)) := rfl
  rw [recomputedRoot?, hassets]
  dsimp only
  rw [hleaves]
  rfl

end

-- ---------------------------------------------------------------------------
-- Values of files
-- ---------------------------------------------------------------------------

theorem Asset.hasOwnNames_body {a : Asset} (h : a.data.hasOwnNames = true) :
    a.body.hasOwnNames = true := by
  simp [body, Json.hasOwnNames, Json.membersHaveOwnNames, Table.keys, h]

theorem Asset.floatFree_toJson {a : Asset} (hdata : a.data.floatFree = true)
    (hschema : a.schema.floatFree = true) : a.toJson.floatFree = true := by
  show (true && (a.data.floatFree && (a.schema.floatFree && true))) = true
  rw [hdata, hschema]
  rfl

theorem Asset.hasOwnNames_toJson {a : Asset} (hdata : a.data.hasOwnNames = true)
    (hschema : a.schema.hasOwnNames = true) : a.toJson.hasOwnNames = true := by
  simp [toJson, Json.hasOwnNames, Json.membersHaveOwnNames, Table.keys, hdata, hschema]

/-- A block whose assets have no floats is written without floats. -/
theorem Block.floatFree_toJson {b : Block} (h : ∀ a ∈ b.assets, a.data.floatFree = true) :
    b.toJson.floatFree = true := by
  have hassets : Json.floatFree (.arr (b.assets.map Asset.body)) = true := by
    rw [Json.floatFree, Json.allNumbers, Json.allNumbersInItems_eq_all, List.all_map,
      List.all_eq_true]
    exact fun a ha => Asset.floatFree_body (h a ha)
  show (true && (true && (Json.floatFree (.arr (b.assets.map Asset.body)) && true))) = true
  rw [hassets]
  rfl

/-- A block whose assets have distinct names is written with distinct names. -/
theorem Block.hasOwnNames_toJson {b : Block} (h : ∀ a ∈ b.assets, a.data.hasOwnNames = true) :
    b.toJson.hasOwnNames = true := by
  have hassets : Json.itemsHaveOwnNames (b.assets.map Asset.body) = true := by
    rw [Json.itemsHaveOwnNames_eq_all, List.all_map, List.all_eq_true]
    exact fun a ha => Asset.hasOwnNames_body (h a ha)
  simp [toJson, Header.toJson, hexJson, Json.hasOwnNames, Json.membersHaveOwnNames,
    Json.itemsHaveOwnNames, Table.keys, hassets]

/-- The value of the file that holds assets with their schemas. -/
def assetsJson (assets : List Asset) : Json := .obj [("assets", .arr (assets.map Asset.toJson))]

/-- Assets without floats are written without floats. -/
theorem floatFree_assetsJson {assets : List Asset}
    (h : ∀ a ∈ assets, a.toJson.floatFree = true) : (assetsJson assets).floatFree = true := by
  simp [assetsJson, Json.floatFree, Json.allNumbers, Json.allNumbersInMembers,
    Json.allNumbersInItems_eq_all]
  exact h

/-- Assets with distinct names are written with distinct names. -/
theorem hasOwnNames_assetsJson {assets : List Asset}
    (h : ∀ a ∈ assets, a.toJson.hasOwnNames = true) : (assetsJson assets).hasOwnNames = true := by
  simp [assetsJson, Json.hasOwnNames, Json.membersHaveOwnNames, Table.keys,
    Json.itemsHaveOwnNames_eq_all]
  exact h

/-- A file gives its value back. -/
theorem parse?_indented {v : Json} (hnames : v.hasOwnNames = true) (hfloat : v.floatFree = true) :
    Json.parse? .none v.indented.toList = some v := by
  rw [Json.indented, String.toList_ofList]
  exact Json.parse?_indentedChars Json.Token.readsBack_writeCharAscii 0 hnames hfloat

/-- What is indented without floats is ASCII. -/
theorem isAscii_indented {v : Json} (hfloat : v.floatFree = true) :
    Json.IsAscii v.indented.toList := by
  rw [Json.indented, String.toList_ofList]
  exact Json.isAscii_indentedChars 0 v hfloat

-- ---------------------------------------------------------------------------
-- Files
-- ---------------------------------------------------------------------------

/-- **Files.** The file of a genesis block whose assets have no doubles is ASCII and gives the block
back; the id that belongs to the header in it is the id in it, and the asset root that belongs to
the assets in it is the one in its header. The file of the assets gives their modules and data
back, if their schemas have no doubles either. -/
theorem file_verifies_itself {hash : Octets → Octets} {assets : List Asset}
    {snapshotBlock : BlockHeader} {n : Network} {b : Block}
    (h : blockAfter hash assets snapshotBlock n = .ok b)
    (hfree : ∀ a ∈ assets, a.data.floatFree = true)
    (hnames : ∀ a ∈ assets, a.data.hasOwnNames = true) :
    Json.IsAscii b.fileText.toList ∧
    (∃ v id root, Json.parse? .none b.fileText.toList = some v ∧ v = b.toJson ∧
      v.get? "id" = some id ∧ recomputedId? hash v = some id ∧
      statedRoot? v = some root ∧ recomputedRoot? hash v = some root) ∧
    ((∀ a ∈ assets, a.schema.floatFree = true ∧ a.schema.hasOwnNames = true) →
      ∃ v entries, Json.parse? .none (assetsFileText assets).toList = some v ∧
        v.get? "assets" = some (.arr entries) ∧
        (entries.map fun e => (e.get? "module", e.get? "data")) =
          assets.map fun a => (some (.str a.name), some a.data)) := by
  obtain ⟨rfl, hroot, hid⟩ := blockAfter_eq_ok h
  have hfloat := Block.floatFree_toJson hfree
  refine ⟨isAscii_indented hfloat, ⟨b.toJson, hexJson b.id, hexJson b.header.assetRoot, ?_⟩, ?_⟩
  · have hparse := parse?_indented (Block.hasOwnNames_toJson hnames) hfloat
    refine ⟨hparse, rfl, rfl, ?_, rfl, ?_⟩
    · rw [recomputedId?_toJson, hid]
    · rw [recomputedRoot?_toJson, hroot]
  · intro hschemas
    have hfloats : ∀ a ∈ b.assets, a.toJson.floatFree = true :=
      fun a ha => Asset.floatFree_toJson (hfree a ha) (hschemas a ha).1
    have hownNames : ∀ a ∈ b.assets, a.toJson.hasOwnNames = true :=
      fun a ha => Asset.hasOwnNames_toJson (hnames a ha) (hschemas a ha).2
    refine ⟨assetsJson b.assets, b.assets.map Asset.toJson, ?_, rfl, ?_⟩
    · exact parse?_indented (hasOwnNames_assetsJson hownNames) (floatFree_assetsJson hfloats)
    · rw [List.map_map]
      rfl

/-- The files of a block with one asset. -/
theorem file_verifies_itself_supplyFirst :
    ∃ b v root, blockAfter sha256 [supplyFirst] lastBlock .mainnet = .ok b ∧
      Json.parse? .none b.fileText.toList = some v ∧ recomputedId? sha256 v = v.get? "id" ∧
      statedRoot? v = some root ∧ recomputedRoot? sha256 v = some root := by
  obtain ⟨b, hb, -⟩ := exists_blockAfter_lastBlock sha256 [supplyFirst]
  have hfree : ∀ a ∈ [supplyFirst], a.data.floatFree = true :=
    List.forall_mem_singleton.2 rfl
  have hnames : ∀ a ∈ [supplyFirst], a.data.hasOwnNames = true :=
    List.forall_mem_singleton.2 (by decide)
  obtain ⟨-, ⟨v, id, root, hparse, -, hid, hrecomputed, hstated, hroot⟩, -⟩ :=
    file_verifies_itself hb hfree hnames
  exact ⟨b, v, root, hb, hparse, hrecomputed.trans hid.symm, hstated, hroot⟩

end Regenesis.Genesis
