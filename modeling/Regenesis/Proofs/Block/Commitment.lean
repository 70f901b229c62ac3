import Mathlib
import Regenesis.Genesis.Block
import Regenesis.Proofs.Address
import Regenesis.Proofs.Digest.Merkle
import Regenesis.Proofs.Json.Canonical

/-!
# Proofs.Block.Commitment — what the id of a block commits to

The id of a genesis block is the digest of its header, and its header holds the Merkle root over the
digests of its assets. A hashed text tells the header, and the modules and data of the assets up to
the order of members. So blocks of one id are the same up to that order, unless two of the byte
strings that were hashed for them collide: `block_id_commits`.
-/

namespace Regenesis.Genesis

open Record Digest

-- ---------------------------------------------------------------------------
-- Hashed texts
-- ---------------------------------------------------------------------------

/-- The text by which a header is hashed tells the header. -/
theorem Header.eq_of_preimage_eq {h h' : Header} (heq : h.preimage = h'.preimage) : h = h' := by
  have hcanonical : h.toJson.canonical = h'.toJson.canonical :=
    Json.canonical_eq_of_canonicalText_eq rfl rfl (Octets.ofText_injective heq)
  have hmembers := Json.canonicalMember_eq_of_canonical_eq hcanonical rfl (by simp)
  obtain ⟨version, timestamp, height, previousBlockId, generatorAddress, transactionRoot, assetRoot,
    signature⟩ := h
  obtain ⟨version', timestamp', height', previousBlockId', generatorAddress', transactionRoot',
    assetRoot', signature'⟩ := h'
  simp only [List.map_cons, Json.canonicalMember, hexJson, Json.canonical, List.cons.injEq,
    Prod.mk.injEq, Json.int.injEq, Json.str.injEq, true_and, and_true] at hmembers
  obtain ⟨rfl, rfl, rfl, hprevious, rfl, htransactions, hassets, rfl⟩ := hmembers
  rw [Hex.encode_injective hprevious, Hex.encode_injective htransactions,
    Hex.encode_injective hassets]

theorem Asset.floatFree_body {a : Asset} (h : a.data.floatFree = true) :
    a.body.floatFree = true := by
  show (true && (a.data.floatFree && true)) = true
  rw [h]
  rfl

/-- The text by which an asset is hashed tells the module, and the data up to the order of
members. -/
theorem Asset.same_of_preimage_eq {a b : Asset} (ha : a.data.floatFree = true)
    (hb : b.data.floatFree = true) (heq : a.preimage = b.preimage) :
    a.name = b.name ∧ Json.Same a.data b.data := by
  have hcanonical : a.body.canonical = b.body.canonical :=
    Json.canonical_eq_of_canonicalText_eq (floatFree_body ha) (floatFree_body hb)
      (Octets.ofText_injective heq)
  have hmembers := Json.canonicalMember_eq_of_canonical_eq hcanonical rfl (by simp)
  simp only [List.map_cons, Json.canonicalMember, Json.canonical, List.cons.injEq,
    Prod.mk.injEq, Json.str.injEq, true_and, and_true] at hmembers
  obtain ⟨hname, hdata⟩ := hmembers
  exact ⟨hname, Json.same_of_canonical_eq hdata⟩

/-- Assets that are hashed alike have the same names and the same data. -/
theorem same_of_preimages_eq {assets assets' : List Asset}
    (hfree : ∀ a ∈ assets, a.data.floatFree = true)
    (hfree' : ∀ a ∈ assets', a.data.floatFree = true)
    (h : assets.map Asset.preimage = assets'.map Asset.preimage) :
    List.Forall₂ (fun a b => a.name = b.name ∧ Json.Same a.data b.data) assets assets' := by
  induction assets generalizing assets' with
  | nil =>
    rw [List.map_eq_nil_iff.1 h.symm]
    exact .nil
  | cons a assets ih =>
    cases assets' with
    | nil => exact nomatch h
    | cons b assets' =>
      obtain ⟨hhead, htail⟩ := List.cons.inj h
      have hsame := Asset.same_of_preimage_eq (hfree a List.mem_cons_self)
        (hfree' b List.mem_cons_self) hhead
      exact .cons hsame (ih (fun c hc => hfree c (List.mem_cons_of_mem a hc))
        (fun c hc => hfree' c (List.mem_cons_of_mem b hc)) htail)

-- ---------------------------------------------------------------------------
-- Blocks
-- ---------------------------------------------------------------------------

/-- The byte strings that are hashed for a block: the text of the header, the texts of the assets,
and the joined pairs of nodes of the tree over these. -/
def Block.inputs (hash : Octets → Octets) (b : Block) : List Octets :=
  [b.header.preimage] ++ (b.assets.map Asset.preimage ++
    treeInputs hash (b.assets.map fun a => hash a.preimage))

section
variable {hash : Octets → Octets}

/-- A header is written if its numbers are not too long. -/
theorem Header.isWritable_iff {h : Header} : h.isWritable = true ↔
    Decimal.fits h.version = true ∧ Decimal.fits h.timestamp = true ∧
      Decimal.fits h.height = true := by
  have hform : h.isWritable =
      (Decimal.fits h.version && (Decimal.fits h.timestamp && (Decimal.fits h.height && true))) :=
    rfl
  rw [hform, Bool.and_true, Bool.and_eq_true, Bool.and_eq_true]

/-- A block has the header that follows the block before it. -/
theorem eq_of_blockAfter {assets : List Asset} {snapshotBlock : BlockHeader} {n : Network}
    {b : Block} (h : blockAfter hash assets snapshotBlock n = .ok b) :
    b = ⟨hash (headerAfter hash assets snapshotBlock n).preimage,
      headerAfter hash assets snapshotBlock n, assets⟩ := by
  rw [blockAfter] at h
  by_cases hwritable : (headerAfter hash assets snapshotBlock n).isWritable = true
  · rw [if_pos hwritable] at h
    exact (Except.ok.inj h).symm
  · rw [if_neg hwritable] at h
    exact nomatch h

/-- A block holds the assets, its header their root, and its id is the digest of the header. -/
theorem blockAfter_eq_ok {assets : List Asset} {snapshotBlock : BlockHeader} {n : Network}
    {b : Block} (h : blockAfter hash assets snapshotBlock n = .ok b) :
    b.assets = assets ∧ b.header.assetRoot = assetRoot hash assets ∧
      b.id = hash b.header.preimage := by
  rw [eq_of_blockAfter h]
  exact ⟨rfl, rfl, rfl⟩

variable (hhash : ∀ x, (hash x).length = 32)
include hhash

/-- The root of as many assets tells the texts of the assets, or there is a collision. -/
theorem preimages_eq_or_collides {assets assets' : List Asset}
    (hlength : assets.length = assets'.length)
    (hroot : assetRoot hash assets = assetRoot hash assets') :
    assets.map Asset.preimage = assets'.map Asset.preimage ∨
      Collides hash ((assets.map Asset.preimage ++
        treeInputs hash (assets.map fun a => hash a.preimage)) ++
          (assets'.map Asset.preimage ++
            treeInputs hash (assets'.map fun a => hash a.preimage))) := by
  have hlevel : ∀ assets : List Asset, IsLevel (assets.map fun a => hash a.preimage) := by
    intro assets x hx
    obtain ⟨a, -, rfl⟩ := List.mem_map.1 hx
    exact hhash a.preimage
  have hleaves : ∀ assets : List Asset, (assets.map fun a => hash a.preimage) =
      (assets.map Asset.preimage).map hash := fun _ => List.map_map.symm
  rcases eq_or_collides_of_merkleRoot_eq hhash (hlevel assets) (hlevel assets')
    (by rw [List.length_map, List.length_map, hlength]) hroot with heq | hcollides
  · rw [hleaves, hleaves] at heq
    rcases eq_or_collides_of_map_eq heq with heq | hcollides
    · exact Or.inl heq
    · exact Or.inr (collides_append (Or.inl hcollides))
  · exact Or.inr (collides_append (Or.inr hcollides))

/-- **Commitment.** Two genesis blocks with as many assets and one id have one header, and their
assets have the same modules and the same data up to the order of members, unless two of the byte
strings hashed for the blocks collide. -/
theorem block_id_commits {assets assets' : List Asset} {snapshotBlock snapshotBlock' : BlockHeader}
    {n n' : Network} {b b' : Block} (h : blockAfter hash assets snapshotBlock n = .ok b)
    (h' : blockAfter hash assets' snapshotBlock' n' = .ok b')
    (hfree : ∀ a ∈ assets, a.data.floatFree = true)
    (hfree' : ∀ a ∈ assets', a.data.floatFree = true)
    (hlength : assets.length = assets'.length) (hid : b.id = b'.id) :
    (b.header = b'.header ∧
      List.Forall₂ (fun a a' => a.name = a'.name ∧ Json.Same a.data a'.data) b.assets b'.assets) ∨
    Collides hash (b.inputs hash ++ b'.inputs hash) := by
  obtain ⟨rfl, hroot, hdigest⟩ := blockAfter_eq_ok h
  obtain ⟨rfl, hroot', hdigest'⟩ := blockAfter_eq_ok h'
  rw [hdigest, hdigest'] at hid
  rcases eq_or_collides hid with heq | hcollides
  · have hheader : b.header = b'.header := Header.eq_of_preimage_eq heq
    rw [hheader, hroot'] at hroot
    rcases preimages_eq_or_collides hhash hlength hroot.symm with htexts | hcollides
    · exact Or.inl ⟨hheader, same_of_preimages_eq hfree hfree' htexts⟩
    · exact Or.inr (collides_append (Or.inr hcollides))
  · exact Or.inr (collides_append (Or.inl hcollides))

end

/-- The data of a token without users. -/
def supplyFirst : Asset := ⟨"token", .obj [("supply", .int 1), ("users", .arr [])], .obj []⟩

/-- The same data, with the members in the other order. -/
def usersFirst : Asset := ⟨"token", .obj [("users", .arr []), ("supply", .int 1)], .obj []⟩

/-- The block before the genesis block. -/
def lastBlock : BlockHeader := ⟨List.replicate 32 1, 309, 1700000000, [], 2, []⟩

/-- A block with any assets may follow it. -/
theorem exists_blockAfter_lastBlock (hash : Octets → Octets) (assets : List Asset) :
    ∃ b, blockAfter hash assets lastBlock .mainnet = .ok b ∧
      b.header = headerAfter hash assets lastBlock .mainnet := by
  have hfits : Decimal.fits 0 = true ∧ Decimal.fits 1700007200 = true ∧
      Decimal.fits 310 = true := by decide
  have hwritable : (headerAfter hash assets lastBlock .mainnet).isWritable = true :=
    Header.isWritable_iff.2 hfits
  exact ⟨_, if_pos hwritable, rfl⟩

/-- The two orders of the members of one asset. -/
theorem block_id_commits_two_orders :
    ∃ b b', blockAfter sha256 [supplyFirst] lastBlock .mainnet = .ok b ∧
      blockAfter sha256 [usersFirst] lastBlock .mainnet = .ok b' ∧ b.id = b'.id ∧
      ((b.header = b'.header ∧ List.Forall₂
          (fun a a' => a.name = a'.name ∧ Json.Same a.data a'.data) b.assets b'.assets) ∨
        Collides sha256 (b.inputs sha256 ++ b'.inputs sha256)) := by
  have hcanonical : supplyFirst.body.canonical = usersFirst.body.canonical := by
    have hlt : "supply" < "users" := by decide
    have hnlt : ¬"users" < "supply" := by decide
    simp only [supplyFirst, usersFirst, Asset.body, Json.canonical, Json.canonicalMembers,
      Json.insertMember, hlt, hnlt, if_true, if_false]
  have hpreimage : supplyFirst.preimage = usersFirst.preimage := by
    rw [Asset.preimage, Asset.preimage, Json.canonicalText, Json.canonicalText, hcanonical]
  have hheader : headerAfter sha256 [supplyFirst] lastBlock .mainnet =
      headerAfter sha256 [usersFirst] lastBlock .mainnet := by
    simp only [headerAfter, assetRoot, List.map_cons, List.map_nil, hpreimage]
  obtain ⟨b, hb, hbheader⟩ := exists_blockAfter_lastBlock sha256 [supplyFirst]
  obtain ⟨b', hb', hbheader'⟩ := exists_blockAfter_lastBlock sha256 [usersFirst]
  have hid : b.id = b'.id := by
    rw [(blockAfter_eq_ok hb).2.2, (blockAfter_eq_ok hb').2.2, hbheader, hbheader', hheader]
  refine ⟨b, b', hb, hb', hid, block_id_commits length_sha256 hb hb' ?_ ?_ rfl hid⟩
  · intro a ha
    rw [List.mem_singleton.1 ha]
    rfl
  · intro a ha
    rw [List.mem_singleton.1 ha]
    rfl

end Regenesis.Genesis
