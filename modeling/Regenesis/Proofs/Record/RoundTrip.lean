import Mathlib
import Regenesis.Proofs.Record.Models

/-!
# Proofs.Record.RoundTrip — decoding brings records into a normal form

What is decoded from a stored value is in normal form, and writing it and decoding it again changes
nothing (`decode_normalises`). So nothing but the record counts: two texts of one byte string have
become one text.
-/

namespace Regenesis.Record

-- ---------------------------------------------------------------------------
-- Schemas
-- ---------------------------------------------------------------------------

namespace Schema

variable {α : Type} {s : Schema α} {kind : Kind} {value key : Octets} {a : α}

/-- A value is a record if it is JSON that can be stored and the record is read from it. -/
theorem check_eq_ok :
    s.check value = .ok a ↔ ∃ v, Json.ofOctets? .stored value = some v ∧ s.ofJson v = .ok a := by
  rw [check]
  cases Json.ofOctets? .stored value with
  | none => simp [Checked.fail]
  | some v => simp

theorem decode_eq_ok : s.decode key value = .ok a ↔ s.check value = .ok a := by
  rw [decode]
  cases s.check value with
  | ok b => simp
  | issues list => simp

/-- What was decoded can be stored. -/
theorem storable_of_check (hs : Lawful kind s.ofJson s.toJson) (hdepth : kind.depth ≤ 201)
    (h : s.check value = .ok a) : Json.Storable 201 (s.toJson a) := by
  obtain ⟨v, hv, hread⟩ := check_eq_ok.1 h
  exact hs.storable hdepth (Json.storable_of_ofOctets? hv) hread

/-- What can be stored is decoded again. -/
theorem check_encode (hs : Lawful kind s.ofJson s.toJson) (h : Json.Storable 201 (s.toJson a))
    (hfloat : (s.toJson a).floatFree = true) : s.check (s.encode a) = .ok a :=
  check_eq_ok.2 ⟨s.toJson a, Json.ofOctets?_stored h hfloat, hs.back a⟩

/-- Whether a record is what some stored value is decoded as. -/
def Yields (s : Schema α) (a : α) : Prop := ∃ key value, s.decode key value = .ok a

/-- A record that can be stored is a decoded one. -/
theorem yields_of_storable (hs : Lawful kind s.ofJson s.toJson) (hkind : kind.isDefinite = true)
    (h : Json.Storable 201 (s.toJson a)) : s.Yields a :=
  ⟨[], _, decode_eq_ok.2 (check_encode hs h (floatFree_of_isDefinite (hs.normal a) hkind))⟩

/-- A decoded record without open objects fits wherever there is room for its kind. -/
theorem storable_of_yields (hs : Lawful kind s.ofJson s.toJson) (hkind : kind.isDefinite = true)
    (hdepth : kind.depth ≤ 201) {room : Nat} (hroom : kind.depth ≤ room) (h : s.Yields a) :
    Json.Storable room (s.toJson a) := by
  obtain ⟨key, value, hdecode⟩ := h
  have hstorable := storable_of_check hs hdepth (decode_eq_ok.1 hdecode)
  exact storable_of_normal (hs.normal a) hkind hstorable hroom

/-- A decoded record without open objects is decoded again from what it is encoded as. -/
theorem decode_encode_of_yields (hs : Lawful kind s.ofJson s.toJson)
    (hkind : kind.isDefinite = true) (hdepth : kind.depth ≤ 201) (h : s.Yields a)
    (key : Octets) : s.decode key (s.encode a) = .ok a :=
  decode_eq_ok.2 <| check_encode hs (storable_of_yields hs hkind hdepth hdepth h)
    (floatFree_of_isDefinite (hs.normal a) hkind)

end Schema

/-- The nonce of a decoded account can be written. -/
theorem fits_nonce {a : Account} (h : accountSchema.Yields a) :
    Decimal.fits a.sequence.nonce = true := by
  have haccount : Json.Storable 201 a.toJson :=
    Schema.storable_of_yields Account.lawful rfl (by decide) (by decide) h
  have hsequence : Json.Storable 200 a.sequence.toJson :=
    (Json.fits_obj.1 haccount).2 ("sequence", a.sequence.toJson) (by simp)
  have hnonce : Json.Storable 199 (natJson a.sequence.nonce) :=
    (Json.fits_obj.1 hsequence).2 ("nonce", natJson a.sequence.nonce) (by simp)
  exact isShort_iff_fits.1 (Json.fits_int.1 hnonce)

/-- The height that a decoded header states can be written. -/
theorem fits_height {header : BlockHeader} (h : blockHeaderSchema.Yields header) :
    Decimal.fits header.height = true := by
  have hheader : Json.Storable 201 header.toJson :=
    Schema.storable_of_yields BlockHeader.lawful rfl (by decide) (by decide) h
  have hheight : Json.Storable 200 (natJson header.height) :=
    (Json.fits_obj.1 hheader).2 ("height", natJson header.height) (by simp)
  exact isShort_iff_fits.1 (Json.fits_int.1 hheight)

/-- A list of decoded balances is decoded again, even if each was decoded for itself. -/
theorem decode_encode_unregisteredAddresses {accounts : List UnregisteredAccount}
    (h : ∀ a ∈ accounts, unregisteredAccountSchema.Yields a) (key : Octets) :
    unregisteredAddressesSchema.decode key (unregisteredAddressesSchema.encode ⟨accounts⟩) =
      .ok ⟨accounts⟩ := by
  have hstorable : Json.Storable 201 (UnregisteredAddresses.toJson ⟨accounts⟩) := by
    refine .obj (List.nodup_singleton _) fun m hm => ?_
    rw [List.mem_singleton.1 hm]
    refine .arr fun v hv => ?_
    obtain ⟨a, ha, rfl⟩ := List.mem_map.1 hv
    exact Schema.storable_of_yields UnregisteredAccount.lawful rfl (by decide) (by decide) (h a ha)
  have hlawful := UnregisteredAddresses.lawful
  exact Schema.decode_eq_ok.2 <| Schema.check_encode hlawful hstorable
    (floatFree_of_isDefinite (hlawful.normal ⟨accounts⟩) rfl)

-- ---------------------------------------------------------------------------
-- Decoding and encoding
-- ---------------------------------------------------------------------------

/-- **Normal form.** Whatever kind of record is decoded from a stored value: all of its members are
there in normal form, and in the value there was none that is not declared, at any depth; if no
double stands in an open object, decoding what the record is encoded as gives it again; and a hex
text of it is the same as one of any other record, decoded from any other value, exactly if they
stand for the same bytes. -/
theorem decode_normalises {m : Model} (hm : m ∈ models) {key value : Octets} {a : m.Carrier}
    (h : m.schema.decode key value = .ok a) :
    Normal m.kind (m.schema.toJson a) ∧
    (∃ v, Json.ofOctets? .stored value = some v ∧ Closed m.kind v) ∧
    ((∀ w, Part .openObject m.kind (m.schema.toJson a) w → w.floatFree = true) →
      ∀ key', m.schema.decode key' (m.schema.encode a) = .ok a) ∧
    ∀ m' ∈ models, ∀ key' value' a', m'.schema.decode key' value' = .ok a' →
      ∀ s t, Part .hex m.kind (m.schema.toJson a) (.str s) →
        Part .hex m'.kind (m'.schema.toJson a') (.str t) →
          ∃ b c, Hex.decode s = .ok b ∧ Hex.decode t = .ok c ∧ (s = t ↔ b = c) := by
  have hlawful := lawful_of_mem_models hm
  have hcheck := Schema.decode_eq_ok.1 h
  obtain ⟨v, hv, hread⟩ := Schema.check_eq_ok.1 hcheck
  refine ⟨hlawful.normal a, ⟨v, hv, ?_⟩, fun hfloat key' => ?_, ?_⟩
  · exact hlawful.closed (Json.storable_of_ofOctets? hv) hread
  · have hstorable := Schema.storable_of_check hlawful (depth_le_of_mem_models hm) hcheck
    have hfree := floatFree_of_normal (hlawful.normal a) hfloat
    exact Schema.decode_eq_ok.2 (Schema.check_encode hlawful hstorable hfree)
  · intro m' hm' _ _ a' _ s t hs ht
    have hcanonical : ∀ {n : Model} (hn : n ∈ models) (b : n.Carrier) (u : String),
        Part .hex n.kind (n.schema.toJson b) (.str u) → IsCanonicalHex u := by
      intro n hn b u hu
      cases normal_of_part ((lawful_of_mem_models hn).normal b) hu with
      | hex hu => exact hu
    exact (hcanonical hm a s hs).eq_iff (hcanonical hm' a' t ht)

-- ---------------------------------------------------------------------------
-- A loosely written transfer
-- ---------------------------------------------------------------------------

/-- A transfer with an id that is given twice, hex with capitals and blanks, and numbers that are
texts and booleans. -/
def looseTransfer : String :=
  "\x7b\"fee\":true,\"id\":\"0\",\"module\":\"token\",\"command\":\"transfer\"," ++
    "\"nonce\":\"+1_0\",\"sender_public_key\":\"0A\",\"params\":\x7b\"amount\":\"1\"\x7d,\"id\":\" Ff 00\"\x7d"

/-- The transfer that is meant. -/
def transfer : Transaction :=
  ⟨[0xFF, 0x00], "token", "transfer", 10, 1, [0x0A], [("amount", .str "1")]⟩

set_option maxRecDepth 100000 in
theorem parse?_looseTransfer : Json.parse? .stored looseTransfer.toList = some (.obj [
    ("fee", .bool true), ("id", .str " Ff 00"), ("module", .str "token"),
    ("command", .str "transfer"), ("nonce", .str "+1_0"), ("sender_public_key", .str "0A"),
    ("params", .obj [("amount", .str "1")])]) := by
  rfl

set_option maxRecDepth 100000 in
/-- The loosely written transfer is decoded as the one that is meant. -/
theorem decode_looseTransfer (key : Octets) :
    transactionSchema.decode key (Octets.ofText looseTransfer) = .ok transfer := by
  rw [Schema.decode_eq_ok, Schema.check, Json.ofOctets?, Octets.toText?_ofText,
    Option.bind_eq_bind, Option.bind_some, parse?_looseTransfer]
  rfl

/-- The loosely written transfer is decoded in normal form, and decoded again from that form. -/
theorem decode_normalises_loose_transfer :
    transactionSchema.decode [] (Octets.ofText looseTransfer) = .ok transfer ∧
    Normal Transaction.kind transfer.toJson ∧
    (∃ v, Json.ofOctets? .stored (Octets.ofText looseTransfer) = some v ∧
      Closed Transaction.kind v) ∧
    transactionSchema.decode [] (transactionSchema.encode transfer) = .ok transfer ∧
    ∃ b c, Hex.decode "ff00" = .ok b ∧ Hex.decode "0a" = .ok c ∧ ("ff00" = "0a" ↔ b = c) := by
  have hmem : ⟨_, transactionSchema, Transaction.kind⟩ ∈ models := by simp [models]
  have hdecode := decode_looseTransfer []
  have hid : Part .hex Transaction.kind transfer.toJson (hexJson [0xFF, 0x00]) :=
    .member (.head _) (.head _) (.here _)
  have hsender : Part .hex Transaction.kind transfer.toJson (hexJson [0x0A]) :=
    .member (.tail _ (.tail _ (.tail _ (.tail _ (.tail _ (.head _))))))
      (.tail _ (.tail _ (.tail _ (.tail _ (.tail _ (.head _)))))) (.here _)
  rw [hexJson, show Hex.encode [0xFF, 0x00] = "ff00" by decide] at hid
  rw [hexJson, show Hex.encode [0x0A] = "0a" by decide] at hsender
  obtain ⟨hnormal, hclosed, hback, hhex⟩ := decode_normalises hmem hdecode
  refine ⟨hdecode, hnormal, hclosed, hback (fun w hw => ?_) [], ?_⟩
  · exact floatFree_of_part rfl hw
  · exact hhex _ hmem [] _ _ hdecode _ _ hid hsender

end Regenesis.Record
