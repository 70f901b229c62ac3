import Mathlib
import Regenesis.Genesis.Assembly
import Regenesis.Proofs.Decimal
import Regenesis.Proofs.Order
import Regenesis.Proofs.Outcome

/-!
# Proofs.Assembly.Parts — the five assets

An assembly succeeds if every module's asset does, and then hands on the five in alphabetical order.
Each asset is known by its name, and its data are the data of its module.
-/

namespace Regenesis.Genesis

open Record

-- ---------------------------------------------------------------------------
-- Assets of the modules
-- ---------------------------------------------------------------------------

namespace Token

variable {accounts : List Account} {legacyAmount : Int} {n : Network} {a : Asset}

/-- The asset of tokens is made of the data of tokens. -/
theorem asset_eq_ok :
    asset accounts legacyAmount n = .ok a ↔
      ∃ d, data accounts legacyAmount n = .ok d ∧ a = ⟨"token", d.toJson, descriptor.schema⟩ := by
  rw [asset, Outcome.bind_pure_eq_ok]

end Token

namespace Auth

variable {accounts : List Account} {n : Network} {a : Asset}

/-- The asset of keys is made of one entry for each account. -/
theorem asset_eq_ok :
    asset accounts n = .ok a ↔
      ∃ es, entries accounts n = .ok es ∧
        a = ⟨"auth", .obj [("authDataSubstore", .arr (es.map Entry.toJson))],
          descriptor.schema⟩ := by
  rw [asset, Outcome.bind_pure_eq_ok]

end Auth

namespace Stake

variable {accounts : List Account} {keys : KeyTexts} {weights : VoteWeights} {height : Int}
  {n : Network} {a : Asset}

/-- The data of the module, from its parts. -/
def dataJson (validators : List Validator) (stakers : List Staker) (start : GenesisData) : Json :=
  .obj [
    ("validators", .arr (validators.map Validator.toJson)),
    ("stakers", .arr (stakers.map Staker.toJson)),
    ("genesisData", start.toJson)]

/-- The asset of stakes is made of the validators, the stakers and what the new chain starts with.
-/
theorem asset_eq_ok :
    asset accounts keys weights height n = .ok a ↔
      ∃ vs ss start, validators accounts keys height n = .ok vs ∧ stakers accounts n = .ok ss ∧
        genesisData accounts weights height n = .ok start ∧
        a = ⟨"pos", dataJson vs ss start, descriptor.schema⟩ := by
  constructor
  · intro h
    obtain ⟨vs, hvs, h⟩ := Outcome.bind_eq_ok.1 h
    obtain ⟨ss, hss, h⟩ := Outcome.bind_eq_ok.1 h
    obtain ⟨start, hstart, h⟩ := Outcome.bind_eq_ok.1 h
    exact ⟨vs, ss, start, hvs, hss, hstart, (Except.ok.inj h).symm⟩
  · rintro ⟨vs, ss, start, hvs, hss, hstart, rfl⟩
    refine Outcome.bind_eq_ok.2 ⟨vs, hvs, Outcome.bind_eq_ok.2 ⟨ss, hss, ?_⟩⟩
    exact Outcome.bind_eq_ok.2 ⟨start, hstart, rfl⟩

end Stake

namespace Legacy

variable {accounts : List UnregisteredAccount} {a : Asset}

/-- The legacy asset is made of one entry for each unregistered address. -/
theorem asset_eq_ok :
    asset accounts = .ok a ↔
      ∃ es, accounts.mapM Entry.ofRecord = .ok es ∧
        a = ⟨"legacy", .obj [("accounts", .arr (es.map Entry.toJson))], descriptor.schema⟩ := by
  rw [asset, Outcome.bind_pure_eq_ok]

theorem ofRecord_eq_ok {u : UnregisteredAccount} {e : Entry} :
    Entry.ofRecord u = .ok e ↔
      ∃ balance, Decimal.writeText u.balance = .ok balance ∧ e = ⟨u.address, balance⟩ := by
  rw [Entry.ofRecord, Outcome.bind_pure_eq_ok]

/-- There is an asset unless a balance has too many digits. -/
theorem exists_asset (h : ∀ u ∈ accounts, Decimal.fits u.balance = true) :
    ∃ a, asset accounts = .ok a := by
  obtain ⟨es, hes⟩ := Outcome.exists_mapM (f := Entry.ofRecord) fun u hu =>
    ⟨_, ofRecord_eq_ok.2 ⟨_, Decimal.writeText_of_fits (h u hu), rfl⟩⟩
  exact ⟨_, asset_eq_ok.2 ⟨es, hes, rfl⟩⟩

end Legacy

namespace Interoperability

theorem name_of_asset {n : Network} {a : Asset} (h : asset n = .ok a) :
    a.name = "interoperability" := by
  unfold asset at h
  split at h
  · exact nomatch h
  · rw [← Except.ok.inj h]

end Interoperability

-- ---------------------------------------------------------------------------
-- Alphabetical order
-- ---------------------------------------------------------------------------

/-- The names of the modules, in alphabetical order. -/
def moduleNames : List String := ["auth", "interoperability", "legacy", "pos", "token"]

/-- The names of the modules are in the order of their collation keys. -/
theorem pairwise_moduleNames :
    moduleNames.Pairwise fun a b =>
      Text.keyLe (Text.collationKey a) (Text.collationKey b) = true := by
  unfold moduleNames
  decide

theorem nodup_moduleNames : (moduleNames.map Text.collationKey).Nodup := by
  unfold moduleNames
  decide

/-- Assets with the names of the modules are in order if their names are. -/
theorem sortAssets_of_perm {assets sorted : List Asset} (h : assets.Perm sorted)
    (hnames : sorted.map Asset.name = moduleNames) : sortAssets assets = sorted := by
  have hsorted := pairwise_moduleNames
  have hnodup := nodup_moduleNames
  rw [← hnames, List.pairwise_map] at hsorted
  rw [← hnames, List.map_map] at hnodup
  have hkey : ∀ a ∈ sorted, ∀ b ∈ sorted,
      Text.collationKey a.name = Text.collationKey b.name → a = b := by
    intro a ha b hb hab
    exact List.inj_on_of_nodup_map hnodup ha hb hab
  refine Eq.trans ?_ (List.mergeSort_of_pairwise hsorted)
  refine Order.mergeSort_eq_of_perm ?_ ?_ h ?_
  · intro a b c
    exact Text.keyLe_trans (Text.collationKey a.name) (Text.collationKey b.name) _
  · intro a b
    exact Text.keyLe_total (Text.collationKey a.name) (Text.collationKey b.name)
  · intro a ha b hb hab hba
    exact hkey a (h.mem_iff.1 ha) b (h.mem_iff.1 hb) (Text.keyLe_antisymm hab hba)

-- ---------------------------------------------------------------------------
-- The assembly
-- ---------------------------------------------------------------------------

variable {s : Snapshot} {keys : Stake.KeyTexts} {n : Network}

/-- The assets of the five modules have their names. -/
theorem names_of_assets {accounts : List Record.Account} {amount : Int}
    {unregistered : List Record.UnregisteredAccount} {weights : Record.VoteWeights} {height : Int}
    {legacy token auth stake interoperability : Asset}
    (hlegacy : Legacy.asset unregistered = .ok legacy)
    (htoken : Token.asset accounts amount n = .ok token)
    (hauth : Auth.asset accounts n = .ok auth)
    (hstake : Stake.asset accounts keys weights height n = .ok stake)
    (hinter : Interoperability.asset n = .ok interoperability) :
    [auth, interoperability, legacy, stake, token].map Asset.name = moduleNames := by
  obtain ⟨ls, -, rfl⟩ := Legacy.asset_eq_ok.1 hlegacy
  obtain ⟨d, -, rfl⟩ := Token.asset_eq_ok.1 htoken
  obtain ⟨es, -, rfl⟩ := Auth.asset_eq_ok.1 hauth
  obtain ⟨vs, ss, start, -, -, -, rfl⟩ := Stake.asset_eq_ok.1 hstake
  rw [List.map_cons, List.map_cons, Interoperability.name_of_asset hinter]
  rfl

/-- The assets of a snapshot are the assets of the five modules. -/
theorem assemble_eq_ok {assets : List Asset} :
    assemble s keys n = .ok assets ↔
      ∃ legacy token auth stake interoperability,
        Legacy.asset s.legacyAccounts = .ok legacy ∧
        Token.asset s.accounts (Legacy.reserveAmount s.legacyAccounts) n = .ok token ∧
        Auth.asset s.accounts n = .ok auth ∧
        Stake.asset s.accounts keys s.voteWeights s.height n = .ok stake ∧
        Interoperability.asset n = .ok interoperability ∧
        assets = [auth, interoperability, legacy, stake, token] := by
  -- the five assets have distinct names, so they have one order
  have hsort : ∀ {legacy token auth stake interoperability : Asset},
      Legacy.asset s.legacyAccounts = .ok legacy →
      Token.asset s.accounts (Legacy.reserveAmount s.legacyAccounts) n = .ok token →
      Auth.asset s.accounts n = .ok auth →
      Stake.asset s.accounts keys s.voteWeights s.height n = .ok stake →
      Interoperability.asset n = .ok interoperability →
      sortAssets [legacy, token, auth, stake, interoperability] =
        [auth, interoperability, legacy, stake, token] := by
    intro legacy token auth stake interoperability hlegacy htoken hauth hstake hinter
    refine sortAssets_of_perm ?_ (names_of_assets hlegacy htoken hauth hstake hinter)
    classical
    refine List.perm_iff_count.2 fun a => ?_
    simp only [List.count_cons, List.count_nil]
    omega
  constructor
  · intro h
    obtain ⟨legacy, hlegacy, h⟩ := Outcome.bind_eq_ok.1 h
    obtain ⟨token, htoken, h⟩ := Outcome.bind_eq_ok.1 h
    obtain ⟨auth, hauth, h⟩ := Outcome.bind_eq_ok.1 h
    obtain ⟨stake, hstake, h⟩ := Outcome.bind_eq_ok.1 h
    obtain ⟨interoperability, hinter, h⟩ := Outcome.bind_eq_ok.1 h
    refine ⟨legacy, token, auth, stake, interoperability, hlegacy, htoken, hauth, hstake, hinter,
      ?_⟩
    rw [← Except.ok.inj h, hsort hlegacy htoken hauth hstake hinter]
  · rintro ⟨legacy, token, auth, stake, interoperability, hlegacy, htoken, hauth, hstake, hinter,
      rfl⟩
    refine Outcome.bind_eq_ok.2 ⟨legacy, hlegacy, Outcome.bind_eq_ok.2 ⟨token, htoken, ?_⟩⟩
    refine Outcome.bind_eq_ok.2 ⟨auth, hauth, Outcome.bind_eq_ok.2 ⟨stake, hstake, ?_⟩⟩
    refine Outcome.bind_eq_ok.2 ⟨interoperability, hinter, ?_⟩
    rw [hsort hlegacy htoken hauth hstake hinter]
    rfl

/-- An assembly has the assets of the five modules, in the order of their names. -/
theorem names_of_assemble {assets : List Asset} (h : assemble s keys n = .ok assets) :
    assets.map Asset.name = moduleNames := by
  obtain ⟨legacy, token, auth, stake, interoperability, hlegacy, htoken, hauth, hstake, hinter,
    rfl⟩ := assemble_eq_ok.1 h
  exact names_of_assets hlegacy htoken hauth hstake hinter

/-- Behind the legacy asset, the token asset is the next that can fail. -/
theorem assemble_of_token_error {legacy : Asset} {e : Failure}
    (hlegacy : Legacy.asset s.legacyAccounts = .ok legacy)
    (h : Token.asset s.accounts (Legacy.reserveAmount s.legacyAccounts) n = .error e) :
    assemble s keys n = .error e := by
  rw [assemble, hlegacy, Outcome.ok_bind, h, Outcome.error_bind]

end Regenesis.Genesis
