import Mathlib
import Regenesis.Migration.Registry
import Regenesis.Proofs.Table
import Regenesis.Proofs.Migration.Version

/-!
# Proofs.Migration.Registry — what a registry answers after any calls

A call that registers a migration puts it under its step, and no other call changes anything
(`entries_call`). So after any calls, what is found for a step is what the latest registration of
the step brought, and steps are in the order of their first registrations (`Reflects`, one lemma for
a call and one for a row of calls). How the versions were written does not count: texts that state
the same versions are texts of one step.

A registry can also be kept under the printed steps (`Printed`). No two steps are printed alike,
however large their numbers, so it answers every call like the registry that keeps the steps.

* `Step.text_injective` — different steps are printed differently.
* `Registry.reflects_after` — what a registry holds, by the calls that it saw.
* `Registry.answers_by_history` — every answer, by the calls that were made before.
-/

namespace Regenesis

open Outcome

-- ---------------------------------------------------------------------------
-- Steps
-- ---------------------------------------------------------------------------

namespace Step

variable {s s' : Step} {source target a b : String}

/-- Whether two texts state the versions of a step. -/
def IsStated (s : Step) (source target : String) : Prop :=
  Version.ofText source = .ok s.source ∧ Version.ofText target = .ok s.target

/-- Whether a step leads to a later version. -/
def IsForward (s : Step) : Prop := s.source.triple < s.target.triple

theorem ofTexts_eq_ok : ofTexts source target = .ok s ↔ s.IsStated source target := by
  rw [ofTexts, bind_eq_ok]
  constructor
  · rintro ⟨v, hv, h⟩
    obtain ⟨w, hw, rfl⟩ := bind_pure_eq_ok.1 h
    exact ⟨hv, hw⟩
  · rintro ⟨hsource, htarget⟩
    exact ⟨s.source, hsource, bind_pure_eq_ok.2 ⟨s.target, htarget, rfl⟩⟩

/-- Two texts state one step. -/
theorem IsStated.unique (h : s.IsStated source target) (h' : s'.IsStated source target) : s = s' :=
  Except.ok.inj ((ofTexts_eq_ok.2 h).symm.trans (ofTexts_eq_ok.2 h'))

/-- The arrow stands between the versions only. -/
theorem eq_of_text (h : s.text = a ++ "->" ++ b) : a = s.source.text ∧ b = s.target.text := by
  have hdash : ∀ v : Version, '-' ∉ v.text.toList :=
    fun v => v.not_mem_text (by decide) (by decide)
  have hlists : s.source.text.toList ++ '-' :: ('>' :: s.target.text.toList) =
      a.toList ++ '-' :: ('>' :: b.toList) := by
    have htoList := congrArg String.toList h
    simpa [text, String.toList_append] using htoList
  obtain ⟨ha, -, hb⟩ := (List.append_cons_inj_of_notMem (hdash s.source) (by
    simp [hdash s.target])).1 hlists
  exact ⟨(String.toList_inj.1 ha).symm, (String.toList_inj.1 (List.cons.inj hb).2).symm⟩

/-- **Printed steps.** Different steps are printed differently. -/
theorem text_injective : Function.Injective text := by
  rintro ⟨v, w⟩ ⟨v', w'⟩ h
  obtain ⟨hv, hw⟩ := eq_of_text h
  obtain rfl : v' = v := Version.text_injective hv
  obtain rfl : w' = w := Version.text_injective hw
  rfl

/-- A printed step is read again as the versions that were read before. -/
theorem isStated_of_text (h : s.IsStated source target) (htext : s.text = a ++ "->" ++ b) :
    s.IsStated a b := by
  obtain ⟨rfl, rfl⟩ := eq_of_text htext
  exact ⟨Version.ofText_text h.1, Version.ofText_text h.2⟩

end Step

namespace Registry

variable {α : Type}

-- ---------------------------------------------------------------------------
-- Calls
-- ---------------------------------------------------------------------------

/-- A call of a registry. -/
inductive Call (α : Type) where
  | register (source target : String) (migration : α)
  | get (source target : String)
  | has (source target : String)
  | list

/-- What a call is answered, if it does not fail. -/
inductive Answer (α : Type) where
  | registered
  | migration (found : Option α)
  | known (found : Bool)
  | steps (texts : List String)

/-- The outcome of a call, and the registry after it. -/
def call (r : Registry α) : Call α → Except Failure (Answer α) × Registry α
  | .register source target migration =>
    match r.register source target migration with
    | .ok r' => (.ok .registered, r')
    | .error e => (.error e, r)
  | .get source target => ((r.get source target).map .migration, r)
  | .has source target => ((r.has source target).map .known, r)
  | .list => (.ok (.steps r.list), r)

/-- The registry after a row of calls, from the empty one. -/
def after (calls : List (Call α)) : Registry α := calls.foldl (fun r c => (r.call c).2) empty

/-- One more call works on what the earlier calls have left. -/
theorem after_concat (calls : List (Call α)) (c : Call α) :
    after (calls ++ [c]) = ((after calls).call c).2 := by
  rw [after, List.foldl_append]
  rfl

/-- Whether a call registers a migration for a step. -/
def Call.Registers (c : Call α) (s : Step) (migration : α) : Prop :=
  ∃ source target, c = .register source target migration ∧ s.IsStated source target ∧ s.IsForward

variable {r r' : Registry α} {source target : String} {migration : α} {s s' : Step} {c : Call α}

/-- A call registers one migration at most, for one step. -/
theorem Call.Registers.unique {migration' : α} (h : c.Registers s migration)
    (h' : c.Registers s' migration') : s = s' ∧ migration = migration' := by
  obtain ⟨source, target, rfl, hs, -⟩ := h
  obtain ⟨_, _, hc, hs', -⟩ := h'
  obtain ⟨rfl, rfl, rfl⟩ := Call.register.inj hc
  exact ⟨hs.unique hs', rfl⟩

/-- A migration is registered if its texts are versions and the step goes forward. -/
theorem register_eq_ok :
    r.register source target migration = .ok r' ↔
      ∃ s : Step, s.IsStated source target ∧ s.IsForward ∧ r' = ⟨r.entries.put s migration⟩ := by
  rw [register, bind_eq_ok]
  constructor
  · rintro ⟨w, hw, h⟩
    obtain ⟨v, hv, h⟩ := bind_eq_ok.1 h
    split at h
    · exact nomatch h
    · rename_i hle
      rw [Version.le_iff, not_le] at hle
      exact ⟨⟨v, w⟩, ⟨hv, hw⟩, hle, (Except.ok.inj h).symm⟩
  · rintro ⟨⟨v, w⟩, ⟨hv, hw⟩, hforward, rfl⟩
    refine ⟨w, hw, bind_eq_ok.2 ⟨v, hv, ?_⟩⟩
    rw [if_neg (by rw [Version.le_iff, not_le]; exact hforward)]
    rfl

/-- What is not registered is refused for its texts. -/
theorem failsWithin_register :
    FailsWithin (fun e => ∃ fault, e = .value fault) (r.register source target migration) := by
  refine (Version.failsWithin_ofText target).bind fun _ _ => ?_
  refine (Version.failsWithin_ofText source).bind fun _ _ => ?_
  split
  · exact .error ⟨_, rfl⟩
  · exact .ok _

/-- A call puts a migration under the step that it registers, or changes nothing. -/
theorem entries_call (r : Registry α) (c : Call α) :
    (∃ s migration, c.Registers s migration ∧
      (r.call c).2 = ⟨r.entries.put s migration⟩) ∨
    (∀ s migration, ¬ c.Registers s migration) ∧ (r.call c).2 = r := by
  cases c with
  | register source target migration =>
    rw [call]
    cases h : r.register source target migration with
    | ok r' =>
      obtain ⟨s, hs, hforward, rfl⟩ := register_eq_ok.1 h
      exact Or.inl ⟨s, migration, ⟨source, target, rfl, hs, hforward⟩, rfl⟩
    | error e =>
      refine Or.inr ⟨?_, rfl⟩
      rintro s m ⟨_, _, hc, hs, hforward⟩
      obtain ⟨rfl, rfl, rfl⟩ := Call.register.inj hc
      exact nomatch h.symm.trans (register_eq_ok.2 ⟨s, hs, hforward, rfl⟩)
  | get | has | list =>
    refine Or.inr ⟨?_, rfl⟩
    rintro s m ⟨_, _, hc, -⟩
    exact nomatch hc

-- ---------------------------------------------------------------------------
-- Histories
-- ---------------------------------------------------------------------------

/-- Whether some call registers a step. -/
def IsRegistered (calls : List (Call α)) (s : Step) : Prop :=
  ∃ c ∈ calls, ∃ migration, c.Registers s migration

/-- Whether a migration is what the last call that registers a step brings. -/
def IsLatest (calls : List (Call α)) (s : Step) (migration : α) : Prop :=
  ∃ before c later, calls = before ++ c :: later ∧ c.Registers s migration ∧ ¬ IsRegistered later s

/-- Whether a step is registered when another one is not yet. -/
def IsRegisteredBefore (calls : List (Call α)) (s s' : Step) : Prop :=
  ∃ before later, calls = before ++ later ∧ IsRegistered before s ∧ ¬ IsRegistered before s'

variable {calls : List (Call α)}

/-- A step is registered by the earlier calls or by the last one. -/
theorem isRegistered_concat :
    IsRegistered (calls ++ [c]) s ↔
      IsRegistered calls s ∨ ∃ migration, c.Registers s migration := by
  simp only [IsRegistered, List.mem_append, List.mem_singleton, or_and_right, exists_or,
    exists_eq_left]

theorem IsLatest.isRegistered (h : IsLatest calls s migration) : IsRegistered calls s := by
  obtain ⟨before, c, later, rfl, hc, -⟩ := h
  exact ⟨c, List.mem_append_right _ List.mem_cons_self, migration, hc⟩

/-- The last call decides if it registers the step. -/
theorem isLatest_concat :
    IsLatest (calls ++ [c]) s migration ↔
      c.Registers s migration ∨ (∀ m, ¬ c.Registers s m) ∧ IsLatest calls s migration := by
  constructor
  · rintro ⟨before, first, later, hcalls, hfirst, hlater⟩
    rcases List.eq_nil_or_concat' later with rfl | ⟨later, last, rfl⟩
    · obtain ⟨-, hc⟩ := List.append_inj' hcalls rfl
      rw [(List.cons.inj hc).1]
      exact Or.inl hfirst
    · rw [← List.cons_append, ← List.append_assoc] at hcalls
      obtain ⟨rfl, hc⟩ := List.append_inj' hcalls rfl
      obtain rfl := (List.cons.inj hc).1
      rw [isRegistered_concat, not_or, not_exists] at hlater
      exact Or.inr ⟨hlater.2, before, first, later, rfl, hfirst, hlater.1⟩
  · rintro (hc | ⟨hc, before, first, later, rfl, hfirst, hlater⟩)
    · exact ⟨calls, c, [], rfl, hc, fun ⟨_, hmem, _⟩ => nomatch hmem⟩
    · refine ⟨before, first, later ++ [c], List.append_assoc _ _ _, hfirst, ?_⟩
      rw [isRegistered_concat, not_or, not_exists]
      exact ⟨hlater, hc⟩

/-- A step that is registered has a latest migration. -/
theorem exists_isLatest (h : IsRegistered calls s) : ∃ migration, IsLatest calls s migration := by
  induction calls using List.reverseRecOn with
  | nil =>
    obtain ⟨c, hc, -⟩ := h
    exact nomatch hc
  | append_singleton calls c ih =>
    simp only [isLatest_concat]
    by_cases hc : ∃ m, c.Registers s m
    · obtain ⟨m, hm⟩ := hc
      exact ⟨m, Or.inl hm⟩
    · obtain ⟨m, hm⟩ := ih ((isRegistered_concat.1 h).resolve_right hc)
      exact ⟨m, Or.inr ⟨not_exists.1 hc, hm⟩⟩

/-- Another call does not change which of two steps was registered first. -/
theorem IsRegisteredBefore.concat (h : IsRegisteredBefore calls s s') (c : Call α) :
    IsRegisteredBefore (calls ++ [c]) s s' := by
  obtain ⟨before, later, rfl, hs, hs'⟩ := h
  exact ⟨before, later ++ [c], List.append_assoc _ _ _, hs, hs'⟩

theorem IsRegisteredBefore.ne (h : IsRegisteredBefore calls s s') : s ≠ s' := by
  rintro rfl
  obtain ⟨before, -, -, hs, hs'⟩ := h
  exact hs' hs

/-- What a table of migrations holds, by the calls that were made. -/
structure Reflects (calls : List (Call α)) (t : Table Step α) : Prop where
  latest : ∀ s migration, t.get? s = some migration ↔ IsLatest calls s migration
  order : t.keys.Pairwise (IsRegisteredBefore calls)

/-- A table that reflects the calls has the steps that are registered. -/
theorem Reflects.mem_keys_iff {t : Table Step α} (h : Reflects calls t) :
    s ∈ t.keys ↔ IsRegistered calls s := by
  simp only [Table.mem_keys_iff, h.latest]
  exact ⟨fun ⟨_, hlatest⟩ => hlatest.isRegistered, exists_isLatest⟩

theorem Reflects.get?_eq_none_iff {t : Table Step α} (h : Reflects calls t) :
    t.get? s = none ↔ ¬ IsRegistered calls s := by
  rw [← h.mem_keys_iff, Table.mem_keys_iff, ← Option.isSome_iff_exists,
    Option.not_isSome_iff_eq_none]

/-- **Step.** A call keeps what the registry holds in accord with the calls. -/
theorem Reflects.call (h : Reflects calls r.entries) (c : Call α) :
    Reflects (calls ++ [c]) (r.call c).2.entries := by
  have hold : r.entries.keys.Pairwise (IsRegisteredBefore (calls ++ [c])) :=
    h.order.imp fun hab => hab.concat c
  rcases entries_call r c with ⟨s, migration, hc, hr⟩ | ⟨hc, hr⟩
  · rw [hr]
    constructor
    · intro k m
      rw [Table.get?_put, isLatest_concat, ← h.latest]
      -- the call decides for its own step only, and every other step is as before
      by_cases hk : k = s
      · subst hk
        rw [if_pos BEq.rfl, Option.some.injEq]
        constructor
        · rintro rfl
          exact Or.inl hc
        · rintro (hm | ⟨hno, -⟩)
          · exact (hc.unique hm).2
          · exact absurd hc (hno migration)
      · have hno : ∀ m', ¬ c.Registers k m' := fun m' hm' => hk (hm'.unique hc).1
        rw [if_neg (by rwa [beq_iff_eq])]
        exact ⟨fun hget => Or.inr ⟨hno, hget⟩, fun hor => (hor.resolve_left (hno m)).2⟩
    · rw [Table.keys_put]
      split
      · exact hold
      · rename_i hfresh
        rw [List.contains_iff_mem, h.mem_keys_iff] at hfresh
        refine List.pairwise_append.2 ⟨hold, List.pairwise_singleton _ _, fun a ha b hb => ?_⟩
        rw [List.mem_singleton.1 hb]
        exact ⟨calls, [c], rfl, h.mem_keys_iff.1 ha, hfresh⟩
  · rw [hr]
    refine ⟨fun k m => ?_, hold⟩
    rw [isLatest_concat, ← h.latest]
    exact ⟨fun hget => Or.inr ⟨hc k, hget⟩, fun hor => (hor.resolve_left (hc k m)).2⟩

/-- **Run.** A registry holds what the calls that it saw registered. -/
theorem reflects_after (calls : List (Call α)) : Reflects calls (after calls).entries := by
  induction calls using List.reverseRecOn with
  | nil =>
    refine ⟨fun s m => iff_of_false nofun ?_, List.Pairwise.nil⟩
    rintro ⟨before, c, later, hcalls, -⟩
    exact nomatch List.append_eq_nil_iff.1 hcalls.symm
  | append_singleton calls c ih =>
    rw [after_concat]
    exact ih.call c

-- ---------------------------------------------------------------------------
-- Registries under printed steps
-- ---------------------------------------------------------------------------

/-- Migrations by printed step. -/
structure Printed (α : Type) where
  entries : Table String α

namespace Printed

/-- What a step between two versions is printed as. -/
def key (source target : String) : Except Failure String := do
  return (← Step.ofTexts source target).text

def register (p : Printed α) (source target : String) (migration : α) :
    Except Failure (Printed α) := do
  let targetVersion ← Version.ofText target
  let sourceVersion ← Version.ofText source
  if targetVersion.le sourceVersion then .error (.value (.backwards source target))
  else return ⟨p.entries.put (← key source target) migration⟩

def list (p : Printed α) : List String := p.entries.keys

def get (p : Printed α) (source target : String) : Except Failure (Option α) := do
  let k ← key source target
  match p.entries.get? k with
  | some migration => return some migration
  | none =>
    if (← Version.ofText source).major = (← Version.ofText target).major then return none
    else .error (.unknownMigration k p.list)

def has (p : Printed α) (source target : String) : Except Failure Bool := do
  return (p.entries.get? (← key source target)).isSome

/-- The outcome of a call, and what is kept after it. -/
def call (p : Printed α) : Call α → Except Failure (Answer α) × Printed α
  | .register source target migration =>
    match p.register source target migration with
    | .ok p' => (.ok .registered, p')
    | .error e => (.error e, p)
  | .get source target => ((p.get source target).map .migration, p)
  | .has source target => ((p.has source target).map .known, p)
  | .list => (.ok (.steps p.list), p)

/-- What is kept after a row of calls, from nothing. -/
def after (calls : List (Call α)) : Printed α := calls.foldl (fun p c => (p.call c).2) ⟨[]⟩

theorem after_concat (calls : List (Call α)) (c : Call α) :
    after (calls ++ [c]) = ((after calls).call c).2 := by
  rw [after, List.foldl_append]
  rfl

/-- A registry, with its steps printed. -/
def ofRegistry (r : Registry α) : Printed α :=
  ⟨r.entries.map fun (s, migration) => (s.text, migration)⟩

/-- A step is found under its text. -/
theorem get?_ofRegistry (r : Registry α) (s : Step) :
    (ofRegistry r).entries.get? s.text = r.entries.get? s :=
  (Table.get?_map Step.text_injective id r.entries s).trans (congrFun Option.map_id _)

/-- Both registries list the same texts. -/
theorem list_ofRegistry (r : Registry α) : (ofRegistry r).list = r.list := by
  rw [list, Registry.list, ofRegistry, Table.keys, Table.keys, List.map_map, List.map_map]
  rfl

theorem key_eq_of_isStated (h : s.IsStated source target) : key source target = .ok s.text := by
  rw [key, Step.ofTexts_eq_ok.2 h]
  rfl

/-- Registering under texts is registering under steps. -/
theorem register_ofRegistry (r : Registry α) (source target : String) (migration : α) :
    (ofRegistry r).register source target migration =
      (r.register source target migration).map ofRegistry := by
  rw [register, Registry.register]
  cases hw : Version.ofText target with
  | error e => rfl
  | ok w =>
    cases hv : Version.ofText source with
    | error e => rfl
    | ok v =>
      simp only [ok_bind, key_eq_of_isStated (s := ⟨v, w⟩) ⟨hv, hw⟩]
      split
      · rfl
      · have hput := Table.put_map Step.text_injective id r.entries ⟨v, w⟩ migration
        exact congrArg (fun t => Except.ok (Printed.mk t)) hput

/-- Both registries find the same migrations, and refuse the same texts. -/
theorem get_ofRegistry (r : Registry α) (source target : String) :
    (ofRegistry r).get source target = r.get source target := by
  rw [get, Registry.get]
  cases h : Step.ofTexts source target with
  | error e =>
    rw [key, h]
    rfl
  | ok s =>
    have hs := Step.ofTexts_eq_ok.1 h
    rw [key_eq_of_isStated hs, ok_bind, ok_bind, get?_ofRegistry, hs.1, hs.2, list_ofRegistry]
    rfl

/-- Both registries have the same steps, and refuse the same texts. -/
theorem has_ofRegistry (r : Registry α) (source target : String) :
    (ofRegistry r).has source target = r.has source target := by
  rw [has, Registry.has]
  cases h : Step.ofTexts source target with
  | error e =>
    rw [key, h]
    rfl
  | ok s =>
    rw [key_eq_of_isStated (Step.ofTexts_eq_ok.1 h), ok_bind, ok_bind, get?_ofRegistry]

/-- **Step.** Printing its steps changes no answer of a registry. -/
theorem call_ofRegistry (r : Registry α) (c : Call α) :
    (ofRegistry r).call c = ((r.call c).1, ofRegistry (r.call c).2) := by
  cases c with
  | register source target migration =>
    rw [call, Registry.call, register_ofRegistry]
    cases r.register source target migration <;> rfl
  | get source target => rw [call, Registry.call, get_ofRegistry]
  | has source target => rw [call, Registry.call, has_ofRegistry]
  | list => rw [call, Registry.call, list_ofRegistry]

/-- **Run.** Kept under printed steps, a registry is the one that keeps the steps, printed. -/
theorem after_eq_ofRegistry (calls : List (Call α)) :
    after calls = ofRegistry (Registry.after calls) := by
  induction calls using List.reverseRecOn with
  | nil => rfl
  | append_singleton calls c ih =>
    rw [after_concat, ih, call_ofRegistry, Registry.after_concat]

end Printed

-- ---------------------------------------------------------------------------
-- Answers
-- ---------------------------------------------------------------------------

theorem has_of_isStated (h : s.IsStated source target) :
    r.has source target = .ok (r.entries.get? s).isSome := by
  rw [has, Step.ofTexts_eq_ok.2 h]
  rfl

theorem get_of_isStated (h : s.IsStated source target) :
    r.get source target = match r.entries.get? s with
      | some migration => .ok (some migration)
      | none => if s.source.major = s.target.major then .ok none
        else .error (.unknownMigration s.text r.list) := by
  rw [get, Step.ofTexts_eq_ok.2 h]
  rfl

/-- A registration that fails, fails for a wrong value, and is as if it had not been called. -/
theorem after_of_register_eq_error {e : Failure}
    (h : (after calls).register source target migration = .error e) :
    (∃ fault, e = .value fault) ∧
      after (calls ++ [.register source target migration]) = after calls := by
  refine ⟨failsWithin_register e h, ?_⟩
  rw [after_concat, call, h]

/-- **Answers.** After any calls, a registry kept under printed steps answers like the one that
keeps the steps. A migration is registered exactly if both texts state versions, the target a later
one; else a wrong value is reported, and nothing changes. For texts that state a step, whatever they
are, the registry knows whether it was registered and gives what it was last registered with; for a
step that was not, none is needed within a major version, and otherwise the failure names it. The
steps are listed once each in the order of their first registrations, and each is read again from
what it is listed as. -/
theorem answers_by_history (calls : List (Call α)) :
    (∀ c, ((Printed.after calls).call c).1 = ((after calls).call c).1) ∧
    (∀ source target migration,
      ((∃ r, (after calls).register source target migration = .ok r) ↔
        ∃ s : Step, s.IsStated source target ∧ s.IsForward) ∧
      ∀ e, (after calls).register source target migration = .error e →
        (∃ fault, e = .value fault) ∧
          after (calls ++ [.register source target migration]) = after calls) ∧
    (∀ (s : Step) source target, s.IsStated source target →
      (∃ found, (after calls).has source target = .ok found ∧
        (found = true ↔ IsRegistered calls s)) ∧
      (∀ migration, (after calls).get source target = .ok (some migration) ↔
        IsLatest calls s migration) ∧
      (IsRegistered calls s → ∃ migration, IsLatest calls s migration) ∧
      (¬ IsRegistered calls s → (after calls).get source target =
        if s.source.major = s.target.major then .ok none
        else .error (.unknownMigration s.text (after calls).list))) ∧
    ∃ steps : List Step, (after calls).list = steps.map Step.text ∧ steps.Nodup ∧
      (∀ s, s ∈ steps ↔ IsRegistered calls s) ∧ steps.Pairwise (IsRegisteredBefore calls) ∧
      ∀ s ∈ steps, (∃ a b, s.text = a ++ "->" ++ b) ∧
        ∀ a b, s.text = a ++ "->" ++ b → s.IsStated a b := by
  -- the table holds the latest registration of each step, in order of the first
  have hreflects := reflects_after calls
  refine ⟨fun c => ?_, fun source target migration => ⟨?_, fun _ => after_of_register_eq_error⟩,
    fun s source target hs => ⟨?_, fun migration => ?_, exists_isLatest, fun hno => ?_⟩, ?_⟩
  · rw [Printed.after_eq_ofRegistry, Printed.call_ofRegistry]
  · simp only [register_eq_ok]
    exact ⟨fun ⟨_, s, hs, hforward, _⟩ => ⟨s, hs, hforward⟩,
      fun ⟨s, hs, hforward⟩ => ⟨_, s, hs, hforward, rfl⟩⟩
  · refine ⟨_, has_of_isStated hs, ?_⟩
    rw [← hreflects.mem_keys_iff, Table.mem_keys_iff, Option.isSome_iff_exists]
  · rw [get_of_isStated hs, ← hreflects.latest]
    cases (after calls).entries.get? s with
    | some found => simp
    | none => by_cases hmajor : s.source.major = s.target.major <;> simp [hmajor]
  · rw [get_of_isStated hs, hreflects.get?_eq_none_iff.2 hno]
  · refine ⟨(after calls).entries.keys, rfl, hreflects.order.imp IsRegisteredBefore.ne,
      fun s => hreflects.mem_keys_iff, hreflects.order,
      fun s hs => ⟨⟨_, _, rfl⟩, fun a b htext => ?_⟩⟩
    obtain ⟨c, -, migration, source, target, -, hstated, -⟩ := hreflects.mem_keys_iff.1 hs
    exact Step.isStated_of_text hstated htext

/-- A step that is registered backwards, and one that is registered twice, written differently. -/
example : (after [.register "3.0.0" "4.0.0" 1, .register "4.0.0" "3.0.0" 2,
    .register "03.0.0" "٤.0.0" 3]).entries = [(⟨⟨3, 0, 0⟩, ⟨4, 0, 0⟩⟩, 3)] := by
  decide

end Registry

end Regenesis
