import Regenesis.Migration.Version
import Regenesis.Table

/-!
# Migration.Registry — which migration leads from one version to another

A registry maps steps from one version to a later one to migrations, whatever these are. Steps are
listed in the order in which they were first registered; registering a step again replaces its
migration. Asked for a step that is not registered, it answers that none is needed if the major
version stays the same.
-/

namespace Regenesis

/-- A change from one version to another. -/
structure Step where
  source : Version
  target : Version
deriving DecidableEq, Repr

/-- The text of a step. -/
def Step.text (s : Step) : String := s.source.text ++ "->" ++ s.target.text

/-- The step between the versions that two texts state. -/
def Step.ofTexts (source target : String) : Except Failure Step := do
  return ⟨← Version.ofText source, ← Version.ofText target⟩

/-- Migrations by step. -/
structure Registry (α : Type) where
  entries : Table Step α

namespace Registry

variable {α : Type}

/-- The registry without migrations. -/
def empty : Registry α := ⟨[]⟩

/-- Registers a migration. The target is looked at first, and must be later than the source. -/
def register (r : Registry α) (source target : String) (migration : α) :
    Except Failure (Registry α) := do
  let targetVersion ← Version.ofText target
  let sourceVersion ← Version.ofText source
  if targetVersion.le sourceVersion then .error (.value (.backwards source target))
  else return ⟨r.entries.put ⟨sourceVersion, targetVersion⟩ migration⟩

/-- The registered steps as texts, in the order in which they were first registered. -/
def list (r : Registry α) : List String := r.entries.keys.map Step.text

/-- The migration of a step; `none` if none is needed. -/
def get (r : Registry α) (source target : String) : Except Failure (Option α) := do
  let s ← Step.ofTexts source target
  match r.entries.get? s with
  | some migration => return some migration
  | none =>
    if s.source.major = s.target.major then return none
    else .error (.unknownMigration s.text r.list)

/-- Whether a step is registered. -/
def has (r : Registry α) (source target : String) : Except Failure Bool := do
  return (r.entries.get? (← Step.ofTexts source target)).isSome

end Registry

end Regenesis
