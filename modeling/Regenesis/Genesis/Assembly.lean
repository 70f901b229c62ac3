import Regenesis.Genesis.Interoperability
import Regenesis.Genesis.Legacy
import Regenesis.Genesis.Stake
import Regenesis.Genesis.Token
import Regenesis.Snapshot.Observation

/-!
# Genesis.Assembly — the assets of all modules

A snapshot becomes five assets in alphabetical order of their modules. The legacy asset comes first,
since the token asset needs the sum of the legacy balances. The first failure ends the assembly.
-/

namespace Regenesis.Genesis

/-- The assets of a snapshot. -/
def assemble (s : Snapshot) (keys : Stake.KeyTexts) (n : Network) :
    Except Failure (List Asset) := do
  let legacy ← Legacy.asset s.legacyAccounts
  let token ← Token.asset s.accounts (Legacy.reserveAmount s.legacyAccounts) n
  let auth ← Auth.asset s.accounts n
  let stake ← Stake.asset s.accounts keys s.voteWeights s.height n
  let interoperability ← Interoperability.asset n
  return sortAssets [legacy, token, auth, stake, interoperability]

/-- Reads a snapshot from a store and assembles its assets. -/
def readAssets (db : Database) (height previous : Int) (n : Network) :
    Except Failure (Snapshot × List Asset) := do
  let snapshot ← Snapshot.load db height previous
  let keys ← Snapshot.resolveValidatorKeys db snapshot.accounts height previous
  return (snapshot, ← assemble snapshot (Stake.keyTexts keys) n)

end Regenesis.Genesis
