import Regenesis.Genesis.Asset
import Regenesis.Network

/-!
# Genesis.Interoperability — the chain among other chains

The interoperability module starts with the chain's own name and with no other chain registered or
terminated.
-/

namespace Regenesis.Genesis.Interoperability

/-- The shape of the module's data. -/
def descriptor : Json.Descriptor where
  root := ⟨"GenesisInteroperabilityStore", [
    { name := "ownChainName", kind := .text },
    { name := "ownChainNonce", kind := .text },
    { name := "chainInfos", kind := .list .openObject, required := false },
    { name := "terminatedStateAccounts", kind := .list .openObject, required := false },
    { name := "terminatedOutboxAccounts", kind := .list .openObject, required := false }]⟩
  definitions := []

/-- The asset of the interoperability module. -/
def asset (n : Network) : Except Failure Asset :=
  if n.chainName.isEmpty then .error (.chainName n.networkId)
  else
    let data : Json := .obj [
      ("ownChainName", .str n.chainName),
      ("ownChainNonce", .str "0"),
      ("chainInfos", .arr []),
      ("terminatedStateAccounts", .arr []),
      ("terminatedOutboxAccounts", .arr [])]
    .ok ⟨"interoperability", data, descriptor.schema⟩

end Regenesis.Genesis.Interoperability
