import Regenesis.Failure
import Regenesis.Address.Bech32
import Regenesis.Digest.Sha256

/-!
# Address — accounts by key and by name

An account's address is the first twenty bytes of the digest of its public key. For people it is
written as a Bech32 text whose label tells the network. A text is the address of an account only if
it stands for twenty bytes.
-/

namespace Regenesis.Address

/-- The length of an address. -/
def length : Nat := 20

/-- The address of a public key. -/
def ofPublicKey (key : Octets) : Octets := (Digest.sha256 key).take length

/-- The Bech32 text of an address. -/
def toText (label : String) (address : Octets) : Except Failure String :=
  if address.length = length then
    .ok (String.ofList (Bech32.encode label.toList (Bech32.toGroups address)))
  else .error (.value (.addressLength address.length))

/-- The Bech32 text of an address in hex. -/
def hexToText (label : String) (hex : String) : Except Failure String := do
  toText label (← Hex.readText hex)

/-- The label and the bytes of a Bech32 text. -/
def ofText (s : String) : Except Failure (String × Octets) :=
  match Bech32.decode? s.toList with
  | none => .error (.value .bech32)
  | some (label, groups) =>
    match Bech32.ofGroups? groups with
    | none => .error (.value .bech32Groups)
    | some bytes => .ok (String.ofList label, bytes)

/-- Whether a text is the address of an account, of the network of a label if one is asked for. An
empty label asks for none. -/
def isValid (s : String) (label : Option String) : Bool :=
  match ofText s with
  | .error _ => false
  | .ok (found, bytes) =>
    (label.all fun wanted => wanted.isEmpty || wanted == found) && bytes.length == length

end Regenesis.Address
