import Regenesis.Record.Account

/-!
# Record.Block — the blocks of the source chain

A block's header states its id, its height and time, the block before it, and the key that generated
it. A transaction states its id, what it calls, and the key that sent it; its parameters are kept as
they are.
-/

namespace Regenesis.Record

/-- The header of a block. -/
structure BlockHeader where
  id : Octets
  height : Nat
  /-- Seconds of Unix time. -/
  timestamp : Nat
  /-- Empty for the first block. -/
  previousBlockId : Octets
  version : Int
  generatorPublicKey : Octets
deriving DecidableEq, Repr

/-- Reads a header. By default it follows no block and has version 2. -/
def BlockHeader.ofJson : Json → Checked BlockHeader :=
  readRecord fun m => closed ["id", "height", "timestamp", "previous_block_id", "version",
      "generator_public_key"] m
    (mk <$> required "id" hex m
      <*> required "height" natural m
      <*> required "timestamp" natural m
      <*> optional "previous_block_id" hex [] m
      <*> optional "version" integer 2 m
      <*> required "generator_public_key" hex m)

/-- Writes a header. -/
def BlockHeader.toJson (h : BlockHeader) : Json := .obj [
  ("id", hexJson h.id),
  ("height", natJson h.height),
  ("timestamp", natJson h.timestamp),
  ("previous_block_id", hexJson h.previousBlockId),
  ("version", .int h.version),
  ("generator_public_key", hexJson h.generatorPublicKey)]

/-- A transaction. -/
structure Transaction where
  id : Octets
  moduleName : String
  command : String
  nonce : Nat
  fee : Nat
  senderPublicKey : Octets
  params : Json.Members
deriving Repr

/-- Reads a transaction. By default nonce and fee are zero and there are no parameters. -/
def Transaction.ofJson : Json → Checked Transaction :=
  readRecord fun m => closed ["id", "module", "command", "nonce", "fee", "sender_public_key",
      "params"] m
    (mk <$> required "id" hex m
      <*> required "module" text m
      <*> required "command" text m
      <*> optional "nonce" natural 0 m
      <*> optional "fee" natural 0 m
      <*> required "sender_public_key" hex m
      <*> optional "params" object [] m)

/-- Writes a transaction. -/
def Transaction.toJson (t : Transaction) : Json := .obj [
  ("id", hexJson t.id),
  ("module", .str t.moduleName),
  ("command", .str t.command),
  ("nonce", natJson t.nonce),
  ("fee", natJson t.fee),
  ("sender_public_key", hexJson t.senderPublicKey),
  ("params", .obj t.params)]

end Regenesis.Record
