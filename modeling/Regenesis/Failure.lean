import Regenesis.Decimal.Integer
import Regenesis.Hex
import Regenesis.Record.Issue

/-!
# Failure — why a migration does not succeed

Every way to fail is a cause with the data that its message shows. The causes fall into classes:
damaged records, heights and lengths out of range, history that the store does not hold, faults of
the store itself, a token supply that does not add up, an incomplete network configuration. These
are the failures of a migration. Apart from them stand values that cannot be read or written at all,
files that cannot be written, names that nothing is registered under, and a scan that cannot go on
or whose pages have no size that the store takes.
-/

namespace Regenesis

/-- What is wrong with a stored record. -/
inductive DecodeFault where
  /-- It does not fit its schema. -/
  | schema (name : String) (issues : List Record.Issue)
  /-- An account is stored under another address than the one it states. -/
  | foreignAddress (address : Octets)
  /-- A height leads to a block that is not stored. -/
  | missingBlock (id : Octets)
  /-- A height, given as text, leads to a block that states another height. -/
  | foreignHeight (indexed : String) (stated : Nat)
  /-- A list of transaction ids is not made of whole ids. -/
  | brokenIdList (length : Nat)
  /-- A block lists a transaction that is not stored. -/
  | missingTransaction
deriving DecidableEq, Repr

/-- What is out of range. -/
inductive RangeFault where
  /-- A height that no key can hold. -/
  | heightOutside (height greatest : Int)
  /-- The previous snapshot is not before the snapshot. -/
  | previousNotBelow (previous snapshot : Int)
  /-- A range of heights that ends before it begins. -/
  | emptyBlockRange (first last : Int)
  /-- A round that is not at least one block long. -/
  | roundLength (length : Int)
deriving DecidableEq, Repr

/-- What the store does not remember. -/
inductive HistoryFault where
  /-- The top delegates of the round that selects the first validators. -/
  | topDelegates (round : String)
  /-- The block of the snapshot. -/
  | snapshotBlock (height : Int)
deriving DecidableEq, Repr

/-- What the store could not do. -/
inductive StorageFault where
  | read (key : Octets)
  | write (store : String)
  | scan (low high : Octets)
  | opening (path : String)
deriving DecidableEq, Repr

/-- What could not be made sense of. -/
inductive ValueFault where
  /-- A hex text, wrong at a position. -/
  | hex (position : Nat)
  /-- A text that is not a hex byte string. -/
  | notHex (text : String)
  /-- An integer without text, or a text without integer. -/
  | integer (fault : Decimal.IntegerFault)
  /-- An address of a length other than 20. -/
  | addressLength (length : Nat)
  /-- A text that is not Bech32. -/
  | bech32
  /-- A Bech32 text whose groups are not whole bytes. -/
  | bech32Groups
  /-- A text that is not a version. -/
  | version (text : String)
  /-- A migration to a version that is not later. -/
  | backwards (source target : String)
  /-- A value that is nested too deep to be written. -/
  | tooDeep
deriving DecidableEq, Repr

/-- Why nothing can be done at a path. -/
inductive PathFault where
  /-- Nothing is there. -/
  | missing
  /-- Something is there already. -/
  | taken
  /-- A name is to be looked up in what is not a folder. -/
  | notFolder
  /-- A folder is there, and a file is wanted. -/
  | folder
  /-- A name is longer than names can be. -/
  | nameTooLong
  /-- There is a null character in the path. -/
  | null
deriving DecidableEq, Repr

/-- Why an operation fails. -/
inductive Failure where
  | decode (key : Octets) (fault : DecodeFault)
  | range (fault : RangeFault)
  | history (fault : HistoryFault)
  | storage (fault : StorageFault)
  /-- What the users hold of a token is not its declared supply. -/
  | supply (token held declared : String)
  /-- The network has no chain name. -/
  | chainName (network : String)
  | value (fault : ValueFault)
  /-- Nothing can be written at a path. -/
  | path (text : String) (fault : PathFault)
  /-- No network has this name. -/
  | unknownNetwork (name : String)
  /-- A change of protocol for which no migration is registered. -/
  | unknownMigration (step : String) (registered : List String)
  /-- A private key of a length other than 32. -/
  | privateKeyLength (length : Nat)
  /-- A scan whose page is never short found no row to continue from. -/
  | scanStuck
  /-- A page size is no integer of the store. -/
  | pageSizeOutside
deriving DecidableEq, Repr

-- ---------------------------------------------------------------------------
-- Classes
-- ---------------------------------------------------------------------------

/-- Whether a failure is one that a migration reports about the data it is given. -/
def Failure.isMigrationFailure : Failure → Bool
  | .decode .. | .range _ | .history _ | .storage _ | .supply .. | .chainName _ => true
  | .value _ | .path .. | .unknownNetwork _ | .unknownMigration .. | .privateKeyLength _
  | .scanStuck | .pageSizeOutside => false

-- ---------------------------------------------------------------------------
-- Messages
-- ---------------------------------------------------------------------------

/-- The reason why a record cannot be decoded. -/
def DecodeFault.message : DecodeFault → String
  | .schema name issues => Record.headline name issues
  | .foreignAddress address =>
    "stored under another address than its record " ++ Hex.encode address
  | .missingBlock id => "block " ++ Hex.encode id ++ " is indexed but missing"
  | .foreignHeight indexed stated => s!"indexed at height {indexed} but header says {stated}"
  | .brokenIdList length => s!"transaction id list of {length} bytes"
  | .missingTransaction => "transaction is listed in its block but missing"

/-- The message of a range fault. -/
def RangeFault.message : RangeFault → String
  | .heightOutside height greatest => s!"Height {height} outside 0..{greatest}"
  | .previousNotBelow previous snapshot =>
    s!"Previous snapshot height {previous} must be below snapshot height {snapshot}"
  | .emptyBlockRange first last => s!"Block range {first}..{last} is empty"
  | .roundLength length => s!"Round length must be positive, got {length}"

/-- The message of a history fault. -/
def HistoryFault.message : HistoryFault → String
  | .topDelegates round =>
    s!"Top delegates for round {round} (r-2) unavailable, cannot select initial validators"
  | .snapshotBlock height => s!"No block stored at snapshot height {height}"

/-- The message of a storage fault. -/
def StorageFault.message : StorageFault → String
  | .read key => "Read of " ++ Text.quoteOctets key ++ " failed"
  | .write store => s!"Write to {store} failed"
  | .scan low high =>
    "Range scan " ++ Text.quoteOctets low ++ ".." ++ Text.quoteOctets high ++ " failed"
  | .opening path => s!"Cannot open store {path}"

/-- The end of both messages about the digits of an integer. -/
def digitLimitHint : String := "use sys.set_int_max_str_digits() to increase the limit"

/-- The message of an integer fault. A quoted text is cut off after 200 characters. -/
def integerMessage : Decimal.IntegerFault → String
  | .notInteger text =>
    "invalid literal for int() with base 10: "
      ++ String.ofList ((Text.quote text).toList.take 200)
  | .tooManyDigits count =>
    s!"Exceeds the limit ({Decimal.maxDigits} digits) for integer string conversion: " ++
      s!"value has {count} digits; {digitLimitHint}"
  | .tooLarge =>
    s!"Exceeds the limit ({Decimal.maxDigits} digits) for integer string conversion; " ++
      digitLimitHint

/-- The message of a value fault. -/
def ValueFault.message : ValueFault → String
  | .hex position => s!"non-hexadecimal number found in fromhex() arg at position {position}"
  | .notHex text => "not a hex byte string: " ++ Text.quote text
  | .integer fault => integerMessage fault
  | .addressLength length => s!"Address must be 20 bytes, got {length}"
  | .bech32 => "Invalid bech32 address"
  | .bech32Groups => "Error converting from bech32 words"
  | .version text => s!"Invalid version format: {text}"
  | .backwards source target => s!"Cannot migrate backwards from {source} to {target}"
  | .tooDeep => "Maximum serialization depth exceeded"

/-- The message of a path fault: the number and the words of the system, and the path. A null
character never comes before the system. -/
def PathFault.message (path : String) : PathFault → String
  | .missing => "[Errno 2] No such file or directory: " ++ Text.quote path
  | .taken => "[Errno 17] File exists: " ++ Text.quote path
  | .notFolder => "[Errno 20] Not a directory: " ++ Text.quote path
  | .folder => "[Errno 21] Is a directory: " ++ Text.quote path
  | .nameTooLong => "[Errno 36] File name too long: " ++ Text.quote path
  | .null => "embedded null byte"

/-- The message of a failure. -/
def Failure.message : Failure → String
  | .decode key fault => "Cannot decode record " ++ Text.quoteOctets key ++ ": " ++ fault.message
  | .range fault => fault.message
  | .history fault => fault.message
  | .storage fault => fault.message
  | .supply token held declared =>
    s!"Token {token}: user balances add up to {held}, supply declares {declared}"
  | .chainName network => s!"Network {network} has no chain name"
  | .value fault => fault.message
  | .path text fault => fault.message text
  | .unknownNetwork name => name
  | .unknownMigration step registered =>
    s!"Migration required for {step} but not found. Registered: " ++
      (if registered.isEmpty then "none" else ", ".intercalate registered)
  | .privateKeyLength length => s!"Invalid length of private key, received {length}, expected 32"
  | .scanStuck => "list index out of range"
  | .pageSizeOutside => "Python int too large to convert to SQLite INTEGER"

-- ---------------------------------------------------------------------------
-- Readers and writers that fail
-- ---------------------------------------------------------------------------

/-- The bytes of a hex text. -/
def Hex.readText (s : String) : Except Failure Octets :=
  match Hex.decode s with
  | .ok b => .ok b
  | .error position => .error (.value (.hex position))

/-- The canonical hex text of the same bytes. -/
def Hex.normalizeText (s : String) : Except Failure String :=
  match Hex.normalize s with
  | .ok t => .ok t
  | .error _ => .error (.value (.notHex s))

/-- The integer of a decimal text. -/
def Decimal.readText (s : String) : Except Failure Int :=
  match Decimal.read s with
  | .ok n => .ok n
  | .error fault => .error (.value (.integer fault))

/-- The decimal text of an integer. -/
def Decimal.writeText (n : Int) : Except Failure String :=
  match Decimal.write n with
  | .ok s => .ok s
  | .error fault => .error (.value (.integer fault))

/-- Prints integers into the log or into a message. An integer that is too long to be written is a
failure. -/
def Decimal.print (ns : List Int) : Except Failure Unit := do
  let _ ← ns.mapM writeText

end Regenesis
