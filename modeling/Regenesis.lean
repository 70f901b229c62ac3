import Regenesis.Main
import Regenesis.Ed25519
import Regenesis.Snapshot.Scan
import Regenesis.Snapshot.Writing
import Regenesis.Proofs.Pairing
import Regenesis.Proofs.Outcome
import Regenesis.Proofs.Order
import Regenesis.Proofs.Decimal
import Regenesis.Proofs.Amount
import Regenesis.Proofs.Hex
import Regenesis.Proofs.Address
import Regenesis.Proofs.Address.Checksum
import Regenesis.Proofs.Record.Reordering
import Regenesis.Proofs.Token.Balances
import Regenesis.Proofs.Token.Supply
import Regenesis.Proofs.Token.Locks
import Regenesis.Proofs.Token.Reordering
import Regenesis.Proofs.Stake.Stakers
import Regenesis.Proofs.Stake.Reordering
import Regenesis.Proofs.Assembly.Parts
import Regenesis.Proofs.Assembly.Failures
import Regenesis.Proofs.Assembly.Success
import Regenesis.Proofs.Assembly.Agreement
import Regenesis.Proofs.Assembly.OrderIndependence
import Regenesis.Proofs.Assembly.Placement
import Regenesis.Proofs.Json.Scalars
import Regenesis.Proofs.Json.Lexing
import Regenesis.Proofs.Json.Compact
import Regenesis.Proofs.Json.Canonical
import Regenesis.Proofs.Json.MemberOrder
import Regenesis.Proofs.Digest.Merkle
import Regenesis.Proofs.Block.Commitment
import Regenesis.Proofs.Table
import Regenesis.Proofs.Json.Reading
import Regenesis.Proofs.Record.Checked
import Regenesis.Proofs.Record.Kinds
import Regenesis.Proofs.Record.Lawful
import Regenesis.Proofs.Record.Models
import Regenesis.Proofs.Record.RoundTrip
import Regenesis.Proofs.Store.Rows
import Regenesis.Proofs.Store.Cursor
import Regenesis.Proofs.Store.Interleaving
import Regenesis.Proofs.Store.Layout
import Regenesis.Proofs.Snapshot.Load
import Regenesis.Proofs.Snapshot.Accounts
import Regenesis.Proofs.Snapshot.Blocks
import Regenesis.Proofs.Snapshot.Writing
import Regenesis.Proofs.Snapshot.RoundTrip
import Regenesis.Proofs.Stake.GeneratorKeys
import Regenesis.Proofs.Json.Indented
import Regenesis.Proofs.Block.File
import Regenesis.Proofs.Snapshot.Window
import Regenesis.Proofs.Snapshot.Failures
import Regenesis.Proofs.Store.Locator
import Regenesis.Proofs.Directory.Writing
import Regenesis.Proofs.Directory.Opening
import Regenesis.Proofs.Migration.Output
import Regenesis.Proofs.Migration.Window
import Regenesis.Proofs.Migration.Failures
import Regenesis.Proofs.CommandLine.Command
import Regenesis.Proofs.CommandLine.Failures
import Regenesis.Proofs.Snapshot.AccountScan
import Regenesis.Proofs.Snapshot.BlockScan
import Regenesis.Proofs.Address.Validity
import Regenesis.Proofs.Snapshot.BlockRoundTrip
import Regenesis.Proofs.Stake.InitialValidators
import Regenesis.Proofs.Migration.Version
import Regenesis.Proofs.Migration.Registry
import Regenesis.Proofs.Token.Tampering
