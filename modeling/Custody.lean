import Custody.Ed25519.Signature
import Custody.Json.Text
import Custody.Node
import Custody.Main
import Custody.Proofs.Relationship
import Custody.Proofs.DoubleSpend
import Custody.Proofs.Duality
import Custody.Proofs.Siblings
import Custody.Proofs.Encoding
import Custody.Proofs.Signing
import Custody.Proofs.Hex
import Custody.Proofs.AuditChain
import Custody.Proofs.Ledger.Acceptance
import Custody.Proofs.Ledger.OneToken
import Custody.Proofs.Ledger.Provenance
import Custody.Proofs.Ledger.Ownership
import Custody.Proofs.Ledger.EmptyLeaf
import Custody.Proofs.Ledger.Contention
import Custody.Proofs.Ledger.Replica
import Custody.Proofs.Ledger.Mobility
import Custody.Proofs.Ledger.Seeding
import Custody.Proofs.Ledger.Inventory
import Custody.Proofs.Log.Retention
import Custody.Proofs.Log.Console
import Custody.Proofs.Desk.Operations
import Custody.Proofs.Desk.Containment
import Custody.Proofs.Desk.Seeding
import Custody.Proofs.Desk.Record
import Custody.Proofs.Registry
import Custody.Proofs.Ed25519
import Custody.Proofs.Genesis
import Custody.Proofs.Host
import Custody.Proofs.Node
import Custody.Proofs.Settings
import Custody.Proofs.Numeral
import Custody.Proofs.Decimal
import Custody.Proofs.HexCodec
import Custody.Proofs.Hexadecimal
import Custody.Proofs.AccountId
import Custody.Proofs.LeafIndex
