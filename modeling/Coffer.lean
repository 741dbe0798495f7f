import Coffer.Text.Blank
import Coffer.Text.LowerCase
import Coffer.Text.Escapable
import Coffer.Text.Compatibility
import Coffer.Bytes
import Coffer.Bytes.Hex
import Coffer.Text.Utf8
import Coffer.Hash.Sha256
import Coffer.Hash.Sha512
import Coffer.Hash.Blake2b
import Coffer.Hash.Hmac
import Coffer.Hash.Ripemd160
import Coffer.Stretch.Argon2
import Coffer.Stretch.Pbkdf2
import Coffer.Aead.Aes
import Coffer.Aead.Gcm
import Coffer.Json.Basic
import Coffer.Json.Number
import Coffer.Json.Text
import Coffer.Json.Record
import Coffer.SortedMap
import Coffer.Balance
import Coffer.Checksum
import Coffer.Error
import Coffer.Cipher
import Coffer.Cipher.Sealed
import Coffer.KeySource
import Coffer.Toy
import Coffer.Curve.Secp256k1
import Coffer.KeySource.ExtendedKey
import Coffer.KeySource.Hierarchical
import Coffer.Phrase
import Coffer.Account
import Coffer.Body
import Coffer.Imported
import Coffer.Payload.Accounts
import Coffer.Payload.Document
import Coffer.Payload.Imports
import Coffer.Payload.Transition
import Coffer.Allocator
import Coffer.BalanceCache
import Coffer.Store
import Coffer.Wrapper
import Coffer.Synchronizer
import Coffer.Config
import Coffer.Wallet.Addresses
import Coffer.Wallet.Balances
import Coffer.Wallet.Changes
import Coffer.Wallet.Recovery
import Coffer.Error.Code
import Coffer.Json.Lenient
import Coffer.Payload.Description
import Coffer.Payload.Overview
import Coffer.Script.Commands
import Coffer.Script.Collaborators
import Coffer.Setting
import Coffer.Setting.Documents
import Coffer.Setting.Toml
import Coffer.Config.Sources
import Coffer.Proofs.Json.Spelling
import Coffer.Proofs.Json.Reading
import Coffer.Proofs.Json.Record
import Coffer.Proofs.Instant
import Coffer.Proofs.Payload.Document
import Coffer.Proofs.Wrapper
import Coffer.Proofs.Synchronizer.Updates
import Coffer.Proofs.Cipher
import Coffer.Proofs.Store
import Coffer.Proofs.Synchronizer.Calls
import Coffer.Proofs.Synchronizer.Fleet
import Coffer.Proofs.Synchronizer.Coherence
import Coffer.Proofs.Cipher.Sealed
import Coffer.Proofs.Payload.Secrets
import Coffer.Proofs.Payload.Accounts
import Coffer.Proofs.Payload.Effect
import Coffer.Proofs.Payload.Reading
import Coffer.Proofs.Payload.Preservation
import Coffer.Proofs.Payload.Naturality
import Coffer.Proofs.Payload.Transparency
import Coffer.Proofs.Payload.Growth
import Coffer.Proofs.Allocator
import Coffer.Proofs.Wallet.Steps
import Coffer.Proofs.Wallet.Refusals
import Coffer.Proofs.Wallet.Reached
import Coffer.Proofs.Wallet.Reservations
import Coffer.Proofs.Payload.Upkeep
import Coffer.Proofs.Wallet.Search
import Coffer.Proofs.Wallet.Calls
import Coffer.Proofs.Wallet.Chains
import Coffer.Proofs.Wallet.Announcements
import Coffer.Proofs.Wallet.Acceptance
import Coffer.Proofs.Toy
import Coffer.Proofs.Payload.OnePassword
import Coffer.Proofs.Text
import Coffer.Proofs.Phrase
import Coffer.Proofs.Wallet.Origins
import Coffer.Proofs.Wallet.Recovery
import Coffer.Proofs.Allocator.Counters
import Coffer.Proofs.Wallet.FailedReservations
import Coffer.Proofs.Wallet.Ownership
import Coffer.Proofs.Wallet.Passwords
import Coffer.Proofs.Wallet.Scan
import Coffer.Proofs.Wallet.Strays
import Coffer.Proofs.Payload.Schemes
import Coffer.Proofs.Payload.Commutation
import Coffer.Proofs.Balance
import Coffer.Proofs.BalanceCache
import Coffer.Proofs.Wallet.Balances
import Coffer.Proofs.Phrase.Correspondence
import Coffer.Proofs.Bytes.Number
import Coffer.Proofs.Text.Base58
import Coffer.Proofs.Curve.Field
import Coffer.Proofs.Curve.Group
import Coffer.Proofs.Curve.Multiples
import Coffer.Proofs.Curve.Encoding
import Coffer.Proofs.KeySource.Derivation
import Coffer.Proofs.KeySource.Control
import Coffer.Proofs.Cipher.RoundTrip
import Coffer.Proofs.Payload.Rewriting
import Coffer.Proofs.Allocator.Search
