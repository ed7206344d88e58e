import AccountRelay.Abi
import AccountRelay.Authorization
import AccountRelay.Bundler.Client
import AccountRelay.Bundler.Reply
import AccountRelay.Bytes
import AccountRelay.CommandLine.Command
import AccountRelay.CommandLine.Parameters
import AccountRelay.Contracts
import AccountRelay.Crypto.Ecdsa
import AccountRelay.Crypto.Keccak
import AccountRelay.Crypto.Secp256k1
import AccountRelay.Crypto.Sha256
import AccountRelay.Decimal.Binary64
import AccountRelay.Decimal.Shortest
import AccountRelay.Deployment.Basic
import AccountRelay.Deployment.Document
import AccountRelay.Dialogue
import AccountRelay.DomainName.Basic
import AccountRelay.DomainName.Composition
import AccountRelay.DomainName.Direction
import AccountRelay.DomainName.Joining
import AccountRelay.DomainName.Mapping
import AccountRelay.DomainName.MappingTable
import AccountRelay.DomainName.Mark
import AccountRelay.DomainName.Punycode
import AccountRelay.Draft
import AccountRelay.Duration
import AccountRelay.Environment
import AccountRelay.EnvironmentFile
import AccountRelay.Estimation
import AccountRelay.Failure
import AccountRelay.Gas
import AccountRelay.Hex
import AccountRelay.Http.Request
import AccountRelay.Http.Status
import AccountRelay.Input
import AccountRelay.Json.Fields
import AccountRelay.Json.Node
import AccountRelay.Json.Printer
import AccountRelay.Json.Reader
import AccountRelay.Json.Value
import AccountRelay.LocalMachine
import AccountRelay.LocalNet
import AccountRelay.Lookup
import AccountRelay.Machine
import AccountRelay.Main
import AccountRelay.Node.Chain
import AccountRelay.Node.Request
import AccountRelay.Numeral
import AccountRelay.Operation.Basic
import AccountRelay.Operation.Body
import AccountRelay.Operation.Hash
import AccountRelay.Operation.Packed
import AccountRelay.Pipeline
import AccountRelay.Power
import AccountRelay.Program
import AccountRelay.Proofs.Addresses
import AccountRelay.Proofs.Authorization
import AccountRelay.Proofs.Bundler
import AccountRelay.Proofs.Concurrency.Serial
import AccountRelay.Proofs.Contracts
import AccountRelay.Proofs.Contracts.Questions
import AccountRelay.Proofs.Deployment
import AccountRelay.Proofs.Deployment.Rewriting
import AccountRelay.Proofs.Estimation
import AccountRelay.Proofs.Gas
import AccountRelay.Proofs.LocalNet.Authorizing
import AccountRelay.Proofs.LocalNet.Building
import AccountRelay.Proofs.LocalNet.Candor
import AccountRelay.Proofs.Operation.Binding
import AccountRelay.Proofs.Operation.Lossless
import AccountRelay.Proofs.Operation.Reading
import AccountRelay.Proofs.Pipeline.Candor
import AccountRelay.Proofs.Pipeline.Funding
import AccountRelay.Proofs.Pipeline.InitCode
import AccountRelay.Proofs.Pipeline.Packing
import AccountRelay.Proofs.Pipeline.Placeholders
import AccountRelay.Proofs.Pipeline.Probing
import AccountRelay.Proofs.Pipeline.Widths
import AccountRelay.Proofs.Program.Transferring
import AccountRelay.Proofs.Registry.Appending
import AccountRelay.Proofs.Registry.Creation
import AccountRelay.Proofs.Registry.Growth
import AccountRelay.Proofs.Registry.Reopening
import AccountRelay.Proofs.Registry.Salts
import AccountRelay.Proofs.Registry.Unsaved
import AccountRelay.Proofs.Relay
import AccountRelay.Proofs.SenderLocks.Entries
import AccountRelay.Proofs.SenderLocks.Exclusion
import AccountRelay.Proofs.SenderLocks.Fairness
import AccountRelay.Proofs.Uint256.Quantity
import AccountRelay.Proofs.Waiting
import AccountRelay.Registry.Creation
import AccountRelay.Registry.Record
import AccountRelay.Registry.Store
import AccountRelay.Relay
import AccountRelay.Request
import AccountRelay.Resolution
import AccountRelay.SenderLocks
import AccountRelay.Services
import AccountRelay.Signing
import AccountRelay.Sponsorship
import AccountRelay.Storage.FileTree
import AccountRelay.Storage.Files
import AccountRelay.Storage.Path
import AccountRelay.Submission
import AccountRelay.Text.Alphanumeric
import AccountRelay.Text.Blank
import AccountRelay.Text.Pieces
import AccountRelay.Text.Quoted
import AccountRelay.Text.Ranges
import AccountRelay.Text.Visible
import AccountRelay.Uint256.Basic
import AccountRelay.Uint256.Decimal
import AccountRelay.Uint256.Halves
import AccountRelay.Uint256.Quantity
import AccountRelay.Url.Check
import AccountRelay.Url.Host
import AccountRelay.WalletCall
