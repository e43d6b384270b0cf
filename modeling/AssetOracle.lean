import AssetOracle.Main
import AssetOracle.Policy.Race
import AssetOracle.Proofs.Bitcoin.Import
import AssetOracle.Proofs.Config.Validation
import AssetOracle.Proofs.Registry.Bindings
import AssetOracle.Proofs.Registry.Completion
import AssetOracle.Proofs.Registry.Interleaving
import AssetOracle.Service.Shutdown
import AssetOracle.Proofs.Registry.Bootstrap
import AssetOracle.Proofs.Registry.Names
import AssetOracle.Proofs.Node.Attribution
import AssetOracle.Proofs.Http.Status
import AssetOracle.Proofs.Node.Confirmation
import AssetOracle.Proofs.Config.Report
import AssetOracle.Proofs.Config.Acceptance
import AssetOracle.Proofs.Http.Counting
import AssetOracle.Proofs.Http.Lookup
import AssetOracle.Proofs.Json.Scalar
import AssetOracle.Proofs.Json.RoundTrip
import AssetOracle.Proofs.Document.RoundTrip
import AssetOracle.Proofs.Chain.Wire
import AssetOracle.Proofs.Config.Wire
import AssetOracle.Proofs.Wire
import AssetOracle.Proofs.Decimal.Numeral
import AssetOracle.Proofs.Node.Amounts
import AssetOracle.Proofs.Node.Channels
import AssetOracle.Proofs.Registry.Sharing
import AssetOracle.Proofs.Registry.Requests
import AssetOracle.Proofs.Http.Importing
import AssetOracle.Proofs.Http.Listing
import AssetOracle.Proofs.CommandLine.Routing
import AssetOracle.Proofs.Registry.Monitor
import AssetOracle.Proofs.Registry.Numbering
import AssetOracle.Proofs.Document.Faults
import AssetOracle.Proofs.Rpc.Status
import AssetOracle.Policy.Series
import AssetOracle.Proofs.Policy.Converge
import AssetOracle.Proofs.Policy.Race
import AssetOracle.Proofs.Bitcoin.Transaction
import AssetOracle.Proofs.Evm.Transfer
import AssetOracle.Proofs.Evm.Token
import AssetOracle.Proofs.Decimal.Value
import AssetOracle.Proofs.Ripple.Drops
import AssetOracle.Proofs.Bitcoin.Amount
import AssetOracle.Proofs.Http.Admission
import AssetOracle.Proofs.Evm.Spelling
import AssetOracle.Proofs.Evm.Identifiers
import AssetOracle.Proofs.Registry.Construction
import AssetOracle.Proofs.Config.Omission
import AssetOracle.Proofs.Evm.Balance
import AssetOracle.Proofs.Document.Layout
import AssetOracle.Proofs.Document.Reading
import AssetOracle.Proofs.Rpc.Layout
import AssetOracle.Proofs.Bitcoin.Layout
import AssetOracle.Proofs.Ripple.Layout
import AssetOracle.Proofs.Node.Layout
import AssetOracle.Proofs.Config.Endpoint
import AssetOracle.Proofs.Registry.Endpoints
