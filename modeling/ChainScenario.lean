import ChainScenario.Address
import ChainScenario.Builtin.Accounts
import ChainScenario.Builtin.Conversion
import ChainScenario.Builtin.Function
import ChainScenario.Builtin.Run
import ChainScenario.Builtin.Tokens
import ChainScenario.Bytes.Basic
import ChainScenario.Bytes.Blocks
import ChainScenario.Bytes.Hex
import ChainScenario.CommandLine.Help
import ChainScenario.CommandLine.Request
import ChainScenario.CommandLine.Run
import ChainScenario.Contract.Call
import ChainScenario.Contract.Gas
import ChainScenario.Contract.Output
import ChainScenario.Contract.ReturnCode
import ChainScenario.Expression.Fault
import ChainScenario.Expression.Interpret
import ChainScenario.Expression.Number
import ChainScenario.Expression.References
import ChainScenario.Expression.Render
import ChainScenario.Files.Glob
import ChainScenario.Files.Path
import ChainScenario.Files.Tree
import ChainScenario.Hash.Blake3
import ChainScenario.Hash.Keccak
import ChainScenario.Json.Basic
import ChainScenario.Json.Number
import ChainScenario.Json.Reader
import ChainScenario.Json.Token
import ChainScenario.Json.Writer
import ChainScenario.Ledger.Account
import ChainScenario.Ledger.Block
import ChainScenario.Ledger.Fault
import ChainScenario.Ledger.World
import ChainScenario.Machine.Basic
import ChainScenario.Machine.Dummy
import ChainScenario.Main
import ChainScenario.Number.Binary64
import ChainScenario.Number.Decimal
import ChainScenario.Number.Extended
import ChainScenario.Number.Shortest
import ChainScenario.OrdMap
import ChainScenario.Proofs.Accounts
import ChainScenario.Proofs.Action
import ChainScenario.Proofs.Addresses
import ChainScenario.Proofs.Alike
import ChainScenario.Proofs.Atomicity
import ChainScenario.Proofs.BuiltinEffects
import ChainScenario.Proofs.BuiltinIntegrity
import ChainScenario.Proofs.BuiltinRefusals
import ChainScenario.Proofs.BuiltinSteps
import ChainScenario.Proofs.Bystanders
import ChainScenario.Proofs.Characters
import ChainScenario.Proofs.Checks
import ChainScenario.Proofs.Codec
import ChainScenario.Proofs.Conservation
import ChainScenario.Proofs.Context
import ChainScenario.Proofs.Contracts
import ChainScenario.Proofs.Conversion
import ChainScenario.Proofs.Counterparts
import ChainScenario.Proofs.CreatedNumbers
import ChainScenario.Proofs.Creation
import ChainScenario.Proofs.Currency
import ChainScenario.Proofs.Damage
import ChainScenario.Proofs.Decided
import ChainScenario.Proofs.Deployments
import ChainScenario.Proofs.Dump
import ChainScenario.Proofs.Entries
import ChainScenario.Proofs.Frames
import ChainScenario.Proofs.Gathering
import ChainScenario.Proofs.Identity
import ChainScenario.Proofs.Independence
import ChainScenario.Proofs.Inlining
import ChainScenario.Proofs.Integrity
import ChainScenario.Proofs.KnownFields
import ChainScenario.Proofs.Legality
import ChainScenario.Proofs.Listed
import ChainScenario.Proofs.ListedTransfers
import ChainScenario.Proofs.Literals
import ChainScenario.Proofs.Loosening
import ChainScenario.Proofs.Marks
import ChainScenario.Proofs.Merging
import ChainScenario.Proofs.NamedInstances
import ChainScenario.Proofs.Nesting
import ChainScenario.Proofs.Nonces
import ChainScenario.Proofs.Obtained
import ChainScenario.Proofs.Outcome
import ChainScenario.Proofs.Payments
import ChainScenario.Proofs.PendingBalances
import ChainScenario.Proofs.Query
import ChainScenario.Proofs.Reachable
import ChainScenario.Proofs.ReadBack
import ChainScenario.Proofs.Reading
import ChainScenario.Proofs.Records
import ChainScenario.Proofs.Rendering
import ChainScenario.Proofs.ResultCheck
import ChainScenario.Proofs.Results
import ChainScenario.Proofs.Rewards
import ChainScenario.Proofs.RoleGrants
import ChainScenario.Proofs.RoundTrip
import ChainScenario.Proofs.SetState
import ChainScenario.Proofs.SizedNumbers
import ChainScenario.Proofs.Slots
import ChainScenario.Proofs.Snapshots
import ChainScenario.Proofs.StateCheck
import ChainScenario.Proofs.Storage
import ChainScenario.Proofs.Supply
import ChainScenario.Proofs.SupplyRoles
import ChainScenario.Proofs.Throughout
import ChainScenario.Proofs.TokenEdits
import ChainScenario.Proofs.TokenUpdate
import ChainScenario.Proofs.Total
import ChainScenario.Proofs.TwosComplement
import ChainScenario.Proofs.Unquoting
import ChainScenario.Proofs.Verdicts
import ChainScenario.Proofs.Walking
import ChainScenario.Proofs.WrittenKeys
import ChainScenario.ResultCheck.Compare
import ChainScenario.ResultCheck.Mismatch
import ChainScenario.Run.Dump
import ChainScenario.Run.Executor
import ChainScenario.Run.Fault
import ChainScenario.Run.GasReport
import ChainScenario.Run.SetState
import ChainScenario.Run.Steps
import ChainScenario.Run.Suite
import ChainScenario.Run.Transaction
import ChainScenario.Scenario.Account
import ChainScenario.Scenario.Basic
import ChainScenario.Scenario.Check
import ChainScenario.Scenario.Fault
import ChainScenario.Scenario.Reader.Account
import ChainScenario.Scenario.Reader.Step
import ChainScenario.Scenario.Reader.Token
import ChainScenario.Scenario.Reader.Transaction
import ChainScenario.Scenario.Reader.Value
import ChainScenario.Scenario.Transaction
import ChainScenario.Scenario.Written
import ChainScenario.Settings.Basic
import ChainScenario.Settings.Environment
import ChainScenario.Settings.Key
import ChainScenario.Settings.Load
import ChainScenario.Settings.Toml.Date
import ChainScenario.Settings.Toml.Document
import ChainScenario.Settings.Toml.Fault
import ChainScenario.Settings.Toml.Form
import ChainScenario.Settings.Toml.Number
import ChainScenario.Settings.Toml.Reader
import ChainScenario.Settings.Toml.Section
import ChainScenario.Settings.Toml.Token
import ChainScenario.Settings.Tree
import ChainScenario.Settings.Value
import ChainScenario.StateCheck.Compare
import ChainScenario.StateCheck.Mismatch
import ChainScenario.Text.Cased
import ChainScenario.Text.CharClass
import ChainScenario.Text.LowerCase
import ChainScenario.Text.Quoted
import ChainScenario.Text.Shapeless
import ChainScenario.Text.Shown
import ChainScenario.Text.Utf8
import ChainScenario.Token.Basic
import ChainScenario.Token.Codec
import ChainScenario.Token.Key
import ChainScenario.Token.Store
import ChainScenario.Token.Varint
