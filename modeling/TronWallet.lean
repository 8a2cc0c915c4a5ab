import TronWallet.Main
import TronWallet.Proofs.Text.Positional
import TronWallet.Proofs.Text.White
import TronWallet.Proofs.Text.Utf8
import TronWallet.Proofs.Base58
import TronWallet.Proofs.Address
import TronWallet.Proofs.Toml.Document
import TronWallet.Proofs.Book.Lookup
import TronWallet.Proofs.Fallible
import TronWallet.Proofs.Files.Walk
import TronWallet.Proofs.Book.Persistence
import TronWallet.Proofs.Files.Joining
import TronWallet.Proofs.Book.Site
import TronWallet.Proofs.Documentation
import TronWallet.Proofs.Program.Home
import TronWallet.Proofs.Book.Accounts
import TronWallet.Proofs.Book.Bulk
import TronWallet.Proofs.Session.Change
import TronWallet.Proofs.Session.Import
import TronWallet.Proofs.Program.History
import TronWallet.Proofs.Program.Overlap
import TronWallet.Proofs.Program.Outcome
import TronWallet.Proofs.Program.Untouched
import TronWallet.Proofs.Release.Exchange
import TronWallet.Proofs.Url.Escape
import TronWallet.Proofs.Url.Below
import TronWallet.Proofs.Release.Lookup
import TronWallet.Proofs.Book.Store
import TronWallet.Proofs.Config
import TronWallet.Proofs.CommandLine.RoundTrip
import TronWallet.Proofs.Session.Shown
import TronWallet.Proofs.Text.Boundary
import TronWallet.Proofs.Release.Comparison
import TronWallet.Proofs.Book.Loaded
import TronWallet.Proofs.Session.Listing
import TronWallet.Proofs.Session.Naming
import TronWallet.Proofs.Address.Shape
import TronWallet.Proofs.Endpoint
import TronWallet.Proofs.Book.Acceptance
import TronWallet.Proofs.Toml.Spelling
import TronWallet.Proofs.Toml.Fields
import TronWallet.Proofs.Config.Fields
import TronWallet.Proofs.Documentation.Tree
import TronWallet.Proofs.Documentation.Completeness
import TronWallet.Proofs.Json.Grammar
import TronWallet.Proofs.Json.Leaves
import TronWallet.Proofs.Json.Members
import TronWallet.Proofs.Release.Payload
import TronWallet.Proofs.Release.Additions
