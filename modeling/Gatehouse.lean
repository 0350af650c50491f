import Gatehouse.Main
import Gatehouse.Proofs.Inclusion
import Gatehouse.Proofs.Template.Applied
import Gatehouse.Proofs.Template.Atomic
import Gatehouse.Record.Reader
import Gatehouse.Proofs.Template.Difference
import Gatehouse.Proofs.Template.Access
import Gatehouse.Proofs.Template.Synced
import Gatehouse.Proofs.Template.Exchange
import Gatehouse.Proofs.Template.Sync
import Gatehouse.Proofs.Check.Fallback
import Gatehouse.Proofs.Check.Trust
import Gatehouse.Proofs.Template.Resync
import Gatehouse.Proofs.Template.Interrupted
import Gatehouse.Proofs.Store.Activity
import Gatehouse.Proofs.Store.Transaction
import Gatehouse.Proofs.Store.Clients
import Gatehouse.Proofs.Grant.Purge
import Gatehouse.Proofs.Grant.Form
import Gatehouse.Proofs.Grant.Listing
import Gatehouse.Proofs.Check.Spared
import Gatehouse.Proofs.Check.Isolation
import Gatehouse.Proofs.Check.Purged
import Gatehouse.Proofs.Command
import Gatehouse.Proofs.Inclusion.Matrix
import Gatehouse.Proofs.Scenario.Library
import Gatehouse.Proofs.Export.Text
import Gatehouse.Proofs.Export.Rows
import Gatehouse.Proofs.Export.Decision
import Gatehouse.Proofs.Scenario.File
import Gatehouse.Proofs.Check.Monotone
import Gatehouse.Proofs.Lifetime
import Gatehouse.Proofs.Store.Clock
import Gatehouse.Proofs.Template.Report
import Gatehouse.Proofs.Template.Stepwise
import Gatehouse.Proofs.Store.Absence
import Gatehouse.Proofs.Store.Naming
import Gatehouse.Proofs.Store.Links
import Gatehouse.Proofs.Export.Canonical
import Gatehouse.Proofs.Scenario.Grammar
import Gatehouse.Proofs.Template.Review
import Gatehouse.Proofs.Record.RoundTrip
import Gatehouse.Proofs.Environment
