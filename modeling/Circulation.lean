import Circulation.Json.Text
import Circulation.Listing.Json
import Circulation.Overdue
import Circulation.Proofs.Alone
import Circulation.Proofs.Amid
import Circulation.Proofs.Collisions
import Circulation.Proofs.Completion
import Circulation.Proofs.Conditions
import Circulation.Proofs.Conflicts
import Circulation.Proofs.Draining
import Circulation.Proofs.Exclusion
import Circulation.Proofs.Finality
import Circulation.Proofs.History
import Circulation.Proofs.LateReturns
import Circulation.Proofs.Numbering
import Circulation.Proofs.Order
import Circulation.Proofs.Overdue
import Circulation.Proofs.Overflows
import Circulation.Proofs.Paging
import Circulation.Proofs.Quota
import Circulation.Proofs.References
import Circulation.Proofs.Releasing
import Circulation.Proofs.SafeSweep
import Circulation.Proofs.Serial
import Circulation.Proofs.Sessions
import Circulation.Proofs.Stored
import Circulation.Proofs.Sweeping
import Circulation.Proofs.Tally
import Circulation.Proofs.Undoing
import Circulation.Record.Json
import Circulation.Refusal.Json
import Circulation.Session
import Circulation.Settings.Load
import Circulation.Sql.Schema
import Circulation.Proofs.Refusals
import Circulation.Proofs.WayOut
import Circulation.Proofs.Sql.Content
import Circulation.Proofs.Sql.Selections
import Circulation.Proofs.Sql.Layout
import Circulation.Proofs.Sql.Writes
