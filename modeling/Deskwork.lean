import Deskwork.Main
import Deskwork.Machine.Windows
import Deskwork.Step.Registry
import Deskwork.Proofs.Run.Account
import Deskwork.Proofs.Run.Return
import Deskwork.Proofs.Run.Independence
import Deskwork.Proofs.Run.Loops
import Deskwork.Proofs.Run.Authored
import Deskwork.Proofs.Session.Marks
import Deskwork.Proofs.Run.Steering
import Deskwork.Proofs.Run.Routes
import Deskwork.Proofs.Run.Limit
import Deskwork.Proofs.Run.Bound
import Deskwork.Proofs.Run.Rounds
import Deskwork.Proofs.Run.Lifecycle
import Deskwork.Proofs.Schedule.Overlap
import Deskwork.Proofs.Schedule.Spacing
import Deskwork.Proofs.Schedule.Conclusion
import Deskwork.Proofs.Schedule.Memory
import Deskwork.Proofs.Schedule.Punctuality
import Deskwork.Proofs.Schedule.Bookkeeping
import Deskwork.Proofs.Schedule.Throttle
import Deskwork.Proofs.Schedule.Confluence
import Deskwork.Proofs.Script.Survival
import Deskwork.Proofs.Script.Loading
import Deskwork.Proofs.Time.Calendar
import Deskwork.Proofs.Time.Texts
import Deskwork.Proofs.Schedule.Entries
import Deskwork.Proofs.Schedule.Loading
import Deskwork.Proofs.Schedule.Survival
import Deskwork.Proofs.Files.Moving
import Deskwork.Proofs.Settings
import Deskwork.Proofs.Files.Copying
import Deskwork.Proofs.Session.Transfers
import Deskwork.Proofs.Schedule.Soonest
import Deskwork.Proofs.Template.Weaving
import Deskwork.Proofs.Template.Again
import Deskwork.Proofs.Session.Arrivals
import Deskwork.Proofs.Session.Sparing
import Deskwork.Proofs.Files.Replacing
import Deskwork.Proofs.Session.Handles
import Deskwork.Proofs.Messages
import Deskwork.Proofs.Session.Keystrokes
import Deskwork.Proofs.Session.Clicks
import Deskwork.Proofs.Session.Polling
import Deskwork.Proofs.Script.Registering
import Deskwork.Proofs.Template.Remembering
