import Selenese.Files
import Selenese.Main
import Selenese.Proofs.CharRef.Decode
import Selenese.Proofs.Command.Execute
import Selenese.Proofs.Command.Page
import Selenese.Proofs.Command.Ready
import Selenese.Proofs.Command.Recorded
import Selenese.Proofs.Command.Store
import Selenese.Proofs.Command.Table
import Selenese.Proofs.Command.Wait
import Selenese.Proofs.Html.Markup
import Selenese.Proofs.Html.Reads
import Selenese.Proofs.Html.Select
import Selenese.Proofs.Html.Spine
import Selenese.Proofs.Html.Stands
import Selenese.Proofs.Html.Steps
import Selenese.Proofs.Locator.Spelling
import Selenese.Proofs.Locator.TextProbe
import Selenese.Proofs.Pattern.Find
import Selenese.Proofs.Pattern.Glob
import Selenese.Proofs.Pattern.Reach
import Selenese.Proofs.Poll
import Selenese.Proofs.Poll.Law
import Selenese.Proofs.Replay.Account
import Selenese.Proofs.Replay.Agreement
import Selenese.Proofs.Replay.Compared
import Selenese.Proofs.Replay.Fatality
import Selenese.Proofs.Replay.Fresh
import Selenese.Proofs.Replay.LateWait
import Selenese.Proofs.Replay.Line
import Selenese.Proofs.Replay.Noted
import Selenese.Proofs.Replay.Page
import Selenese.Proofs.Replay.Passage
import Selenese.Proofs.Replay.Presence
import Selenese.Proofs.Replay.Soften
import Selenese.Proofs.Replay.Store
import Selenese.Proofs.Replay.Wait
import Selenese.Proofs.Report.Census
import Selenese.Proofs.Report.Conforming
import Selenese.Proofs.Report.Descent
import Selenese.Proofs.Report.Faithful
import Selenese.Proofs.Report.Growth
import Selenese.Proofs.Report.History
import Selenese.Proofs.Report.Layout
import Selenese.Proofs.Report.LineEnds
import Selenese.Proofs.Report.Markup
import Selenese.Proofs.Report.Order
import Selenese.Proofs.Report.Processor
import Selenese.Proofs.Report.ReadBack
import Selenese.Proofs.Report.Record
import Selenese.Proofs.Report.Rollup
import Selenese.Proofs.Report.Scope
import Selenese.Proofs.Report.Sections
import Selenese.Proofs.Report.Tally
import Selenese.Proofs.Report.Tree
import Selenese.Proofs.Report.Written
import Selenese.Proofs.Script.ReadBack
import Selenese.Proofs.Script.Written
import Selenese.Proofs.Session.Calls
import Selenese.Proofs.Session.Delayed
import Selenese.Proofs.Session.Find
import Selenese.Proofs.Session.Late
import Selenese.Proofs.Session.Page
import Selenese.Proofs.Session.Place
import Selenese.Proofs.Session.Ready
import Selenese.Proofs.Session.TextSearch
import Selenese.Proofs.Session.Use
import Selenese.Proofs.Settings.Overrides
import Selenese.Proofs.Suite.Course
import Selenese.Proofs.Suite.Dry
import Selenese.Proofs.Suite.DryTotals
import Selenese.Proofs.Suite.Live
import Selenese.Proofs.Suite.Notes
import Selenese.Proofs.Suite.Order
import Selenese.Proofs.Suite.Unknown
import Selenese.Proofs.Suite.Verdict
import Selenese.Proofs.TestId
import Selenese.Proofs.Text.Affix
import Selenese.Proofs.Text.CaseFold
import Selenese.Proofs.Text.Decimal
import Selenese.Proofs.Text.LowerPrefix
import Selenese.Proofs.Text.Lowercase
import Selenese.Proofs.Variables
import Selenese.Proofs.Variables.Decode
import Selenese.Proofs.Within
