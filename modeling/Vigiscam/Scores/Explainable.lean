import Vigiscam.BankPortal.TellerAssist
import Vigiscam.PlatformPortal.Grooming
import Vigiscam.RiskFusion.Fusion

/-!
# The scores of the platform

Seven modules score what they are told, each by its own table of weights. All of them explain
their scores, and none lowers an answer when what it is told gets worse.
-/

namespace Scores

end Scores
