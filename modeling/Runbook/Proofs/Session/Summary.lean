import Mathlib.Algebra.BigOperators.Group.Finset.Basic
import Runbook.Proofs.Decimal.Bounded
import Runbook.Proofs.Workflow.Build
import Runbook.Session.Summary

/-! The summary of a session accounts for its history and for where it stopped. -/

namespace Runbook

variable {w : Workflow} {s : Session} {sum : Summary} {id : String}

/-! ## Percent -/

namespace Summary

end Summary

/-! ## Runs -/

namespace Session

end Session

/-! ## Accounts -/

namespace Session

end Session

end Runbook
