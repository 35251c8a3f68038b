import BirdCode.Store.ChildStability
import BirdCode.Store.Fixtures
import BirdCode.Store.RunStates

/-! The claims of a run: they are numbered in order, pass between runtimes at an expiry only, and
are what the other events of the run are admitted under. -/
namespace BirdCode.Store

open Lib (Stepwise)

variable {documents : PlanningDocuments} {env : Environment} {log log' : EventLog} {run : Run}
  {event : EventEnvelope} {admission : EventAdmission} {runId : RunId} {stored : StoredClaim}

section Claims

end Claims

section Succession

theorem length_le_of_lt {numbers : List ℕ} {bound : ℕ} (hsorted : numbers.Pairwise (· < ·))
    (hbound : ∀ number ∈ numbers, number < bound) : numbers.length ≤ bound := by
  have hnodup : numbers.Nodup := hsorted.imp fun h => Nat.ne_of_lt h
  have hsubset : numbers ⊆ List.range bound := by
    intro number hnumber
    exact List.mem_range.mpr (hbound number hnumber)
  simpa using (List.subperm_of_subset hnodup hsubset).length_le

end Succession

section Actors

end Actors

section Authority

namespace EventPayload

end EventPayload

end Authority

section Exclusive

end Exclusive

end BirdCode.Store
