import Mathlib.Tactic

/-!
# The status object

`gru_status_t` carries the outcome of a call next to its return value.
-/

namespace MsgPerf

/-- `gru_status_t`: whether a failure has been recorded, and its text. -/
structure Status where
  failed : Bool
  message : String
  deriving DecidableEq, Repr

namespace Status

/-- `gru_status_new` and `gru_status_reset`. -/
def new : Status := ⟨false, ""⟩

/-- `gru_status_success`. -/
def success (status : Status) : Bool := !status.failed

/-- `gru_status_set(status, GRU_FAILURE, message)`. -/
def failure (message : String) : Status := ⟨true, message⟩

theorem success_of_failed {status : Status} (h : status.failed = true) :
    status.success = false := by
  rw [success, h, Bool.not_true]

end Status

end MsgPerf
