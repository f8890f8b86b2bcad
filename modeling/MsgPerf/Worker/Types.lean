import Mathlib.Tactic

/-!
# Workers and their snapshots

The records that travel between a worker child and the manager, and the flags that select its
queue and its writers.
-/

namespace MsgPerf.Worker

/-- `gru_timestamp_t`. -/
structure Timestamp where
  tvSec : ℤ
  tvUsec : ℤ
  deriving DecidableEq, Repr

/-- `worker_snapshot_t`, with the latency by its elapsed time and the throughput by the bit pattern
of its rate. -/
structure Snapshot where
  count : ℕ
  start : Timestamp
  now : Timestamp
  eta : Timestamp
  latency : Timestamp
  rate : BitVec 64
  deriving DecidableEq, Repr

/-- The snapshot of a freshly allocated `worker_info_t`. -/
def Snapshot.zero : Snapshot := ⟨0, ⟨0, 0⟩, ⟨0, 0⟩, ⟨0, 0⟩, ⟨0, 0⟩, 0⟩

/-- `worker_flags_t`. -/
structure Flags where
  receiver : Bool
  sender : Bool
  daemon : Bool
  forked : Bool
  deriving DecidableEq, Repr

end MsgPerf.Worker
