import MsgPerf.Worker.Manager
import MsgPerf.Worker.Queue

/-!
# Draining the queue of a worker

The manager empties the queue of a worker with a loop around `worker_queue_read`.  The status that a
read returns is a word of two bits, and the loop goes on unless the bit for no data is set.  The
queue holds a finite content; the system may let any read fail.  A read finds no message only when
the queue is empty.

The loop is run on a number of reads, so that a loop that does not end is one that is still going
after every number of reads.  It is generic in the record that goes through the queue.
-/

namespace MsgPerf.Worker

/-! ## Reads -/

/-- `worker_queue_stat_t`. -/
abbrev QueueStat := ℕ

def mptWqError : QueueStat := 0

def mptWqSuccess : QueueStat := 1

def mptWqNoData : QueueStat := 2

def wqHasData (stat : QueueStat) : Bool := stat &&& mptWqNoData = 0

/-- The queue of a `worker_info_t`.  `worker_queue_new` returns it also when the queue of the
backend could not be opened; the pointer to that queue is then null. -/
structure WorkerQueue where
  backend : Backend
  opened : Bool
  deriving DecidableEq, Repr

/-- What `msgrcv` and `mq_receive` answer.  `empty` stands for the error number that the backend
takes for an empty queue, `ENOMSG` or `EAGAIN`. -/
inductive Received (Message : Type) where
  | taken (message : Message)
  | empty
  | failed
  deriving DecidableEq, Repr

variable {Message : Type}

/-- A receive that does not fail takes the oldest message. -/
def receive (fails : Bool) (content : List Message) : Received Message :=
  if fails then .failed else
    match content with
    | [] => .empty
    | message :: _ => .taken message

/-- The status for an answer, alike in both backends. -/
def Received.stat : Received Message → QueueStat
  | .taken _ => mptWqSuccess
  | .empty => mptWqSuccess ||| mptWqNoData
  | .failed => mptWqError

def Received.delivered? : Received Message → Option Message
  | .taken message => some message
  | _ => none

/-- `worker_vqueue_read`: a null queue is an error. -/
def workerVqueueRead (opened fails : Bool) (content : List Message) :
    Option (Received Message) :=
  if opened then some (receive fails content) else some .failed

/-- `worker_pqueue_read`, with no result when it dereferences a null queue. -/
def workerPqueueRead (opened fails : Bool) (content : List Message) :
    Option (Received Message) :=
  if opened then some (receive fails content) else none

def workerQueueRead (queue : WorkerQueue) (fails : Bool) (content : List Message) :
    Option (Received Message) :=
  match queue.backend with
  | .sysv => workerVqueueRead queue.opened fails content
  | .posix => workerPqueueRead queue.opened fails content

/-! ## The loop -/

/-- The calls of the writers: `latency.write` with the latency of the snapshot, `rate.write` with
its throughput and its expected time. -/
inductive WriterCall (Message : Type) where
  | latencyWrite (snapshot : Message)
  | rateWrite (snapshot : Message)
  deriving DecidableEq, Repr

/-- The body of the loop. -/
def snapshotCalls (flags : Flags) (snapshot : Message) : List (WriterCall Message) :=
  (if flags.receiver then [.latencyWrite snapshot] else []) ++
    (if flags.daemon then [.rateWrite snapshot] else [])

/-- An iteration: what the read before it delivered, and the calls of the body. -/
structure Iteration (Message : Type) where
  delivered : Option Message
  calls : List (WriterCall Message)
  deriving DecidableEq, Repr

/-- The writers are called only after a read that delivered a snapshot, and with that snapshot. -/
def Iteration.Honest (flags : Flags) (iteration : Iteration Message) : Prop :=
  iteration.calls ≠ [] → ∃ delivered, iteration.delivered = some delivered ∧
    iteration.calls = snapshotCalls flags delivered

/-- The content of the queue, the snapshot of the `worker_info_t`, the number of reads and the
iterations so far. -/
structure DrainState (Message : Type) where
  content : List Message
  snapshot : Message
  reads : ℕ
  log : List (Iteration Message)
  deriving DecidableEq, Repr

def DrainState.start (content : List Message) (snapshot : Message) : DrainState Message :=
  ⟨content, snapshot, 0, []⟩

inductive DrainOutcome (Message : Type) where
  | running (state : DrainState Message)
  | ended (state : DrainState Message)
  | crashed
  deriving DecidableEq, Repr

/-- The iterations of the loop so far. -/
def DrainOutcome.log : DrainOutcome Message → List (Iteration Message)
  | .running state | .ended state => state.log
  | .crashed => []

/-- What a read leaves behind. -/
def DrainState.afterRead (state : DrainState Message) : Received Message → DrainState Message
  | .taken message =>
      { state with content := state.content.tail, snapshot := message, reads := state.reads + 1 }
  | _ => { state with reads := state.reads + 1 }

def DrainState.iterate (flags : Flags) (state : DrainState Message)
    (delivered : Option Message) : DrainState Message :=
  { state with log := state.log ++ [⟨delivered, snapshotCalls flags state.snapshot⟩] }

section

variable (queue : WorkerQueue) (flags : Flags) (fails : ℕ → Bool)

/-- A read, and the body of the loop when its status has data. -/
def drainStep (state : DrainState Message) : DrainOutcome Message :=
  match workerQueueRead queue (fails state.reads) state.content with
  | none => .crashed
  | some received =>
      if wqHasData received.stat then
        .running ((state.afterRead received).iterate flags received.delivered?)
      else .ended (state.afterRead received)

/-- The loop of `worker_manager_update_snapshot` for the given number of reads. -/
def drain : ℕ → DrainState Message → DrainOutcome Message
  | 0, state => .running state
  | reads + 1, state =>
      match drainStep queue flags fails state with
      | .running after => drain reads after
      | outcome => outcome

/-- The loop ends after at most one iteration for each queued snapshot, and the writers get only
what the read before has delivered. -/
def DrainsOnce (content : List Message) (snapshot : Message) : Prop :=
  (∃ reads state, drain queue flags fails reads (.start content snapshot) = .ended state ∧
    state.log.length ≤ content.length) ∧
  ∀ reads, ∀ iteration ∈ (drain queue flags fails reads (.start content snapshot)).log,
    iteration.Honest flags

end

/-! ## What a read does to the loop -/

section

variable {queue : WorkerQueue} {flags : Flags} {fails : ℕ → Bool} {state final : DrainState Message}

theorem workerQueueRead_opened (hopened : queue.opened = true) (failing : Bool)
    (content : List Message) :
    workerQueueRead queue failing content = some (receive failing content) := by
  cases hbackend : queue.backend with
  | sysv => rw [workerQueueRead, hbackend, workerVqueueRead, if_pos hopened]
  | posix => rw [workerQueueRead, hbackend, workerPqueueRead, if_pos hopened]

/-- A read that delivers the oldest message starts an iteration with it. -/
theorem drainStep_taken (hopened : queue.opened = true) (hread : fails state.reads = false)
    {message : Message} {rest : List Message} (hcontent : state.content = message :: rest) :
    drainStep queue flags fails state =
      .running ⟨rest, message, state.reads + 1,
        state.log ++ [⟨some message, snapshotCalls flags message⟩]⟩ := by
  unfold drainStep
  rw [workerQueueRead_opened hopened, hread, hcontent]
  simp [receive, Received.stat, Received.delivered?, wqHasData, mptWqSuccess, mptWqNoData,
    DrainState.afterRead, DrainState.iterate, hcontent]

/-- A read of the empty queue ends the loop. -/
theorem drainStep_empty (hopened : queue.opened = true) (hread : fails state.reads = false)
    (hcontent : state.content = []) :
    drainStep queue flags fails state = .ended { state with reads := state.reads + 1 } := by
  unfold drainStep
  rw [workerQueueRead_opened hopened, hread, hcontent]
  simp [receive, Received.stat, wqHasData, mptWqSuccess, mptWqNoData, DrainState.afterRead,
    hcontent]

/-- The status of an error has no bit set, so an error is taken for data. -/
theorem drainStep_failed
    (hread : workerQueueRead queue (fails state.reads) state.content = some .failed) :
    drainStep queue flags fails state =
      .running { state with
        reads := state.reads + 1
        log := state.log ++ [⟨none, snapshotCalls flags state.snapshot⟩] } := by
  unfold drainStep
  rw [hread]
  simp [Received.stat, Received.delivered?, wqHasData, mptWqError, mptWqNoData,
    DrainState.afterRead, DrainState.iterate]

theorem drainStep_fails (hopened : queue.opened = true) (hread : fails state.reads = true) :
    drainStep queue flags fails state =
      .running { state with
        reads := state.reads + 1
        log := state.log ++ [⟨none, snapshotCalls flags state.snapshot⟩] } := by
  apply drainStep_failed
  rw [workerQueueRead_opened hopened, hread]
  rfl

/-! ## Runs without errors -/

/-- What a loop without errors leaves behind. -/
theorem drain_of_no_errors (hopened : queue.opened = true)
    (hreads : ∀ index ≤ state.content.length, fails (state.reads + index) = false) :
    drain queue flags fails (state.content.length + 1) state =
      .ended ⟨[], state.content.getLast?.getD state.snapshot,
        state.reads + state.content.length + 1,
        state.log ++ state.content.map fun message ↦
          ⟨some message, snapshotCalls flags message⟩⟩ := by
  rcases state with ⟨content, snapshot, reads, log⟩
  induction content generalizing snapshot reads log with
  | nil =>
    rw [drain, drainStep_empty hopened (hreads 0 (Nat.le_refl 0)) rfl]
    simp
  | cons message rest ih =>
    have hrest : ∀ index ≤ rest.length, fails (reads + 1 + index) = false := by
      intro index hindex
      have hnext := hreads (index + 1) (Nat.succ_le_succ hindex)
      rwa [← Nat.add_assoc, Nat.add_right_comm] at hnext
    rw [drain, drainStep_taken hopened (hreads 0 (Nat.zero_le _)) rfl]
    simp only [List.length_cons]
    rw [ih message (reads + 1) _ hrest]
    simp only [List.getLast?_cons, Option.getD_some, List.map_cons, List.append_assoc,
      List.cons_append, List.nil_append, DrainOutcome.ended.injEq, DrainState.mk.injEq, and_true,
      true_and]
    omega

theorem drain_honest (hopened : queue.opened = true)
    (hreads : ∀ index ≤ state.content.length, fails (state.reads + index) = false)
    (hlog : ∀ iteration ∈ state.log, iteration.Honest flags) (reads : ℕ) :
    ∀ iteration ∈ (drain queue flags fails reads state).log, iteration.Honest flags := by
  induction reads generalizing state with
  | zero => exact hlog
  | succ reads ih =>
    have hfirst : fails state.reads = false := hreads 0 (Nat.zero_le _)
    rw [drain]
    cases hcontent : state.content with
    | nil =>
      rw [drainStep_empty hopened hfirst hcontent]
      exact hlog
    | cons message rest =>
      rw [drainStep_taken hopened hfirst hcontent]
      apply ih
      · intro index hindex
        have hnext := hreads (index + 1) (by simpa [hcontent] using hindex)
        rwa [← Nat.add_assoc, Nat.add_right_comm] at hnext
      · intro iteration hiteration
        rcases List.mem_append.mp hiteration with hold | hnew
        · exact hlog iteration hold
        · rw [List.mem_singleton.mp hnew]
          exact fun _ ↦ ⟨message, rfl, rfl⟩

/-! ## Runs with errors -/

/-- Every queued message costs an iteration. -/
theorem drain_ended_length (hopened : queue.opened = true) {reads : ℕ}
    (hended : drain queue flags fails reads state = .ended final) :
    state.log.length + state.content.length ≤ final.log.length := by
  induction reads generalizing state with
  | zero => simp [drain] at hended
  | succ reads ih =>
    rw [drain] at hended
    cases hfirst : fails state.reads with
    | true =>
      rw [drainStep_fails hopened hfirst] at hended
      have hrest := ih hended
      simp only [List.length_append, List.length_singleton] at hrest
      omega
    | false =>
      cases hcontent : state.content with
      | nil =>
        rw [drainStep_empty hopened hfirst hcontent] at hended
        rw [← DrainOutcome.ended.inj hended]
        simp
      | cons message rest =>
        rw [drainStep_taken hopened hfirst hcontent] at hended
        have hrest := ih hended
        simp only [List.length_append, List.length_cons] at hrest ⊢
        omega

/-- A failing read costs one more. -/
theorem drain_ended_length_of_fails (hopened : queue.opened = true) {reads index : ℕ}
    (hindex : index ≤ state.content.length) (hfails : fails (state.reads + index) = true)
    (hended : drain queue flags fails reads state = .ended final) :
    state.log.length + state.content.length < final.log.length := by
  induction reads generalizing state index with
  | zero => simp [drain] at hended
  | succ reads ih =>
    rw [drain] at hended
    cases hfirst : fails state.reads with
    | true =>
      rw [drainStep_fails hopened hfirst] at hended
      have hrest := drain_ended_length hopened hended
      simp only [List.length_append, List.length_singleton] at hrest
      omega
    | false =>
      -- The failing read is a later one, so that the queue still holds a message.
      cases index with
      | zero => simp [hfirst] at hfails
      | succ index =>
        cases hcontent : state.content with
        | nil => simp [hcontent] at hindex
        | cons message rest =>
          rw [drainStep_taken hopened hfirst hcontent] at hended
          rw [hcontent, List.length_cons] at hindex
          have hrest := ih (Nat.le_of_succ_le_succ hindex)
            (by rwa [← Nat.add_assoc, Nat.add_right_comm] at hfails) hended
          simp only [List.length_append, List.length_cons] at hrest ⊢
          omega

/-- The loop never ends on a queue that failed to open. -/
theorem drain_unopened (hopened : queue.opened = false) (reads : ℕ) :
    drain queue flags fails reads state ≠ .ended final := by
  induction reads generalizing state with
  | zero => simp [drain]
  | succ reads ih =>
    rw [drain]
    cases hbackend : queue.backend with
    | sysv =>
      have hread : workerQueueRead queue (fails state.reads) state.content = some .failed := by
        simp [workerQueueRead, hbackend, workerVqueueRead, hopened]
      rw [drainStep_failed hread]
      exact ih
    | posix =>
      have hread : workerQueueRead queue (fails state.reads) state.content = none := by
        simp [workerQueueRead, hbackend, workerPqueueRead, hopened]
      rw [drainStep, hread]
      simp

end

/-! ## When draining is right -/

/-- Draining ends in time and reports only what was delivered exactly when the queue was opened and
no read fails up to the first that finds the queue empty. -/
theorem drainsOnce_iff (queue : WorkerQueue) (flags : Flags) (fails : ℕ → Bool)
    (content : List Message) (snapshot : Message) :
    DrainsOnce queue flags fails content snapshot ↔
      queue.opened = true ∧ ∀ index ≤ content.length, fails index = false := by
  constructor
  · rintro ⟨⟨reads, final, hended, hlength⟩, -⟩
    have hopened : queue.opened = true := by
      by_contra hclosed
      exact drain_unopened (Bool.eq_false_of_not_eq_true hclosed) reads hended
    refine ⟨hopened, fun index hindex ↦ ?_⟩
    by_contra hfails
    have hfails : fails ((DrainState.start content snapshot).reads + index) = true := by
      simpa [DrainState.start] using hfails
    have hlonger := drain_ended_length_of_fails hopened hindex hfails hended
    simp only [DrainState.start, List.length_nil] at hlonger
    omega
  · rintro ⟨hopened, hreads⟩
    have hreads : ∀ index ≤ (DrainState.start content snapshot).content.length,
        fails ((DrainState.start content snapshot).reads + index) = false := by
      simpa [DrainState.start] using hreads
    constructor
    · exact ⟨_, _, drain_of_no_errors hopened hreads, by simp [DrainState.start]⟩
    · exact drain_honest hopened hreads (by simp [DrainState.start])

/-- A SysV queue that failed to open. -/
theorem unopened_not_drainsOnce :
    ¬ DrainsOnce ⟨.sysv, false⟩ ⟨true, false, true, true⟩ (fun _ ↦ false) [] Snapshot.zero := by
  rintro ⟨⟨reads, final, hended, -⟩, -⟩
  exact drain_unopened rfl reads hended

/-- Without errors the loop leaves in the `worker_info_t` what the watchdog finds there. -/
theorem drain_workerManagerUpdateSnapshot {queue : WorkerQueue} {flags : Flags} {fails : ℕ → Bool}
    {content : List Snapshot} (info : WorkerInfo) (hopened : queue.opened = true)
    (hreads : ∀ index ≤ content.length, fails index = false) :
    ∃ state, drain queue flags fails (content.length + 1) (.start content info.snapshot) =
        .ended state ∧
      state.snapshot = (workerManagerUpdateSnapshot info content).snapshot := by
  refine ⟨_, drain_of_no_errors hopened (by simpa [DrainState.start] using hreads), ?_⟩
  rw [workerManagerUpdateSnapshot_eq]
  rfl

end MsgPerf.Worker
