import MsgPerf.Common.Status
import MsgPerf.Worker.Types

/-!
# The watchdog of the worker manager

`workerManagerWatchdog` is one pass over the worker list.  What the environment answers during the
pass is given per visit: the snapshots found in the queue of the worker and the result of `waitpid`
for its child.  The pass returns what the C function returns and leaves behind, and a record of the
visits it made.  `workerManagerWatchdogLoop` repeats passes, with stops and aborts of the other
thread in between, until the list is empty or gone or a pass fails.

The global error counter, the status and the record of visits are tied together by `Accounted`.
-/

namespace MsgPerf.Worker

/-- `waitpid` with `WNOHANG`: no change, the way in which the child ended, or an error, which leaves
the status word at zero. -/
inductive WaitResult where
  | running
  | exited (status : ℕ)
  | signaled (signal : ℕ)
  | stopped (signal : ℕ)
  | error
  deriving DecidableEq, Repr

def sigint : ℕ := 2

/-- Ends that the watchdog counts as errors. -/
def WaitResult.isError : WaitResult → Bool
  | .signaled signal | .stopped signal => signal ≠ sigint
  | _ => false

/-- `worker_info_t`, without the queue and the writers. -/
structure WorkerInfo where
  child : ℤ
  snapshot : Snapshot
  deriving DecidableEq, Repr

/-- What a pass finds at a worker: the snapshots in its queue and the answer of `waitpid`. -/
structure Visit where
  batch : List Snapshot
  wait : WaitResult
  deriving DecidableEq, Repr

/-- `worker_handler_t`.  An evaluation that fails leaves its message in the status. -/
structure WorkerHandler where
  handlePrint : Bool
  handleEval : Bool
  print : Option Unit
  eval : Option (WorkerInfo → Option String)

/-- The effect of the handler on a worker whose child is still running. -/
inductive HandlerOutcome where
  | proceed
  | missing (message : String)
  | failed (message : String)
  deriving DecidableEq, Repr

def WorkerHandler.apply (handler : WorkerHandler) (info : WorkerInfo) : HandlerOutcome :=
  if handler.handlePrint ∧ handler.print = none then
    .missing "Worker handler print flag is set but no print function given"
  else if handler.handleEval then
    match handler.eval with
    | none => .missing "Worker handler eval flag is set but no eval function given"
    | some eval =>
        match eval info with
        | none => .proceed
        | some message => .failed message
  else .proceed

/-- Every snapshot that is read replaces the one in the slot. -/
def workerManagerUpdateSnapshot (info : WorkerInfo) (batch : List Snapshot) : WorkerInfo :=
  batch.foldl (fun info snapshot ↦ { info with snapshot := snapshot }) info

/-- A visit of a pass: the worker before the visit, and what was found. -/
structure VisitRecord where
  node : WorkerInfo
  batch : List Snapshot
  wait : WaitResult
  deriving DecidableEq, Repr

/-- The worker after its queue has been drained. -/
def VisitRecord.info (record : VisitRecord) : WorkerInfo :=
  workerManagerUpdateSnapshot record.node record.batch

/-- The returned flag, the list, the error counter, the status, whether the mutex is still held,
and the visits. -/
structure PassResult where
  ok : Bool
  list : List WorkerInfo
  errors : ℕ
  status : Status
  locked : Bool
  log : List VisitRecord

/-- The rest of a pass after a visit that kept the worker, or dropped it. -/
def PassResult.after (rest : PassResult) (record : VisitRecord) (kept : List WorkerInfo) :
    PassResult :=
  { rest with list := kept ++ rest.list, log := record :: rest.log }

/-- One pass; `visit index` is what it finds at the worker with that position in the list. -/
def workerManagerWatchdog (handler : WorkerHandler) :
    (ℕ → Visit) → List WorkerInfo → ℕ → Status → PassResult
  | _, [], errors, status => ⟨true, [], errors, status, false, []⟩
  | visit, node :: rest, errors, status =>
      let info := workerManagerUpdateSnapshot node (visit 0).batch
      let record : VisitRecord := ⟨node, (visit 0).batch, (visit 0).wait⟩
      let remaining := workerManagerWatchdog handler (fun index ↦ visit (index + 1)) rest
      match (visit 0).wait with
      | .running =>
          match handler.apply info with
          | .proceed => (remaining errors status).after record [info]
          -- The mutex stays locked on this return.
          | .missing message => ⟨false, info :: rest, errors, .failure message, true, [record]⟩
          | .failed message => ⟨false, info :: rest, errors, .failure message, false, [record]⟩
      | .exited _ | .error => (remaining errors status).after record []
      | .signaled signal | .stopped signal =>
          (remaining (if signal ≠ sigint then errors + 1 else errors) status).after record []

/-- What happens next to the loop: a pass, an abort that counts an error, or the end of a stop or
abort of the other thread, which leaves no list. -/
inductive LoopEvent where
  | pass (visit : ℕ → Visit)
  | abort
  | cleaned

/-- The list, the error counter and the status, with the visits and aborts so far; `broken` when a
pass has failed, `returned` when the loop is over. -/
structure LoopState where
  list : Option (List WorkerInfo)
  errors : ℕ
  status : Status
  log : List VisitRecord
  aborts : ℕ
  broken : Bool
  returned : Bool

/-- The state after `worker_manager_clone` has forked the children. -/
def LoopState.start (children : List ℤ) : LoopState :=
  ⟨some (children.map fun child ↦ ⟨child, Snapshot.zero⟩), 0, .new, [], 0, false, false⟩

/-- After the loop a positive error counter is turned into a failure. -/
def finishStatus (errors : ℕ) (status : Status) : Status :=
  if 0 < errors then
    .failure ("There were " ++ toString errors ++ " child process that ended with failure")
  else status

def LoopState.finish (state : LoopState) : LoopState :=
  { state with status := finishStatus state.errors state.status, returned := true }

def LoopState.afterPass (state : LoopState) (result : PassResult) : LoopState :=
  { state with
    list := some result.list
    errors := result.errors
    status := result.status
    log := state.log ++ result.log
    broken := !result.ok }

/-- The loop over the given events.  It has not returned when they run out first. -/
def workerManagerWatchdogLoop (handler : WorkerHandler) : List LoopEvent → LoopState → LoopState
  | events, state =>
      match state.list with
      | none | some [] => state.finish
      | some (node :: rest) =>
          match events with
          | [] => state
          | .pass visit :: events =>
              let result := workerManagerWatchdog handler visit (node :: rest) state.errors
                state.status
              if result.ok then workerManagerWatchdogLoop handler events (state.afterPass result)
              else (state.afterPass result).finish
          | .abort :: events =>
              workerManagerWatchdogLoop handler events
                { state with errors := state.errors + 1, aborts := state.aborts + 1 }
          | .cleaned :: events =>
              workerManagerWatchdogLoop handler events { state with list := none }

/-! ## What a pass does -/

variable {handler : WorkerHandler}

/-- The visit found a running child and the handler did not let the pass go on. -/
def VisitRecord.FailsEval (handler : WorkerHandler) (record : VisitRecord) : Prop :=
  record.wait = .running ∧ handler.apply record.info ≠ .proceed

/-- The slot holds the last snapshot of the batch. -/
theorem workerManagerUpdateSnapshot_eq (info : WorkerInfo) (batch : List Snapshot) :
    workerManagerUpdateSnapshot info batch =
      { info with snapshot := batch.getLast?.getD info.snapshot } := by
  induction batch generalizing info with
  | nil => rfl
  | cons snapshot batch ih =>
    rw [List.getLast?_cons, Option.getD_some]
    exact ih { info with snapshot := snapshot }

/-- A worker that passed the handler before can only fail it with the last snapshot of the batch. -/
theorem VisitRecord.failsEval_iff {record : VisitRecord}
    (hnode : handler.apply record.node = .proceed) :
    record.FailsEval handler ↔ record.wait = .running ∧
      ∃ snapshot, record.batch.getLast? = some snapshot ∧
        handler.apply { record.node with snapshot := snapshot } ≠ .proceed := by
  unfold FailsEval info
  rw [workerManagerUpdateSnapshot_eq]
  cases record.batch.getLast? with
  | none => simp [hnode]
  | some snapshot => simp

/-- How the result of a pass over `list` follows from the visits it made. -/
structure PassAccounted (handler : WorkerHandler) (list : List WorkerInfo) (errors : ℕ)
    (status : Status) (result : PassResult) : Prop where
  errors_eq : result.errors = errors + result.log.countP fun record ↦ record.wait.isError
  ok_iff : result.ok = false ↔ ∃ record ∈ result.log, record.FailsEval handler
  status_eq : result.status.failed = (status.failed || !result.ok)
  kept : result.ok = true → ∀ info ∈ result.list, handler.apply info = .proceed
  visited : ∀ record ∈ result.log, record.node ∈ list

theorem PassAccounted.after {list kept : List WorkerInfo} {errors : ℕ} {status : Status}
    {result : PassResult} (record : VisitRecord)
    (hrest : PassAccounted handler list (errors + if record.wait.isError then 1 else 0) status
      result)
    (hrecord : ¬ record.FailsEval handler)
    (hkept : ∀ info ∈ kept, handler.apply info = .proceed) :
    PassAccounted handler (record.node :: list) errors status (result.after record kept) where
  errors_eq := by
    rw [PassResult.after, List.countP_cons, hrest.errors_eq]
    omega
  ok_iff := by
    rw [PassResult.after, hrest.ok_iff]
    simp only [List.mem_cons, exists_eq_or_imp, hrecord, false_or]
  status_eq := hrest.status_eq
  kept hok info hinfo := by
    rcases List.mem_append.mp hinfo with hinfo | hinfo
    · exact hkept info hinfo
    · exact hrest.kept hok info hinfo
  visited other hother := by
    rcases List.mem_cons.mp hother with rfl | hother
    · exact List.mem_cons_self
    · exact List.mem_cons_of_mem _ (hrest.visited other hother)

/-- A pass that stops at its first visit. -/
theorem PassAccounted.stop {list kept : List WorkerInfo} {errors : ℕ} {status : Status}
    {message : String} {locked : Bool} (record : VisitRecord) (hrecord : record.FailsEval handler) :
    PassAccounted handler (record.node :: list) errors status
      ⟨false, kept, errors, .failure message, locked, [record]⟩ where
  errors_eq := by simp [hrecord.1, WaitResult.isError]
  ok_iff := by simpa using hrecord
  status_eq := by simp [Status.failure]
  kept hok := by simp at hok
  visited := by simp

/-- A visit that found the child ended. -/
theorem PassAccounted.after_ended {list : List WorkerInfo} {errors count : ℕ}
    {status : Status} {result : PassResult} (record : VisitRecord)
    (hrest : PassAccounted handler list count status result) (hended : record.wait ≠ .running)
    (hcount : count = errors + if record.wait.isError then 1 else 0) :
    PassAccounted handler (record.node :: list) errors status (result.after record []) := by
  subst hcount
  apply PassAccounted.after record hrest
  · exact fun hfails ↦ hended hfails.1
  · simp

theorem workerManagerWatchdog_accounted (handler : WorkerHandler) (visit : ℕ → Visit)
    (list : List WorkerInfo) (errors : ℕ) (status : Status) :
    PassAccounted handler list errors status
      (workerManagerWatchdog handler visit list errors status) := by
  induction list generalizing visit errors with
  | nil =>
    rw [workerManagerWatchdog]
    constructor <;> simp
  | cons node rest ih =>
    have hrest := ih fun index ↦ visit (index + 1)
    rw [workerManagerWatchdog]
    rcases visit 0 with ⟨batch, wait⟩
    cases wait with
    | running =>
      cases happly : handler.apply (workerManagerUpdateSnapshot node batch) with
      | proceed =>
        apply PassAccounted.after ⟨node, batch, .running⟩ (hrest errors)
        · exact fun hfails ↦ hfails.2 happly
        · simpa using happly
      | missing message =>
        exact .stop ⟨node, batch, .running⟩ ⟨rfl, by simp [VisitRecord.info, happly]⟩
      | failed message =>
        exact .stop ⟨node, batch, .running⟩ ⟨rfl, by simp [VisitRecord.info, happly]⟩
    | exited code => exact .after_ended ⟨node, batch, .exited code⟩ (hrest errors) (by simp) rfl
    | error => exact .after_ended ⟨node, batch, .error⟩ (hrest errors) (by simp) rfl
    | signaled signal =>
      apply PassAccounted.after_ended ⟨node, batch, .signaled signal⟩ (hrest _) (by simp)
      by_cases hsignal : signal = sigint <;> simp [hsignal, WaitResult.isError]
    | stopped signal =>
      apply PassAccounted.after_ended ⟨node, batch, .stopped signal⟩ (hrest _) (by simp)
      by_cases hsignal : signal = sigint <;> simp [hsignal, WaitResult.isError]

/-- A pass that finds no running child empties the list. -/
theorem workerManagerWatchdog_ended (handler : WorkerHandler) (visit : ℕ → Visit)
    (list : List WorkerInfo) (errors : ℕ) (status : Status) (hended : ∀ index, (visit index).wait ≠ .running) :
    (workerManagerWatchdog handler visit list errors status).ok = true ∧
      (workerManagerWatchdog handler visit list errors status).list = [] := by
  induction list generalizing visit errors with
  | nil => exact ⟨rfl, rfl⟩
  | cons node rest ih =>
    have hrest := fun errors ↦ ih (fun index ↦ visit (index + 1)) errors fun index ↦
      hended (index + 1)
    have hfirst := hended 0
    rw [workerManagerWatchdog]
    cases hwait : (visit 0).wait with
    | running => exact absurd hwait hfirst
    | exited code => exact hrest errors
    | error => exact hrest errors
    | signaled signal => exact hrest _
    | stopped signal => exact hrest _

/-! ## What the loop does -/

theorem finishStatus_failed (errors : ℕ) (status : Status) :
    (finishStatus errors status).failed = (status.failed || decide (0 < errors)) := by
  unfold finishStatus
  split
  case isTrue herrors => simp [Status.failure, herrors]
  case isFalse herrors => simp [herrors]

/-- How the state of the loop follows from the visits and aborts so far. -/
structure Accounted (handler : WorkerHandler) (state : LoopState) : Prop where
  errors_eq : state.errors =
    (state.log.countP fun record ↦ record.wait.isError) + state.aborts
  broken_iff : state.broken = true ↔ ∃ record ∈ state.log, record.FailsEval handler
  status_eq : state.status.failed = state.broken
  passed : ∀ record ∈ state.log, handler.apply record.node = .proceed

/-- A state in which the loop goes on: no pass has failed, and every listed worker has passed the
handler with the snapshot in its slot. -/
structure Looping (handler : WorkerHandler) (state : LoopState) : Prop extends
    Accounted handler state where
  unbroken : state.broken = false
  waiting : state.returned = false
  kept : ∀ list, state.list = some list → ∀ info ∈ list, handler.apply info = .proceed

/-- A pass keeps the account, whether it fails or not. -/
theorem Looping.afterPass {state : LoopState} {list : List WorkerInfo} {result : PassResult}
    (h : Looping handler state) (hlist : state.list = some list)
    (hpass : PassAccounted handler list state.errors state.status result) :
    Accounted handler (state.afterPass result) where
  errors_eq := by
    have hbefore := h.errors_eq
    have hafter := hpass.errors_eq
    simp only [LoopState.afterPass, List.countP_append]
    omega
  broken_iff := by
    have hearlier : ∀ record ∈ state.log, ¬ record.FailsEval handler := by
      intro record hrecord hfails
      have hbroken := h.broken_iff.mpr ⟨record, hrecord, hfails⟩
      rw [h.unbroken] at hbroken
      contradiction
    rw [LoopState.afterPass, Bool.not_eq_true', hpass.ok_iff]
    constructor
    · rintro ⟨record, hrecord, hfails⟩
      exact ⟨record, List.mem_append_right _ hrecord, hfails⟩
    · rintro ⟨record, hrecord, hfails⟩
      rcases List.mem_append.mp hrecord with hrecord | hrecord
      · exact absurd hfails (hearlier record hrecord)
      · exact ⟨record, hrecord, hfails⟩
  status_eq := by
    rw [LoopState.afterPass, hpass.status_eq, h.status_eq, h.unbroken, Bool.false_or]
  passed record hrecord := by
    rcases List.mem_append.mp hrecord with hrecord | hrecord
    · exact h.passed record hrecord
    · exact h.kept list hlist record.node (hpass.visited record hrecord)

theorem Looping.afterPass_ok {state : LoopState} {list : List WorkerInfo} {result : PassResult}
    (h : Looping handler state) (hlist : state.list = some list)
    (hpass : PassAccounted handler list state.errors state.status result)
    (hok : result.ok = true) : Looping handler (state.afterPass result) where
  toAccounted := h.afterPass hlist hpass
  unbroken := by rw [LoopState.afterPass, hok, Bool.not_true]
  waiting := h.waiting
  kept kept hkept info hinfo := by
    rw [LoopState.afterPass, Option.some.injEq] at hkept
    exact hpass.kept hok info (hkept ▸ hinfo)

theorem Looping.afterAbort {state : LoopState} (h : Looping handler state) :
    Looping handler { state with errors := state.errors + 1, aborts := state.aborts + 1 } where
  errors_eq := by
    have hbefore := h.errors_eq
    simp only
    omega
  broken_iff := h.broken_iff
  status_eq := h.status_eq
  passed := h.passed
  unbroken := h.unbroken
  waiting := h.waiting
  kept := h.kept

theorem Looping.afterCleaned {state : LoopState} (h : Looping handler state) :
    Looping handler { state with list := none } where
  errors_eq := h.errors_eq
  broken_iff := h.broken_iff
  status_eq := h.status_eq
  passed := h.passed
  unbroken := h.unbroken
  waiting := h.waiting
  kept := by simp

/-- The children start with an empty slot, so the handler has to accept an empty slot. -/
theorem looping_start (children : List ℤ)
    (hzero : ∀ child, handler.apply ⟨child, Snapshot.zero⟩ = .proceed) :
    Looping handler (LoopState.start children) where
  errors_eq := rfl
  broken_iff := by simp [LoopState.start]
  status_eq := rfl
  passed := by simp [LoopState.start]
  unbroken := rfl
  waiting := rfl
  kept list hlist info hinfo := by
    rw [LoopState.start, Option.some.injEq] at hlist
    rw [← hlist] at hinfo
    rcases List.mem_map.mp hinfo with ⟨child, _, rfl⟩
    exact hzero child

/-- The loop is still going on, or it was left in a state that accounts for all of its visits. -/
theorem workerManagerWatchdogLoop_accounted {state : LoopState} (events : List LoopEvent)
    (h : Looping handler state) :
    Looping handler (workerManagerWatchdogLoop handler events state) ∨
      ∃ last, Accounted handler last ∧
        workerManagerWatchdogLoop handler events state = last.finish := by
  fun_induction workerManagerWatchdogLoop handler events state with
  | case1 events state hlist => exact .inr ⟨state, h.toAccounted, rfl⟩
  | case2 events state hlist => exact .inr ⟨state, h.toAccounted, rfl⟩
  | case3 state node rest hlist => exact .inl h
  | case4 state node rest hlist visit events result hok ih =>
    exact ih (h.afterPass_ok hlist (workerManagerWatchdog_accounted _ _ _ _ _) hok)
  | case5 state node rest hlist visit events result hok =>
    exact .inr ⟨_, h.afterPass hlist (workerManagerWatchdog_accounted _ _ _ _ _), rfl⟩
  | case6 state node rest hlist events ih => exact ih h.afterAbort
  | case7 state node rest hlist events ih => exact ih h.afterCleaned

/-- The loop is over after a pass that finds no running child. -/
theorem workerManagerWatchdogLoop_returned (visit : ℕ → Visit) (events : List LoopEvent)
    (state : LoopState) (hended : ∀ index, (visit index).wait ≠ .running) :
    (workerManagerWatchdogLoop handler (.pass visit :: events) state).returned = true := by
  unfold workerManagerWatchdogLoop
  split
  · rfl
  · rfl
  · rename_i node rest _
    have hpass := workerManagerWatchdog_ended handler visit (node :: rest) state.errors
      state.status hended
    simp only [hpass.1, if_true]
    unfold workerManagerWatchdogLoop
    simp only [LoopState.afterPass, hpass.2, LoopState.finish]

end MsgPerf.Worker
