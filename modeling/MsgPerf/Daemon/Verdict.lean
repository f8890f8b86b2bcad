import MsgPerf.Maestro.Note
import MsgPerf.Worker.Manager

/-!
# The verdict of a run

The part of `senderd_worker_execute` and `receiverd_worker_execute` behind the clone: the handler
for the watchdog, the loop, and the links and the notification that follow from its status.  The
receiver installs the evaluation of the latency, which looks at the slot of a worker.

Time differences are computed by the `gru` library, which is a parameter (`GruTime`).
-/

namespace MsgPerf.Daemon

open Maestro (Command)
open Worker

/-- `gru_time_to_milli` and `gru_time_elapsed_secs`.  No time passes between equal times. -/
structure GruTime where
  toMilli : Timestamp → ℤ
  elapsedSecs : Timestamp → Timestamp → ℤ
  elapsedSecs_self : ∀ time, elapsedSecs time time = 0

/-- The options that the verdict depends on; the limit is `condition.latency`. -/
structure WorkerOptions where
  rate : ℕ
  limit : ℤ
  deriving DecidableEq, Repr

/-- The two daemons with a watchdog over forked workers. -/
inductive WorkerDaemon where
  | senderd
  | receiverd (options : WorkerOptions)
  deriving DecidableEq, Repr

variable (time : GruTime) (options : WorkerOptions)

def warmUpSecs : ℤ := 90

def receiverdWorkerEvalLatency (info : WorkerInfo) : Option String :=
  let latency := time.toMilli info.snapshot.latency
  if options.limit < latency then
    let elapsed := time.elapsedSecs info.snapshot.start info.snapshot.now
    if elapsed < warmUpSecs then none
    else
      some ("Current latency " ++ toString latency ++ " exceeds the maximum value " ++
        toString options.limit)
  else none

def emptyHandler : WorkerHandler := ⟨false, false, none, none⟩

/-- The handler with which the watchdog is called. -/
def workerHandler : WorkerDaemon → WorkerHandler
  | .senderd => emptyHandler
  | .receiverd options =>
      if 0 < options.rate then
        if 0 < options.limit then
          { emptyHandler with
            handleEval := true
            eval := some (receiverdWorkerEvalLatency time options) }
        else emptyHandler
      else emptyHandler

/-- A notification note, by its command and message. -/
structure Notification where
  command : Command
  message : String
  deriving DecidableEq, Repr

def maestroNotifyTestFailed (status : Status) : Notification := ⟨.notifyFail, status.message⟩

def maestroNotifyTestSuccessful : Notification := ⟨.notifySuccess, "Test completed successfully"⟩

/-- The links made in the log directory, in order, and the notification that is sent. -/
structure Verdict where
  links : List String
  notification : Notification
  deriving DecidableEq, Repr

def announce (status : Status) : Verdict :=
  if status.success then ⟨["lastSuccessful", "last"], maestroNotifyTestSuccessful⟩
  else ⟨["lastFailed", "last"], maestroNotifyTestFailed status⟩

/-- A run behind the clone: the loop, and the verdict once it has returned. -/
structure Execution where
  final : LoopState
  verdict : Option Verdict

def workerExecute (daemon : WorkerDaemon) (children : List ℤ) (events : List LoopEvent) : Execution :=
  let final := workerManagerWatchdogLoop (workerHandler time daemon) events (.start children)
  ⟨final, if final.returned then some (announce final.status) else none⟩

def senderdWorkerExecute (children : List ℤ) (events : List LoopEvent) : Execution :=
  workerExecute time .senderd children events

def receiverdWorkerExecute (children : List ℤ) (events : List LoopEvent) : Execution :=
  workerExecute time (.receiverd options) children events

/-! ## Exit status of a child -/

def workerFailure : ℕ := 0
def workerSuccess : ℕ := 1
def workerChild : ℕ := 2

/-- The status with which a forked child exits when its worker function returned `ret`: the clone
marks the value as that of a child, and the daemon leaves its main loop with it. -/
def childExitStatus (ret : ℕ) : ℕ :=
  if (ret ||| workerChild) &&& workerSuccess ≠ 0 then 0 else 1

/-! ## What the watchdog refuses -/

/-- Past the warm-up period and above the limit. -/
def OverLimit (snapshot : Snapshot) : Prop :=
  options.limit < time.toMilli snapshot.latency ∧
    warmUpSecs ≤ time.elapsedSecs snapshot.start snapshot.now

/-- The snapshots with which a running child makes a pass fail. -/
def WorkerDaemon.Refuses : WorkerDaemon → Snapshot → Prop
  | .senderd, _ => False
  | .receiverd options, snapshot =>
      0 < options.rate ∧ 0 < options.limit ∧ OverLimit time options snapshot

theorem receiverdWorkerEvalLatency_eq_none_iff (info : WorkerInfo) :
    receiverdWorkerEvalLatency time options info = none ↔
      ¬ OverLimit time options info.snapshot := by
  unfold receiverdWorkerEvalLatency OverLimit
  by_cases hlatency : options.limit < time.toMilli info.snapshot.latency
  · by_cases helapsed : time.elapsedSecs info.snapshot.start info.snapshot.now < warmUpSecs
    · simp [hlatency, helapsed]
    · simp [hlatency, helapsed, not_lt.mp helapsed]
  · simp [hlatency]

theorem apply_emptyHandler (info : WorkerInfo) : emptyHandler.apply info = .proceed := by
  simp [emptyHandler, WorkerHandler.apply]

/-- The handler of the latency lets exactly the snapshots below the limit pass. -/
theorem apply_evalLatency (info : WorkerInfo) :
    { emptyHandler with
      handleEval := true
      eval := some (receiverdWorkerEvalLatency time options) }.apply info = .proceed ↔
      ¬ OverLimit time options info.snapshot := by
  rw [← receiverdWorkerEvalLatency_eq_none_iff]
  cases heval : receiverdWorkerEvalLatency time options info <;>
    simp [emptyHandler, WorkerHandler.apply, heval]

theorem apply_workerHandler_iff (daemon : WorkerDaemon) (info : WorkerInfo) :
    (workerHandler time daemon).apply info = .proceed ↔ ¬ daemon.Refuses time info.snapshot := by
  cases daemon with
  | senderd => simp [workerHandler, apply_emptyHandler, WorkerDaemon.Refuses]
  | receiverd options =>
    unfold workerHandler WorkerDaemon.Refuses
    by_cases hrate : 0 < options.rate
    · by_cases hlimit : 0 < options.limit
      · simp only [hrate, hlimit, if_true, apply_evalLatency, true_and]
      · simp [hlimit, apply_emptyHandler]
    · simp [hrate, apply_emptyHandler]

/-- In an empty slot no time has passed. -/
theorem not_refuses_zero (daemon : WorkerDaemon) : ¬ daemon.Refuses time Snapshot.zero := by
  cases daemon with
  | senderd => exact id
  | receiverd options =>
    rintro ⟨_, _, _, helapsed⟩
    have hself : time.elapsedSecs Snapshot.zero.start Snapshot.zero.now = 0 :=
      time.elapsedSecs_self _
    rw [hself] at helapsed
    exact absurd helapsed (by decide)

/-- The last snapshot found at a running child is refused. -/
def Refused (daemon : WorkerDaemon) (record : VisitRecord) : Prop :=
  record.wait = .running ∧
    ∃ snapshot, record.batch.getLast? = some snapshot ∧ daemon.Refuses time snapshot

/-! ## How the verdict follows from what the watchdog found -/

/-- The outcome of a run in terms of the visits and aborts. -/
structure Judged (daemon : WorkerDaemon) (run : Execution) : Prop where
  evaluated : ∀ record ∈ run.final.log,
    record.FailsEval (workerHandler time daemon) ↔ Refused time daemon record
  broken_iff : run.final.broken = true ↔ ∃ record ∈ run.final.log, Refused time daemon record
  returned_of_broken : run.final.broken = true → run.final.returned = true
  failed_iff : run.final.returned = true →
    (run.final.status.failed = true ↔ (∃ record ∈ run.final.log, Refused time daemon record) ∨
      (∃ record ∈ run.final.log, record.wait.isError = true) ∨ 0 < run.final.aborts)
  verdict_eq : run.final.returned = true → run.verdict = some (announce run.final.status)

variable {time options}

theorem failsEval_iff_refused {daemon : WorkerDaemon} {state : LoopState} {record : VisitRecord}
    (h : Accounted (workerHandler time daemon) state) (hrecord : record ∈ state.log) :
    record.FailsEval (workerHandler time daemon) ↔ Refused time daemon record := by
  rw [VisitRecord.failsEval_iff (h.passed record hrecord), Refused]
  simp only [ne_eq, apply_workerHandler_iff, not_not]

theorem broken_iff_refused {daemon : WorkerDaemon} {state : LoopState}
    (h : Accounted (workerHandler time daemon) state) :
    state.broken = true ↔ ∃ record ∈ state.log, Refused time daemon record := by
  rw [h.broken_iff]
  constructor
  · rintro ⟨record, hrecord, hfails⟩
    exact ⟨record, hrecord, (failsEval_iff_refused h hrecord).mp hfails⟩
  · rintro ⟨record, hrecord, hrefused⟩
    exact ⟨record, hrecord, (failsEval_iff_refused h hrecord).mpr hrefused⟩

/-- The error counter is positive when an end or an abort has been counted. -/
theorem errors_pos_iff {handler : WorkerHandler} {state : LoopState} (h : Accounted handler state) :
    0 < state.errors ↔
      (∃ record ∈ state.log, record.wait.isError = true) ∨ 0 < state.aborts := by
  rw [h.errors_eq, Nat.add_pos_iff_pos_or_pos, List.countP_pos_iff]

/-- A run whose loop goes on has no outcome yet. -/
theorem judged_of_looping {daemon : WorkerDaemon} {state : LoopState}
    (h : Looping (workerHandler time daemon) state) : Judged time daemon ⟨state, none⟩ where
  evaluated _ hrecord := failsEval_iff_refused h.toAccounted hrecord
  broken_iff := broken_iff_refused h.toAccounted
  returned_of_broken hbroken := by simp [h.unbroken] at hbroken
  failed_iff hreturned := by simp [h.waiting] at hreturned
  verdict_eq hreturned := by simp [h.waiting] at hreturned

theorem judged_of_finish {daemon : WorkerDaemon} {last : LoopState}
    (h : Accounted (workerHandler time daemon) last) :
    Judged time daemon ⟨last.finish, some (announce last.finish.status)⟩ where
  evaluated _ hrecord := failsEval_iff_refused h hrecord
  broken_iff := by simpa only [LoopState.finish] using broken_iff_refused h
  returned_of_broken _ := rfl
  failed_iff _ := by
    simp only [LoopState.finish]
    rw [finishStatus_failed, h.status_eq, Bool.or_eq_true, decide_eq_true_eq, errors_pos_iff h,
      broken_iff_refused h]
  verdict_eq _ := rfl

theorem workerExecute_judged (daemon : WorkerDaemon) (children : List ℤ)
    (events : List LoopEvent) :
    Judged time daemon (workerExecute time daemon children events) := by
  have hstart : Looping (workerHandler time daemon) (.start children) := by
    apply looping_start
    intro child
    rw [apply_workerHandler_iff]
    exact not_refuses_zero time daemon
  unfold workerExecute
  rcases workerManagerWatchdogLoop_accounted events hstart with hlooping | ⟨last, haccounted, hlast⟩
  · simpa only [hlooping.waiting, Bool.false_eq_true, if_false] using judged_of_looping hlooping
  · rw [hlast]
    exact judged_of_finish haccounted

/-- A failure in the status is announced as such. -/
theorem announce_of_failed {status : Status} (hfailed : status.failed = true) :
    announce status = ⟨["lastFailed", "last"], maestroNotifyTestFailed status⟩ := by
  simp [announce, Status.success, hfailed]

theorem announce_of_not_failed {status : Status} (hfailed : status.failed = false) :
    announce status = ⟨["lastSuccessful", "last"], maestroNotifyTestSuccessful⟩ := by
  simp [announce, Status.success, hfailed]

/-! ## Success is announced for successful runs -/

/-- Exit status zero, or an end by `SIGINT`.  A child that was not reaped has not ended badly. -/
def endedWell : WaitResult → Bool
  | .exited status => status = 0
  | .signaled signal | .stopped signal => signal = sigint
  | .running | .error => true

/-- Every child that the watchdog reaped ended well, and no evaluation failed. -/
def Successful (time : GruTime) (daemon : WorkerDaemon) (run : Execution) : Prop :=
  (∀ record ∈ run.final.log, endedWell record.wait = true) ∧
    ∀ record ∈ run.final.log, ¬ record.FailsEval (workerHandler time daemon)

/-- Success is announced only for a successful run, and failure for every other one. -/
def AnnouncesTruly (time : GruTime) (daemon : WorkerDaemon) (run : Execution) : Prop :=
  ∀ verdict, run.verdict = some verdict →
    ("lastSuccessful" ∈ verdict.links ∨ verdict.notification.command = .notifySuccess →
      Successful time daemon run) ∧
    (¬ Successful time daemon run →
      "lastFailed" ∈ verdict.links ∧ verdict.notification.command = .notifyFail)

/-- Every exit had status zero, or the run fails for another reason: an end by a signal that is
counted, a refused snapshot, or an abort. -/
def ExitsCovered (time : GruTime) (daemon : WorkerDaemon) (run : Execution) : Prop :=
  (∀ record ∈ run.final.log, ∀ status, record.wait = .exited status → status = 0) ∨
    (∃ record ∈ run.final.log, Refused time daemon record) ∨
    (∃ record ∈ run.final.log, record.wait.isError = true) ∨ 0 < run.final.aborts

/-- Ends that are not counted as errors are good ones, exits apart. -/
theorem endedWell_iff {wait : WaitResult} (hwait : wait.isError = false) :
    endedWell wait = true ↔ ∀ status, wait = .exited status → status = 0 := by
  cases wait <;> simp_all [endedWell, WaitResult.isError]

theorem Judged.announcesTruly_of_failed {daemon : WorkerDaemon} {run : Execution}
    (h : Judged time daemon run) (hreturned : run.final.returned = true)
    (hfailed : run.final.status.failed = true) : AnnouncesTruly time daemon run := by
  intro verdict hverdict
  rw [h.verdict_eq hreturned, Option.some.injEq, announce_of_failed hfailed] at hverdict
  subst hverdict
  simp [maestroNotifyTestFailed]

theorem Judged.announcesTruly_iff_successful {daemon : WorkerDaemon} {run : Execution}
    (h : Judged time daemon run) (hreturned : run.final.returned = true)
    (hfailed : run.final.status.failed = false) :
    AnnouncesTruly time daemon run ↔ Successful time daemon run := by
  have hverdict := h.verdict_eq hreturned
  rw [announce_of_not_failed hfailed] at hverdict
  constructor
  · intro htruly
    exact (htruly _ hverdict).1 (.inr rfl)
  · intro hsuccessful verdict _
    exact ⟨fun _ ↦ hsuccessful, fun hnot ↦ absurd hsuccessful hnot⟩

/-- Without a failure in the status, a run is successful when all its exits had status zero. -/
theorem Judged.successful_iff {daemon : WorkerDaemon} {run : Execution}
    (h : Judged time daemon run)
    (hrefused : ¬ ∃ record ∈ run.final.log, Refused time daemon record)
    (herrors : ¬ ∃ record ∈ run.final.log, record.wait.isError = true) :
    Successful time daemon run ↔
      ∀ record ∈ run.final.log, ∀ status, record.wait = .exited status → status = 0 := by
  have hevaluated : ∀ record ∈ run.final.log,
      ¬ record.FailsEval (workerHandler time daemon) := by
    intro record hrecord hfails
    exact hrefused ⟨record, hrecord, (h.evaluated record hrecord).mp hfails⟩
  have hends : ∀ record ∈ run.final.log, (endedWell record.wait = true ↔
      ∀ status, record.wait = .exited status → status = 0) := by
    intro record hrecord
    apply endedWell_iff
    rw [← Bool.not_eq_true]
    exact fun herror ↦ herrors ⟨record, hrecord, herror⟩
  unfold Successful
  rw [and_iff_left hevaluated]
  exact forall₂_congr hends

/-- Times of the library on whole milliseconds. -/
def systemTime : GruTime where
  toMilli time := time.tvSec * 1000 + time.tvUsec.tdiv 1000
  elapsedSecs start now := now.tvSec - start.tvSec
  elapsedSecs_self _ := Int.sub_self _

/-- A snapshot over the limit was read from a child that was still running. -/
def LimitExceeded (time : GruTime) (options : WorkerOptions) (run : Execution) : Prop :=
  ∃ record ∈ run.final.log, record.wait = .running ∧
    ∃ snapshot ∈ record.batch, OverLimit time options snapshot

/-- The watchdog returns false, the status is a failure and the failure is notified. -/
def RunFails (run : Execution) : Prop :=
  run.final.broken = true ∧ run.final.status.failed = true ∧
    ∃ verdict, run.verdict = some verdict ∧ verdict.notification.command = .notifyFail

/-- The workers are rate-based, and a snapshot over the limit was the last one that a pass read
from a child that was still running. -/
def LimitNoticed (time : GruTime) (options : WorkerOptions) (run : Execution) : Prop :=
  0 < options.rate ∧ ∃ record ∈ run.final.log, record.wait = .running ∧
    ∃ snapshot, record.batch.getLast? = some snapshot ∧ OverLimit time options snapshot

theorem refused_receiverd_iff (hlimit : 0 < options.limit) (record : VisitRecord) :
    Refused time (.receiverd options) record ↔ 0 < options.rate ∧ record.wait = .running ∧
      ∃ snapshot, record.batch.getLast? = some snapshot ∧ OverLimit time options snapshot := by
  simp only [Refused, WorkerDaemon.Refuses, hlimit, true_and]
  constructor
  · rintro ⟨hwait, snapshot, hlast, hrate, hover⟩
    exact ⟨hrate, hwait, snapshot, hlast, hover⟩
  · rintro ⟨hrate, hwait, snapshot, hlast, hover⟩
    exact ⟨hwait, snapshot, hlast, hrate, hover⟩

theorem Judged.broken_iff_limitNoticed {run : Execution}
    (h : Judged time (.receiverd options) run) (hlimit : 0 < options.limit) :
    run.final.broken = true ↔ LimitNoticed time options run := by
  rw [h.broken_iff, LimitNoticed]
  simp only [refused_receiverd_iff hlimit]
  constructor
  · rintro ⟨record, hrecord, hrate, hlast⟩
    exact ⟨hrate, record, hrecord, hlast⟩
  · rintro ⟨hrate, record, hrecord, hlast⟩
    exact ⟨record, hrecord, hrate, hlast⟩

/-- A pass that fails is a failed run. -/
theorem Judged.runFails_iff_broken {daemon : WorkerDaemon} {run : Execution}
    (h : Judged time daemon run) : RunFails run ↔ run.final.broken = true := by
  constructor
  · exact fun hfails ↦ hfails.1
  · intro hbroken
    have hreturned := h.returned_of_broken hbroken
    have hfailed : run.final.status.failed = true :=
      (h.failed_iff hreturned).mpr (.inl (h.broken_iff.mp hbroken))
    refine ⟨hbroken, hfailed, _, h.verdict_eq hreturned, ?_⟩
    rw [announce_of_failed hfailed]
    rfl

/-- Latency of half a second, `elapsed` seconds after the start. -/
def lateSnapshot (elapsed : ℤ) : Snapshot :=
  ⟨1, ⟨0, 0⟩, ⟨elapsed, 0⟩, ⟨0, 0⟩, ⟨0, 500000⟩, 0⟩

/-- A pass that reads the batch from a running child, and one that finds its exit. -/
def readThenExit (batch : List Snapshot) : List LoopEvent :=
  [.pass fun _ ↦ ⟨batch, .running⟩, .pass fun _ ↦ ⟨[], .exited 0⟩]

end MsgPerf.Daemon
