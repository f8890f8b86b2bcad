import MsgPerf.Daemon.Verdict
import MsgPerf.Library.Machine

/-!
# The main loop and the player thread

`senderd_worker_start` and `receiverd_worker_start` poll the flag that the handler of START sets,
run `*_worker_execute` and clear the flag.  The player thread handles notes at any point in
between.  The two threads share the flags and the worker list: a stop destroys the list while the
main thread is still inside the run.

A handler is one step, and so is every statement of the main thread that reads or writes what the
threads share.  The outcome of a call that can fail is part of the label.  Two ghost fields follow
a START that was answered with OK until a run begins or the START is cancelled.
-/

namespace MsgPerf.Daemon

open MsgPerf.Library
open Maestro (Command)
open Worker

/-- The next statement of the main thread. -/
inductive MainPhase where
  | whileHalt
  | ifStarted
  | vmslAssign
  | logInit
  | listInit
  | dump
  | writer
  | spawn (index : ℕ)
  | info (index : ℕ) (child : ℤ)
  | append (index : ℕ) (child : ℤ)
  | watchdog
  | windUp
  | clear
  | ended
  deriving DecidableEq, Repr

namespace MainPhase

/-- Between the call of `*_worker_execute` and its return. -/
def inExecute : MainPhase → Bool
  | .whileHalt | .ifStarted | .vmslAssign | .clear | .ended => false
  | _ => true

/-- Behind the creation of the worker list. -/
def behindListInit : MainPhase → Bool
  | .logInit | .listInit => false
  | phase => phase.inExecute

end MainPhase

/-- The shared flags and worker list, the option that the clone reads, the variables of a run, and
the verdicts so far.  `pending` says that a START was answered with OK and neither taken up nor
cancelled since, `waited` counts the steps of the main thread meanwhile, and `discarded` says that
the main loop has cleared the flag of such a START. -/
structure MainState where
  started : Bool
  halt : Bool
  parallelCount : ℕ
  list : Option (List WorkerInfo)
  errors : ℕ
  status : Status
  verdicts : List Verdict
  phase : MainPhase
  pending : Bool
  waited : ℕ
  discarded : Bool
  deriving DecidableEq, Repr

/-! ## Handlers of the player thread -/

/-- `senderd_handle_start` and `receiverd_handle_start`. -/
def handleStart (state : MainState) : MainState × Command :=
  if state.started ∨ state.list.isSome then (state, .internalError)
  else
    ({ state with
      started := true
      pending := true
      waited := if state.pending then state.waited else 0 }, .ok)

/-- A START that the main thread has not taken up is cancelled. -/
def MainState.cancel (state : MainState) : MainState :=
  { state with pending := state.pending && state.phase = .vmslAssign }

/-- `senderd_handle_stop` and `receiverd_handle_stop`; a stop of the workers leaves no list. -/
def handleStop (state : MainState) : MainState × Command :=
  ({ state.cancel with started := false, list := none }, .ok)

/-- `senderd_handle_test_failed` and `receiverd_handle_test_failed`; an abort counts an error. -/
def handleTestFailed (state : MainState) : MainState × Command :=
  ({ state.cancel with
    started := false
    errors := if state.list.isSome then state.errors + 1 else state.errors
    list := none }, .ok)

def handleHalt (state : MainState) : MainState × Command :=
  ({ (handleStop state).1 with halt := true }, .ok)

/-- The handlers of STATS read the worker list. -/
def handleStats (state : MainState) : MainState × Command :=
  (state, if state.list.isSome then .stats else .internalError)

/-- `commond_handle_set` with the option that sets the number of workers. -/
def handleSet (parallelCount : ℕ) (state : MainState) : MainState × Command :=
  ({ state with parallelCount := parallelCount % 2 ^ 16 }, .ok)

inductive PlayerStep where
  | start
  | stop
  | testFailed
  | halt
  | stats
  | set (parallelCount : ℕ)
  deriving DecidableEq, Repr

def playerNext (state : MainState) : PlayerStep → MainState × Command
  | .start => handleStart state
  | .stop => handleStop state
  | .testFailed => handleTestFailed state
  | .halt => handleHalt state
  | .stats => handleStats state
  | .set parallelCount => handleSet parallelCount state

/-! ## Steps of the main thread -/

/-- `vmsl_assign_by_url`, and the formatting of the URI for the message when it fails. -/
inductive AssignOutcome where
  | assigned
  | refused
  | unformatted
  deriving DecidableEq, Repr

inductive MainStep where
  | testHalt
  | testStarted
  | vmslAssignByUrl (outcome : AssignOutcome)
  | workerLogInit (ok : Bool)
  | workerListInit (ok : Bool)
  | workerDump (ok : Bool)
  | namingInitializeWriter (ok : Bool)
  | fork (child : ℤ)
  | workerInfoNew (ok : Bool)
  | workerListAppend (ok : Bool)
  | cloned
  | watchdogPass (handler : WorkerHandler) (visit : ℕ → Visit)
  | watchdogEnd
  | windUp
  | clearStarted

/-- On to the next statement, or out of `*_worker_execute` by an early return. -/
def MainState.proceed (state : MainState) (ok : Bool) (phase : MainPhase) : MainState :=
  { state with phase := if ok then phase else .clear }

/-- The loop around `worker_manager_watchdog`, which runs while there is a list with workers.  The
handlers of the daemons leave the mutex unlocked. -/
def watchdogNext (state : MainState) (handler : WorkerHandler) (visit : ℕ → Visit) :
    Option MainState :=
  match state.list with
  | none | some [] => none
  | some (node :: rest) =>
      let result := workerManagerWatchdog handler visit (node :: rest) state.errors state.status
      if result.locked then none
      else
        some { state with
          list := some result.list
          errors := result.errors
          status := result.status
          phase := if result.ok then .watchdog else .windUp }

def mainNext (state : MainState) : MainStep → Option MainState
  | .testHalt =>
      match state.phase with
      | .whileHalt => some { state with phase := if state.halt then .ended else .ifStarted }
      | _ => none
  | .testStarted =>
      match state.phase with
      | .ifStarted => some { state with phase := if state.started then .vmslAssign else .whileHalt }
      | _ => none
  | .vmslAssignByUrl outcome =>
      match state.phase, outcome with
      -- Here `*_worker_execute` begins.
      | .vmslAssign, .assigned =>
          some { state with status := .new, phase := .logInit, pending := false }
      | .vmslAssign, .refused => some { state with phase := .ended }
      | .vmslAssign, .unformatted => some { state with phase := .whileHalt }
      | _, _ => none
  | .workerLogInit ok =>
      match state.phase with
      | .logInit => some (state.proceed ok .listInit)
      | _ => none
  | .workerListInit ok =>
      match state.phase with
      | .listInit =>
          if state.list = none ∧ ok then
            some { state with errors := 0, list := some [], phase := .dump }
          else some { state with errors := 0, phase := .clear }
      | _ => none
  | .workerDump ok =>
      match state.phase with
      | .dump => some (state.proceed ok .writer)
      | _ => none
  | .namingInitializeWriter ok =>
      match state.phase with
      | .writer => some (state.proceed ok (.spawn 0))
      | _ => none
  | .fork child =>
      match state.phase with
      | .spawn index =>
          if index < state.parallelCount then some { state with phase := .info index child }
          else none
      | _ => none
  | .workerInfoNew ok =>
      match state.phase with
      | .info index child => some (state.proceed ok (.append index child))
      | _ => none
  | .workerListAppend ok =>
      match state.phase, state.list with
      | .append index child, some list =>
          if ok then
            some { state with
              list := some (list ++ [⟨child, Snapshot.zero⟩])
              phase := .spawn (index + 1) }
          else some { state with phase := .clear }
      | .append _ _, none => some { state with phase := .clear }
      | _, _ => none
  | .cloned =>
      match state.phase with
      | .spawn index =>
          if index < state.parallelCount then none else some { state with phase := .watchdog }
      | _ => none
  | .watchdogPass handler visit =>
      match state.phase with
      | .watchdog => watchdogNext state handler visit
      | _ => none
  | .watchdogEnd =>
      match state.phase with
      | .watchdog =>
          if state.list.getD [] = [] then some { state with phase := .windUp } else none
      | _ => none
  | .windUp =>
      match state.phase with
      | .windUp =>
          some { state with
            verdicts := state.verdicts ++ [announce (finishStatus state.errors state.status)]
            list := none
            phase := .clear }
      | _ => none
  | .clearStarted =>
      match state.phase with
      | .clear =>
          some { state with
            started := false
            phase := .whileHalt
            pending := false
            discarded := state.discarded || state.pending }
      | _ => none

inductive DaemonStep where
  | player (step : PlayerStep)
  | main (step : MainStep)

/-- A step of the main thread while a START is pending. -/
def MainState.tick (state : MainState) : MainState :=
  { state with waited := if state.pending then state.waited + 1 else state.waited }

def daemonNext (state : MainState) : DaemonStep → Option MainState
  | .player step => some (playerNext state step).1
  | .main step => mainNext state.tick step

def daemonMachine : Machine MainState DaemonStep where
  initial := ⟨false, false, 0, none, 0, .new, [], .whileHalt, false, 0, false⟩
  next := daemonNext

/-! ## What a step of the main thread does -/

/-- A step of the clone behind the creation of the list that fails. -/
def MainStep.isFailure : MainStep → Bool
  | .workerDump ok | .namingInitializeWriter ok | .workerInfoNew ok | .workerListAppend ok => !ok
  | _ => false

variable {state after : MainState} {step : MainStep}

/-- Everything that a step of the main thread can do. -/
inductive MainCase (state : MainState) : MainStep → MainState → Prop where
  | testHalt : state.phase = .whileHalt →
      MainCase state .testHalt { state with phase := if state.halt then .ended else .ifStarted }
  | testStarted : state.phase = .ifStarted →
      MainCase state .testStarted
        { state with phase := if state.started then .vmslAssign else .whileHalt }
  | assigned : state.phase = .vmslAssign →
      MainCase state (.vmslAssignByUrl .assigned)
        { state with status := .new, phase := .logInit, pending := false }
  | refused : state.phase = .vmslAssign →
      MainCase state (.vmslAssignByUrl .refused) { state with phase := .ended }
  | unformatted : state.phase = .vmslAssign →
      MainCase state (.vmslAssignByUrl .unformatted) { state with phase := .whileHalt }
  | workerLogInit (ok : Bool) : state.phase = .logInit →
      MainCase state (.workerLogInit ok) (state.proceed ok .listInit)
  | workerListInit : state.phase = .listInit → state.list = none →
      MainCase state (.workerListInit true)
        { state with errors := 0, list := some [], phase := .dump }
  | workerListUninit (ok : Bool) : state.phase = .listInit → ¬ (state.list = none ∧ ok) →
      MainCase state (.workerListInit ok) { state with errors := 0, phase := .clear }
  | workerDump (ok : Bool) : state.phase = .dump →
      MainCase state (.workerDump ok) (state.proceed ok .writer)
  | namingInitializeWriter (ok : Bool) : state.phase = .writer →
      MainCase state (.namingInitializeWriter ok) (state.proceed ok (.spawn 0))
  | fork (index : ℕ) (child : ℤ) : state.phase = .spawn index → index < state.parallelCount →
      MainCase state (.fork child) { state with phase := .info index child }
  | workerInfoNew (index : ℕ) (child : ℤ) (ok : Bool) : state.phase = .info index child →
      MainCase state (.workerInfoNew ok) (state.proceed ok (.append index child))
  | workerListAppend (index : ℕ) (child : ℤ) (list : List WorkerInfo) :
      state.phase = .append index child → state.list = some list →
      MainCase state (.workerListAppend true)
        { state with
          list := some (list ++ [⟨child, Snapshot.zero⟩])
          phase := .spawn (index + 1) }
  | unappended (index : ℕ) (child : ℤ) (ok : Bool) : state.phase = .append index child →
      ok = false ∨ state.list = none →
      MainCase state (.workerListAppend ok) { state with phase := .clear }
  | cloned (index : ℕ) : state.phase = .spawn index → ¬ index < state.parallelCount →
      MainCase state .cloned { state with phase := .watchdog }
  | watchdogPass (handler : WorkerHandler) (visit : ℕ → Visit) (list : List WorkerInfo)
      (result : PassResult) : state.phase = .watchdog → state.list = some list → list ≠ [] →
      result = workerManagerWatchdog handler visit list state.errors state.status →
      result.locked = false →
      MainCase state (.watchdogPass handler visit)
        { state with
          list := some result.list
          errors := result.errors
          status := result.status
          phase := if result.ok then .watchdog else .windUp }
  | watchdogEnd : state.phase = .watchdog → state.list.getD [] = [] →
      MainCase state .watchdogEnd { state with phase := .windUp }
  | windUp : state.phase = .windUp →
      MainCase state .windUp
        { state with
          verdicts := state.verdicts ++ [announce (finishStatus state.errors state.status)]
          list := none
          phase := .clear }
  | clearStarted : state.phase = .clear →
      MainCase state .clearStarted
        { state with
          started := false
          phase := .whileHalt
          pending := false
          discarded := state.discarded || state.pending }

theorem watchdogNext_cases {handler : WorkerHandler} {visit : ℕ → Visit}
    (hphase : state.phase = .watchdog) (hnext : watchdogNext state handler visit = some after) :
    MainCase state (.watchdogPass handler visit) after := by
  unfold watchdogNext at hnext
  split at hnext
  · cases hnext
  · cases hnext
  · next node rest hlist =>
    simp only [Option.ite_none_left_eq_some, Option.some.injEq, Bool.not_eq_true] at hnext
    rw [← hnext.2]
    exact .watchdogPass handler visit _ _ hphase hlist (List.cons_ne_nil node rest) rfl hnext.1

theorem mainNext_cases (hnext : mainNext state step = some after) : MainCase state step after := by
  cases step with
  | testHalt | testStarted | workerLogInit | workerDump | namingInitializeWriter | workerInfoNew
  | windUp | clearStarted =>
    simp only [mainNext] at hnext
    split at hnext
    · next hphase =>
      rw [← Option.some.inj hnext]
      constructor
      exact hphase
    · cases hnext
  | vmslAssignByUrl outcome =>
    simp only [mainNext] at hnext
    split at hnext
    · next hphase =>
      rw [← Option.some.inj hnext]
      exact .assigned hphase
    · next hphase =>
      rw [← Option.some.inj hnext]
      exact .refused hphase
    · next hphase =>
      rw [← Option.some.inj hnext]
      exact .unformatted hphase
    · cases hnext
  | workerListInit ok =>
    simp only [mainNext] at hnext
    split at hnext
    · next hphase =>
      split at hnext
      · next hinit =>
        obtain ⟨hlist, rfl⟩ := hinit
        rw [← Option.some.inj hnext]
        exact .workerListInit hphase hlist
      · next hinit =>
        rw [← Option.some.inj hnext]
        exact .workerListUninit ok hphase hinit
    · cases hnext
  | fork child =>
    simp only [mainNext] at hnext
    split at hnext
    · next index hphase =>
      simp only [Option.ite_none_right_eq_some, Option.some.injEq] at hnext
      rw [← hnext.2]
      exact .fork index child hphase hnext.1
    · cases hnext
  | workerListAppend ok =>
    simp only [mainNext] at hnext
    split at hnext
    · next index child list hphase hlist =>
      split at hnext
      · next hok =>
        subst hok
        rw [← Option.some.inj hnext]
        exact .workerListAppend index child list hphase hlist
      · next hok =>
        rw [← Option.some.inj hnext]
        exact .unappended index child ok hphase (.inl (Bool.eq_false_of_not_eq_true hok))
    · next index child hphase hlist =>
      rw [← Option.some.inj hnext]
      exact .unappended index child ok hphase (.inr hlist)
    · cases hnext
  | cloned =>
    simp only [mainNext] at hnext
    split at hnext
    · next index hphase =>
      simp only [Option.ite_none_left_eq_some, Option.some.injEq] at hnext
      rw [← hnext.2]
      exact .cloned index hphase hnext.1
    · cases hnext
  | watchdogPass handler visit =>
    simp only [mainNext] at hnext
    split at hnext
    · next hphase => exact watchdogNext_cases hphase hnext
    · cases hnext
  | watchdogEnd =>
    simp only [mainNext] at hnext
    split at hnext
    · next hphase =>
      simp only [Option.ite_none_right_eq_some, Option.some.injEq] at hnext
      rw [← hnext.2]
      exact .watchdogEnd hphase hnext.1
    · cases hnext

/-- The effect of a step on the worker list and on a pending START. -/
structure MainMove (state : MainState) (step : MainStep) (after : MainState) : Prop where
  list : after.phase.behindListInit = true ∨ after.list = none ∨
    (after.list = state.list ∧ (state.phase.behindListInit = false ∨ step.isFailure = true))
  pending : after.pending = true → state.pending = true
  discarded : state.pending = false → after.discarded = state.discarded

namespace MainMove

theorem inside (hphase : after.phase.behindListInit = true)
    (hpending : after.pending = state.pending) (hdiscarded : after.discarded = state.discarded) :
    MainMove state step after :=
  ⟨.inl hphase, fun h ↦ hpending ▸ h, fun _ ↦ hdiscarded⟩

theorem outside (hphase : state.phase.behindListInit = false) (hlist : after.list = state.list)
    (hpending : after.pending = true → state.pending = true)
    (hdiscarded : state.pending = false → after.discarded = state.discarded) :
    MainMove state step after :=
  ⟨.inr (.inr ⟨hlist, .inl hphase⟩), hpending, hdiscarded⟩

/-- A step of the clone goes on inside the run, or fails. -/
theorem proceed {ok : Bool} {phase : MainPhase} (hphase : phase.behindListInit = true)
    (hstep : step.isFailure = !ok) : MainMove state step (state.proceed ok phase) := by
  cases ok with
  | true => exact inside hphase rfl rfl
  | false => exact ⟨.inr (.inr ⟨rfl, .inr hstep⟩), id, fun _ ↦ rfl⟩

end MainMove

theorem mainNext_move (hnext : mainNext state step = some after) : MainMove state step after := by
  cases mainNext_cases hnext with
  | testHalt hphase | testStarted hphase | refused hphase | unformatted hphase
  | workerLogInit _ hphase | workerListUninit _ hphase =>
    exact .outside (by rw [hphase]; rfl) rfl id fun _ ↦ rfl
  | assigned hphase => exact .outside (by rw [hphase]; rfl) rfl (fun h ↦ by cases h) fun _ ↦ rfl
  | workerListInit | fork | workerListAppend | cloned | watchdogEnd => exact .inside rfl rfl rfl
  | workerDump | namingInitializeWriter | workerInfoNew => exact .proceed rfl rfl
  | unappended _ _ _ _ hcause =>
    obtain rfl | hlist := hcause
    · exact ⟨.inr (.inr ⟨rfl, .inr rfl⟩), id, fun _ ↦ rfl⟩
    · exact ⟨.inr (.inl hlist), id, fun _ ↦ rfl⟩
  | watchdogPass =>
    refine .inside ?_ rfl rfl
    simp only
    split <;> rfl
  | windUp => exact ⟨.inr (.inl rfl), id, fun _ ↦ rfl⟩
  | clearStarted hphase =>
    refine .outside (by rw [hphase]; rfl) rfl (fun h ↦ by cases h) fun hpending ↦ ?_
    simp [hpending]

/-! ## A run leaves the daemon startable -/

/-- Outside `*_worker_execute` there is no worker list, and the next START is answered with OK. -/
def Startable (state : MainState) : Prop :=
  state.phase.inExecute = false →
    state.list = none ∧ (state.started = false → (handleStart state).2 = .ok)

/-- No step of the clone fails while there is a worker list. -/
def CloneSucceeds (state : MainState) : DaemonStep → Prop
  | .player _ => True
  | .main step => step.isFailure = true → state.list = none

/-- The worker list exists only behind its creation in a run. -/
def ListOwned (state : MainState) : Prop :=
  state.phase.behindListInit = false → state.list = none

theorem ListOwned.player (h : ListOwned state) (step : PlayerStep) :
    ListOwned (playerNext state step).1 := by
  cases step with
  | start =>
    simp only [playerNext, handleStart]
    split
    · exact h
    · exact h
  | stop => exact fun _ ↦ rfl
  | testFailed => exact fun _ ↦ rfl
  | halt => exact fun _ ↦ rfl
  | stats => exact h
  | set _ => exact h

theorem ListOwned.main (h : ListOwned state) (hguard : CloneSucceeds state (.main step))
    (hnext : mainNext state step = some after) : ListOwned after := by
  intro houtside
  rcases (mainNext_move hnext).list with hinside | hnone | ⟨hlist, hphase | hfailure⟩
  · rw [hinside] at houtside
    cases houtside
  · exact hnone
  · rw [hlist]
    exact h hphase
  · rw [hlist]
    exact hguard hfailure

/-- **A run leaves the daemon startable.**  In every run in which no step of the clone fails with
the list in existence, the main loop finds no worker list outside `*_worker_execute`. -/
theorem reachable_startable (h : daemonMachine.ReachableUnder CloneSucceeds state) :
    Startable state := by
  have howned : ListOwned state := by
    apply h.invariant ListOwned
    · exact fun _ ↦ rfl
    · intro before label after hbefore hguard hnext
      cases label with
      | player step =>
        rw [← Option.some.inj hnext]
        exact hbefore.player step
      | main step =>
        have htick : ListOwned before.tick := hbefore
        exact htick.main hguard hnext
  intro houtside
  have hnone : state.list = none := by
    apply howned
    unfold MainPhase.behindListInit
    split
    · rfl
    · rfl
    · exact houtside
  refine ⟨hnone, ?_⟩
  intro hstarted
  simp [handleStart, hstarted, hnone]

/-- A stop destroys the list behind its creation, and a step of the clone fails after that. -/
theorem stoppedClone_startable :
    ∃ state, daemonMachine.ReachableUnder CloneSucceeds state ∧ state.phase = .clear ∧
      Startable state := by
  have hinitial : daemonMachine.ReachableUnder CloneSucceeds daemonMachine.initial := .initial
  have hstart := hinitial.step (show CloneSucceeds _ (.player .start) from trivial) rfl
  have hhalt := hstart.step (show CloneSucceeds _ (.main .testHalt) from nofun) rfl
  have htest := hhalt.step (show CloneSucceeds _ (.main .testStarted) from nofun) rfl
  have hassign := htest.step
    (show CloneSucceeds _ (.main (.vmslAssignByUrl .assigned)) from nofun) rfl
  have hlog := hassign.step (show CloneSucceeds _ (.main (.workerLogInit true)) from nofun) rfl
  have hlist := hlog.step (show CloneSucceeds _ (.main (.workerListInit true)) from nofun) rfl
  have hstop := hlist.step (show CloneSucceeds _ (.player .stop) from trivial) rfl
  have hdump := hstop.step (show CloneSucceeds _ (.main (.workerDump false)) from fun _ ↦ rfl) rfl
  exact ⟨_, hdump, rfl, reachable_startable hdump⟩

/-- A START is taken up and the run gets as far as the creation of the worker list. -/
def untilListInit : List DaemonStep :=
  [.player (.set 1), .player .start, .main .testHalt, .main .testStarted,
    .main (.vmslAssignByUrl .assigned), .main (.workerLogInit true), .main (.workerListInit true)]

/-- The configuration of the run cannot be dumped. -/
theorem failedDump_not_startable :
    ¬ ∀ state, daemonMachine.Reachable state → Startable state := by
  intro hevery
  have hrun : ∃ state, daemonMachine.run daemonMachine.initial
      (untilListInit ++ [.main (.workerDump false), .main .clearStarted]) = some state ∧
      state.phase = .whileHalt ∧ state.list = some [] := ⟨_, rfl, rfl, rfl⟩
  rcases hrun with ⟨state, hrun, hphase, hlist⟩
  have hstartable := hevery state (Machine.reachable_of_run _ hrun) (by rw [hphase]; rfl)
  rw [hlist] at hstartable
  cases hstartable.1

/-! ## No acknowledged START is lost -/

/-- The main loop has not discarded an acknowledged START, and one that is pending has waited for
fewer than three steps of the main thread, which can take a further one. -/
def StartsHonoured (state : MainState) : Prop :=
  state.discarded = false ∧
    (state.pending = true →
      state.waited < 3 ∧ ∃ step, (daemonNext state (.main step)).isSome = true)

/-- A START is acknowledged only where the main loop still tests the flag before it clears it, and
every URI has an implementation. -/
def StartsWhileIdle (state : MainState) : DaemonStep → Prop
  | .player .start => state.started = false → state.list = none →
      (state.phase = .whileHalt ∧ state.halt = false) ∨ state.phase = .ifStarted ∨
        state.phase = .vmslAssign
  | .main (.vmslAssignByUrl outcome) => outcome = .assigned
  | _ => True

/-- The main thread is on its way to the run of a pending START. -/
inductive Due (state : MainState) : Prop where
  | whileHalt : state.phase = .whileHalt → state.halt = false → state.started = true →
      state.waited = 0 → Due state
  | ifStarted : state.phase = .ifStarted → state.started = true → state.waited ≤ 1 → Due state
  | vmslAssign : state.phase = .vmslAssign → state.waited ≤ 2 → Due state

structure Awaited (state : MainState) : Prop where
  kept : state.discarded = false
  due : state.pending = true → Due state

theorem Due.waited_lt (h : Due state) : state.waited < 3 := by
  cases h with
  | whileHalt _ _ _ hwaited => omega
  | ifStarted _ _ hwaited => omega
  | vmslAssign _ hwaited => omega

/-- The main thread has a statement to execute. -/
theorem Due.able (h : Due state) : ∃ step, (daemonNext state (.main step)).isSome = true := by
  cases h with
  | whileHalt hphase => exact ⟨.testHalt, by simp [daemonNext, mainNext, MainState.tick, hphase]⟩
  | ifStarted hphase =>
    exact ⟨.testStarted, by simp [daemonNext, mainNext, MainState.tick, hphase]⟩
  | vmslAssign hphase =>
    exact ⟨.vmslAssignByUrl .assigned, by simp [daemonNext, mainNext, MainState.tick, hphase]⟩

theorem Awaited.startsHonoured (h : Awaited state) : StartsHonoured state :=
  ⟨h.kept, fun hpending ↦ ⟨(h.due hpending).waited_lt, (h.due hpending).able⟩⟩

/-- Once the flag has been seen, a START stays due whatever the handlers do. -/
theorem Awaited.cancel (h : Awaited state) (hphase : after.phase = state.phase)
    (hwaited : after.waited = state.waited) (hdiscarded : after.discarded = state.discarded)
    (hcancel : after.pending = state.cancel.pending) : Awaited after where
  kept := by rw [hdiscarded, h.kept]
  due hpending := by
    rw [hcancel, MainState.cancel, Bool.and_eq_true, decide_eq_true_eq] at hpending
    have hlt := (h.due hpending.1).waited_lt
    apply Due.vmslAssign
    · rw [hphase, hpending.2]
    · omega

theorem Awaited.start (h : Awaited state) (hguard : StartsWhileIdle state (.player .start)) :
    Awaited (handleStart state).1 := by
  unfold handleStart
  split
  · exact h
  · rename_i hidle
    rw [not_or, Bool.not_eq_true, Bool.not_eq_true, Option.isSome_eq_false_iff,
      Option.isNone_iff_eq_none] at hidle
    refine ⟨h.kept, fun _ ↦ ?_⟩
    by_cases hpending : state.pending = true
    · -- The earlier START was taken up: its flag has been cleared again.
      cases h.due hpending with
      | whileHalt _ _ hstarted => simp [hidle.1] at hstarted
      | ifStarted _ hstarted => simp [hidle.1] at hstarted
      | vmslAssign hphase hwaited => exact .vmslAssign hphase (by simpa [hpending] using hwaited)
    · rcases hguard hidle.1 hidle.2 with ⟨hphase, hhalt⟩ | hphase | hphase
      · exact .whileHalt hphase hhalt rfl (by simp [hpending])
      · exact .ifStarted hphase rfl (by simp [hpending])
      · exact .vmslAssign hphase (by simp [hpending])

theorem Awaited.player (h : Awaited state) {step : PlayerStep}
    (hguard : StartsWhileIdle state (.player step)) : Awaited (playerNext state step).1 := by
  cases step with
  | start => exact h.start hguard
  | stop => exact h.cancel rfl rfl rfl rfl
  | testFailed => exact h.cancel rfl rfl rfl rfl
  | halt => exact h.cancel rfl rfl rfl rfl
  | stats => exact h
  | set parallelCount =>
    refine ⟨h.kept, fun hpending ↦ ?_⟩
    cases h.due hpending with
    | whileHalt hphase hhalt hstarted hwaited => exact .whileHalt hphase hhalt hstarted hwaited
    | ifStarted hphase hstarted hwaited => exact .ifStarted hphase hstarted hwaited
    | vmslAssign hphase hwaited => exact .vmslAssign hphase hwaited

/-- A step of the main thread brings the run of a pending START nearer, or begins it. -/
theorem Due.main (h : Due state) (hpending : state.pending = true)
    (hguard : StartsWhileIdle state (.main step)) (hnext : mainNext state.tick step = some after) :
    after.discarded = state.discarded ∧ (after.pending = true → Due after) := by
  cases h with
  | whileHalt hphase hhalt hstarted hwaited =>
    cases step <;> simp [mainNext, MainState.tick, hphase] at hnext
    subst hnext
    refine ⟨rfl, fun _ ↦ .ifStarted ?_ hstarted ?_⟩
    · simp [hhalt]
    · simp [hpending, hwaited]
  | ifStarted hphase hstarted hwaited =>
    cases step <;> simp [mainNext, MainState.tick, hphase] at hnext
    subst hnext
    refine ⟨rfl, fun _ ↦ .vmslAssign ?_ ?_⟩
    · simp [hstarted]
    · simpa [hpending] using hwaited
  | vmslAssign hphase =>
    cases step <;> simp [mainNext, MainState.tick, hphase] at hnext
    rename_i outcome
    have houtcome : outcome = .assigned := hguard
    subst houtcome
    simp only [Option.some.injEq] at hnext
    subst hnext
    exact ⟨rfl, fun hafter ↦ by cases hafter⟩

theorem Awaited.main (h : Awaited state)
    (hguard : StartsWhileIdle state (.main step)) (hnext : mainNext state.tick step = some after) :
    Awaited after := by
  cases hpending : state.pending with
  | false =>
    have hmove := mainNext_move hnext
    refine ⟨(hmove.discarded hpending).trans h.kept, fun hafter ↦ ?_⟩
    have hbefore : state.pending = true := hmove.pending hafter
    rw [hpending] at hbefore
    cases hbefore
  | true =>
    have hafter := (h.due hpending).main hpending hguard hnext
    exact ⟨hafter.1.trans h.kept, hafter.2⟩

/-- **No acknowledged START is lost.**  In every run in which no START is acknowledged between the
beginning of a run and the clearing of its flag, or on the way out of the main loop, the flag of an
acknowledged START is not cleared by the main loop, and its run begins within three steps of the
main thread unless the START is cancelled before. -/
theorem reachable_startsHonoured (h : daemonMachine.ReachableUnder StartsWhileIdle state) :
    StartsHonoured state := by
  have hawaited : Awaited state := by
    apply h.invariant Awaited
    · exact ⟨rfl, fun hpending ↦ by cases hpending⟩
    · intro before label after hbefore hguard hnext
      cases label with
      | player step =>
        rw [← Option.some.inj hnext]
        exact hbefore.player hguard
      | main step => exact hbefore.main hguard hnext
  exact hawaited.startsHonoured

theorem takenUp_startsHonoured :
    ∃ state, daemonMachine.ReachableUnder StartsWhileIdle state ∧ state.pending = true ∧
      state.phase = .vmslAssign ∧ StartsHonoured state := by
  have hinitial : daemonMachine.ReachableUnder StartsWhileIdle daemonMachine.initial := .initial
  have hstart := hinitial.step
    (show StartsWhileIdle _ (.player .start) from fun _ _ ↦ .inl ⟨rfl, rfl⟩) rfl
  have hhalt := hstart.step (show StartsWhileIdle _ (.main .testHalt) from trivial) rfl
  have htest := hhalt.step (show StartsWhileIdle _ (.main .testStarted) from trivial) rfl
  exact ⟨_, htest, rfl, rfl, reachable_startsHonoured htest⟩

/-- A STOP ends the run of one worker, and the next START is acknowledged before the main loop
clears the flag of the run. -/
def restartWhileWindingDown : List DaemonStep :=
  untilListInit ++
    [.main (.workerDump true), .main (.namingInitializeWriter true), .main (.fork 7),
      .main (.workerInfoNew true), .main (.workerListAppend true), .main .cloned, .player .stop,
      .player .start, .main .watchdogEnd, .main .windUp, .main .clearStarted]

theorem restart_not_startsHonoured :
    ¬ ∀ state, daemonMachine.Reachable state → StartsHonoured state := by
  intro hevery
  have hrun : ∃ state, daemonMachine.run daemonMachine.initial restartWhileWindingDown =
      some state ∧ state.discarded = true := ⟨_, rfl, rfl⟩
  rcases hrun with ⟨state, hrun, hdiscarded⟩
  have hkept := (hevery state (Machine.reachable_of_run _ hrun)).1
  rw [hdiscarded] at hkept
  cases hkept

end MsgPerf.Daemon
