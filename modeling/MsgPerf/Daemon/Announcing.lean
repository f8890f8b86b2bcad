import MsgPerf.Daemon.Consumers
import MsgPerf.Daemon.Inspector
import MsgPerf.Daemon.MainLoop

/-!
# What a daemon tells the others

A daemon publishes for two reasons: its player thread answers notes, and its main thread announces
the end of a test.  `DaemonModel` is what the others can rely on.  Handlers answer with the commands
of replies, the main thread announces with the commands of notifications, and the announcements are
paid for: `due` counts those that are still to come, it grows by one when a START is answered with
OK and in no other way, and each announcement lowers it.

The sender and the receiver daemon are models through their main loop, the broker inspector through
its own.
-/

namespace MsgPerf.Daemon

open MsgPerf.Library MsgPerf.Maestro
open Worker (finishStatus)

/-- The commands with which handlers answer. -/
def isReply : Command → Bool
  | .ok | .internalError | .protocolError | .ping | .stats => true
  | _ => false

/-- The commands of the notifications about tests. -/
def isVerdict : Command → Bool
  | .notifyFail | .notifySuccess => true
  | _ => false

/-- The START that a handler accepts. -/
def accepts (handler : Handler) (command : Command) : ℕ :=
  if handler = .start ∧ command = .ok then 1 else 0

/-- A daemon as its peers see it.  A choice is what the payload of a note and the outcome of calls
add to the handler; a label is a step of the main thread. -/
structure DaemonModel where
  kind : Kind
  State : Type
  Choice : Type
  MainLabel : Type
  initial : State
  /-- The state after a handler and the command of its response. -/
  handle : Handler → Choice → State → Option (State × Command)
  /-- The state after a step of the main thread and the command of what it announces. -/
  main : MainLabel → State → Option (State × Option Command)
  due : State → ℕ
  due_initial : due initial = 0
  handle_isReply {handler choice state after command} :
    handle handler choice state = some (after, command) → isReply command = true
  handle_due {handler choice state after command} :
    handle handler choice state = some (after, command) →
      due after ≤ due state + accepts handler command
  main_isVerdict {label state after command} :
    main label state = some (after, some command) → isVerdict command = true
  main_due {label state after announced} :
    main label state = some (after, announced) →
      due after + announced.toList.length ≤ due state

/-- What a set request asks for, as far as a daemon's threads depend on it. -/
inductive SetChoice where
  | parallelCount (count : ℕ)
  | other
  | invalid
  deriving DecidableEq, Repr

/-! ## The sender and the receiver daemon -/

namespace MainState

/-- The handlers of `senderd_new_sheet` and `receiverd_new_sheet`. -/
def handle : Handler → SetChoice → MainState → MainState × Command
  | .start, _, state => playerNext state .start
  | .stop, _, state => playerNext state .stop
  | .flush, _, state => (state, .ok)
  | .set, .parallelCount count, state => playerNext state (.set count)
  | .set, .other, state => (state, .ok)
  | .set, .invalid, state => (state, .protocolError)
  | .ping, _, state => (state, .ping)
  | .stats, _, state => playerNext state .stats
  | .halt, _, state => playerNext state .halt
  | .testFailed, _, state => playerNext state .testFailed

/-- The end of a run announces its verdict. -/
def main (step : MainStep) (state : MainState) : Option (MainState × Option Command) :=
  (daemonNext state (.main step)).map fun after ↦
    (after, match step with
      | .windUp => some (announce (finishStatus state.errors state.status)).notification.command
      | _ => none)

/-- A run that has not announced its verdict, or a START that can still lead to a run. -/
def due (state : MainState) : ℕ :=
  if state.phase = .vmslAssign ∨ state.phase.inExecute = true then 1
  else if state.started = true ∧ state.phase ≠ .clear then 1
  else 0

variable {state after : MainState}

theorem due_le_one (state : MainState) : state.due ≤ 1 := by
  unfold due
  split
  · exact le_rfl
  · split
    · exact le_rfl
    · exact Nat.zero_le 1

/-- A step that stays where it is and does not set the flag. -/
theorem due_le_of_phase_eq (hphase : after.phase = state.phase)
    (hstarted : after.started = true → state.started = true) : after.due ≤ state.due := by
  unfold due
  rw [hphase]
  split
  · exact le_rfl
  · split
    next hafter => rw [if_pos ⟨hstarted hafter.1, hafter.2⟩]
    · exact Nat.zero_le _

/-- A run is due already. -/
theorem due_le_of_busy (hphase : state.phase = .vmslAssign ∨ state.phase.inExecute = true) :
    after.due ≤ state.due := by
  have hdue : state.due = 1 := if_pos hphase
  rw [hdue]
  exact due_le_one after

theorem due_handle (handler : Handler) (choice : SetChoice) (state : MainState) :
    (handle handler choice state).1.due ≤
      state.due + accepts handler (handle handler choice state).2 := by
  cases handler with
  | start =>
    simp only [handle, playerNext, handleStart]
    split
    · exact Nat.le_add_right _ _
    · exact (due_le_one _).trans (Nat.le_add_left 1 _)
  | stop | halt | testFailed =>
    apply (due_le_of_phase_eq _ _).trans (Nat.le_add_right _ _)
    · rfl
    · intro hstarted
      cases hstarted
  | flush | ping | stats => exact Nat.le_add_right _ _
  | set =>
    cases choice with
    | parallelCount count =>
      exact (due_le_of_phase_eq rfl id).trans (Nat.le_add_right _ _)
    | other | invalid => exact Nat.le_add_right _ _

theorem isReply_handle (handler : Handler) (choice : SetChoice) (state : MainState) :
    isReply (handle handler choice state).2 = true := by
  cases handler with
  | start =>
    simp only [handle, playerNext, handleStart]
    split <;> rfl
  | stats =>
    simp only [handle, playerNext, handleStats]
    split <;> rfl
  | set => cases choice <;> rfl
  | stop | halt | testFailed | flush | ping => rfl

theorem isVerdict_announce (status : Status) :
    isVerdict (announce status).notification.command = true := by
  unfold announce
  split <;> rfl

/-- Where the main thread is does not depend on the ghost fields. -/
theorem due_tick (state : MainState) : state.tick.due = state.due := rfl

/-- A step of the main thread that announces nothing. -/
theorem due_mainNext {step : MainStep} (hstep : step ≠ .windUp)
    (hnext : mainNext state step = some after) : after.due ≤ state.due := by
  cases mainNext_cases hnext with
  | testHalt hphase =>
    unfold due
    rw [hphase]
    cases state.halt <;> simp [MainPhase.inExecute]
  | testStarted hphase =>
    unfold due
    rw [hphase]
    cases hstarted : state.started <;> simp [MainPhase.inExecute]
  | assigned hphase | refused hphase | unformatted hphase => exact due_le_of_busy (.inl hphase)
  | workerLogInit ok hphase | workerListInit hphase | workerListUninit ok hphase
  | workerDump ok hphase | namingInitializeWriter ok hphase | fork index child hphase
  | workerInfoNew index child ok hphase | workerListAppend index child list hphase
  | unappended index child ok hphase | cloned index hphase
  | watchdogPass handler visit list result hphase | watchdogEnd hphase =>
    exact due_le_of_busy (.inr (congrArg MainPhase.inExecute hphase))
  | windUp hphase => exact absurd rfl hstep
  | clearStarted hphase =>
    unfold due
    rw [hphase]
    simp [MainPhase.inExecute]

theorem due_main {step : MainStep} {announced : Option Command}
    (hmain : main step state = some (after, announced)) :
    after.due + announced.toList.length ≤ state.due := by
  obtain ⟨reached, hnext, hreached⟩ := Option.map_eq_some_iff.mp hmain
  obtain ⟨rfl, rfl⟩ := Prod.mk.inj hreached
  have hmain : mainNext state.tick step = some reached := hnext
  by_cases hstep : step = .windUp
  · subst hstep
    cases mainNext_cases hmain with
    | windUp hphase =>
      have hbefore : state.due = 1 := if_pos (.inr (congrArg MainPhase.inExecute hphase))
      rw [hbefore]
      simp [due, MainPhase.inExecute]
  · have hdue := due_mainNext hstep hmain
    rw [due_tick] at hdue
    cases step <;> simp_all

theorem isVerdict_main {step : MainStep} {command : Command}
    (hmain : main step state = some (after, some command)) : isVerdict command = true := by
  obtain ⟨reached, -, hreached⟩ := Option.map_eq_some_iff.mp hmain
  have hcommand := (Prod.mk.inj hreached).2
  split at hcommand
  · obtain rfl := Option.some.inj hcommand
    exact isVerdict_announce _
  · cases hcommand

/-- The daemon with the main loop of `senderd_worker_start` or `receiverd_worker_start`. -/
def model (kind : Kind) : DaemonModel where
  kind := kind
  State := MainState
  Choice := SetChoice
  MainLabel := MainStep
  initial := daemonMachine.initial
  handle handler choice state := some (handle handler choice state)
  main := main
  due := due
  due_initial := rfl
  handle_isReply := by
    intro handler choice state after command h
    obtain ⟨-, rfl⟩ := Prod.mk.inj (Option.some.inj h)
    exact isReply_handle handler choice state
  handle_due := by
    intro handler choice state after command h
    obtain ⟨rfl, rfl⟩ := Prod.mk.inj (Option.some.inj h)
    exact due_handle handler choice state
  main_isVerdict := isVerdict_main
  main_due := due_main

end MainState

/-! ## The broker inspector -/

/-- What a note adds for the inspector: its set request, and whether `bmic_writer_flush` works. -/
structure InspectorChoice where
  set : SetChoice
  flushed : Bool
  deriving DecidableEq, Repr

namespace InspectorState

/-- The steps that a handler of `brokerd_new_sheet` takes; the last test of FLUSH decides whether
the writer is called. -/
def handlerSteps (state : InspectorState) : Handler → List InspectorNote
  | .start => [.start]
  | .stop => [.stop]
  | .flush => if state.started then [.flush, .writerFlush] else [.flush]
  | .halt => [.halt, .setHalt]
  | .set | .ping | .stats | .testFailed => []

/-- The command of the response. -/
def answer (state : InspectorState) (choice : InspectorChoice) : Handler → Command
  | .start => if state.started then .internalError else .ok
  | .flush => if state.started ∧ choice.flushed = false then .internalError else .ok
  | .set => if choice.set = .invalid then .protocolError else .ok
  | .ping => .ping
  | .stop | .halt | .stats | .testFailed => .ok

def handle (handler : Handler) (choice : InspectorChoice) (state : InspectorState) :
    Option (InspectorState × Command) :=
  ((state.handlerSteps handler).foldlM handlerNext state).map fun after ↦
    (after, state.answer choice handler)

/-- An inspection that has not announced its verdict, or a START that can still lead to one. -/
def due (state : InspectorState) : ℕ :=
  if state.phase = .logInit ∨ state.phase = .writerInitialize ∨
    state.phase.behindInitialize = true then 1
  else if state.started = true ∧ state.phase ≠ .clear then 1
  else 0

/-- The end of an inspection announces its verdict; whether there were errors is not followed by
this machine. -/
def main (label : InspectorMainStep × Bool) (state : InspectorState) :
    Option (InspectorState × Option Command) :=
  (inspectorMainNext state label.1).map fun after ↦
    (after,
      if label.1 = .bmicWriterFinalize then
        some (if label.2 then .notifySuccess else .notifyFail)
      else none)

variable {state after : InspectorState}

theorem due_le_one (state : InspectorState) : state.due ≤ 1 := by
  unfold due
  split
  · exact le_rfl
  · split
    · exact le_rfl
    · exact Nat.zero_le 1

theorem due_le_of_phase_eq (hphase : after.phase = state.phase)
    (hstarted : after.started = true → state.started = true) : after.due ≤ state.due := by
  unfold due
  rw [hphase]
  split
  · exact le_rfl
  · split
    next hafter => rw [if_pos ⟨hstarted hafter.1, hafter.2⟩]
    · exact Nat.zero_le _

theorem due_le_of_busy (hphase : state.phase = .logInit ∨ state.phase = .writerInitialize ∨
    state.phase.behindInitialize = true) : after.due ≤ state.due := by
  have hdue : state.due = 1 := if_pos hphase
  rw [hdue]
  exact due_le_one after

/-- A step of a handler but START leaves the main thread alone and does not set the flag. -/
theorem handlerNext_due {note : InspectorNote} (hnote : note ≠ .start)
    (hnext : handlerNext state note = some after) : after.due ≤ state.due := by
  cases note with
  | start => exact absurd rfl hnote
  | stop | flush | writerFlush | halt | setHalt =>
    simp only [handlerNext] at hnext
    split at hnext
    · obtain rfl := Option.some.inj hnext
      apply due_le_of_phase_eq
      · rfl
      · simp [InspectorState.use]
    · cases hnext

theorem start_notMem_handlerSteps (state : InspectorState) {handler : Handler}
    (h : handler ≠ .start) : .start ∉ state.handlerSteps handler := by
  cases handler with
  | start => exact absurd rfl h
  | flush =>
    rw [handlerSteps]
    split <;> decide
  | stop | halt | set | ping | stats | testFailed => simp [handlerSteps]

theorem foldlM_handlerNext_due {notes : List InspectorNote} (hnotes : .start ∉ notes)
    (hnext : notes.foldlM handlerNext state = some after) : after.due ≤ state.due := by
  induction notes generalizing state with
  | nil =>
    obtain rfl := Option.some.inj hnext
    exact le_rfl
  | cons note notes ih =>
    rw [List.foldlM_cons] at hnext
    obtain ⟨middle, hmiddle, hrest⟩ := Option.bind_eq_some_iff.mp hnext
    rw [List.mem_cons, not_or] at hnotes
    exact (ih hnotes.2 hrest).trans (handlerNext_due (Ne.symm hnotes.1) hmiddle)

theorem due_handle {handler : Handler} {choice : InspectorChoice} {command : Command}
    (h : handle handler choice state = some (after, command)) :
    after.due ≤ state.due + accepts handler command := by
  obtain ⟨reached, hsteps, hreached⟩ := Option.map_eq_some_iff.mp h
  obtain ⟨rfl, rfl⟩ := Prod.mk.inj hreached
  by_cases hhandler : handler = .start
  · subst hhandler
    by_cases hstarted : state.started = true
    · -- The flag is set already, and the answer says so.
      have hdue : reached.due ≤ state.due := by
        simp only [handlerSteps, List.foldlM_cons, List.foldlM_nil, handlerNext] at hsteps
        split at hsteps
        · obtain rfl := Option.some.inj hsteps
          exact due_le_of_phase_eq rfl fun _ ↦ hstarted
        · cases hsteps
      exact hdue.trans (Nat.le_add_right _ _)
    · have haccepts : accepts .start (state.answer choice .start) = 1 := by
        simp [accepts, answer, hstarted]
      rw [haccepts]
      exact (due_le_one reached).trans (Nat.le_add_left 1 _)
  · have hdue := foldlM_handlerNext_due (start_notMem_handlerSteps state hhandler) hsteps
    exact hdue.trans (Nat.le_add_right _ _)

theorem isReply_answer (handler : Handler) (choice : InspectorChoice) (state : InspectorState) :
    isReply (state.answer choice handler) = true := by
  cases handler with
  | start | flush | set =>
    simp only [answer]
    split <;> rfl
  | ping | stop | halt | stats | testFailed => rfl

/-- A step of the main thread that announces nothing. -/
theorem due_inspectorMainNext {step : InspectorMainStep} (hstep : step ≠ .bmicWriterFinalize)
    (hnext : inspectorMainNext state step = some after) : after.due ≤ state.due := by
  cases step with
  | testHalt =>
    simp only [inspectorMainNext] at hnext
    split at hnext
    next hphase =>
      obtain rfl := Option.some.inj hnext
      unfold due
      rw [hphase]
      cases state.halt <;> simp [InspectorPhase.behindInitialize]
    · cases hnext
  | testStarted =>
    simp only [inspectorMainNext] at hnext
    split at hnext
    next hphase =>
      obtain rfl := Option.some.inj hnext
      unfold due
      rw [hphase]
      cases hstarted : state.started <;> simp [InspectorPhase.behindInitialize]
    · cases hnext
  | clearStarted =>
    simp only [inspectorMainNext] at hnext
    split at hnext
    next hphase =>
      obtain rfl := Option.some.inj hnext
      unfold due
      rw [hphase]
      simp [InspectorPhase.behindInitialize]
    · cases hnext
  | workerLogInit ok | bmicWriterInitialize ok | prepare ok | testCollecting | update ok
  | abortCheck abort | bmicWriterFlush =>
    apply due_le_of_busy
    simp only [inspectorMainNext] at hnext
    split at hnext
    next hphase => simp [hphase, InspectorPhase.behindInitialize]
    · cases hnext
  | bmicWriterFinalize => exact absurd rfl hstep

theorem due_main {label : InspectorMainStep × Bool} {announced : Option Command}
    (h : main label state = some (after, announced)) :
    after.due + announced.toList.length ≤ state.due := by
  obtain ⟨reached, hnext, hreached⟩ := Option.map_eq_some_iff.mp h
  obtain ⟨rfl, rfl⟩ := Prod.mk.inj hreached
  by_cases hstep : label.1 = .bmicWriterFinalize
  · rw [hstep] at hnext
    simp only [inspectorMainNext] at hnext
    split at hnext
    next hphase =>
      obtain rfl := Option.some.inj hnext
      simp [due, hphase, hstep, InspectorPhase.behindInitialize]
    · cases hnext
  · rw [if_neg hstep]
    exact due_inspectorMainNext hstep hnext

theorem isVerdict_main {label : InspectorMainStep × Bool} {command : Command}
    (h : main label state = some (after, some command)) : isVerdict command = true := by
  obtain ⟨reached, -, hreached⟩ := Option.map_eq_some_iff.mp h
  have hcommand := (Prod.mk.inj hreached).2
  split at hcommand
  · obtain rfl := Option.some.inj hcommand
    split <;> rfl
  · cases hcommand

/-- The daemon with the main loop of `brokerd_worker_start`. -/
def model : DaemonModel where
  kind := .brokerd
  State := InspectorState
  Choice := InspectorChoice
  MainLabel := InspectorMainStep × Bool
  initial := inspectorMachine.initial
  handle := handle
  main := main
  due := due
  due_initial := rfl
  handle_isReply := by
    intro handler choice state after command h
    obtain ⟨reached, -, hreached⟩ := Option.map_eq_some_iff.mp h
    rw [← (Prod.mk.inj hreached).2]
    exact isReply_answer handler choice state
  handle_due := due_handle
  main_isVerdict := isVerdict_main
  main_due := due_main

end InspectorState

end MsgPerf.Daemon
