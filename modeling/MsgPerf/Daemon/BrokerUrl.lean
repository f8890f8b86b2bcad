import MsgPerf.Daemon.MainLoop

/-!
# The broker URL and the main loop

The URI of the broker is an option that SET changes at any time; it is stored even when the URL
could not be parsed.  When the main loop takes up a START it looks for an implementation of the
protocol that the scheme of the URI names.  What follows when there is none depends on whether the
URI can be formatted for the message: the loop is left, or it goes on with the flag of the START
still set.

The machine adds the URI to the main loop.  The parser of the library is a parameter, and whether it
can format a URI is part of the label.  A ghost field follows a START that could not be executed
until the next START is acknowledged.
-/

namespace MsgPerf.Daemon

open MsgPerf.Library
open Maestro (Command)

/-! ## Choosing an implementation -/

/-- `gru_uri_t` by its scheme, which may be a null pointer. -/
structure Uri where
  scheme : Option String
  deriving DecidableEq, Repr

/-- The URI of zeroed `worker_options`. -/
def Uri.unset : Uri := ⟨none⟩

/-- The implementations, each of which may be left out of a build. -/
inductive Protocol where
  | amqp | stomp | mqtt
  deriving DecidableEq, Repr

/-- `strncmp` of the scheme with a name, on the length of the name. -/
def hasName (scheme name : String) : Bool := name.toList.isPrefixOf scheme.toList

/-- `vmsl_assign_by_url`. -/
def vmslAssignByUrl (enabled : Protocol → Bool) (uri : Uri) : Bool :=
  match uri.scheme with
  | none => false
  | some scheme =>
      if hasName scheme "amqp" then enabled .amqp
      else if hasName scheme "stomp" then enabled .stomp
      else if hasName scheme "mqtt" then enabled .mqtt
      else false

/-- The branch of the main loop that is taken for a URI; `formatted` says whether
`gru_uri_simple_format` returns a text. -/
def assignOutcome (enabled : Protocol → Bool) (uri : Uri) (formatted : Bool) : AssignOutcome :=
  if vmslAssignByUrl enabled uri then .assigned
  else if formatted then .refused
  else .unformatted

/-! ## The main loop with the URI -/

/-- `unexecuted` says that a START could not be executed and none was acknowledged since. -/
structure LoopState where
  main : MainState
  uri : Uri
  unexecuted : Bool
  deriving DecidableEq, Repr

/-- Notes other than those of `PlayerStep` that a daemon handles: a SET of the broker, a SET of an
option that the loop does not read, FLUSH and PING.  The main thread tests the URI in a step of its
own. -/
inductive LoopStep where
  | setBroker (value : String)
  | otherNote
  | player (step : PlayerStep)
  | assign (formatted : Bool)
  | main (step : MainStep)

/-- The handlers; an acknowledged START begins anew. -/
def LoopState.handle (state : LoopState) (step : PlayerStep) : LoopState :=
  { state with
    main := (playerNext state.main step).1
    unexecuted := state.unexecuted &&
      !(step = .start && (playerNext state.main step).2 = .ok) }

/-- A run that is given up before its workers are watched goes on with the clearing of the flag. -/
def givenUp (before after : MainPhase) : Bool := after = .clear && before ≠ .windUp

def loopNext (parse : String → Uri) (enabled : Protocol → Bool) (state : LoopState) :
    LoopStep → Option LoopState
  | .setBroker value => some { state with uri := parse value }
  | .otherNote => some state
  | .player step => some (state.handle step)
  | .assign formatted =>
      let outcome := assignOutcome enabled state.uri formatted
      (daemonNext state.main (.main (.vmslAssignByUrl outcome))).map fun main ↦
        { state with main := main, unexecuted := outcome ≠ .assigned }
  | .main (.vmslAssignByUrl _) => none
  | .main step =>
      (daemonNext state.main (.main step)).map fun main ↦
        { state with
          main := main
          unexecuted := state.unexecuted || givenUp state.main.phase main.phase }

def loopMachine (parse : String → Uri) (enabled : Protocol → Bool) : Machine LoopState LoopStep where
  initial := ⟨daemonMachine.initial, .unset, false⟩
  next := loopNext parse enabled

theorem loopNext_main {parse : String → Uri} {enabled : Protocol → Bool} (state : LoopState)
    {step : MainStep} (hstep : ∀ outcome, step ≠ .vmslAssignByUrl outcome) :
    loopNext parse enabled state (.main step) =
      (daemonNext state.main (.main step)).map fun main ↦
        { state with
          main := main
          unexecuted := state.unexecuted || givenUp state.main.phase main.phase } := by
  cases step with
  | vmslAssignByUrl outcome => exact absurd rfl (hstep outcome)
  | _ => rfl

/-- Outside of a run and of the clearing of its flag. -/
def MainPhase.polling : MainPhase → Bool
  | .whileHalt | .ifStarted | .vmslAssign | .ended => true
  | _ => false

/-- The main loop has not been left, and after a START that could not be executed the flag is clear
again. -/
structure StaysInLoop (state : LoopState) : Prop where
  inLoop : state.main.phase ≠ .ended
  cleared : state.unexecuted = true → state.main.phase.polling = true → state.main.started = false

/-- No note is a HALT. -/
def NoHalt (_ : LoopState) : LoopStep → Prop
  | .player step => step ≠ .halt
  | _ => True

/-- No note is a HALT, and whenever a START is taken up the URI in force has an implementation. -/
def Assignable (enabled : Protocol → Bool) (state : LoopState) : LoopStep → Prop
  | .player step => step ≠ .halt
  | .assign _ => vmslAssignByUrl enabled state.uri = true
  | _ => True

/-! ## The invariant -/

/-- The effect of a step of the main thread, other than the choice of an implementation, on the
flags and on the place in the loop. -/
structure LoopMove (state after : MainState) : Prop where
  halt : after.halt = state.halt
  inLoop : after.phase = .ended → state.halt = true
  polling : after.phase.polling = true →
    after.started = false ∨ after.started = state.started ∧ state.phase.polling = true

namespace LoopMove

variable {state after : MainState}

/-- A step inside a run. -/
theorem busy (hhalt : after.halt = state.halt) (hphase : after.phase.polling = false) :
    LoopMove state after := by
  refine ⟨hhalt, fun hended ↦ ?_, fun hpolling ↦ ?_⟩
  · rw [hended] at hphase
    cases hphase
  · rw [hphase] at hpolling
    cases hpolling

theorem proceed {ok : Bool} {phase : MainPhase} (hphase : phase.polling = false) :
    LoopMove state (state.proceed ok phase) := by
  cases ok with
  | true => exact busy rfl hphase
  | false => exact busy rfl rfl

end LoopMove

theorem mainNext_loopMove {state after : MainState} {step : MainStep}
    (hnext : mainNext state step = some after)
    (hstep : ∀ outcome, step ≠ .vmslAssignByUrl outcome) : LoopMove state after := by
  cases mainNext_cases hnext with
  | assigned | refused | unformatted => exact absurd rfl (hstep _)
  | testHalt hphase =>
    refine ⟨rfl, fun hended ↦ ?_, fun _ ↦ .inr ⟨rfl, by rw [hphase]; rfl⟩⟩
    by_contra hhalt
    simp [hhalt] at hended
  | testStarted hphase =>
    refine ⟨rfl, fun hended ↦ ?_, fun _ ↦ .inr ⟨rfl, by rw [hphase]; rfl⟩⟩
    simp only at hended
    split at hended <;> cases hended
  | workerLogInit | workerDump | namingInitializeWriter | workerInfoNew => exact .proceed rfl
  | workerListInit | workerListUninit | fork | workerListAppend | unappended | cloned | watchdogEnd
  | windUp => exact .busy rfl rfl
  | watchdogPass =>
    refine .busy rfl ?_
    simp only
    split <;> rfl
  | clearStarted => exact ⟨rfl, by simp, fun _ ↦ .inl rfl⟩

/-- Without a HALT the flag of the loop stays clear. -/
structure LoopKept (state : LoopState) : Prop extends StaysInLoop state where
  halt : state.main.halt = false

namespace LoopKept

variable {state : LoopState}

/-- A step that leaves the place in the loop and clears the flag or leaves it. -/
theorem handled (h : LoopKept state) {main : MainState} {unexecuted : Bool}
    (hphase : main.phase = state.main.phase) (hhalt : main.halt = state.main.halt)
    (hflag : unexecuted = true → state.unexecuted = true ∧
      (main.started = false ∨ main.started = state.main.started)) :
    LoopKept { state with main := main, unexecuted := unexecuted } := by
  refine ⟨⟨?_, fun hunexecuted hpolling ↦ ?_⟩, hhalt.trans h.halt⟩
  · rw [hphase]
    exact h.inLoop
  · obtain ⟨hbefore, hclear | hsame⟩ := hflag hunexecuted
    · exact hclear
    · rw [hphase] at hpolling
      exact hsame.trans (h.cleared hbefore hpolling)

theorem player (h : LoopKept state) {step : PlayerStep} (hstep : step ≠ .halt) :
    LoopKept (state.handle step) := by
  cases step with
  | halt => exact absurd rfl hstep
  | stop | testFailed => exact h.handled rfl rfl fun hflag ↦ ⟨by simpa using hflag, .inl rfl⟩
  | stats | set => exact h.handled rfl rfl fun hflag ↦ ⟨by simpa using hflag, .inr rfl⟩
  | start =>
    rw [LoopState.handle]
    simp only [playerNext, handleStart]
    split
    · exact h.handled rfl rfl fun hflag ↦ ⟨by simpa using hflag, .inr rfl⟩
    · exact h.handled rfl rfl fun hflag ↦ by simp at hflag

/-- A START for which there is an implementation begins a run. -/
theorem assign (h : LoopKept state) {main : MainState}
    (hnext : daemonNext state.main (.main (.vmslAssignByUrl .assigned)) = some main) :
    LoopKept { state with main := main, unexecuted := false } := by
  have hnext : mainNext state.main.tick (.vmslAssignByUrl .assigned) = some main := hnext
  cases mainNext_cases hnext with
  | assigned => exact ⟨⟨by simp, by simp⟩, h.halt⟩

/-- A run that is given up goes on with the clearing of the flag. -/
theorem main (h : LoopKept state) {step : MainStep} {main : MainState}
    (hstep : ∀ outcome, step ≠ .vmslAssignByUrl outcome)
    (hnext : daemonNext state.main (.main step) = some main) :
    LoopKept { state with
      main := main
      unexecuted := state.unexecuted || givenUp state.main.phase main.phase } := by
  have hmove := mainNext_loopMove hnext hstep
  refine ⟨⟨fun hended ↦ ?_, fun hunexecuted hpolling ↦ ?_⟩, hmove.halt.trans h.halt⟩
  · have hhalt : state.main.halt = true := hmove.inLoop hended
    rw [h.halt] at hhalt
    cases hhalt
  · obtain hclear | ⟨hsame, hbefore⟩ := hmove.polling hpolling
    · exact hclear
    · have hgiven : givenUp state.main.phase main.phase = false := by
        rw [givenUp, Bool.and_eq_false_iff]
        left
        apply decide_eq_false
        intro hclear
        simp [hclear, MainPhase.polling] at hpolling
      simp only [hgiven, Bool.or_false] at hunexecuted
      exact hsame.trans (h.cleared hunexecuted hbefore)

end LoopKept

/-- A parser that knows two URLs. -/
def twoUrls (value : String) : Uri :=
  if value = "amqp://localhost/test" then ⟨some "amqp"⟩
  else if value = "http://localhost/test" then ⟨some "http"⟩
  else .unset

/-- A START with a broker URL of a protocol that the daemon does not speak. -/
def unsupportedStart : List LoopStep :=
  [.setBroker "http://localhost/test", .player .start, .main .testHalt, .main .testStarted,
    .assign true]

end MsgPerf.Daemon
