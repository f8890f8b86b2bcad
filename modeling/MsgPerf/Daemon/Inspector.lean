import MsgPerf.Library.Machine
import MsgPerf.Library.Resource

/-!
# The report of the broker inspector

`brokerd_worker_start` polls the flag that the handler of START sets and runs `brokerd_collect`,
which opens the report, adds a row in every turn of its loop and closes the report.  The flag is
cleared after that.  The player thread handles notes at any point in between; its handler of FLUSH
takes the flag as a sign that the report is open.

The report is a variable of `bmic_writer.c`.  `gzopen` gives a new file at each call, so the files
are numbered in the order in which they are opened, and the variable keeps a closed file until the
next inspection.  The outcome of a call that can fail is part of the label of a step.
-/

namespace MsgPerf.Daemon

open MsgPerf.Library
open ResourceOperation

/-- What is done with the report while it should be open. -/
inductive ReportAction where
  | currentTime | osInfo | javaMem | queueStat | flush
  deriving DecidableEq, Repr

/-- The calls of `brokerd_collect` between the opening of the report and its loop. -/
inductive Preparation where
  | context | purge | capabilities | brokerDump | workerDump
  deriving DecidableEq, Repr

def Preparation.next : Preparation → Option Preparation
  | .context => some .purge
  | .purge => some .capabilities
  | .capabilities => some .brokerDump
  | .brokerDump => some .workerDump
  | .workerDump => none

/-- The writes of `brokerd_update`, in their order. -/
inductive UpdateStage where
  | currentTime | osInfo | javaMem | queueStat
  deriving DecidableEq, Repr

namespace UpdateStage

def next : UpdateStage → Option UpdateStage
  | .currentTime => some .osInfo
  | .osInfo => some .javaMem
  | .javaMem => some .queueStat
  | .queueStat => none

def action : UpdateStage → ReportAction
  | .currentTime => .currentTime
  | .osInfo => .osInfo
  | .javaMem => .javaMem
  | .queueStat => .queueStat

end UpdateStage

/-- The next statement of the main thread. -/
inductive InspectorPhase where
  | whileHalt
  | ifStarted
  | logInit
  | writerInitialize
  | prepare (stage : Preparation)
  | whileStarted
  | update (stage : UpdateStage)
  | abortCheck
  | writerFlush
  | writerFinalize
  | clear
  | ended
  deriving DecidableEq, Repr

/-- Behind `bmic_writer_initialize` and before the end of `bmic_writer_finalize`. -/
def InspectorPhase.behindInitialize : InspectorPhase → Bool
  | .prepare _ | .whileStarted | .update _ | .abortCheck | .writerFlush | .writerFinalize => true
  | .whileHalt | .ifStarted | .logInit | .writerInitialize | .clear | .ended => false

/-- Where the player thread is: between notes, in the handler of FLUSH behind its test of the flag,
or in the handler of HALT behind its call of the handler of STOP. -/
inductive HandlerPhase where
  | idle | flushing | halting
  deriving DecidableEq, Repr

/-- The shared variables, the two threads, the number of files opened so far, and what was done with
them. -/
structure InspectorState where
  started : Bool
  halt : Bool
  report : Option ℕ
  phase : InspectorPhase
  player : HandlerPhase
  opened : ℕ
  log : List (ResourceOperation ℕ ReportAction)
  deriving DecidableEq, Repr

/-! ## The player thread -/

inductive InspectorNote where
  | start
  | stop
  | flush
  | writerFlush
  | halt
  | setHalt
  deriving DecidableEq, Repr

/-- An action on whatever the variable holds. -/
def InspectorState.use (state : InspectorState) (action : ReportAction) : InspectorState :=
  { state with log := state.log ++ [.used action state.report] }

def handlerNext (state : InspectorState) : InspectorNote → Option InspectorState
  -- A START is refused when the flag is set; the flag is the same afterwards.
  | .start =>
      match state.player with
      | .idle => some { state with started := true }
      | _ => none
  | .stop =>
      match state.player with
      | .idle => some { state with started := false }
      | _ => none
  | .flush =>
      match state.player with
      | .idle => some { state with player := if state.started then .flushing else .idle }
      | _ => none
  | .writerFlush =>
      match state.player with
      | .flushing => some { state.use .flush with player := .idle }
      | _ => none
  | .halt =>
      match state.player with
      | .idle => some { state with started := false, player := .halting }
      | _ => none
  | .setHalt =>
      match state.player with
      | .halting => some { state with halt := true, player := .idle }
      | _ => none

/-! ## The main thread -/

inductive InspectorMainStep where
  | testHalt
  | testStarted
  | workerLogInit (ok : Bool)
  | bmicWriterInitialize (ok : Bool)
  | prepare (ok : Bool)
  | testCollecting
  | update (ok : Bool)
  | abortCheck (abort : Bool)
  | bmicWriterFlush
  | bmicWriterFinalize
  | clearStarted
  deriving DecidableEq, Repr

/-- A failure before the report is opened returns at once; every later one goes on with
`bmic_writer_finalize`, as the end of the loop does.  The information about the system is written
without a check. -/
def inspectorMainNext (state : InspectorState) : InspectorMainStep → Option InspectorState
  | .testHalt =>
      match state.phase with
      | .whileHalt => some { state with phase := if state.halt then .ended else .ifStarted }
      | _ => none
  | .testStarted =>
      match state.phase with
      | .ifStarted => some { state with phase := if state.started then .logInit else .whileHalt }
      | _ => none
  | .workerLogInit ok =>
      match state.phase with
      | .logInit => some { state with phase := if ok then .writerInitialize else .clear }
      | _ => none
  | .bmicWriterInitialize ok =>
      match state.phase with
      | .writerInitialize =>
          if ok then
            some { state with
              report := some state.opened
              opened := state.opened + 1
              log := state.log ++ [.acquired state.opened]
              phase := .prepare .context }
          else some { state with report := none, phase := .writerFinalize }
      | _ => none
  | .prepare ok =>
      match state.phase with
      | .prepare stage =>
          some { state with
            phase := if ok then (stage.next.map .prepare).getD .whileStarted else .writerFinalize }
      | _ => none
  | .testCollecting =>
      match state.phase with
      | .whileStarted =>
          some { state with
            phase := if state.started then .update .currentTime else .writerFinalize }
      | _ => none
  | .update ok =>
      match state.phase with
      | .update stage =>
          if ok ∨ stage = .osInfo then
            some { state.use stage.action with
              phase := (stage.next.map .update).getD .abortCheck }
          else some { state with phase := .writerFinalize }
      | _ => none
  | .abortCheck abort =>
      match state.phase with
      | .abortCheck =>
          some { state with phase := if abort then .writerFinalize else .writerFlush }
      | _ => none
  | .bmicWriterFlush =>
      match state.phase with
      | .writerFlush => some { state.use .flush with phase := .whileStarted }
      | _ => none
  | .bmicWriterFinalize =>
      match state.phase with
      | .writerFinalize =>
          some { state with log := state.log ++ [.released state.report], phase := .clear }
      | _ => none
  | .clearStarted =>
      match state.phase with
      | .clear => some { state with started := false, phase := .whileHalt }
      | _ => none

inductive InspectorStep where
  | player (step : InspectorNote)
  | main (step : InspectorMainStep)
  deriving DecidableEq, Repr

def inspectorNext (state : InspectorState) : InspectorStep → Option InspectorState
  | .player step => handlerNext state step
  | .main step => inspectorMainNext state step

def inspectorMachine : Machine InspectorState InspectorStep where
  initial := ⟨false, false, none, .whileHalt, .idle, 0, []⟩
  next := inspectorNext

/-- The report is used only while a file is open; no file is closed twice, and outside of an
inspection every file that was opened has been closed. -/
structure ReportSound (state : InspectorState) : Prop where
  disciplined : Disciplined state.log
  atMostOnce : ∀ file, state.log.count (.released (some file)) ≤ 1
  settled : state.phase.behindInitialize = false → Settled state.log

/-- The file that is open. -/
def InspectorState.openReport (state : InspectorState) : Option ℕ :=
  if state.phase.behindInitialize then state.report else none

/-- A FLUSH that finds the flag set comes while the report is open, and the report is not closed
while the handler of FLUSH is about to use it. -/
def FlushesOpen (state : InspectorState) : InspectorStep → Prop
  | .player .flush => state.started = true → state.openReport ≠ none
  | .main .bmicWriterFinalize => state.player ≠ .flushing
  | _ => True

/-! ## The invariant -/

/-- Behind the opening of the report the variable holds the file that is open, and the handler of
FLUSH is behind its test only then. -/
structure ReportKept (state : InspectorState) : Prop where
  balanced : Balanced state.log state.openReport
  fresh : ∀ file, .acquired file ∈ state.log → file < state.opened
  present : state.phase.behindInitialize = true → state.phase ≠ .writerFinalize →
    state.report ≠ none
  flushing : state.player = .flushing → state.openReport ≠ none

namespace ReportKept

variable {state after : InspectorState}

theorem sound (h : ReportKept state) : ReportSound state := by
  refine ⟨h.balanced.disciplined, h.balanced.count_released_le, fun hphase ↦ ?_⟩
  have hbalanced := h.balanced
  rw [InspectorState.openReport, hphase, if_neg Bool.false_ne_true] at hbalanced
  exact hbalanced.settled

theorem opened (h : ReportKept state) (hphase : state.phase.behindInitialize = true)
    (hfinalize : state.phase ≠ .writerFinalize) : state.openReport ≠ none := by
  rw [InspectorState.openReport, if_pos hphase]
  exact h.present hphase hfinalize

/-- A step that leaves the report alone. -/
theorem quiet (h : ReportKept state) (hlog : after.log = state.log)
    (hreport : after.report = state.report) (hopened : after.opened = state.opened)
    (hphase : after.phase.behindInitialize = state.phase.behindInitialize)
    (hfinalize : state.phase = .writerFinalize → after.phase = .writerFinalize)
    (hplayer : after.player = .flushing → state.openReport ≠ none) : ReportKept after := by
  have hopen : after.openReport = state.openReport := by
    rw [InspectorState.openReport, hphase, hreport, InspectorState.openReport]
  constructor
  · rw [hlog, hopen]
    exact h.balanced
  · rw [hlog, hopened]
    exact h.fresh
  · rw [hphase, hreport]
    intro hbehind hne
    exact h.present hbehind fun hstate ↦ hne (hfinalize hstate)
  · rw [hopen]
    exact hplayer

/-- A use of the report while it is open. -/
theorem use (h : ReportKept state) (hopen : state.openReport ≠ none) (action : ReportAction) :
    ReportKept (state.use action) := by
  obtain ⟨file, hfile⟩ := Option.ne_none_iff_exists'.mp hopen
  have hreport : state.report = some file := by
    rw [InspectorState.openReport] at hfile
    split at hfile
    · exact hfile
    · cases hfile
  have hbalanced := h.balanced
  rw [hfile] at hbalanced
  constructor
  · rw [show (state.use action).openReport = some file from hfile, InspectorState.use, hreport]
    exact hbalanced.use action
  · intro other hother
    apply h.fresh
    simpa [InspectorState.use] using hother
  · exact h.present
  · exact h.flushing

/-- A new file is opened. -/
theorem acquire (h : ReportKept state) (hphase : state.phase = .writerInitialize)
    (hafter : after = { state with
      report := some state.opened
      opened := state.opened + 1
      log := state.log ++ [.acquired state.opened]
      phase := .prepare .context }) : ReportKept after := by
  have hbalanced := h.balanced
  rw [InspectorState.openReport, hphase, if_neg (by decide)] at hbalanced
  subst hafter
  refine ⟨hbalanced.acquire fun hold ↦ (h.fresh _ hold).false, fun file hfile ↦ ?_, by simp,
    by simp [InspectorState.openReport, InspectorPhase.behindInitialize]⟩
  rcases List.mem_append.mp hfile with hold | hnew
  · exact (h.fresh file hold).trans (Nat.lt_succ_self _)
  · obtain rfl : file = state.opened := by simpa using hnew
    exact Nat.lt_succ_self _

/-- No file could be opened, and the variable is empty. -/
theorem unopened (h : ReportKept state) (hphase : state.phase = .writerInitialize)
    (hafter : after = { state with report := none, phase := .writerFinalize }) :
    ReportKept after := by
  have hopen : state.openReport = none := by
    rw [InspectorState.openReport, hphase, if_neg (by decide)]
  have hbalanced := h.balanced
  rw [hopen] at hbalanced
  subst hafter
  exact ⟨hbalanced, h.fresh, fun _ hne ↦ absurd rfl hne,
    fun hplayer ↦ absurd hopen (h.flushing hplayer)⟩

/-- The report is closed. -/
theorem finalize (h : ReportKept state) (hphase : state.phase = .writerFinalize)
    (hplayer : state.player ≠ .flushing)
    (hafter : after = { state with log := state.log ++ [.released state.report], phase := .clear }) :
    ReportKept after := by
  have hbalanced := h.balanced
  rw [InspectorState.openReport, hphase, if_pos (by decide)] at hbalanced
  subst hafter
  refine ⟨hbalanced.release, fun file hfile ↦ ?_, by simp [InspectorPhase.behindInitialize],
    fun hflushing ↦ absurd hflushing hplayer⟩
  apply h.fresh
  simpa using hfile

theorem player {step : InspectorNote} (h : ReportKept state)
    (hguard : FlushesOpen state (.player step)) (hnext : handlerNext state step = some after) :
    ReportKept after := by
  cases step with
  | start | stop =>
    simp only [handlerNext] at hnext
    split at hnext
    · rw [← Option.some.inj hnext]
      exact h.quiet rfl rfl rfl rfl id h.flushing
    · cases hnext
  | flush =>
    simp only [handlerNext] at hnext
    split at hnext
    · rw [← Option.some.inj hnext]
      refine h.quiet rfl rfl rfl rfl id fun hflushing ↦ ?_
      apply hguard
      by_contra hstarted
      simp [hstarted] at hflushing
    · cases hnext
  | writerFlush =>
    simp only [handlerNext] at hnext
    split at hnext
    · next hplayer =>
      rw [← Option.some.inj hnext]
      exact (h.use (h.flushing hplayer) .flush).quiet rfl rfl rfl rfl id fun hidle ↦ by cases hidle
    · cases hnext
  | halt | setHalt =>
    simp only [handlerNext] at hnext
    split at hnext
    · rw [← Option.some.inj hnext]
      exact h.quiet rfl rfl rfl rfl id fun hidle ↦ by cases hidle
    · cases hnext

/-- A step of the main thread from one statement to another on the same side of the opening and the
closing of the report. -/
theorem move (h : ReportKept state) {phase : InspectorPhase}
    (hphase : phase.behindInitialize = state.phase.behindInitialize)
    (hfinalize : state.phase ≠ .writerFinalize) (started : Bool) :
    ReportKept { state with started := started, phase := phase } :=
  h.quiet rfl rfl rfl hphase (fun hstate ↦ absurd hstate hfinalize) h.flushing

theorem main {step : InspectorMainStep} (h : ReportKept state)
    (hguard : FlushesOpen state (.main step)) (hnext : inspectorMainNext state step = some after) :
    ReportKept after := by
  cases step with
  | testHalt | testStarted | workerLogInit | testCollecting | abortCheck | clearStarted =>
    simp only [inspectorMainNext] at hnext
    split at hnext
    · next hphase =>
      rw [← Option.some.inj hnext]
      refine h.move ?_ (by simp [hphase]) _
      rw [hphase]
      first
        | rfl
        | split <;> rfl
    · cases hnext
  | bmicWriterInitialize ok =>
    simp only [inspectorMainNext] at hnext
    split at hnext
    · next hphase =>
      split at hnext
      · exact h.acquire hphase (Option.some.inj hnext).symm
      · exact h.unopened hphase (Option.some.inj hnext).symm
    · cases hnext
  | prepare ok =>
    simp only [inspectorMainNext] at hnext
    split at hnext
    · next stage hphase =>
      rw [← Option.some.inj hnext]
      refine h.move ?_ (by simp [hphase]) _
      rw [hphase]
      cases ok <;> cases stage <;> rfl
    · cases hnext
  | update ok =>
    simp only [inspectorMainNext] at hnext
    split at hnext
    · next stage hphase =>
      have hopen := h.opened (by rw [hphase]; rfl) (by simp [hphase])
      split at hnext
      · rw [← Option.some.inj hnext]
        refine (h.use hopen stage.action).move ?_ (by simp [InspectorState.use, hphase]) _
        rw [InspectorState.use, hphase]
        cases stage <;> rfl
      · rw [← Option.some.inj hnext]
        exact h.move (by rw [hphase]; rfl) (by simp [hphase]) _
    · cases hnext
  | bmicWriterFlush =>
    simp only [inspectorMainNext] at hnext
    split at hnext
    · next hphase =>
      have hopen := h.opened (by rw [hphase]; rfl) (by simp [hphase])
      rw [← Option.some.inj hnext]
      refine (h.use hopen .flush).move ?_ (by simp [InspectorState.use, hphase]) _
      rw [InspectorState.use, hphase]
      rfl
    · cases hnext
  | bmicWriterFinalize =>
    simp only [inspectorMainNext] at hnext
    split at hnext
    · next hphase => exact h.finalize hphase hguard (Option.some.inj hnext).symm
    · cases hnext

end ReportKept

/-- In every run in which FLUSH is handled with the flag set only while the report is open, and the
report is not closed under it, the report is touched only while open and closed once. -/
theorem reachable_reportSound {state : InspectorState}
    (h : inspectorMachine.ReachableUnder FlushesOpen state) : ReportSound state := by
  have hkept : ReportKept state := by
    apply h.invariant
    · exact ⟨.nil, by simp [inspectorMachine], by simp [inspectorMachine,
        InspectorPhase.behindInitialize], by simp [inspectorMachine]⟩
    · intro before step after hbefore hguard hnext
      cases step with
      | player step => exact hbefore.player hguard hnext
      | main step => exact hbefore.main hguard hnext
  exact hkept.sound

/-- An inspection whose report is flushed once and closed after the broker could not be read. -/
theorem flushedInspection_reportSound :
    ∃ state, inspectorMachine.ReachableUnder FlushesOpen state ∧
      state.log = [.acquired 0, .used .flush (some 0), .released (some 0)] ∧ ReportSound state := by
  have hstart : inspectorMachine.ReachableUnder FlushesOpen
      ⟨true, false, none, .whileHalt, .idle, 0, []⟩ :=
    .step .initial (show FlushesOpen _ (.player .start) from trivial) rfl
  have hhalt : inspectorMachine.ReachableUnder FlushesOpen
      ⟨true, false, none, .ifStarted, .idle, 0, []⟩ :=
    hstart.step (show FlushesOpen _ (.main .testHalt) from trivial) rfl
  have htest : inspectorMachine.ReachableUnder FlushesOpen
      ⟨true, false, none, .logInit, .idle, 0, []⟩ :=
    hhalt.step (show FlushesOpen _ (.main .testStarted) from trivial) rfl
  have hlog : inspectorMachine.ReachableUnder FlushesOpen
      ⟨true, false, none, .writerInitialize, .idle, 0, []⟩ :=
    htest.step (show FlushesOpen _ (.main (.workerLogInit true)) from trivial) rfl
  have hopen : inspectorMachine.ReachableUnder FlushesOpen
      ⟨true, false, some 0, .prepare .context, .idle, 1, [.acquired 0]⟩ :=
    hlog.step (show FlushesOpen _ (.main (.bmicWriterInitialize true)) from trivial) rfl
  have hflush : inspectorMachine.ReachableUnder FlushesOpen
      ⟨true, false, some 0, .prepare .context, .flushing, 1, [.acquired 0]⟩ :=
    hopen.step (show FlushesOpen _ (.player .flush) from fun _ ↦ by decide) rfl
  have hflushed : inspectorMachine.ReachableUnder FlushesOpen
      ⟨true, false, some 0, .prepare .context, .idle, 1,
        [.acquired 0, .used .flush (some 0)]⟩ :=
    hflush.step (show FlushesOpen _ (.player .writerFlush) from trivial) rfl
  have hfail : inspectorMachine.ReachableUnder FlushesOpen
      ⟨true, false, some 0, .writerFinalize, .idle, 1, [.acquired 0, .used .flush (some 0)]⟩ :=
    hflushed.step (show FlushesOpen _ (.main (.prepare false)) from trivial) rfl
  have hclose : inspectorMachine.ReachableUnder FlushesOpen
      ⟨true, false, some 0, .clear, .idle, 1,
        [.acquired 0, .used .flush (some 0), .released (some 0)]⟩ :=
    hfail.step (show FlushesOpen _ (.main .bmicWriterFinalize) from fun hplayer ↦ by cases hplayer)
      rfl
  exact ⟨_, hclose, rfl, reachable_reportSound hclose⟩

/-- A FLUSH between the closing of the report and the clearing of the flag. -/
def flushAfterFinalize : List InspectorStep :=
  [.player .start, .main .testHalt, .main .testStarted, .main (.workerLogInit true),
    .main (.bmicWriterInitialize true), .main (.prepare false), .main .bmicWriterFinalize,
    .player .flush, .player .writerFlush]

theorem flushAfterFinalize_not_reportSound :
    ¬ ∀ state, inspectorMachine.Reachable state → ReportSound state := by
  intro hevery
  have hrun : ∃ state, inspectorMachine.run inspectorMachine.initial flushAfterFinalize =
      some state ∧ state.log = [.acquired 0, .released (some 0), .used .flush (some 0)] :=
    ⟨_, rfl, rfl⟩
  obtain ⟨state, hrun, hlog⟩ := hrun
  have hsound := hevery state (Machine.reachable_of_run _ hrun)
  obtain ⟨file, hfile, -, hopen⟩ :=
    hsound.disciplined [.acquired 0, .released (some 0)] (.used .flush (some 0)) [] hlog
  obtain rfl := Option.some.inj hfile
  simp at hopen

end MsgPerf.Daemon
