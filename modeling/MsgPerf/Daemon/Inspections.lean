import MsgPerf.Daemon.Announcing
import MsgPerf.Worker.LogDirectory

/-!
# Inspections one after the other

`brokerd_worker_start` has a single status for all inspections, and nothing resets it.  An error that
is recorded in one inspection is therefore found by the next ones: by
`worker_log_fill_last_dir`, which gives up when it meets a directory, and by `brokerd_update`, which
takes it for an error of the broker.  The inspector that is described in `MsgPerf.Daemon.Inspector`
is followed here with its status, its log directories and its verdicts.

A call can fail and can record an error, and either can happen without the other; no call clears
the status.  Other daemons create directories at any time, and nobody removes one.
-/

namespace MsgPerf.Daemon.Inspections

open MsgPerf.Library MsgPerf.Maestro
open Worker (intMax)

/-! ## The functions with their status -/

/-- What comes of a call: its result, and whether it records an error. -/
structure Outcome where
  ok : Bool
  recorded : Bool
  deriving DecidableEq, Repr

/-- The loop of `worker_log_fill_last_dir` with so many probes left: the number, if there is one, and
whether the status has an error.  A number that is free is taken without a look at the status. -/
def workerLogFillLastDir (directories : Finset ℕ) (recorded : ℕ → Bool) :
    ℕ → ℕ → Bool → Option ℕ × Bool
  | 0, _, error => (none, error)
  | probes + 1, number, error =>
      if number ∉ directories then (some number, error || recorded number)
      else if error || recorded number then (none, true)
      else workerLogFillLastDir directories recorded probes (number + 1) false

/-- The directories behind `worker_log_init`, unless it fails, and the status. -/
def workerLogInit (directories : Finset ℕ) (recorded : ℕ → Bool) (mkdirs : Outcome)
    (error : Bool) : Option (Finset ℕ) × Bool :=
  match workerLogFillLastDir directories recorded intMax 0 error with
  | (none, error) => (none, error)
  | (some number, error) =>
      (if mkdirs.ok then some (insert number directories) else none, error || mkdirs.recorded)

/-- What `brokerd_update` makes of a call: the time has a result of its own, the information about
the system is not checked, and the others go by the status. -/
def passes (stage : UpdateStage) (outcome : Outcome) (error : Bool) : Bool :=
  match stage with
  | .currentTime => outcome.ok
  | .osInfo => true
  | .javaMem | .queueStat => !error

/-! ## The inspector -/

/-- A notification about an inspection, and whether the status that it is made from has an error. -/
structure Verdict where
  command : Command
  recorded : Bool
  deriving DecidableEq, Repr

/-- The inspector with its status.  `failed` is set between `goto err_exit` and the end of the
inspection; `begun` counts the inspections that have got a directory. -/
structure Inspecting where
  inspector : InspectorState
  error : Bool
  failed : Bool
  directories : Finset ℕ
  begun : ℕ
  verdicts : List Verdict

inductive InspectionStep where
  | player (note : InspectorNote)
  | directory (number : ℕ)
  | testHalt
  | testStarted
  | workerLogInit (recorded : ℕ → Bool) (mkdirs : Outcome)
  | bmicWriterInitialize (outcome : Outcome)
  | prepare (outcome : Outcome)
  | testCollecting
  | update (outcome : Outcome)
  | abortCheck (abort : Bool)
  | bmicWriterFlush (outcome : Outcome)
  | windUp (notify finalize : Outcome)
  | clearStarted

namespace Inspecting

/-- A step of the main thread, with what else changes. -/
def advance (state : Inspecting) (step : InspectorMainStep) (after : Inspecting) :
    Option Inspecting :=
  (inspectorMainNext state.inspector step).map fun inspector ↦ { after with inspector := inspector }

/-- A call whose result decides whether to go to `err_exit`. -/
def checked (state : Inspecting) (outcome : Outcome) : Inspecting :=
  { state with error := state.error || outcome.recorded, failed := !outcome.ok }

/-- A call whose result is not looked at. -/
def unchecked (state : Inspecting) (outcome : Outcome) : Inspecting :=
  { state with error := state.error || outcome.recorded }

/-- What the inspection is announced as.  Behind `err_exit` it has failed; behind the loop the
status decides. -/
def verdict (state : Inspecting) : Verdict :=
  ⟨if state.failed || state.error then .notifyFail else .notifySuccess, state.error⟩

def next (state : Inspecting) : InspectionStep → Option Inspecting
  | .player note =>
      (handlerNext state.inspector note).map fun inspector ↦ { state with inspector := inspector }
  | .directory number => some { state with directories := insert number state.directories }
  | .testHalt => state.advance .testHalt state
  | .testStarted => state.advance .testStarted state
  | .workerLogInit recorded mkdirs =>
      match Inspections.workerLogInit state.directories recorded mkdirs state.error with
      | (none, error) => state.advance (.workerLogInit false) { state with error := error }
      | (some directories, error) =>
          state.advance (.workerLogInit true)
            { state with
              error := error
              failed := false
              directories := directories
              begun := state.begun + 1 }
  | .bmicWriterInitialize outcome =>
      state.advance (.bmicWriterInitialize outcome.ok) (state.checked outcome)
  | .prepare outcome => state.advance (.prepare outcome.ok) (state.checked outcome)
  | .testCollecting => state.advance .testCollecting state
  | .update outcome =>
      match state.inspector.phase with
      | .update stage =>
          state.advance (.update (passes stage outcome (state.error || outcome.recorded)))
            (state.unchecked outcome)
      | _ => none
  | .abortCheck abort => state.advance (.abortCheck abort) state
  | .bmicWriterFlush outcome => state.advance .bmicWriterFlush (state.unchecked outcome)
  | .windUp notify finalize =>
      state.advance .bmicWriterFinalize
        { (state.unchecked notify).unchecked finalize with
          verdicts := state.verdicts ++ [state.verdict] }
  | .clearStarted => state.advance .clearStarted state

end Inspecting

/-- An inspector that finds some directories in the log directory. -/
def inspectionMachine (existing : Finset ℕ) : Machine Inspecting InspectionStep where
  initial := ⟨inspectorMachine.initial, false, false, existing, 0, []⟩
  next := Inspecting.next

/-! ## What a step does -/

/-- In `brokerd_collect` behind `worker_log_init`. -/
def inspecting (phase : InspectorPhase) : Bool :=
  phase = .writerInitialize || phase.behindInitialize

/-- With an error in the status, a directory with the number zero ends the loop at once. -/
theorem workerLogInit_of_error {directories : Finset ℕ} (hzero : 0 ∈ directories)
    (recorded : ℕ → Bool) (mkdirs : Outcome) :
    workerLogInit directories recorded mkdirs true = (none, true) := by
  have hfill : workerLogFillLastDir directories recorded intMax 0 true = (none, true) := by
    rw [show intMax = (intMax - 1) + 1 from rfl, workerLogFillLastDir]
    simp [hzero]
  rw [workerLogInit, hfill]

/-- An error is kept. -/
theorem workerLogFillLastDir_error (directories : Finset ℕ) (recorded : ℕ → Bool) (probes : ℕ)
    (number : ℕ) : (workerLogFillLastDir directories recorded probes number true).2 = true := by
  cases probes with
  | zero => rfl
  | succ probes =>
    rw [workerLogFillLastDir]
    split
    · rfl
    · rfl

/-- The numbers below the one that is found exist. -/
theorem zero_mem_of_workerLogFillLastDir {directories : Finset ℕ} {recorded : ℕ → Bool}
    {probes start number : ℕ} {error after : Bool}
    (h : workerLogFillLastDir directories recorded probes start error = (some number, after))
    (hstart : start = 0 ∨ 0 ∈ directories) : 0 ∈ insert number directories := by
  induction probes generalizing start error with
  | zero => cases h
  | succ probes ih =>
    rw [workerLogFillLastDir] at h
    split at h
    next hfree =>
      obtain ⟨rfl, -⟩ : start = number ∧ _ := by simpa using h
      rcases hstart with rfl | hzero
      · exact Finset.mem_insert_self 0 directories
      · exact Finset.mem_insert_of_mem hzero
    next hused =>
      split at h
      · cases h
      · apply ih h
        rcases hstart with rfl | hzero
        · exact .inr (not_not.mp hused)
        · exact .inr hzero

/-- A directory is found with an error in the status only when there is none with the number zero;
there is one afterwards. -/
theorem workerLogInit_some {directories after : Finset ℕ} {recorded : ℕ → Bool} {mkdirs : Outcome}
    {error later : Bool} (h : workerLogInit directories recorded mkdirs error = (some after, later)) :
    directories ⊆ after ∧ 0 ∈ after ∧ (error = true → 0 ∉ directories) := by
  have hfree : error = true → 0 ∉ directories := by
    rintro rfl hzero
    rw [workerLogInit_of_error hzero] at h
    cases h
  rw [workerLogInit] at h
  split at h
  · cases h
  next number error hfill =>
    obtain ⟨hmade, -⟩ := Prod.mk.inj h
    split at hmade
    · obtain rfl := Option.some.inj hmade
      exact ⟨Finset.subset_insert _ _, zero_mem_of_workerLogFillLastDir hfill (.inl rfl), hfree⟩
    · cases hmade

theorem workerLogInit_error {directories : Finset ℕ} {recorded : ℕ → Bool} {mkdirs : Outcome}
    {made : Option (Finset ℕ)} {error : Bool}
    (h : workerLogInit directories recorded mkdirs true = (made, error)) : error = true := by
  have hfill := workerLogFillLastDir_error directories recorded intMax 0
  rw [workerLogInit] at h
  split at h
  next hnone =>
    rw [hnone] at hfill
    exact (Prod.mk.inj h).2 ▸ hfill
  next number error hsome =>
    rw [hsome] at hfill
    have herror : error = true := hfill
    rw [← (Prod.mk.inj h).2, herror, Bool.true_or]

/-- How a step of the main thread moves between the inspections. -/
inductive Move (before : InspectorState) (step : InspectorMainStep) (after : InspectorState) :
    Prop where
  | begins (ok : Bool) (label : step = .workerLogInit ok)
      (outside : inspecting before.phase = false) (inside : inspecting after.phase = ok)
      (opened : after.opened = before.opened)
  | ends (label : step = .bmicWriterFinalize) (inside : inspecting before.phase = true)
      (outside : inspecting after.phase = false)
  | stays (begins : ∀ ok, step ≠ .workerLogInit ok) (ends : step ≠ .bmicWriterFinalize)
      (same : inspecting after.phase = inspecting before.phase)
      (opened : inspecting before.phase = false → after.opened = before.opened)

theorem inspectorMainNext_move {before after : InspectorState} {step : InspectorMainStep}
    (hnext : inspectorMainNext before step = some after) : Move before step after := by
  cases step with
  | workerLogInit ok =>
    simp only [inspectorMainNext] at hnext
    split at hnext
    next hphase =>
      obtain rfl := Option.some.inj hnext
      refine .begins ok rfl (by rw [hphase]; rfl) ?_ rfl
      cases ok <;> rfl
    · cases hnext
  | bmicWriterFinalize =>
    simp only [inspectorMainNext] at hnext
    split at hnext
    next hphase =>
      obtain rfl := Option.some.inj hnext
      exact .ends rfl (by rw [hphase]; rfl) rfl
    · cases hnext
  | bmicWriterInitialize ok =>
    simp only [inspectorMainNext] at hnext
    split at hnext
    next hphase =>
      have hinside : inspecting before.phase = true := by
        rw [hphase]
        rfl
      split at hnext <;> obtain rfl := Option.some.inj hnext
      · exact .stays (by simp) (by simp) hinside.symm fun houtside ↦ absurd hinside (by simp [houtside])
      · exact .stays (by simp) (by simp) hinside.symm fun houtside ↦ absurd hinside (by simp [houtside])
    · cases hnext
  | testHalt | testStarted | testCollecting | abortCheck abort =>
    simp only [inspectorMainNext] at hnext
    split at hnext
    next hphase =>
      obtain rfl := Option.some.inj hnext
      refine .stays (by simp) (by simp) ?_ fun _ ↦ rfl
      rw [hphase]
      split <;> rfl
    · cases hnext
  | bmicWriterFlush | clearStarted =>
    simp only [inspectorMainNext] at hnext
    split at hnext
    next hphase =>
      obtain rfl := Option.some.inj hnext
      refine .stays (by simp) (by simp) ?_ fun _ ↦ rfl
      rw [hphase]
      rfl
    · cases hnext
  | prepare ok =>
    simp only [inspectorMainNext] at hnext
    split at hnext
    next stage hphase =>
      obtain rfl := Option.some.inj hnext
      refine .stays (by simp) (by simp) ?_ fun _ ↦ rfl
      rw [hphase]
      cases ok <;> cases stage <;> rfl
    · cases hnext
  | update ok =>
    simp only [inspectorMainNext] at hnext
    split at hnext
    next stage hphase =>
      split at hnext
      · obtain rfl := Option.some.inj hnext
        refine .stays (by simp) (by simp) ?_ fun _ ↦ rfl
        rw [hphase]
        cases stage <;> rfl
      · obtain rfl := Option.some.inj hnext
        refine .stays (by simp) (by simp) ?_ fun _ ↦ rfl
        rw [hphase]
        rfl
    · cases hnext

/-- A handler leaves the main thread where it is. -/
theorem handlerNext_aside {before after : InspectorState} {note : InspectorNote}
    (hnext : handlerNext before note = some after) :
    after.phase = before.phase ∧ after.opened = before.opened := by
  cases note with
  | start | stop | flush | writerFlush | halt | setHalt =>
    simp only [handlerNext] at hnext
    split at hnext
    · obtain rfl := Option.some.inj hnext
      exact ⟨rfl, rfl⟩
    · cases hnext

/-- What a step does to the status, the directories and the verdicts. -/
inductive Case (state : Inspecting) : Inspecting → Prop where
  | quiet (inspector : InspectorState) (error failed : Bool) (directories : Finset ℕ)
      (same : inspecting inspector.phase = inspecting state.inspector.phase)
      (opened : inspecting state.inspector.phase = false →
        inspector.opened = state.inspector.opened)
      (kept : state.error = true → error = true) (grown : state.directories ⊆ directories) :
      Case state { state with
        inspector := inspector, error := error, failed := failed, directories := directories }
  | begins (inspector : InspectorState) (error : Bool) (directories : Finset ℕ)
      (outside : inspecting state.inspector.phase = false)
      (inside : inspecting inspector.phase = true) (zero : 0 ∈ directories)
      (free : state.error = true → 0 ∉ state.directories) :
      Case state { state with
        inspector := inspector, error := error, failed := false, directories := directories,
        begun := state.begun + 1 }
  | announces (inspector : InspectorState) (error : Bool)
      (inside : inspecting state.inspector.phase = true)
      (outside : inspecting inspector.phase = false) (kept : state.error = true → error = true) :
      Case state { state with
        inspector := inspector, error := error, verdicts := state.verdicts ++ [state.verdict] }

/-- A step of the main thread that is neither the first nor the last one of an inspection. -/
theorem Case.advance {state after : Inspecting} {step : InspectorMainStep} {error failed : Bool}
    (hinit : ∀ ok, step ≠ .workerLogInit ok) (hfinalize : step ≠ .bmicWriterFinalize)
    (hkept : state.error = true → error = true)
    (h : state.advance step { state with error := error, failed := failed } = some after) :
    Case state after := by
  obtain ⟨inspector, hnext, rfl⟩ := Option.map_eq_some_iff.mp h
  cases inspectorMainNext_move hnext with
  | begins ok label => exact absurd label (hinit ok)
  | ends label => exact absurd label hfinalize
  | stays _ _ same opened =>
    exact .quiet inspector error failed state.directories same opened hkept subset_rfl

theorem next_cases {state after : Inspecting} {step : InspectionStep}
    (h : state.next step = some after) : Case state after := by
  have hor : ∀ recorded : Bool, state.error = true → (state.error || recorded) = true := by
    intro recorded herror
    rw [herror, Bool.true_or]
  cases step with
  | player note =>
    obtain ⟨inspector, hnext, rfl⟩ := Option.map_eq_some_iff.mp h
    obtain ⟨hphase, hopened⟩ := handlerNext_aside hnext
    exact .quiet inspector state.error state.failed state.directories (congrArg inspecting hphase)
      (fun _ ↦ hopened) id subset_rfl
  | directory number =>
    obtain rfl := Option.some.inj h
    exact .quiet state.inspector state.error state.failed _ rfl (fun _ ↦ rfl) id
      (Finset.subset_insert _ _)
  | testHalt | testStarted | testCollecting | abortCheck abort | clearStarted =>
    exact Case.advance (by simp) (by simp) id h
  | bmicWriterInitialize outcome | prepare outcome | bmicWriterFlush outcome =>
    exact Case.advance (by simp) (by simp) (hor outcome.recorded) h
  | update outcome =>
    simp only [Inspecting.next] at h
    split at h
    · exact Case.advance (by simp) (by simp) (hor outcome.recorded) h
    · cases h
  | workerLogInit recorded mkdirs =>
    simp only [Inspecting.next] at h
    split at h
    next error hlog =>
      obtain ⟨inspector, hnext, rfl⟩ := Option.map_eq_some_iff.mp h
      have hkept : state.error = true → error = true := by
        intro herror
        rw [herror] at hlog
        exact workerLogInit_error hlog
      cases inspectorMainNext_move hnext with
      | begins ok label outside inside opened =>
        obtain rfl : false = ok := by simpa using label
        exact .quiet inspector error state.failed state.directories (inside.trans outside.symm)
          (fun _ ↦ opened) hkept subset_rfl
      | ends label => cases label
      | stays hbegins => exact absurd rfl (hbegins false)
    next directories error hlog =>
      obtain ⟨inspector, hnext, rfl⟩ := Option.map_eq_some_iff.mp h
      obtain ⟨-, hzero, hfree⟩ := workerLogInit_some hlog
      cases inspectorMainNext_move hnext with
      | begins ok label outside inside opened =>
        obtain rfl : true = ok := by simpa using label
        exact .begins inspector error directories outside inside hzero hfree
      | ends label => cases label
      | stays hbegins => exact absurd rfl (hbegins true)
  | windUp notify finalize =>
    obtain ⟨inspector, hnext, rfl⟩ := Option.map_eq_some_iff.mp h
    cases inspectorMainNext_move hnext with
    | begins ok label => cases label
    | ends label inside outside =>
      refine .announces inspector _ inside outside fun herror ↦ ?_
      simp [Inspecting.unchecked, herror]
    | stays _ hends => exact absurd rfl hends

/-- A step of the main thread that leaves the verdicts alone. -/
theorem advance_refines {state after changed : Inspecting} {label : InspectorMainStep}
    (h : state.advance label changed = some after) (hverdicts : changed.verdicts = state.verdicts)
    (hlabel : label ≠ .bmicWriterFinalize) :
    ∃ label announced, InspectorState.main label state.inspector =
        some (after.inspector, announced) ∧
      after.verdicts.map Verdict.command =
        state.verdicts.map Verdict.command ++ announced.toList := by
  obtain ⟨inspector, hnext, rfl⟩ := Option.map_eq_some_iff.mp h
  refine ⟨(label, true), none, ?_, ?_⟩
  · rw [InspectorState.main, hnext, Option.map_some, if_neg hlabel]
  · rw [Option.toList_none, List.append_nil, ← hverdicts]

/-- Without its status this is the inspector that the other daemons see: a step is one of its
handlers or of its main thread, which announces what the status decides. -/
theorem next_refines {state after : Inspecting} {step : InspectionStep}
    (h : state.next step = some after) :
    (after.inspector = state.inspector ∧ after.verdicts = state.verdicts) ∨
    (∃ note, handlerNext state.inspector note = some after.inspector ∧
      after.verdicts = state.verdicts) ∨
    ∃ label announced, InspectorState.main label state.inspector =
        some (after.inspector, announced) ∧
      after.verdicts.map Verdict.command =
        state.verdicts.map Verdict.command ++ announced.toList := by
  cases step with
  | player note =>
    obtain ⟨inspector, hnext, rfl⟩ := Option.map_eq_some_iff.mp h
    exact .inr (.inl ⟨note, hnext, rfl⟩)
  | directory number =>
    obtain rfl := Option.some.inj h
    exact .inl ⟨rfl, rfl⟩
  | testHalt | testStarted | testCollecting | abortCheck abort | clearStarted
  | bmicWriterInitialize outcome | prepare outcome | bmicWriterFlush outcome =>
    exact .inr (.inr (advance_refines h rfl (by simp)))
  | update outcome =>
    simp only [Inspecting.next] at h
    split at h
    · exact .inr (.inr (advance_refines h rfl (by simp)))
    · cases h
  | workerLogInit recorded mkdirs =>
    simp only [Inspecting.next] at h
    split at h <;> exact .inr (.inr (advance_refines h rfl (by simp)))
  | windUp notify finalize =>
    obtain ⟨inspector, hnext, rfl⟩ := Option.map_eq_some_iff.mp h
    refine .inr (.inr ⟨(.bmicWriterFinalize, !(state.failed || state.error)),
      some state.verdict.command, ?_, List.map_append⟩)
    rw [InspectorState.main, hnext, Option.map_some, if_pos rfl, Inspecting.verdict]
    cases state.failed || state.error <;> rfl

/-! ## After an error -/

/-- No inspection gets a directory any more. -/
structure Silenced (state : Inspecting) : Prop where
  error : state.error = true
  zero : 0 ∈ state.directories
  outside : inspecting state.inspector.phase = false

/-- Nothing is begun, opened or announced in between. -/
structure Unheard (before after : Inspecting) : Prop where
  verdicts : after.verdicts = before.verdicts
  begun : after.begun = before.begun
  opened : after.inspector.opened = before.inspector.opened

theorem Silenced.next {state after : Inspecting} {step : InspectionStep} (h : Silenced state)
    (hnext : state.next step = some after) : Silenced after ∧ Unheard state after := by
  cases next_cases hnext with
  | quiet inspector error failed directories same opened kept grown =>
    have houtside : inspecting inspector.phase = false := same.trans h.outside
    exact ⟨⟨kept h.error, grown h.zero, houtside⟩, ⟨rfl, rfl, opened h.outside⟩⟩
  | begins inspector error directories outside inside zero free =>
    exact absurd h.zero (free h.error)
  | announces inspector error inside =>
    rw [h.outside] at inside
    cases inside

theorem Silenced.run {existing : Finset ℕ} {state after : Inspecting}
    {steps : List InspectionStep} (h : Silenced state)
    (hrun : (inspectionMachine existing).run state steps = some after) : Unheard state after := by
  induction steps generalizing state with
  | nil =>
    obtain rfl := Option.some.inj hrun
    exact ⟨rfl, rfl, rfl⟩
  | cons step steps ih =>
    obtain ⟨middle, hnext, hrest⟩ := Option.bind_eq_some_iff.mp hrun
    obtain ⟨hsilenced, hunheard⟩ := h.next hnext
    have hlater := ih hsilenced hrest
    exact ⟨hlater.verdicts.trans hunheard.verdicts, hlater.begun.trans hunheard.begun,
      hlater.opened.trans hunheard.opened⟩

/-- The verdicts without an error in the status, and at most one with an error behind them. -/
structure Accounted (state : Inspecting) : Prop where
  counted : state.verdicts.length + (if inspecting state.inspector.phase then 1 else 0) =
    state.begun
  zero : inspecting state.inspector.phase = true → 0 ∈ state.directories
  split : ∃ clean, (∀ verdict ∈ clean, verdict.recorded = false) ∧
    (state.verdicts = clean ∨
      state.verdicts = clean ++ [⟨.notifyFail, true⟩] ∧ Silenced state)

theorem Accounted.next {state after : Inspecting} {step : InspectionStep} (h : Accounted state)
    (hnext : state.next step = some after) : Accounted after := by
  obtain ⟨clean, hclean, hsplit⟩ := h.split
  cases next_cases hnext with
  | quiet inspector error failed directories same opened kept grown =>
    refine ⟨?_, ?_, clean, hclean, ?_⟩
    · simpa only [same] using h.counted
    · intro hinside
      exact grown (h.zero (same.symm.trans hinside))
    · rcases hsplit with hverdicts | ⟨hverdicts, hsilenced⟩
      · exact .inl hverdicts
      · exact .inr ⟨hverdicts, (hsilenced.next hnext).1⟩
  | begins inspector error directories outside inside zero free =>
    refine ⟨?_, fun _ ↦ zero, clean, hclean, ?_⟩
    · have hcounted := h.counted
      simp only [outside] at hcounted
      simpa [inside] using hcounted
    · rcases hsplit with hverdicts | ⟨hverdicts, hsilenced⟩
      · exact .inl hverdicts
      · exact absurd hsilenced.zero (free hsilenced.error)
  | announces inspector error inside outside kept =>
    refine ⟨?_, fun hinside ↦ absurd hinside (by simp [outside]), ?_⟩
    · have hcounted := h.counted
      simp only [inside, if_true] at hcounted
      simpa [outside] using hcounted
    · rcases hsplit with hverdicts | ⟨-, hsilenced⟩
      · by_cases herror : state.error = true
        · refine ⟨clean, hclean, .inr ⟨?_, ⟨kept herror, h.zero inside, outside⟩⟩⟩
          simp [hverdicts, Inspecting.verdict, herror]
        · refine ⟨clean ++ [state.verdict], ?_, .inl (by rw [hverdicts])⟩
          intro verdict hmem
          rcases List.mem_append.mp hmem with hold | hnew
          · exact hclean verdict hold
          · rw [List.mem_singleton.mp hnew]
            exact Bool.eq_false_iff.mpr herror
      · rw [hsilenced.outside] at inside
        cases inside

/-- **One error ends the inspections.**  However the handlers and the main thread are interleaved,
every inspection that got a directory is announced once.  The verdicts that are made without an
error in the status come first; one that is made with an error announces a failure and is the last
one ever: from there on no run begins an inspection, opens a report or announces anything. -/
theorem reachable_verdicts {existing : Finset ℕ} {state : Inspecting}
    (h : (inspectionMachine existing).Reachable state) :
    state.verdicts.length + (if inspecting state.inspector.phase then 1 else 0) = state.begun ∧
    ∃ clean, (∀ verdict ∈ clean, verdict.recorded = false) ∧
      (state.verdicts = clean ∨
        state.verdicts = clean ++ [⟨.notifyFail, true⟩] ∧
          ∀ steps after, (inspectionMachine existing).run state steps = some after →
            Unheard state after) := by
  have haccounted : Accounted state := by
    apply h.invariant
    · exact ⟨rfl, by simp [inspectionMachine, inspectorMachine, inspecting,
        InspectorPhase.behindInitialize], [], by simp, .inl rfl⟩
    · intro before step after hbefore _ hnext
      exact hbefore.next hnext
  obtain ⟨clean, hclean, hsplit⟩ := haccounted.split
  refine ⟨haccounted.counted, clean, hclean, hsplit.imp_right ?_⟩
  rintro ⟨hverdicts, hsilenced⟩
  exact ⟨hverdicts, fun steps after hrun ↦ hsilenced.run hrun⟩

/-- A broker that could not be reached, and a second START. -/
def twoStarts : List InspectionStep :=
  [.player .start, .testHalt, .testStarted, .workerLogInit (fun _ ↦ false) ⟨true, false⟩,
    .bmicWriterInitialize ⟨true, false⟩, .prepare ⟨false, true⟩,
    .windUp ⟨true, false⟩ ⟨true, false⟩, .clearStarted, .player .start, .testHalt, .testStarted,
    .workerLogInit (fun _ ↦ false) ⟨true, false⟩]

/-- The second inspection ends without a verdict. -/
theorem twoStarts_verdicts :
    ∃ state, (inspectionMachine ∅).run (inspectionMachine ∅).initial twoStarts = some state ∧
      state.inspector.started = true ∧ state.inspector.phase = .clear ∧ state.begun = 1 ∧
      state.verdicts = [⟨.notifyFail, true⟩] ∧
      ∀ steps after, (inspectionMachine ∅).run state steps = some after → Unheard state after := by
  have hrun : ∃ state,
      (inspectionMachine ∅).run (inspectionMachine ∅).initial twoStarts = some state ∧
        state.inspector.started = true ∧ state.inspector.phase = .clear ∧ state.begun = 1 ∧
        state.verdicts = [⟨.notifyFail, true⟩] := ⟨_, rfl, rfl, rfl, rfl, rfl⟩
  obtain ⟨state, hrun, hstarted, hphase, hbegun, hverdicts⟩ := hrun
  obtain ⟨-, clean, hclean, hsplit⟩ := reachable_verdicts (Machine.reachable_of_run twoStarts hrun)
  refine ⟨state, hrun, hstarted, hphase, hbegun, hverdicts, ?_⟩
  rcases hsplit with hsame | ⟨-, hunheard⟩
  · have hfalse := hclean ⟨.notifyFail, true⟩ (by rw [← hsame, hverdicts]; exact List.mem_cons_self)
    cases hfalse
  · exact hunheard

end MsgPerf.Daemon.Inspections
