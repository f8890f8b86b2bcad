import MsgPerf.Daemon.MainLoop
import MsgPerf.Library.Decimal

/-!
# Answers to STATS

The handlers of STATS test that there is a worker list, walk it to sum up the snapshots, and count
it afterwards.  The walk, with the test before it, and the count are two steps of the player thread,
which handles no other note in between; the main thread goes on meanwhile, and its clone and its
watchdog change the list.

The addition of the rates, which are doubles, and `gru_time_to_milli` are parameters.  The workers
of a walk are kept as a ghost field of the answer.
-/

namespace MsgPerf.Daemon

open MsgPerf.Library
open Worker

/-- The arithmetic of the sums that is not on integers. -/
structure StatsArithmetic where
  addRate : BitVec 64 → BitVec 64 → BitVec 64
  timeToMilli : Timestamp → ℤ

/-- The two handlers: only the receiver computes an average latency. -/
inductive StatsRole where
  | sender | receiver
  deriving DecidableEq, Repr

/-- The sums of a walk. -/
structure StatsTotals where
  messages : ℕ
  latency : ℕ
  rate : BitVec 64
  deriving DecidableEq, Repr

/-- A response with the payload of STATS; the average latency is given by its dividend and its
divisor. -/
structure StatsNote where
  walked : List WorkerInfo
  childCount : ℕ
  perfCount : ℕ
  perfRate : BitVec 64
  perfLatency : Option (ℕ × ℕ)
  deriving DecidableEq, Repr

inductive StatsAnswer where
  | internalError
  | stats (note : StatsNote)
  deriving DecidableEq, Repr

/-- The threads, the worker list of a handler between its walk and its count, and the answers so
far. -/
structure StatsState where
  main : MainState
  walked : Option (List WorkerInfo)
  answers : List StatsAnswer
  deriving DecidableEq, Repr

inductive StatsStep where
  | daemon (step : DaemonStep)
  | walk
  | count

def StatsTotals.add (arithmetic : StatsArithmetic) (totals : StatsTotals) (info : WorkerInfo) :
    StatsTotals :=
  { messages := (totals.messages + info.snapshot.count) % 2 ^ 64
    latency := toUnsigned 64 (totals.latency + arithmetic.timeToMilli info.snapshot.latency)
    rate := arithmetic.addRate totals.rate info.snapshot.rate }

/-- The loop over the nodes of the list. -/
def walkTotals (arithmetic : StatsArithmetic) (workers : List WorkerInfo) : StatsTotals :=
  workers.foldl (StatsTotals.add arithmetic) ⟨0, 0, 0⟩

/-- `worker_list_count`. -/
def workerListCount (main : MainState) : ℕ := (main.list.getD []).length

/-- The note that a handler fills in after the count. -/
def statsNote (arithmetic : StatsArithmetic) (role : StatsRole) (walked : List WorkerInfo)
    (countChildren : ℕ) : StatsNote :=
  let totals := walkTotals arithmetic walked
  { walked := walked
    childCount := countChildren
    perfCount := totals.messages
    perfRate := totals.rate
    perfLatency :=
      match role with
      | .sender => none
      | .receiver => some (totals.latency, countChildren) }

def statsNext (arithmetic : StatsArithmetic) (role : StatsRole) (state : StatsState) :
    StatsStep → Option StatsState
  -- STATS itself is handled by the two steps below.
  | .daemon (.player .stats) => none
  | .daemon (.player step) =>
      match state.walked with
      | none => some { state with main := (playerNext state.main step).1 }
      | some _ => none
  | .daemon (.main step) =>
      (daemonNext state.main (.main step)).map fun main ↦ { state with main := main }
  | .walk =>
      match state.walked, state.main.list with
      | none, none => some { state with answers := state.answers ++ [.internalError] }
      | none, some list => some { state with walked := some list }
      | some _, _ => none
  | .count =>
      state.walked.map fun walked ↦
        { state with
          walked := none
          answers := state.answers ++
            [.stats (statsNote arithmetic role walked (workerListCount state.main))] }

def statsMachine (arithmetic : StatsArithmetic) (role : StatsRole) :
    Machine StatsState StatsStep where
  initial := ⟨daemonMachine.initial, none, []⟩
  next := statsNext arithmetic role

/-- The number of children is that of the workers that were summed up, there are some, and no
latency is divided by zero. -/
structure StatsNote.Consistent (note : StatsNote) : Prop where
  childCount : note.childCount = note.walked.length
  nonempty : note.walked ≠ []
  divisor : ∀ dividend divisor, note.perfLatency = some (dividend, divisor) → divisor ≠ 0

/-- No walk of a list that exists and is empty, and no step of the main thread between a walk and
its count that changes the number of listed workers. -/
def ListStable (state : StatsState) : StatsStep → Prop
  | .walk => state.main.list ≠ some []
  | .daemon (.main step) => state.walked.isSome → ∀ after,
      daemonNext state.main (.main step) = some after →
        workerListCount after = workerListCount state.main
  | .daemon (.player _) | .count => True

/-- Every STATS note so far is consistent. -/
def StatsConsistent (state : StatsState) : Prop :=
  ∀ note, .stats note ∈ state.answers → note.Consistent

/-! ## Runs with a stable list -/

/-- A walk that waits for its count has seen as many workers as are listed, and some. -/
structure WalkCurrent (state : StatsState) : Prop where
  consistent : StatsConsistent state
  current : ∀ walked, state.walked = some walked →
    workerListCount state.main = walked.length ∧ walked ≠ []

theorem statsNote_consistent (arithmetic : StatsArithmetic) (role : StatsRole)
    {walked : List WorkerInfo} {countChildren : ℕ} (hcount : countChildren = walked.length)
    (hnonempty : walked ≠ []) : (statsNote arithmetic role walked countChildren).Consistent where
  childCount := hcount
  nonempty := hnonempty
  divisor dividend divisor hlatency := by
    cases role with
    | sender => simp [statsNote] at hlatency
    | receiver =>
      simp only [statsNote, Option.some.injEq, Prod.mk.injEq] at hlatency
      rw [← hlatency.2, hcount]
      exact (List.length_pos_iff.mpr hnonempty).ne'

/-- A note is only handled when no STATS is. -/
theorem statsNext_player {arithmetic : StatsArithmetic} {role : StatsRole}
    {state after : StatsState} {step : PlayerStep}
    (h : statsNext arithmetic role state (.daemon (.player step)) = some after) :
    state.walked = none ∧ after = { state with main := (playerNext state.main step).1 } := by
  cases step with
  | stats => simp [statsNext] at h
  | _ =>
    simp only [statsNext] at h
    split at h
    next hidle => exact ⟨hidle, (Option.some.inj h).symm⟩
    · simp at h

theorem statsNext_walkCurrent {arithmetic : StatsArithmetic} {role : StatsRole}
    {state after : StatsState} {step : StatsStep} (h : WalkCurrent state)
    (hstable : ListStable state step) (hnext : statsNext arithmetic role state step = some after) :
    WalkCurrent after := by
  obtain ⟨hconsistent, hcurrent⟩ := h
  cases step with
  | daemon step =>
    cases step with
    | player step =>
      obtain ⟨hidle, rfl⟩ := statsNext_player hnext
      exact ⟨hconsistent, fun walked hwalked ↦ absurd (hidle.symm.trans hwalked) (by simp)⟩
    | main step =>
      obtain ⟨main, hmain, rfl⟩ := Option.map_eq_some_iff.mp hnext
      refine ⟨hconsistent, fun walked hwalked ↦ ?_⟩
      have hwalking : state.walked = some walked := hwalked
      obtain ⟨hcount, hnonempty⟩ := hcurrent walked hwalking
      exact ⟨(hstable (by simp [hwalking]) main hmain).trans hcount, hnonempty⟩
  | walk =>
    simp only [statsNext] at hnext
    split at hnext
    next hidle hlist =>
      obtain rfl := Option.some.inj hnext
      refine ⟨?_, fun walked hwalked ↦ absurd (hidle.symm.trans hwalked) (by simp)⟩
      intro note hnote
      exact hconsistent note (by simpa using hnote)
    next list hidle hlist =>
      obtain rfl := Option.some.inj hnext
      refine ⟨hconsistent, fun walked hwalked ↦ ?_⟩
      obtain rfl : list = walked := Option.some.inj hwalked
      refine ⟨by simp [workerListCount, hlist], ?_⟩
      rintro rfl
      exact hstable hlist
    · simp at hnext
  | count =>
    obtain ⟨walked, hwalked, rfl⟩ := Option.map_eq_some_iff.mp hnext
    obtain ⟨hcount, hnonempty⟩ := hcurrent walked hwalked
    refine ⟨?_, by simp⟩
    intro note hnote
    obtain hold | hnew := List.mem_append.mp hnote
    · exact hconsistent note hold
    · obtain rfl := StatsAnswer.stats.inj (List.mem_singleton.mp hnew)
      exact statsNote_consistent arithmetic role hcount hnonempty

/-- A run of the daemon before any STATS. -/
theorem reachable_of_daemon_run {arithmetic : StatsArithmetic} {role : StatsRole}
    {main after : MainState} {steps : List DaemonStep} (hsteps : .player .stats ∉ steps)
    (h : (statsMachine arithmetic role).ReachableUnder ListStable ⟨main, none, []⟩)
    (hrun : daemonMachine.run main steps = some after) :
    (statsMachine arithmetic role).ReachableUnder ListStable ⟨after, none, []⟩ := by
  induction steps generalizing main with
  | nil =>
    obtain rfl := Option.some.inj hrun
    exact h
  | cons step steps ih =>
    obtain ⟨middle, hnext, hrest⟩ := Option.bind_eq_some_iff.mp hrun
    obtain ⟨hstats, hothers⟩ := not_or.mp (mt List.mem_cons.mpr hsteps)
    apply ih hothers _ hrest
    cases step with
    | main step =>
      have hmain : ListStable ⟨main, none, []⟩ (.daemon (.main step)) := by simp [ListStable]
      exact .step h hmain (Option.map_eq_some_iff.mpr ⟨middle, hnext, rfl⟩)
    | player step =>
      have hplayer : ListStable ⟨main, none, []⟩ (.daemon (.player step)) := trivial
      obtain rfl := Option.some.inj hnext
      cases step with
      | stats => exact absurd rfl hstats
      | _ => exact .step h hplayer rfl

/-- Rates as integers; the sums of zeros are those of doubles. -/
def integerArithmetic : StatsArithmetic where
  addRate := (· + ·)
  timeToMilli time := time.tvSec * 1000 + time.tvUsec / 1000

/-- A daemon starts one worker. -/
def oneWorkerStart : List DaemonStep :=
  untilListInit ++
    [.main (.workerDump true), .main (.namingInitializeWriter true), .main (.fork 41),
      .main (.workerInfoNew true), .main (.workerListAppend true)]

/-- The state in which the worker is listed. -/
def oneWorkerMain : MainState :=
  ⟨true, false, 1, some [⟨41, Snapshot.zero⟩], 0, .new, [], .spawn 1, false, 3, false⟩

end MsgPerf.Daemon
