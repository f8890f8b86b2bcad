import MsgPerf.Library.Machine
import MsgPerf.Library.Process

/-!
# Forking, registering and stopping workers

`worker_manager_clone` forks the children of a run in the main thread and registers each of them in
the worker list, while the player thread may stop or abort the workers at any time.  The list is
shared under a mutex, so that an append, a walk of a stop, a pass of the watchdog and a clean are
each one step; a stop releases the mutex after its walk and takes it again to clean the list.
`fork` and `worker_info_new` run outside the mutex.

The failures of `fork`, of `worker_info_new` and of the append are labels of the steps, and so are
the answers of the system to the `kill` and `waitpid` calls of a walk.
-/

namespace MsgPerf.Worker

open MsgPerf.Library

/-! ## Walks over the list -/

/-- What a stop finds at a node: whether a group of processes could be signalled, and what each
`waitpid` finds, by the number of retries that are left after it. -/
structure StopVisit where
  group : Bool
  ended : ℕ → Option ℤ

/-- The polls after a signal; the last of them is followed by `SIGKILL`. -/
def stopPoll (child : ℤ) (ended : ℕ → Option ℤ) : ℕ → Processes → Processes
  | 0, processes => processes
  | retry + 1, processes =>
      let waited := processes.waitpid child (ended retry)
      match waited.1 with
      | .reaped | .failed => waited.2
      | .noChange =>
          if retry = 0 then waited.2.kill child else stopPoll child ended retry waited.2

/-- The visit of `worker_manager_do_stop` to a node. -/
def stopNode (child : ℤ) (visit : StopVisit) (processes : Processes) : Processes :=
  if processes.killable child visit.group then
    stopPoll child visit.ended 10 (processes.kill child)
  else processes.issue (.kill child)

/-- The walk of `worker_manager_do_stop`, under the mutex. -/
def stopWalk : List ℤ → (ℕ → StopVisit) → Processes → Processes
  | [], _, processes => processes
  | child :: rest, visits, processes =>
      stopWalk rest (fun index ↦ visits (index + 1)) (stopNode child (visits 0) processes)

/-- What a pass of the watchdog finds at a node: what `waitpid` finds, and whether the evaluation of
a running child fails. -/
structure PassVisit where
  ended : Option ℤ
  evalFailed : Bool

/-- A pass of `worker_manager_watchdog`, with the nodes that stay in the list. -/
def watchdogWalk : List ℤ → (ℕ → PassVisit) → Processes → List ℤ × Processes
  | [], _, processes => ([], processes)
  | child :: rest, visits, processes =>
      let waited := processes.waitpid child (visits 0).ended
      let remaining := watchdogWalk rest (fun index ↦ visits (index + 1)) waited.2
      match waited.1 with
      | .noChange =>
          if (visits 0).evalFailed then (child :: rest, waited.2)
          else (child :: remaining.1, remaining.2)
      | .reaped | .failed => remaining

/-! ## The two threads -/

/-- Where the main thread is: outside a run, at the head of the loop of `worker_manager_clone`,
between `fork` and `worker_info_new`, between `worker_info_new` and the append, in the watchdog
loop, or between the walk and the clean of its own stop. -/
inductive ClonePhase where
  | idle
  | cloning (remaining : ℕ)
  | forked (child : ℤ) (remaining : ℕ)
  | appending (child : ℤ) (remaining : ℕ)
  | watching
  | cleaning
  deriving DecidableEq, Repr

/-- The child that the main thread has forked and not yet registered. -/
def ClonePhase.pending : ClonePhase → Option ℤ
  | .forked child _ | .appending child _ => some child
  | _ => none

/-- The worker list, the processes, the main thread, whether the player thread is between the walk
and the clean of a stop, and the registered children that a clean has dropped although they were
neither reaped nor signalled. -/
structure CloneState where
  list : Option (List ℤ)
  processes : Processes
  main : ClonePhase
  playerCleaning : Bool
  discarded : List ℤ

/-- The exits of `worker_info_new`. -/
inductive InfoOutcome where
  | unallocated
  | unnamed
  | queueless
  | created
  deriving DecidableEq, Repr

inductive CloneStep where
  | workerListInit (parallelCount : ℕ) (prepared : Bool)
  | fork (pid : ℤ)
  | workerInfoNew (outcome : InfoOutcome)
  | workerListAppend (allocated : Bool)
  | cloneReturn
  | watchdog (visits : ℕ → PassVisit)
  | mainStop (visits : ℕ → StopVisit)
  | mainClean
  | playerStop (visits : ℕ → StopVisit)
  | playerClean

namespace CloneState

def kill (state : CloneState) (child : ℤ) : CloneState :=
  { state with processes := state.processes.kill child }

def stop (state : CloneState) (visits : ℕ → StopVisit) : CloneState :=
  { state with processes := stopWalk (state.list.getD []) visits state.processes }

/-- `worker_list_clean`.  A node with the id of a pending child belongs to an earlier child, which
was reaped before its id could be given again. -/
def clean (state : CloneState) : CloneState :=
  { state with
    list := none
    discarded := state.discarded ++ (state.list.getD []).filter fun child ↦
      state.processes.fate child = .alive ∧ state.main.pending ≠ some child }

end CloneState

def cloneNext (state : CloneState) : CloneStep → Option CloneState
  | .workerListInit parallelCount prepared =>
      match state.main, state.list with
      | .idle, none =>
          -- The dump of the test and the writers may fail before the first fork.
          some { state with
            list := some []
            main := if prepared then .cloning parallelCount else .idle }
      | _, _ => none
  | .fork pid =>
      match state.main with
      | .cloning (remaining + 1) =>
          if pid = -1 then some { state with main := .forked pid remaining }
          else if 0 < pid ∧ (state.processes.fate pid).unreaped = false then
            some { state with
              processes := state.processes.fork pid
              main := .forked pid remaining }
          else none
      | _ => none
  | .workerInfoNew outcome =>
      match state.main with
      | .forked child remaining =>
          match outcome with
          -- This exit leaves the child as it is.
          | .unallocated => some { state with main := .idle }
          | .unnamed | .queueless => some { state.kill child with main := .idle }
          | .created => some { state with main := .appending child remaining }
      | _ => none
  | .workerListAppend allocated =>
      match state.main with
      | .appending child remaining =>
          match state.list, allocated with
          | some list, true =>
              some { state with list := some (list ++ [child]), main := .cloning remaining }
          | _, _ => some { state.kill child with main := .idle }
      | _ => none
  | .cloneReturn =>
      match state.main with
      | .cloning 0 => some { state with main := .watching }
      | _ => none
  | .watchdog visits =>
      match state.main, state.list with
      | .watching, some list =>
          let walked := watchdogWalk list visits state.processes
          some { state with list := some walked.1, processes := walked.2 }
      | _, _ => none
  | .mainStop visits =>
      match state.main with
      | .watching => some { state.stop visits with main := .cleaning }
      | _ => none
  | .mainClean =>
      match state.main with
      | .cleaning => some { state.clean with main := .idle }
      | _ => none
  | .playerStop visits =>
      if state.playerCleaning then none
      else some { state.stop visits with playerCleaning := true }
  | .playerClean =>
      if state.playerCleaning then some { state.clean with playerCleaning := false }
      else none

def cloneMachine : Machine CloneState CloneStep where
  initial := ⟨none, .empty, .idle, false, []⟩
  next := cloneNext

/-! ## What a walk does to the processes -/

theorem stopPoll_follows (child : ℤ) (ended : ℕ → Option ℤ) (retry : ℕ) (processes : Processes) :
    Processes.Follows [child] processes (stopPoll child ended retry processes) := by
  induction retry generalizing processes with
  | zero => exact .refl _ _
  | succ retry ih =>
    have hwaited := processes.follows_waitpid child (ended retry)
    rw [stopPoll]
    cases hanswer : (processes.waitpid child (ended retry)).1 with
    | reaped => simpa [hanswer] using hwaited
    | failed => simpa [hanswer] using hwaited
    | noChange =>
      simp only
      split
      · exact hwaited.trans (Processes.follows_kill _ child)
      · exact hwaited.trans (ih _)

theorem stopNode_follows (child : ℤ) (visit : StopVisit) (processes : Processes) :
    Processes.Follows [child] processes (stopNode child visit processes) := by
  unfold stopNode
  split
  · exact (processes.follows_kill child).trans (stopPoll_follows child _ _ _)
  · exact processes.follows_issue (.kill child)

/-- A stop leaves no node untouched: a child that cannot be signalled has been reaped. -/
theorem stopNode_ne_alive {child : ℤ} (hchild : 0 < child) (visit : StopVisit)
    (processes : Processes) : (stopNode child visit processes).fate child ≠ .alive := by
  unfold stopNode
  split
  · intro halive
    exact processes.kill_ne_alive child ((stopPoll_follows child _ _ _).alive child halive)
  · next hkill =>
    exact processes.not_alive_of_not_killable child hchild (Bool.eq_false_of_not_eq_true hkill)

theorem stopWalk_follows (list : List ℤ) (visits : ℕ → StopVisit) (processes : Processes) :
    Processes.Follows list processes (stopWalk list visits processes) := by
  induction list generalizing visits processes with
  | nil => exact .refl _ _
  | cons child rest ih =>
    have hnode : Processes.Follows (child :: rest) processes (stopNode child (visits 0) processes) :=
      (stopNode_follows child (visits 0) processes).mono (by simp)
    exact hnode.trans ((ih _ _).mono fun pid hpid ↦ List.mem_cons_of_mem child hpid)

theorem stopWalk_ne_alive {list : List ℤ} {child : ℤ} (hmem : child ∈ list) (hchild : 0 < child)
    (visits : ℕ → StopVisit) (processes : Processes) :
    (stopWalk list visits processes).fate child ≠ .alive := by
  induction list generalizing visits processes with
  | nil => simp at hmem
  | cons first rest ih =>
    rw [stopWalk]
    rcases List.mem_cons.mp hmem with rfl | hrest
    · intro halive
      exact stopNode_ne_alive hchild _ _ ((stopWalk_follows rest _ _).alive child halive)
    · exact ih hrest _ _

theorem watchdogWalk_follows (list : List ℤ) (visits : ℕ → PassVisit) (processes : Processes) :
    Processes.Follows list processes (watchdogWalk list visits processes).2 := by
  induction list generalizing visits processes with
  | nil => exact .refl _ _
  | cons child rest ih =>
    have hwaited : Processes.Follows (child :: rest) processes
        (processes.waitpid child (visits 0).ended).2 :=
      (processes.follows_waitpid child (visits 0).ended).mono (by simp)
    have hrest := hwaited.trans ((ih (fun index ↦ visits (index + 1)) _).mono
      fun pid hpid ↦ List.mem_cons_of_mem child hpid)
    rw [watchdogWalk]
    cases hanswer : (processes.waitpid child (visits 0).ended).1 with
    | reaped => simpa [hanswer] using hrest
    | failed => simpa [hanswer] using hrest
    | noChange =>
      simp only
      split
      · exact hwaited
      · exact hrest

theorem watchdogWalk_subset (list : List ℤ) (visits : ℕ → PassVisit) (processes : Processes) :
    ∀ pid ∈ (watchdogWalk list visits processes).1, pid ∈ list := by
  induction list generalizing visits processes with
  | nil => simp [watchdogWalk]
  | cons child rest ih =>
    have hrest := ih (fun index ↦ visits (index + 1))
      (processes.waitpid child (visits 0).ended).2
    intro pid hpid
    rw [watchdogWalk] at hpid
    cases hanswer : (processes.waitpid child (visits 0).ended).1 with
    | reaped =>
      simp only [hanswer] at hpid
      exact List.mem_cons_of_mem child (hrest pid hpid)
    | failed =>
      simp only [hanswer] at hpid
      exact List.mem_cons_of_mem child (hrest pid hpid)
    | noChange =>
      simp only [hanswer] at hpid
      split at hpid
      · exact hpid
      · exact (List.mem_cons.mp hpid).elim (fun hsame ↦ hsame ▸ List.mem_cons_self)
          fun hkept ↦ List.mem_cons_of_mem child (hrest pid hkept)

/-- A pass keeps every child that it leaves untouched. -/
theorem watchdogWalk_keeps {list : List ℤ} {child : ℤ} (hmem : child ∈ list) (hchild : 0 < child)
    (visits : ℕ → PassVisit) (processes : Processes)
    (halive : (watchdogWalk list visits processes).2.fate child = .alive) :
    child ∈ (watchdogWalk list visits processes).1 := by
  induction list generalizing visits processes with
  | nil => simp at hmem
  | cons first rest ih =>
    have hstays := (watchdogWalk_follows rest (fun index ↦ visits (index + 1))
      (processes.waitpid first (visits 0).ended).2).alive child
    have hrest := fun hmem ↦ ih hmem (fun index ↦ visits (index + 1))
      (processes.waitpid first (visits 0).ended).2
    rw [watchdogWalk] at halive ⊢
    by_cases hanswer : (processes.waitpid first (visits 0).ended).1 = .noChange
    · simp only [hanswer] at halive ⊢
      by_cases heval : (visits 0).evalFailed = true
      · simpa [heval] using hmem
      · simp only [heval] at halive ⊢
        rcases List.mem_cons.mp hmem with rfl | hmem
        · exact List.mem_cons_self
        · exact List.mem_cons_of_mem first (hrest hmem halive)
    · -- The node is dropped, and its child is gone.
      have hdropped : (watchdogWalk rest (fun index ↦ visits (index + 1))
          (processes.waitpid first (visits 0).ended).2).2.fate child = .alive →
          child ≠ first := by
        rintro halive rfl
        exact processes.not_alive_of_waitpid child _ hchild hanswer (hstays halive)
      cases hcase : (processes.waitpid first (visits 0).ended).1 with
      | noChange => exact absurd hcase hanswer
      | reaped =>
        simp only [hcase] at halive ⊢
        exact hrest ((List.mem_cons.mp hmem).resolve_left (hdropped halive)) halive
      | failed =>
        simp only [hcase] at halive ⊢
        exact hrest ((List.mem_cons.mp hmem).resolve_left (hdropped halive)) halive

/-! ## The moves of the threads -/

/-- The steps by where they start and what they change. -/
inductive CloneMove (state : CloneState) : CloneStep → CloneState → Prop where
  | listInit (parallelCount : ℕ) (prepared : Bool) (hmain : state.main = .idle)
      (hlist : state.list = none) :
      CloneMove state (.workerListInit parallelCount prepared)
        { state with
          list := some []
          main := if prepared then .cloning parallelCount else .idle }
  | forkFailed (remaining : ℕ) (hmain : state.main = .cloning (remaining + 1)) :
      CloneMove state (.fork (-1)) { state with main := .forked (-1) remaining }
  | forked (pid : ℤ) (remaining : ℕ) (hmain : state.main = .cloning (remaining + 1))
      (hpid : 0 < pid) :
      CloneMove state (.fork pid)
        { state with processes := state.processes.fork pid, main := .forked pid remaining }
  | unallocated (child : ℤ) (remaining : ℕ) (hmain : state.main = .forked child remaining) :
      CloneMove state (.workerInfoNew .unallocated) { state with main := .idle }
  | infoFailed (outcome : InfoOutcome) (child : ℤ) (remaining : ℕ)
      (hmain : state.main = .forked child remaining)
      (houtcome : outcome = .unnamed ∨ outcome = .queueless) :
      CloneMove state (.workerInfoNew outcome) { state.kill child with main := .idle }
  | created (child : ℤ) (remaining : ℕ) (hmain : state.main = .forked child remaining) :
      CloneMove state (.workerInfoNew .created) { state with main := .appending child remaining }
  | appended (child : ℤ) (remaining : ℕ) (list : List ℤ)
      (hmain : state.main = .appending child remaining) (hlist : state.list = some list) :
      CloneMove state (.workerListAppend true)
        { state with list := some (list ++ [child]), main := .cloning remaining }
  | appendFailed (allocated : Bool) (child : ℤ) (remaining : ℕ)
      (hmain : state.main = .appending child remaining) :
      CloneMove state (.workerListAppend allocated) { state.kill child with main := .idle }
  | cloneReturn (hmain : state.main = .cloning 0) :
      CloneMove state .cloneReturn { state with main := .watching }
  | watchdog (visits : ℕ → PassVisit) (list : List ℤ) (hmain : state.main = .watching)
      (hlist : state.list = some list) :
      CloneMove state (.watchdog visits)
        { state with
          list := some (watchdogWalk list visits state.processes).1
          processes := (watchdogWalk list visits state.processes).2 }
  | mainStop (visits : ℕ → StopVisit) (hmain : state.main = .watching) :
      CloneMove state (.mainStop visits) { state.stop visits with main := .cleaning }
  | mainClean (hmain : state.main = .cleaning) :
      CloneMove state .mainClean { state.clean with main := .idle }
  | playerStop (visits : ℕ → StopVisit) :
      CloneMove state (.playerStop visits) { state.stop visits with playerCleaning := true }
  | playerClean (hplayer : state.playerCleaning = true) :
      CloneMove state .playerClean { state.clean with playerCleaning := false }

theorem cloneNext_move {state after : CloneState} {step : CloneStep}
    (hnext : cloneNext state step = some after) : CloneMove state step after := by
  cases step with
  | workerListInit parallelCount prepared =>
    simp only [cloneNext] at hnext
    split at hnext
    · next hmain hlist =>
      rw [← Option.some.inj hnext]
      exact .listInit parallelCount prepared hmain hlist
    · cases hnext
  | fork pid =>
    simp only [cloneNext] at hnext
    split at hnext
    · next remaining hmain =>
      split at hnext
      · next hfailed =>
        rw [← Option.some.inj hnext, hfailed]
        exact .forkFailed remaining hmain
      · split at hnext
        · next hpid =>
          rw [← Option.some.inj hnext]
          exact .forked pid remaining hmain hpid.1
        · cases hnext
    · cases hnext
  | workerInfoNew outcome =>
    simp only [cloneNext] at hnext
    split at hnext
    · next child remaining hmain =>
      cases outcome with
      | unallocated =>
        rw [← Option.some.inj hnext]
        exact .unallocated child remaining hmain
      | unnamed =>
        rw [← Option.some.inj hnext]
        exact .infoFailed .unnamed child remaining hmain (.inl rfl)
      | queueless =>
        rw [← Option.some.inj hnext]
        exact .infoFailed .queueless child remaining hmain (.inr rfl)
      | created =>
        rw [← Option.some.inj hnext]
        exact .created child remaining hmain
    · cases hnext
  | workerListAppend allocated =>
    simp only [cloneNext] at hnext
    split at hnext
    · next child remaining hmain =>
      cases hlist : state.list with
      | none =>
        rw [hlist] at hnext
        rw [← Option.some.inj hnext]
        exact .appendFailed allocated child remaining hmain
      | some list =>
        rw [hlist] at hnext
        cases allocated with
        | true =>
          rw [← Option.some.inj hnext]
          exact .appended child remaining list hmain hlist
        | false =>
          rw [← Option.some.inj hnext]
          exact .appendFailed false child remaining hmain
    · cases hnext
  | cloneReturn =>
    simp only [cloneNext] at hnext
    split at hnext
    · next hmain =>
      rw [← Option.some.inj hnext]
      exact .cloneReturn hmain
    · cases hnext
  | watchdog visits =>
    simp only [cloneNext] at hnext
    split at hnext
    · next list hmain hlist =>
      rw [← Option.some.inj hnext]
      exact .watchdog visits list hmain hlist
    · cases hnext
  | mainStop visits =>
    simp only [cloneNext] at hnext
    split at hnext
    · next hmain =>
      rw [← Option.some.inj hnext]
      exact .mainStop visits hmain
    · cases hnext
  | mainClean =>
    simp only [cloneNext] at hnext
    split at hnext
    · next hmain =>
      rw [← Option.some.inj hnext]
      exact .mainClean hmain
    · cases hnext
  | playerStop visits =>
    simp only [cloneNext] at hnext
    split at hnext
    · cases hnext
    · rw [← Option.some.inj hnext]
      exact .playerStop visits
  | playerClean =>
    simp only [cloneNext] at hnext
    split at hnext
    · next hplayer =>
      rw [← Option.some.inj hnext]
      exact .playerClean hplayer
    · cases hnext

/-! ## No orphans -/

def CloneState.Listed (state : CloneState) (pid : ℤ) : Prop :=
  ∃ list, state.list = some list ∧ pid ∈ list

/-- Every child that was neither signalled nor reaped is registered, or about to be, and no clean
has dropped such a child. -/
def NoOrphans (state : CloneState) : Prop :=
  (∀ pid, state.processes.fate pid = .alive → state.Listed pid ∨ state.main.pending = some pid) ∧
    state.discarded = []

/-- `worker_info_new` does not fail at its first allocation for a child that was forked, and no such
child is appended to the list while the player thread is between the walk of a stop and its
clean. -/
def Accountable (state : CloneState) : CloneStep → Prop
  | .workerInfoNew .unallocated => ∀ child remaining, state.main = .forked child remaining →
      state.processes.fate child ≠ .alive
  | .workerListAppend true => ∀ child remaining list,
      state.main = .appending child remaining → state.list = some list →
      state.processes.fate child = .alive → state.playerCleaning = false
  | _ => True

/-- The invariant behind `NoOrphans`: once a stop has walked the list, only a pending child may
still be untouched. -/
structure Registered (state : CloneState) : Prop where
  covered : ∀ pid, state.processes.fate pid = .alive →
    state.Listed pid ∨ state.main.pending = some pid
  positive : ∀ pid, state.processes.fate pid = .alive → 0 < pid
  walked : state.playerCleaning = true ∨ state.main = .cleaning → ∀ pid, state.Listed pid →
    state.processes.fate pid = .alive → state.main.pending = some pid
  discarded : state.discarded = []

namespace Registered

variable {state : CloneState}

/-- The pending child is signalled and given up. -/
theorem kill (h : Registered state) {child : ℤ} (hpending : state.main.pending = some child) :
    Registered { state.kill child with main := .idle } := by
  have hfollows := state.processes.follows_kill child
  have hkilled := state.processes.kill_ne_alive child
  have hother : ∀ pid, (state.processes.kill child).fate pid = .alive →
      state.main.pending ≠ some pid := by
    intro pid halive hpid
    rw [hpending, Option.some.injEq] at hpid
    exact hkilled (hpid ▸ halive)
  constructor
  · intro pid halive
    exact .inl ((h.covered pid (hfollows.alive pid halive)).resolve_right (hother pid halive))
  · intro pid halive
    exact h.positive pid (hfollows.alive pid halive)
  · intro hcleaning pid hlisted halive
    have hplayer : state.playerCleaning = true := hcleaning.resolve_right (by simp)
    exact absurd (h.walked (.inl hplayer) pid hlisted (hfollows.alive pid halive))
      (hother pid halive)
  · exact h.discarded

/-- The walk of a stop. -/
theorem stop (h : Registered state) (visits : ℕ → StopVisit) (main : ClonePhase)
    (hmain : main.pending = state.main.pending) (player : Bool) :
    Registered { state.stop visits with main := main, playerCleaning := player } := by
  have hfollows := stopWalk_follows (state.list.getD []) visits state.processes
  constructor
  · intro pid halive
    rw [hmain]
    exact h.covered pid (hfollows.alive pid halive)
  · intro pid halive
    exact h.positive pid (hfollows.alive pid halive)
  · rintro - pid ⟨list, hlist, hmem⟩ halive
    have hlist : state.list = some list := hlist
    have hpositive := h.positive pid (hfollows.alive pid halive)
    exact absurd halive (stopWalk_ne_alive (by rwa [hlist]) hpositive visits state.processes)
  · exact h.discarded

/-- A clean after the walk of a stop drops no untouched child. -/
theorem clean (h : Registered state)
    (hwalked : state.playerCleaning = true ∨ state.main = .cleaning) (main : ClonePhase)
    (hmain : main.pending = state.main.pending) (player : Bool) :
    Registered { state.clean with main := main, playerCleaning := player } := by
  constructor
  · intro pid halive
    rw [hmain]
    rcases h.covered pid halive with hlisted | hpending
    · exact .inr (h.walked hwalked pid hlisted halive)
    · exact .inr hpending
  · exact h.positive
  · rintro - pid ⟨list, hlist, -⟩
    cases hlist
  · have hnone : (state.list.getD []).filter (fun child ↦
        state.processes.fate child = .alive ∧ state.main.pending ≠ some child) = [] := by
      apply List.filter_eq_nil_iff.mpr
      intro child hchild
      cases hlist : state.list with
      | none => simp [hlist] at hchild
      | some list =>
        rw [hlist] at hchild
        simpa using h.walked hwalked child ⟨list, hlist, hchild⟩
    rw [CloneState.clean, hnone, h.discarded]
    rfl

/-- The main thread moves on, and a pending child that is untouched stays pending. -/
theorem moveOn (h : Registered state) {main : ClonePhase} (hmain : main ≠ .cleaning)
    (hpending : ∀ pid, state.processes.fate pid = .alive → state.main.pending = some pid →
      main.pending = some pid) : Registered { state with main := main } := by
  refine ⟨fun pid halive ↦ ?_, h.positive, fun hcleaning pid hlisted halive ↦ ?_, h.discarded⟩
  · exact (h.covered pid halive).imp_right (hpending pid halive)
  · have hplayer : state.playerCleaning = true := hcleaning.resolve_right hmain
    exact hpending pid halive (h.walked (.inl hplayer) pid hlisted halive)

/-- A new child is pending until it is registered. -/
theorem fork (h : Registered state) {pid : ℤ} {remaining : ℕ}
    (hmain : state.main = .cloning (remaining + 1)) (hpid : 0 < pid) :
    Registered { state with
      processes := state.processes.fork pid
      main := .forked pid remaining } := by
  have hpending : ∀ other, state.main.pending ≠ some other := by simp [hmain, ClonePhase.pending]
  have hold : ∀ other, other ≠ pid → (state.processes.fork pid).fate other = .alive →
      state.processes.fate other = .alive := by
    intro other hne halive
    simpa [Processes.fork, Function.update_of_ne hne] using halive
  refine ⟨fun other halive ↦ ?_, fun other halive ↦ ?_, fun hcleaning other hlisted halive ↦ ?_,
    h.discarded⟩
  · by_cases hsame : other = pid
    · exact .inr (by rw [hsame]; rfl)
    · exact .inl ((h.covered other (hold other hsame halive)).resolve_right (hpending other))
  · by_cases hsame : other = pid
    · rwa [hsame]
    · exact h.positive other (hold other hsame halive)
  · by_cases hsame : other = pid
    · rw [hsame]
      rfl
    · have hplayer : state.playerCleaning = true := hcleaning.resolve_right (by simp)
      exact absurd (h.walked (.inl hplayer) other hlisted (hold other hsame halive))
        (hpending other)

/-- The pending child is registered; a stop between its walk and its clean would miss it. -/
theorem append (h : Registered state) {child : ℤ} {remaining : ℕ} {list : List ℤ}
    (hmain : state.main = .appending child remaining) (hlist : state.list = some list)
    (hplayer : state.processes.fate child = .alive → state.playerCleaning = false) :
    Registered { state with list := some (list ++ [child]), main := .cloning remaining } := by
  have hpending : state.main.pending = some child := by rw [hmain]; rfl
  refine ⟨fun pid halive ↦ .inl ?_, h.positive, fun hcleaning pid hlisted halive ↦ ?_,
    h.discarded⟩
  · refine ⟨list ++ [child], rfl, List.mem_append.mpr ?_⟩
    rcases h.covered pid halive with ⟨old, hold, hmem⟩ | hpid
    · rw [hlist, Option.some.injEq] at hold
      exact .inl (hold ▸ hmem)
    · rw [hpending, Option.some.injEq] at hpid
      exact .inr (List.mem_singleton.mpr hpid.symm)
  · have hcleaning : state.playerCleaning = true := hcleaning.resolve_right (by simp)
    have hchild : state.processes.fate child ≠ .alive := by
      intro hchild
      simp [hplayer hchild] at hcleaning
    obtain ⟨new, hnew, hmem⟩ := hlisted
    rw [← Option.some.inj hnew, List.mem_append, List.mem_singleton] at hmem
    rcases hmem with hmem | rfl
    · have hpid := h.walked (.inl hcleaning) pid ⟨list, hlist, hmem⟩ halive
      rw [hpending, Option.some.injEq] at hpid
      exact absurd (hpid ▸ halive) hchild
    · exact absurd halive hchild

/-- A pass of the watchdog drops only children that are gone. -/
theorem watchdog (h : Registered state) {list : List ℤ} (hlist : state.list = some list)
    (visits : ℕ → PassVisit) :
    Registered { state with
      list := some (watchdogWalk list visits state.processes).1
      processes := (watchdogWalk list visits state.processes).2 } := by
  have hfollows := watchdogWalk_follows list visits state.processes
  refine ⟨fun pid halive ↦ ?_, fun pid halive ↦ ?_, fun hcleaning pid hlisted halive ↦ ?_,
    h.discarded⟩
  · have hbefore := hfollows.alive pid halive
    rcases h.covered pid hbefore with ⟨old, hold, hmem⟩ | hpid
    · rw [hlist, Option.some.injEq] at hold
      exact .inl ⟨_, rfl,
        watchdogWalk_keeps (hold ▸ hmem) (h.positive pid hbefore) visits _ halive⟩
    · exact .inr hpid
  · exact h.positive pid (hfollows.alive pid halive)
  · obtain ⟨new, hnew, hmem⟩ := hlisted
    rw [← Option.some.inj hnew] at hmem
    exact h.walked hcleaning pid ⟨list, hlist, watchdogWalk_subset list visits _ pid hmem⟩
      (hfollows.alive pid halive)

theorem next {after : CloneState} {step : CloneStep} (h : Registered state)
    (hguard : Accountable state step) (hnext : cloneNext state step = some after) :
    Registered after := by
  cases cloneNext_move hnext with
  | listInit parallelCount prepared hmain hlist =>
    have hpending : state.main.pending = none := by rw [hmain]; rfl
    have hnobody : ∀ pid, state.processes.fate pid ≠ .alive := by
      intro pid halive
      rcases h.covered pid halive with ⟨list, hsome, -⟩ | hpid
      · simp [hlist] at hsome
      · simp [hpending] at hpid
    exact ⟨fun pid halive ↦ absurd halive (hnobody pid), h.positive,
      fun _ pid _ halive ↦ absurd halive (hnobody pid), h.discarded⟩
  | forkFailed remaining hmain =>
    refine h.moveOn (by simp) fun pid _ hpid ↦ ?_
    simp [hmain, ClonePhase.pending] at hpid
  | forked pid remaining hmain hpid => exact h.fork hmain hpid
  | unallocated child remaining hmain =>
    refine h.moveOn (by simp) fun pid halive hpid ↦ ?_
    rw [hmain, ClonePhase.pending, Option.some.injEq] at hpid
    exact absurd (hpid ▸ halive) (hguard child remaining hmain)
  | infoFailed outcome child remaining hmain houtcome =>
    exact h.kill (by rw [hmain]; rfl)
  | created child remaining hmain =>
    refine h.moveOn (by simp) fun pid _ hpid ↦ ?_
    rw [hmain] at hpid
    exact hpid
  | appended child remaining list hmain hlist =>
    exact h.append hmain hlist (hguard child remaining list hmain hlist)
  | appendFailed allocated child remaining hmain =>
    exact h.kill (by rw [hmain]; rfl)
  | cloneReturn hmain =>
    refine h.moveOn (by simp) fun pid _ hpid ↦ ?_
    rw [hmain] at hpid
    exact hpid
  | watchdog visits list hmain hlist => exact h.watchdog hlist visits
  | mainStop visits hmain => exact h.stop visits .cleaning (by rw [hmain]; rfl) _
  | mainClean hmain => exact h.clean (.inr hmain) .idle (by rw [hmain]; rfl) _
  | playerStop visits => exact h.stop visits state.main rfl true
  | playerClean hplayer => exact h.clean (.inl hplayer) state.main rfl false

end Registered

/-- In every run whose steps are accountable, no child is ever orphaned. -/
theorem reachable_noOrphans {state : CloneState}
    (h : cloneMachine.ReachableUnder Accountable state) : NoOrphans state := by
  have hregistered : Registered state := by
    apply h.invariant
    · refine ⟨fun pid halive ↦ ?_, fun pid halive ↦ ?_, fun _ pid hlisted ↦ ?_, rfl⟩
      · simp [cloneMachine, Processes.empty] at halive
      · simp [cloneMachine, Processes.empty] at halive
      · simp [CloneState.Listed, cloneMachine] at hlisted
    · intro before step after hbefore hguard hnext
      exact hbefore.next hguard hnext
  exact ⟨hregistered.covered, hregistered.discarded⟩

/-- A stop in which every child is signalled and none is seen to end. -/
def signalOnly : ℕ → StopVisit := fun _ ↦ ⟨true, fun _ ↦ none⟩

/-- The list is stopped and cleaned while a child is being registered: the append fails and the
child is killed. -/
theorem stoppedRegistration_noOrphans :
    ∃ state, cloneMachine.ReachableUnder Accountable state ∧
      state.processes.fate 7 = .signalled ∧ state.list = none ∧ NoOrphans state := by
  have hinitial : cloneMachine.ReachableUnder Accountable cloneMachine.initial := .initial
  have hlist := hinitial.step (show Accountable _ (.workerListInit 1 true) from trivial) rfl
  have hfork := hlist.step (show Accountable _ (.fork 7) from trivial) rfl
  have hinfo := hfork.step (show Accountable _ (.workerInfoNew .created) from trivial) rfl
  have hstop := hinfo.step (show Accountable _ (.playerStop signalOnly) from trivial) rfl
  have hclean := hstop.step (show Accountable _ .playerClean from trivial) rfl
  have happend := hclean.step (show Accountable _ (.workerListAppend true) from
    fun _ _ _ _ hlist ↦ by cases hlist) rfl
  exact ⟨_, happend, rfl, rfl, reachable_noOrphans happend⟩

/-- The second of two children is appended after a stop has walked the list and before it cleans
it. -/
def appendBeforeClean : List CloneStep :=
  [.workerListInit 2 true, .fork 7, .workerInfoNew .created, .workerListAppend true, .fork 8,
    .workerInfoNew .created, .playerStop signalOnly, .workerListAppend true, .playerClean]

theorem appendBeforeClean_not_noOrphans :
    ¬ ∀ state, cloneMachine.Reachable state → NoOrphans state := by
  intro hevery
  have hrun : ∃ state, cloneMachine.run cloneMachine.initial appendBeforeClean = some state ∧
      state.discarded = [8] := ⟨_, rfl, rfl⟩
  rcases hrun with ⟨state, hrun, hdiscarded⟩
  have hnone := (hevery state (Machine.reachable_of_run _ hrun)).2
  rw [hdiscarded] at hnone
  cases hnone

/-! ## Only own children are addressed -/

/-- A process id that a successful fork has returned. -/
def Own (processes : Processes) (pid : ℤ) : Prop := 0 < pid ∧ processes.fate pid ≠ .absent

/-- The worker list holds the ids of own children, and every signal and every wait was addressed to
one. -/
def OwnChildren (state : CloneState) : Prop :=
  (∀ pid, state.Listed pid → Own state.processes pid) ∧
    ∀ call ∈ state.processes.issued, Own state.processes call.pid

/-- After a failed fork `worker_info_new` does not get past its first allocation. -/
def FailedForksDropped (state : CloneState) : CloneStep → Prop
  | .workerInfoNew outcome => ∀ remaining, state.main = .forked (-1) remaining →
      outcome = .unallocated
  | _ => True

/-- The invariant behind `OwnChildren`: a child that is about to be appended is an own child, and so
is the result of `fork` unless it failed. -/
structure Owned (state : CloneState) : Prop where
  listed : ∀ pid, state.Listed pid → Own state.processes pid
  issued : ∀ call ∈ state.processes.issued, Own state.processes call.pid
  forked : ∀ child remaining, state.main = .forked child remaining →
    child = -1 ∨ Own state.processes child
  appending : ∀ child remaining, state.main = .appending child remaining →
    Own state.processes child

namespace Owned

variable {state : CloneState}

theorem own_follows {pids : List ℤ} {before after : Processes} {pid : ℤ}
    (hfollows : Processes.Follows pids before after) (hpid : Own before pid) : Own after pid :=
  ⟨hpid.1, hfollows.known pid hpid.2⟩

/-- Signals and waits addressed to own children, and what the threads do with the list. -/
theorem advance (h : Owned state) {pids : List ℤ} {after : CloneState}
    (hfollows : Processes.Follows pids state.processes after.processes)
    (hpids : ∀ pid ∈ pids, Own state.processes pid)
    (hlisted : ∀ pid, after.Listed pid → state.Listed pid)
    (hmain : after.main.pending = none ∨ after.main = state.main) : Owned after := by
  refine ⟨fun pid hpid ↦ own_follows hfollows (h.listed pid (hlisted pid hpid)),
    fun call hcall ↦ own_follows hfollows ?_, fun child remaining hforked ↦ ?_,
    fun child remaining happending ↦ ?_⟩
  · exact (hfollows.issued call hcall).elim (h.issued call) (hpids call.pid)
  · rcases hmain with hnone | hsame
    · simp [hforked, ClonePhase.pending] at hnone
    · exact (h.forked child remaining (hsame ▸ hforked)).imp id (own_follows hfollows)
  · rcases hmain with hnone | hsame
    · simp [happending, ClonePhase.pending] at hnone
    · exact own_follows hfollows (h.appending child remaining (hsame ▸ happending))

theorem stop (h : Owned state) (visits : ℕ → StopVisit) {main : ClonePhase}
    (hmain : main.pending = none ∨ main = state.main) (player : Bool) :
    Owned { state.stop visits with main := main, playerCleaning := player } := by
  apply h.advance (stopWalk_follows (state.list.getD []) visits state.processes) _ _ hmain
  · intro pid hpid
    cases hlist : state.list with
    | none => simp [hlist] at hpid
    | some list => exact h.listed pid ⟨list, hlist, by rwa [hlist] at hpid⟩
  · exact fun pid hpid ↦ hpid

theorem clean (h : Owned state) {main : ClonePhase}
    (hmain : main.pending = none ∨ main = state.main) (player : Bool) :
    Owned { state.clean with main := main, playerCleaning := player } := by
  have hlisted : ∀ pid, ¬ state.clean.Listed pid := by
    rintro pid ⟨list, hlist, -⟩
    cases hlist
  exact h.advance (Processes.Follows.refl [] state.clean.processes) (by simp)
    (fun pid hpid ↦ absurd hpid (hlisted pid)) hmain

theorem next {after : CloneState} {step : CloneStep} (h : Owned state)
    (hguard : FailedForksDropped state step) (hnext : cloneNext state step = some after) :
    Owned after := by
  have hsame := Processes.Follows.refl [] state.processes
  have hkill : ∀ child, Own state.processes child →
      Owned { state.kill child with main := .idle } := fun child hchild ↦
    h.advance (state.processes.follows_kill child) (by simpa using hchild) (fun _ hpid ↦ hpid)
      (.inl rfl)
  cases cloneNext_move hnext with
  | listInit parallelCount prepared hmain hlist =>
    refine h.advance hsame (by simp) ?_ (.inl (by cases prepared <;> rfl))
    rintro pid ⟨list, hlist, hmem⟩
    rw [← Option.some.inj hlist] at hmem
    simp at hmem
  | forkFailed remaining hmain =>
    refine ⟨h.listed, h.issued, fun child rest hforked ↦ ?_, fun child rest happending ↦ ?_⟩
    · simp only [ClonePhase.forked.injEq] at hforked
      exact .inl hforked.1.symm
    · cases happending
  | forked pid remaining hmain hpid =>
    have hown : ∀ other, Own state.processes other → Own (state.processes.fork pid) other := by
      intro other hother
      by_cases hsame : other = pid
      · exact ⟨hother.1, by simp [Processes.fork, hsame]⟩
      · exact ⟨hother.1, by simpa [Processes.fork, Function.update_of_ne hsame] using hother.2⟩
    refine ⟨fun other hother ↦ hown other (h.listed other hother),
      fun call hcall ↦ hown call.pid (h.issued call hcall), fun child rest hforked ↦ ?_,
      fun child rest happending ↦ ?_⟩
    · simp only [ClonePhase.forked.injEq] at hforked
      exact .inr ⟨hforked.1 ▸ hpid, by simp [Processes.fork, hforked.1]⟩
    · cases happending
  | unallocated child remaining hmain =>
    exact h.advance hsame (by simp) (fun _ hpid ↦ hpid) (.inl rfl)
  | infoFailed outcome child remaining hmain houtcome =>
    apply hkill child
    rcases h.forked child remaining hmain with hfailed | hown
    · -- The exits that signal the child come after the allocation.
      have hdropped := hguard remaining (hfailed ▸ hmain)
      rcases houtcome with rfl | rfl <;> cases hdropped
    · exact hown
  | created child remaining hmain =>
    have hown : Own state.processes child := by
      rcases h.forked child remaining hmain with hfailed | hown
      · cases hguard remaining (hfailed ▸ hmain)
      · exact hown
    refine ⟨h.listed, h.issued, fun other rest hforked ↦ ?_, fun other rest happending ↦ ?_⟩
    · cases hforked
    · simp only [ClonePhase.appending.injEq] at happending
      exact happending.1 ▸ hown
  | appended child remaining list hmain hlist =>
    refine ⟨fun pid hpid ↦ ?_, h.issued, fun other rest hforked ↦ ?_,
      fun other rest happending ↦ ?_⟩
    · rcases hpid with ⟨new, hnew, hmem⟩
      rw [← Option.some.inj hnew, List.mem_append, List.mem_singleton] at hmem
      rcases hmem with hmem | rfl
      · exact h.listed pid ⟨list, hlist, hmem⟩
      · exact h.appending pid remaining hmain
    · cases hforked
    · cases happending
  | appendFailed allocated child remaining hmain =>
    exact hkill child (h.appending child remaining hmain)
  | cloneReturn hmain => exact h.advance hsame (by simp) (fun _ hpid ↦ hpid) (.inl rfl)
  | watchdog visits list hmain hlist =>
    apply h.advance (watchdogWalk_follows list visits state.processes)
    · exact fun pid hpid ↦ h.listed pid ⟨list, hlist, hpid⟩
    · rintro pid ⟨new, hnew, hmem⟩
      rw [← Option.some.inj hnew] at hmem
      exact ⟨list, hlist, watchdogWalk_subset list visits _ pid hmem⟩
    · exact .inr rfl
  | mainStop visits hmain => exact h.stop visits (.inl rfl) _
  | mainClean hmain => exact h.clean (.inl rfl) _
  | playerStop visits => exact h.stop visits (.inr rfl) true
  | playerClean hplayer => exact h.clean (.inr rfl) false

end Owned

/-- In every run in which a failed fork is dropped before it becomes a worker, all signals and waits
are addressed to own children. -/
theorem reachable_ownChildren {state : CloneState}
    (h : cloneMachine.ReachableUnder FailedForksDropped state) : OwnChildren state := by
  have howned : Owned state := by
    apply h.invariant
    · refine ⟨fun pid hlisted ↦ ?_, fun call hcall ↦ ?_, fun child remaining hmain ↦ ?_,
        fun child remaining hmain ↦ ?_⟩
      · simp [CloneState.Listed, cloneMachine] at hlisted
      · simp [cloneMachine, Processes.empty] at hcall
      · cases hmain
      · cases hmain
    · intro before step after hbefore hguard hnext
      exact hbefore.next hguard hnext
  exact ⟨howned.listed, howned.issued⟩

/-- One fork succeeds and its worker is stopped; the second one fails and is dropped. -/
theorem droppedFork_ownChildren :
    ∃ state, cloneMachine.ReachableUnder FailedForksDropped state ∧
      (.kill 7 : SystemCall) ∈ state.processes.issued ∧ OwnChildren state := by
  have hinitial : cloneMachine.ReachableUnder FailedForksDropped cloneMachine.initial := .initial
  have hlist := hinitial.step (show FailedForksDropped _ (.workerListInit 2 true) from trivial) rfl
  have hfork := hlist.step (show FailedForksDropped _ (.fork 7) from trivial) rfl
  have hinfo := hfork.step (show FailedForksDropped _ (.workerInfoNew .created) from
    fun _ hmain ↦ by cases hmain) rfl
  have happend := hinfo.step (show FailedForksDropped _ (.workerListAppend true) from trivial) rfl
  have hfailed := happend.step (show FailedForksDropped _ (.fork (-1)) from trivial) rfl
  have hdropped := hfailed.step (show FailedForksDropped _ (.workerInfoNew .unallocated) from
    fun _ _ ↦ rfl) rfl
  have hstop := hdropped.step (show FailedForksDropped _ (.playerStop signalOnly) from trivial) rfl
  exact ⟨_, hstop, List.mem_cons_self, reachable_ownChildren hstop⟩

/-- The result of a failed fork becomes the id of a worker. -/
theorem failedFork_not_ownChildren :
    ¬ ∀ state, cloneMachine.Reachable state → OwnChildren state := by
  intro hevery
  have hrun : ∃ state, cloneMachine.run cloneMachine.initial
      [.workerListInit 1 true, .fork (-1), .workerInfoNew .created, .workerListAppend true] =
        some state ∧ state.list = some [-1] := ⟨_, rfl, rfl⟩
  rcases hrun with ⟨state, hrun, hlist⟩
  have hpositive := (hevery state (Machine.reachable_of_run _ hrun)).1 (-1)
    ⟨[-1], hlist, List.mem_singleton.mpr rfl⟩
  exact absurd hpositive.1 (by decide)

end MsgPerf.Worker
