import MsgPerf.Worker.Queue

/-!
# Runs, watchdog passes and stops

The machine follows every snapshot from the child that enqueues it to the writers of a run.  The
manager works under the list mutex: a watchdog pass drains the queue of a listed child, asks
`waitpid` about it and removes it from the list when it is gone; a stop signals each child and
drains its queue, and the list is cleaned after the mutex has been released.  Children write and
exit at any point in between.

The queues outlive the processes, so a snapshot that nobody reads any more waits for the next run
that opens the queue.
-/

namespace MsgPerf.Worker

open MsgPerf.Library

/-- An enqueued snapshot, with the run and the child it comes from and its place in the history. -/
structure Item where
  run : ℕ
  child : ℕ
  serial : ℕ
  snapshot : Snapshot
  deriving DecidableEq, Repr

/-- What the holder of the list mutex is doing: the node at hand and the nodes after it. -/
inductive Phase where
  | free
  | watchdog (node : ℕ) (rest : List ℕ) (drained : Bool)
  | stop (node : ℕ) (rest : List ℕ) (signalled : Bool)
  deriving DecidableEq, Repr

/-- The list of the current run, the children that have not exited with the run they belong to, the
queues, and the history of enqueued and handed snapshots. -/
structure LifeState where
  run : ℕ
  list : Option (List ℕ)
  alive : List ℕ
  home : ℕ → ℕ
  queues : Channels QueueKey Item
  enqueued : List Item
  handed : List (ℕ × Item)
  phase : Phase
  cleans : ℕ

inductive LifeStep where
  | workerListInit
  | fork (child : ℕ)
  | write (child : ℕ) (snapshot : Snapshot)
  | exit (child : ℕ)
  | watchdogLock
  | read
  | readNoData
  | waitpid
  | evalFailed
  | stopLock
  | killFailed
  | kill
  | workerListClean
  deriving DecidableEq, Repr

namespace LifeState

/-- The next node of a watchdog pass. -/
def watchdogNode : List ℕ → Phase
  | [] => .free
  | node :: rest => .watchdog node rest false

/-- The next node of a stop; after the last one the mutex is released before the list is cleaned. -/
def stopNode (state : LifeState) : List ℕ → LifeState
  | [] => { state with phase := .free, cleans := state.cleans + 1 }
  | node :: rest => { state with phase := .stop node rest false }

end LifeState

section

variable (key : ℕ → QueueKey)

/-- One read of `worker_manager_update_snapshot` that delivers the oldest snapshot in the queue of
the node to the writers of the run. -/
def lifeRead (state : LifeState) (node : ℕ) : Option LifeState :=
  match state.queues (key node) with
  | [] => none
  | item :: _ =>
      some { state with
        queues := state.queues.drop (key node)
        handed := state.handed ++ [(state.run, item)] }

def lifeNext (state : LifeState) : LifeStep → Option LifeState
  | .workerListInit =>
      if state.list = none then some { state with run := state.run + 1, list := some [] } else none
  | .fork child =>
      match state.list, state.phase with
      | some list, .free =>
          if child ∉ list ∧ child ∉ state.alive then
            some { state with
              list := some (list ++ [child])
              alive := child :: state.alive
              home := Function.update state.home child state.run }
          else none
      | _, _ => none
  | .write child snapshot =>
      if child ∈ state.alive then
        let item : Item := ⟨state.home child, child, state.enqueued.length, snapshot⟩
        some { state with
          queues := state.queues.send (key child) item
          enqueued := state.enqueued ++ [item] }
      else none
  | .exit child =>
      if child ∈ state.alive then
        some { state with alive := state.alive.filter fun other ↦ other ≠ child }
      else none
  | .watchdogLock =>
      match state.list, state.phase with
      | some (node :: rest), .free => some { state with phase := .watchdog node rest false }
      | _, _ => none
  | .read =>
      match state.phase with
      | .watchdog node _ false => lifeRead key state node
      | .stop node _ true => lifeRead key state node
      | _ => none
  | .readNoData =>
      match state.phase with
      | .watchdog node rest false =>
          if state.queues (key node) = [] then
            some { state with phase := .watchdog node rest true }
          else none
      | .stop node rest true =>
          if state.queues (key node) = [] then some (state.stopNode rest) else none
      | _ => none
  | .waitpid =>
      match state.phase, state.list with
      | .watchdog node rest true, some list =>
          if node ∈ state.alive then some { state with phase := LifeState.watchdogNode rest }
          else
            some { state with
              phase := LifeState.watchdogNode rest
              list := some (list.erase node) }
      | _, _ => none
  | .evalFailed =>
      match state.phase with
      | .watchdog node _ true =>
          if node ∈ state.alive then some { state with phase := .free } else none
      | _ => none
  | .stopLock =>
      match state.phase with
      | .free => some (state.stopNode (state.list.getD []))
      | _ => none
  | .killFailed =>
      match state.phase with
      | .stop _ rest false => some (state.stopNode rest)
      | _ => none
  | .kill =>
      match state.phase with
      | .stop node rest false => some { state with phase := .stop node rest true }
      | _ => none
  | .workerListClean =>
      if state.phase = .free ∧ 0 < state.cleans then
        some { state with list := none, cleans := state.cleans - 1 }
      else none

def lifeMachine : Machine LifeState LifeStep where
  initial := ⟨0, none, [], fun _ ↦ 0, fun _ ↦ [], [], [], .free, 0⟩
  next := lifeNext key

/-- The snapshots of the runs that are over: each was handed once, to the writers of its own run,
and none is left in a queue. -/
def NoneLost (state : LifeState) : Prop :=
  ∀ item ∈ state.enqueued, item.run ≠ state.run ∨ state.list = none →
    state.handed.count (item.run, item) = 1 ∧
      (∀ run, (run, item) ∈ state.handed → run = item.run) ∧
      ∀ queue, item ∉ state.queues queue

/-- A child writes only while it is listed, and no worker is dropped, by a watchdog pass or with the
list, while a snapshot that no other listed worker reads is in its queue. -/
def DropsDrained (state : LifeState) : LifeStep → Prop
  | .write child _ => ∃ list, state.list = some list ∧ child ∈ list
  | .waitpid => ∀ node rest list, state.phase = .watchdog node rest true →
      state.list = some list → node ∉ state.alive →
      state.queues (key node) = [] ∨ ∃ other ∈ list, other ≠ node ∧ key other = key node
  | .workerListClean => ∀ list, state.list = some list →
      ∀ child ∈ list, state.queues (key child) = []
  | _ => True

/-! ## The invariant -/

/-- Every enqueued snapshot is handed or in the queue of its child, where a worker of its own run
reads it; the handed ones went to their own run. -/
structure Tracked (state : LifeState) : Prop where
  located : ∀ item, state.enqueued.count item =
    (state.handed.map Prod.snd).count item + (state.queues (key item.child)).count item
  serials : ∀ item ∈ state.enqueued, item.serial < state.enqueued.length
  nodup : state.enqueued.Nodup
  placed : ∀ queue, ∀ item ∈ state.queues queue, key item.child = queue ∧ item.run = state.run ∧
    ∃ list, state.list = some list ∧ ∃ reader ∈ list, key reader = queue
  own : ∀ run item, (run, item) ∈ state.handed → run = item.run
  homes : ∀ list, state.list = some list → ∀ child ∈ list, state.home child = state.run

variable {key} {state : LifeState}

namespace Tracked

/-- Steps of the mutex holder between the reads, and exits of children. -/
theorem control (h : Tracked key state) (alive : List ℕ) (phase : Phase) (cleans : ℕ) :
    Tracked key { state with alive := alive, phase := phase, cleans := cleans } :=
  ⟨h.located, h.serials, h.nodup, h.placed, h.own, h.homes⟩

theorem stopNode (h : Tracked key state) (rest : List ℕ) : Tracked key (state.stopNode rest) := by
  cases rest with
  | nil => exact h.control state.alive .free (state.cleans + 1)
  | cons node rest => exact h.control state.alive (.stop node rest false) state.cleans

/-- Without a list there is nothing in the queues. -/
theorem queues_of_list_none (h : Tracked key state) (hnone : state.list = none) (queue : QueueKey) :
    state.queues queue = [] := by
  apply List.eq_nil_iff_forall_not_mem.mpr
  intro item hitem
  rcases (h.placed queue item hitem).2.2 with ⟨list, hlist, _⟩
  rw [hnone] at hlist
  cases hlist

theorem workerListInit (h : Tracked key state) (hnone : state.list = none) :
    Tracked key { state with run := state.run + 1, list := some [] } := by
  have hempty := h.queues_of_list_none hnone
  refine ⟨h.located, h.serials, h.nodup, ?_, h.own, ?_⟩
  · intro queue item hitem
    rw [hempty queue] at hitem
    cases hitem
  · intro list hlist child hchild
    rw [← Option.some.inj hlist] at hchild
    cases hchild

theorem fork (h : Tracked key state) {list : List ℕ} (hlist : state.list = some list) (child : ℕ)
    (hfresh : child ∉ list) :
    Tracked key { state with
      list := some (list ++ [child])
      alive := child :: state.alive
      home := Function.update state.home child state.run } := by
  refine ⟨h.located, h.serials, h.nodup, ?_, h.own, ?_⟩
  · intro queue item hitem
    rcases h.placed queue item hitem with ⟨hqueue, hrun, readers, hreaders, reader, hmem, hkey⟩
    rw [hlist, Option.some.injEq] at hreaders
    rw [← hreaders] at hmem
    exact ⟨hqueue, hrun, _, rfl, reader, List.mem_append_left _ hmem, hkey⟩
  · intro after hafter other hother
    rw [← Option.some.inj hafter, List.mem_append, List.mem_singleton] at hother
    rcases hother with hold | hnew
    · have hne : other ≠ child := fun hsame ↦ hfresh (hsame ▸ hold)
      simp only [Function.update_of_ne hne]
      exact h.homes list hlist other hold
    · simp only [hnew, Function.update_self]

theorem write (h : Tracked key state) {child : ℕ} (snapshot : Snapshot)
    (hlisted : ∃ list, state.list = some list ∧ child ∈ list) :
    Tracked key { state with
      queues := state.queues.send (key child)
        ⟨state.home child, child, state.enqueued.length, snapshot⟩
      enqueued := state.enqueued ++
        [⟨state.home child, child, state.enqueued.length, snapshot⟩] } := by
  rcases hlisted with ⟨list, hlist, hchild⟩
  have hhome := h.homes list hlist child hchild
  generalize hitem : (⟨state.home child, child, state.enqueued.length, snapshot⟩ : Item) = item
  have hwriter : item.child = child := by rw [← hitem]
  have hrun : item.run = state.run := by rw [← hitem, hhome]
  have hserial : item.serial = state.enqueued.length := by rw [← hitem]
  have hfresh : item ∉ state.enqueued := by
    intro hmem
    have hlt := h.serials item hmem
    omega
  refine ⟨?_, ?_, ?_, ?_, h.own, h.homes⟩
  · intro other
    by_cases hkey : key other.child = key child
    · simp only [hkey, Channels.send_self, List.count_append]
      rw [h.located other, hkey, Nat.add_assoc]
    · have hne : item ≠ other := fun hsame ↦ hkey (by rw [← hsame, hwriter])
      simp only [Channels.send_of_ne _ item hkey, List.count_append, List.count_singleton,
        beq_iff_eq, if_neg hne, Nat.add_zero]
      exact h.located other
  · intro other hother
    rw [List.length_append, List.length_singleton]
    rcases List.mem_append.mp hother with hold | hnew
    · exact (h.serials other hold).trans (Nat.lt_succ_self _)
    · rw [List.mem_singleton.mp hnew, hserial]
      exact Nat.lt_succ_self _
  · rw [List.nodup_append]
    refine ⟨h.nodup, List.nodup_singleton item, ?_⟩
    intro old hold new hnew hsame
    rw [List.mem_singleton] at hnew
    rw [hsame, hnew] at hold
    exact hfresh hold
  · intro queue other hother
    by_cases hqueue : queue = key child
    · simp only [hqueue, Channels.send_self, List.mem_append, List.mem_singleton] at hother
      rcases hother with hold | hnew
      · rw [hqueue]
        exact h.placed (key child) other hold
      · rw [hnew, hqueue, hwriter]
        exact ⟨rfl, hrun, list, hlist, child, hchild, rfl⟩
    · simp only [Channels.send_of_ne _ item hqueue] at hother
      exact h.placed queue other hother

/-- A delivered snapshot leaves the queue for the writers of the run. -/
theorem read (h : Tracked key state) {node : ℕ} {after : LifeState}
    (hread : lifeRead key state node = some after) : Tracked key after := by
  unfold lifeRead at hread
  cases hqueue : state.queues (key node) with
  | nil => simp [hqueue] at hread
  | cons item rest =>
    simp only [hqueue, Option.some.injEq] at hread
    rw [← hread]
    have hitem := h.placed (key node) item (by rw [hqueue]; exact List.mem_cons_self)
    refine ⟨?_, h.serials, h.nodup, ?_, ?_, h.homes⟩
    · intro other
      have hother := h.located other
      simp only [List.map_append, List.map_cons, List.map_nil, List.count_append,
        List.count_singleton, beq_iff_eq]
      by_cases hkey : key other.child = key node
      · rw [hkey, hqueue, List.count_cons] at hother
        simp only [hkey, Channels.drop_self, hqueue, List.tail_cons]
        simp only [beq_iff_eq] at hother
        omega
      · have hne : item ≠ other := fun hsame ↦ hkey (by rw [← hsame, hitem.1])
        simp only [Channels.drop_of_ne _ hkey, if_neg hne, Nat.add_zero]
        exact hother
    · intro queue other hother
      by_cases hsame : queue = key node
      · simp only [hsame, Channels.drop_self] at hother
        rw [hsame]
        exact h.placed (key node) other (List.mem_of_mem_tail hother)
      · simp only [Channels.drop_of_ne _ hsame] at hother
        exact h.placed queue other hother
    · intro run other hother
      rw [List.mem_append, List.mem_singleton, Prod.mk.injEq] at hother
      rcases hother with hold | ⟨hrun, hnew⟩
      · exact h.own run other hold
      · rw [hrun, hnew, hitem.2.1]

/-- A worker is dropped whose queue is empty or has another listed reader. -/
theorem dropWorker (h : Tracked key state) {list : List ℕ} {node : ℕ} (phase : Phase)
    (hlist : state.list = some list)
    (hdrained : state.queues (key node) = [] ∨
      ∃ other ∈ list, other ≠ node ∧ key other = key node) :
    Tracked key { state with phase := phase, list := some (list.erase node) } := by
  refine ⟨h.located, h.serials, h.nodup, ?_, h.own, ?_⟩
  · intro queue item hitem
    rcases h.placed queue item hitem with ⟨hqueue, hrun, readers, hreaders, reader, hmem, hkey⟩
    rw [hlist, Option.some.injEq] at hreaders
    rw [← hreaders] at hmem
    refine ⟨hqueue, hrun, _, rfl, ?_⟩
    by_cases hsame : reader = node
    · rcases hdrained with hempty | ⟨other, hother, hne, hshared⟩
      · rw [← hsame, hkey] at hempty
        change item ∈ state.queues queue at hitem
        rw [hempty] at hitem
        cases hitem
      · exact ⟨other, (List.mem_erase_of_ne hne).mpr hother, by rw [hshared, ← hsame, hkey]⟩
    · exact ⟨reader, (List.mem_erase_of_ne hsame).mpr hmem, hkey⟩
  · intro after hafter child hchild
    rw [← Option.some.inj hafter] at hchild
    exact h.homes list hlist child (List.mem_of_mem_erase hchild)

/-- The list is cleaned with empty queues. -/
theorem workerListClean (h : Tracked key state) (cleans : ℕ)
    (hdrained : ∀ list, state.list = some list → ∀ child ∈ list, state.queues (key child) = []) :
    Tracked key { state with list := none, cleans := cleans } := by
  refine ⟨h.located, h.serials, h.nodup, ?_, h.own, fun list hlist ↦ by cases hlist⟩
  intro queue item hitem
  rcases (h.placed queue item hitem).2.2 with ⟨list, hlist, reader, hreader, hkey⟩
  have hempty := hdrained list hlist reader hreader
  rw [hkey] at hempty
  change item ∈ state.queues queue at hitem
  rw [hempty] at hitem
  cases hitem

/-- Every guarded step keeps the snapshots tracked. -/
theorem next (h : Tracked key state) {label : LifeStep} {after : LifeState}
    (hguard : DropsDrained key state label) (hnext : lifeNext key state label = some after) :
    Tracked key after := by
  cases label with
  | workerListInit =>
    simp only [lifeNext, Option.ite_none_right_eq_some, Option.some.injEq] at hnext
    rw [← hnext.2]
    exact h.workerListInit hnext.1
  | fork child =>
    simp only [lifeNext] at hnext
    split at hnext
    · rename_i list hlist _
      simp only [Option.ite_none_right_eq_some, Option.some.injEq] at hnext
      rw [← hnext.2]
      exact h.fork hlist child hnext.1.1
    · cases hnext
  | write child snapshot =>
    simp only [lifeNext, Option.ite_none_right_eq_some, Option.some.injEq] at hnext
    rw [← hnext.2]
    exact h.write snapshot hguard
  | exit child =>
    simp only [lifeNext, Option.ite_none_right_eq_some, Option.some.injEq] at hnext
    rw [← hnext.2]
    exact h.control _ state.phase state.cleans
  | watchdogLock =>
    simp only [lifeNext] at hnext
    split at hnext
    · rw [← Option.some.inj hnext]
      exact h.control state.alive _ state.cleans
    · cases hnext
  | read =>
    simp only [lifeNext] at hnext
    split at hnext
    · exact h.read hnext
    · exact h.read hnext
    · cases hnext
  | readNoData =>
    simp only [lifeNext] at hnext
    split at hnext
    · simp only [Option.ite_none_right_eq_some, Option.some.injEq] at hnext
      rw [← hnext.2]
      exact h.control state.alive _ state.cleans
    · simp only [Option.ite_none_right_eq_some, Option.some.injEq] at hnext
      rw [← hnext.2]
      exact h.stopNode _
    · cases hnext
  | waitpid =>
    simp only [lifeNext] at hnext
    split at hnext
    · rename_i node rest list hphase hlist
      split at hnext
      · rw [← Option.some.inj hnext]
        exact h.control state.alive _ state.cleans
      · rename_i hgone
        rw [← Option.some.inj hnext]
        exact h.dropWorker _ hlist (hguard node rest list hphase hlist hgone)
    · cases hnext
  | evalFailed =>
    simp only [lifeNext] at hnext
    split at hnext
    · simp only [Option.ite_none_right_eq_some, Option.some.injEq] at hnext
      rw [← hnext.2]
      exact h.control state.alive _ state.cleans
    · cases hnext
  | stopLock =>
    simp only [lifeNext] at hnext
    split at hnext
    · rw [← Option.some.inj hnext]
      exact h.stopNode _
    · cases hnext
  | killFailed =>
    simp only [lifeNext] at hnext
    split at hnext
    · rw [← Option.some.inj hnext]
      exact h.stopNode _
    · cases hnext
  | kill =>
    simp only [lifeNext] at hnext
    split at hnext
    · rw [← Option.some.inj hnext]
      exact h.control state.alive _ state.cleans
    · cases hnext
  | workerListClean =>
    simp only [lifeNext, Option.ite_none_right_eq_some, Option.some.injEq] at hnext
    rw [← hnext.2]
    exact h.workerListClean _ hguard

/-- Tracked snapshots of finished runs are settled. -/
theorem noneLost (h : Tracked key state) : NoneLost state := by
  intro item hitem hover
  have hnowhere : ∀ queue, item ∉ state.queues queue := by
    intro queue hqueued
    rcases h.placed queue item hqueued with ⟨_, hrun, list, hlist, _⟩
    rcases hover with hother | hnone
    · exact hother hrun
    · rw [hnone] at hlist
      cases hlist
  have hown : ∀ run, (run, item) ∈ state.handed → run = item.run := fun run hmem ↦
    h.own run item hmem
  refine ⟨?_, hown, hnowhere⟩
  have hpairs : state.handed.count (item.run, item) = (state.handed.map Prod.snd).count item := by
    rw [List.count_eq_countP, List.count_eq_countP, List.countP_map]
    apply List.countP_congr
    intro pair hpair
    rcases pair with ⟨run, other⟩
    simp only [beq_iff_eq, Prod.mk.injEq, Function.comp_apply]
    constructor
    · intro hsame
      exact hsame.2
    · intro hsame
      rw [hsame] at hpair
      exact ⟨hown run hpair, hsame⟩
  have hlocated := h.located item
  rw [List.count_eq_zero_of_not_mem (hnowhere _), Nat.add_zero] at hlocated
  rw [hpairs, ← hlocated]
  exact List.count_eq_one_of_mem h.nodup hitem

end Tracked

variable (key)

theorem tracked_initial : Tracked key (lifeMachine key).initial := by
  refine ⟨fun _ ↦ rfl, ?_, List.nodup_nil, ?_, ?_, ?_⟩
  · intro item hitem
    cases hitem
  · intro queue item hitem
    cases hitem
  · intro run item hitem
    cases hitem
  · intro list hlist
    cases hlist

end

/-- The SysV queue of a sender, whatever the child. -/
def senderQueue : ℕ → QueueKey :=
  workerCreateQueue (fun _ projId ↦ projId) .sysv "senderd" ⟨false, true, true, true⟩

/-- The child writes its last snapshot and exits between the drain and the `waitpid` of a pass. -/
def lateWrite : List LifeStep :=
  [.workerListInit, .fork 7, .watchdogLock, .readNoData, .write 7 oneMessage, .exit 7, .waitpid,
    .stopLock, .workerListClean]

end MsgPerf.Worker
