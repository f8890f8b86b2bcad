import Mathlib
import MsgPerf.Library.Channel
import MsgPerf.Worker.Types

/-!
# The queues between the children and the manager

A child opens its queue under its own process id and the manager opens the queue of the same child
when it registers it.  Which queue that is depends on the backend: a POSIX queue is named after the
worker and the child, a SysV queue is found by a key made from a path and the project id of the
worker flags.  The machine interleaves writes of any children with reads of the manager in any
order.
-/

namespace MsgPerf.Worker

open MsgPerf.Library

/-! ## Queue identities -/

inductive Backend where
  | sysv | posix
  deriving DecidableEq, Repr

/-- What the operating system identifies a queue by. -/
inductive QueueKey where
  | sysv (key : ℤ)
  | posix (name : String)
  deriving DecidableEq, Repr

/-- `worker_queue_new_opt`: the project id of the flags. -/
def workerQueueNewOpt (flags : Flags) : ℕ := if flags.receiver then 0x32 else 0x33

/-- `worker_name`: the name of the worker and the process id of the child. -/
def workerName (name : String) (child : ℕ) : String := name ++ "-" ++ child.repr

section

variable (ftok : String → ℕ → ℤ) (backend : Backend)

/-- `worker_queue_new`, as the queue it opens. -/
def workerQueueNew (name : String) (projId : ℕ) : QueueKey :=
  match backend with
  | .posix => .posix ("/" ++ name)
  | .sysv => .sysv (ftok "/tmp" projId)

/-- The queue that the child `pid` opens for writing. -/
def workerCreateQueue (name : String) (flags : Flags) (pid : ℕ) : QueueKey :=
  workerQueueNew ftok backend (workerName name pid) (workerQueueNewOpt flags)

/-- The queue that `worker_info_new` opens for reading. -/
def workerInfoQueue (name : String) (flags : Flags) (child : ℕ) : QueueKey :=
  workerQueueNew ftok backend (workerName name child) (workerQueueNewOpt flags)

/-- Both sides of the fork open the same queue. -/
theorem workerInfoQueue_eq (name : String) (flags : Flags) (child : ℕ) :
    workerInfoQueue ftok backend name flags child =
      workerCreateQueue ftok backend name flags child := rfl

end

/-- The children of a run, with distinct process ids. -/
structure Fleet where
  name : String
  flags : Flags
  count : ℕ
  child : Fin count → ℕ
  distinct : Function.Injective child

section

variable (ftok : String → ℕ → ℤ) (backend : Backend) (fleet : Fleet)

/-- The queue of a child. -/
def Fleet.key (child : Fin fleet.count) : QueueKey :=
  workerCreateQueue ftok backend fleet.name fleet.flags (fleet.child child)

theorem workerName_injective (name : String) : Function.Injective (workerName name) := by
  intro left right h
  unfold workerName at h
  rw [String.append_right_inj] at h
  exact Nat.repr_inj.mp h

/-- POSIX queues of different children are different queues. -/
theorem key_injective_posix : Function.Injective (fleet.key ftok .posix) := by
  intro left right h
  unfold Fleet.key workerCreateQueue workerQueueNew at h
  rw [QueueKey.posix.injEq, String.append_right_inj] at h
  exact fleet.distinct (workerName_injective fleet.name h)

/-- All children of a fleet share one SysV queue. -/
theorem key_sysv_eq (left right : Fin fleet.count) :
    fleet.key ftok .sysv left = fleet.key ftok .sysv right := rfl

/-! ## Writes and reads in any order -/

/-- The queues with their history, and the snapshot of every `worker_info_t`. -/
structure QueueState where
  streams : Streams (Fin fleet.count) QueueKey Snapshot
  slot : Fin fleet.count → Snapshot

inductive QueueStep where
  | write (child : Fin fleet.count) (snapshot : Snapshot)
  | read (child : Fin fleet.count)

/-- The parts of a step that the streams see. -/
def QueueStep.stream : QueueStep fleet → StreamStep (Fin fleet.count) Snapshot
  | .write child snapshot => .send child snapshot
  | .read child => .receive child

/-- A read that finds a message copies it to the snapshot of the `worker_info_t`. -/
def queueNext (state : QueueState fleet) (step : QueueStep fleet) : QueueState fleet where
  streams := state.streams.next (fleet.key ftok backend) step.stream
  slot :=
    match step with
    | .write _ _ => state.slot
    | .read child =>
        match state.streams.channels (fleet.key ftok backend child) with
        | [] => state.slot
        | snapshot :: _ => Function.update state.slot child snapshot

def queueMachine : Machine (QueueState fleet) (QueueStep fleet) where
  initial := ⟨Streams.empty, fun _ ↦ .zero⟩
  next state step := some (queueNext ftok backend fleet state step)

/-- The message total of `senderd_handle_stats` and `receiverd_handle_stats`: the loop over the
worker list, in 64-bit arithmetic. -/
def statsTotal (state : QueueState fleet) (listed : List (Fin fleet.count)) : ℕ :=
  listed.foldl (fun total child ↦ (total + (state.slot child).count) % 2 ^ 64) 0

variable {fleet}

/-- Either nothing has been read yet, or the snapshot is one that the child wrote. -/
def OwnSnapshot (state : QueueState fleet) (child : Fin fleet.count) (snapshot : Snapshot) : Prop :=
  snapshot = .zero ∨ snapshot ∈ state.streams.sent child

/-- The snapshots read through a `worker_info_t` are the first ones its child wrote, in order; its
slot holds one of them, and the total of the statistics adds one count of each listed child. -/
structure PerChild (state : QueueState fleet) : Prop where
  ordered : ∀ child, state.streams.received child <+: state.streams.sent child
  slot : ∀ child, OwnSnapshot state child (state.slot child)
  total : ∀ listed, ∃ own : Fin fleet.count → Snapshot,
    (∀ child ∈ listed, OwnSnapshot state child (own child)) ∧
      statsTotal fleet state listed = (listed.map fun child ↦ (own child).count).sum % 2 ^ 64

theorem statsTotal_eq (state : QueueState fleet) (listed : List (Fin fleet.count)) :
    statsTotal fleet state listed =
      (listed.map fun child ↦ (state.slot child).count).sum % 2 ^ 64 := by
  have hfold : ∀ total, listed.foldl
      (fun total child ↦ (total + (state.slot child).count) % 2 ^ 64) (total % 2 ^ 64) =
      (total + (listed.map fun child ↦ (state.slot child).count).sum) % 2 ^ 64 := by
    induction listed with
    | nil =>
      intro total
      simp
    | cons child listed ih =>
      intro total
      rw [List.foldl_cons, Nat.mod_add_mod, ih, List.map_cons, List.sum_cons, Nat.add_assoc]
  have hzero := hfold 0
  rw [Nat.zero_mod, Nat.zero_add] at hzero
  exact hzero

/-! ## Separate queues -/

/-- The slot of a `worker_info_t` is the last snapshot read through it. -/
def SlotIsLast (state : QueueState fleet) : Prop :=
  ∀ child, state.slot child = (state.streams.received child).getLastD .zero

theorem SlotIsLast.next {state : QueueState fleet} (h : SlotIsLast state)
    (step : QueueStep fleet) : SlotIsLast (queueNext ftok backend fleet state step) := by
  intro other
  have hother := h other
  cases step with
  | write child snapshot => exact hother
  | read child =>
    cases hqueue : state.streams.channels (fleet.key ftok backend child) with
    | nil =>
      simp only [queueNext, QueueStep.stream, Streams.next, hqueue]
      exact hother
    | cons snapshot rest =>
      simp only [queueNext, QueueStep.stream, Streams.next, hqueue]
      by_cases hsame : other = child
      · subst hsame
        simp
      · simp only [Function.update_of_ne hsame]
        exact hother

/-- Streams of children with different queues stay separate. -/
theorem perChild_of_separate {state : QueueState fleet}
    (hseparate : state.streams.Separate (fleet.key ftok backend)) (hlast : SlotIsLast state) :
    PerChild state := by
  have hordered : ∀ child, state.streams.received child <+: state.streams.sent child := by
    intro child
    rw [hseparate child]
    exact List.prefix_append _ _
  have hslot : ∀ child, OwnSnapshot state child (state.slot child) := by
    intro child
    rw [hlast child]
    cases hreceived : state.streams.received child with
    | nil => exact Or.inl rfl
    | cons snapshot rest =>
      right
      apply (hordered child).subset
      rw [hreceived, List.getLastD_cons]
      exact List.getLastD_mem_cons
  exact ⟨hordered, hslot, fun listed ↦ ⟨state.slot, fun child _ ↦ hslot child,
    statsTotal_eq state listed⟩⟩

theorem reachable_perChild_of_injective (hkey : Function.Injective (fleet.key ftok backend))
    {state : QueueState fleet} (h : (queueMachine ftok backend fleet).Reachable state) :
    PerChild state := by
  have hinvariant : state.streams.Separate (fleet.key ftok backend) ∧ SlotIsLast state := by
    apply h.invariant fun state ↦
      state.streams.Separate (fleet.key ftok backend) ∧ SlotIsLast state
    · exact ⟨Streams.separate_empty _, fun _ ↦ rfl⟩
    · intro before step after hbefore _ hnext
      rw [← Option.some.inj hnext]
      exact ⟨hbefore.1.next hkey step.stream, hbefore.2.next ftok backend step⟩
  exact perChild_of_separate ftok backend hinvariant.1 hinvariant.2

/-! ## One shared queue -/

/-- A snapshot that is not the zero snapshot. -/
def oneMessage : Snapshot := { Snapshot.zero with count := 1 }

/-- With a shared queue the snapshot of one child can be read through another. -/
theorem exists_not_perChild_of_shared {writer reader : Fin fleet.count} (hne : reader ≠ writer)
    (hkey : fleet.key ftok backend reader = fleet.key ftok backend writer) :
    ∃ state, (queueMachine ftok backend fleet).Reachable state ∧ ¬ PerChild state := by
  let written := queueNext ftok backend fleet (queueMachine ftok backend fleet).initial
    (.write writer oneMessage)
  let read := queueNext ftok backend fleet written (.read reader)
  have hreach : (queueMachine ftok backend fleet).Reachable read := by
    apply Machine.reachable_of_run [.write writer oneMessage, .read reader]
    rfl
  have hqueue : written.streams.channels (fleet.key ftok backend reader) = [oneMessage] := by
    rw [hkey]
    simp [written, queueNext, queueMachine, QueueStep.stream, Streams.next, Streams.empty]
  have hreceived : read.streams.received reader = [oneMessage] := by
    simp only [read, queueNext, QueueStep.stream, Streams.next, hqueue, Function.update_self]
    rfl
  have hsent : read.streams.sent reader = [] := by
    simp only [read, queueNext, QueueStep.stream, Streams.next, hqueue]
    simp [written, queueNext, queueMachine, QueueStep.stream, Streams.next, Streams.empty, hne]
  refine ⟨read, hreach, fun hper ↦ ?_⟩
  have hprefix := hper.ordered reader
  rw [hreceived, hsent] at hprefix
  exact List.cons_ne_nil _ _ (List.prefix_nil.mp hprefix)

/-- Two sender children with the default backend. -/
def twoSenders : Fleet where
  name := "senderd"
  flags := ⟨false, true, true, true⟩
  count := 2
  child index := 100 + index.val
  distinct := by
    intro left right h
    apply Fin.ext
    exact Nat.add_left_cancel h

end

end MsgPerf.Worker
