import MsgPerf.Library.LinkedList
import MsgPerf.Worker.Manager

/-!
# The worker list in memory

The list of the workers is one global pointer to a linked list whose nodes point to the workers,
guarded by a mutex.  Nodes and workers are allocated and freed on their own; a read through a
pointer that is not valid any more, a second `lock` and an `unlock` of a mutex that is not held are
faults.

The functions of the linked list itself are parameters.  `Registered` relates the memory to the
workers that are listed, in their order.
-/

namespace MsgPerf.Worker

open MsgPerf.Library.LinkedList

inductive Fault where
  | deadlock | notHeld | invalidPointer | endless
  deriving DecidableEq, Repr

/-- `gru_list_t`. -/
structure GruList where
  root : Option ℕ
  deriving DecidableEq, Repr

/-- `worker_list_t`. -/
structure WorkerList where
  list : Option GruList
  deriving DecidableEq, Repr

/-- A call of `worker_manager_do_stop` on a child: a signal and whether it was delivered, a
`waitpid` and its answer, or the reading of its queue up to the end. -/
inductive StopEvent where
  | signalled (child : ℤ) (signal : ℕ) (delivered : Bool)
  | polled (child : ℤ) (answer : WaitResult)
  | drained (child : ℤ)
  deriving DecidableEq, Repr

/-- The mutex, the global list, the allocated nodes and workers, the error counter and the status,
with the visits of the watchdog and the calls of the stops so far. -/
structure ListState where
  held : Bool
  gwlist : Option WorkerList
  nodes : Cells ℕ
  infos : ℕ → Option WorkerInfo
  errors : UInt32
  status : Status
  log : List VisitRecord
  events : List StopEvent

/-- The functions of `gru_list_t`. -/
structure GruFunctions where
  append : GruList → ℕ → Cells ℕ → Option (GruList × Cells ℕ)
  count : GruList → Cells ℕ → UInt32
  removeNode : GruList → ℕ → Cells ℕ → Bool × GruList × Cells ℕ
  clean : GruList → Cells ℕ → (ℕ → Option WorkerInfo) → Cells ℕ × (ℕ → Option WorkerInfo)

namespace ListState

/-- `worker_list_lock`. -/
def lock (state : ListState) : Except Fault ListState :=
  if state.held then .error .deadlock else .ok { state with held := true }

/-- `worker_list_unlock`. -/
def unlock (state : ListState) : Except Fault ListState :=
  if state.held then .ok { state with held := false } else .error .notHeld

/-- The list behind the global pointer, if both pointers are set. -/
def list (state : ListState) : Option GruList := state.gwlist.bind WorkerList.list

theorem lock_eq {state : ListState} (hheld : state.held = false) :
    state.lock = .ok { state with held := true } := by
  rw [lock, hheld]
  rfl

theorem unlock_eq {state : ListState} (hheld : state.held = true) :
    state.unlock = .ok { state with held := false } :=
  if_pos hheld

def node (state : ListState) (address : ℕ) : Except Fault (Cell ℕ) :=
  match state.nodes address with
  | some cell => .ok cell
  | none => .error .invalidPointer

def info (state : ListState) (pointer : ℕ) : Except Fault WorkerInfo :=
  match state.infos pointer with
  | some info => .ok info
  | none => .error .invalidPointer

def setInfo (state : ListState) (pointer : ℕ) (info : WorkerInfo) : ListState :=
  { state with infos := Function.update state.infos pointer (some info) }

end ListState

namespace WorkerList

variable (gru : GruFunctions)

/-! ## The functions of the list -/

/-- `worker_list_destroy` on the global list. -/
def destroy (state : ListState) : ListState :=
  match state.list with
  | none => { state with gwlist := none }
  | some list =>
      let memory := gru.clean list state.nodes state.infos
      { state with gwlist := none, nodes := memory.1, infos := memory.2 }

/-- `worker_list_clean`. -/
def clean (state : ListState) : Except Fault ListState := do
  let state ← state.lock
  (destroy gru state).unlock

/-- `worker_list_append`. -/
def append (winfo : ℕ) (state : ListState) : Except Fault (Bool × ListState) := do
  let state ← state.lock
  match state.list with
  | none => return (false, ← state.unlock)
  | some list =>
      match gru.append list winfo state.nodes with
      | none =>
          let message := "Unable register new worker: " ++ state.status.message
          return (false, ← { state with status := .failure message }.unlock)
      | some (list, nodes) =>
          return (true, ← { state with gwlist := some ⟨some list⟩, nodes := nodes }.unlock)

/-- `worker_list_root`. -/
def root (state : ListState) : Option ℕ := state.list.bind GruList.root

/-- `worker_list_remove_unlocked`.  The node is freed after it has been unlinked. -/
def removeUnlocked (address : ℕ) (state : ListState) : Except Fault (Option ℕ × ListState) := do
  let cell ← state.node address
  match state.list with
  | none => throw .invalidPointer
  | some list =>
      let (_, list, nodes) := gru.removeNode list address state.nodes
      let state := { state with gwlist := some ⟨some list⟩, nodes := nodes }
      let _ ← state.node address
      return (cell.next, { state with nodes := Function.update nodes address none })

/-- `worker_info_destroy`. -/
def infoDestroy (pointer : ℕ) (state : ListState) : Except Fault ListState := do
  let _ ← state.info pointer
  return { state with infos := Function.update state.infos pointer none }

/-- `worker_list_count`. -/
def count (state : ListState) : Except Fault (UInt32 × ListState) := do
  let state ← state.lock
  let ret := match state.list with
    | none => 0
    | some list => gru.count list state.nodes
  return (ret, ← state.unlock)

/-! ## The workers that are listed -/

/-- A listed worker: the address of its node, the pointer in the node, and the worker. -/
structure Slot where
  node : ℕ
  pointer : ℕ
  info : WorkerInfo
  deriving DecidableEq, Repr

def Slot.entry (slot : Slot) : ℕ × ℕ := (slot.node, slot.pointer)

/-- The address of the first node. -/
def firstNode (slots : List Slot) : Option ℕ := first (slots.map Slot.entry)

/-- The memory holds the given workers in the list, and no worker is listed twice. -/
structure Registered (state : ListState) (slots : List Slot) : Prop where
  chain : Chain state.nodes (root state) (slots.map Slot.entry)
  infos : ∀ slot ∈ slots, state.infos slot.pointer = some slot.info
  distinct : (slots.map Slot.pointer).Nodup

/-- `gru_list_remove_node` takes exactly the given node out of the list, and does not free it. -/
def UnlinksNode (gru : GruFunctions) : Prop :=
  ∀ (list : GruList) (cells : Cells ℕ) (before after : List (ℕ × ℕ)) (entry : ℕ × ℕ),
    Chain cells list.root (before ++ entry :: after) →
      let result := gru.removeNode list entry.1 cells
      Chain result.2.2 result.2.1.root (before ++ after) ∧ (result.2.2 entry.1).isSome

variable {gru} {state : ListState} {before after : List Slot} {slot : Slot}

theorem mem_insert {other : Slot} (h : other ∈ before ++ after) :
    other ∈ before ++ slot :: after := by
  rw [List.mem_append] at h
  rw [List.mem_append, List.mem_cons]
  exact h.imp_right .inr

theorem Registered.root_eq {slots : List Slot} (h : Registered state slots) :
    root state = firstNode slots :=
  h.chain.start_eq

theorem Registered.node_eq (h : Registered state (before ++ slot :: after)) :
    state.node slot.node = .ok ⟨slot.pointer, firstNode after⟩ := by
  have hchain := h.chain
  rw [List.map_append, List.map_cons] at hchain
  have hcell : state.nodes slot.node = some ⟨slot.pointer, firstNode after⟩ := hchain.suffix.tail.1
  rw [ListState.node, hcell]

theorem Registered.info_eq (h : Registered state (before ++ slot :: after)) :
    state.info slot.pointer = .ok slot.info := by
  rw [ListState.info, h.infos slot (List.mem_append_right _ List.mem_cons_self)]

theorem Registered.pointer_notMem (h : Registered state (before ++ slot :: after)) :
    slot.pointer ∉ (before ++ after).map Slot.pointer := by
  have hdistinct := h.distinct
  rw [List.map_append, List.map_cons, List.nodup_middle, List.nodup_cons] at hdistinct
  rw [List.map_append]
  exact hdistinct.1

theorem Registered.node_notMem (h : Registered state (before ++ slot :: after)) :
    slot.node ∉ ((before ++ after).map Slot.entry).map Prod.fst := by
  have hnodup := h.chain.nodup
  rw [List.map_append, List.map_cons, List.map_append, List.map_cons, List.nodup_middle,
    List.nodup_cons] at hnodup
  rw [List.map_append, List.map_append]
  exact hnodup.1

/-- The worker behind a node is changed. -/
theorem Registered.setInfo (h : Registered state (before ++ slot :: after)) (info : WorkerInfo) :
    Registered (state.setInfo slot.pointer info)
      (before ++ { slot with info := info } :: after) where
  chain := by
    have hchain := h.chain
    rw [List.map_append, List.map_cons] at hchain ⊢
    exact hchain
  infos other hother := by
    have hpointer := h.pointer_notMem
    rw [List.mem_append, List.mem_cons] at hother
    by_cases hslot : other = { slot with info := info }
    · rw [hslot]
      exact Function.update_self ..
    · have hmem : other ∈ before ++ after := by
        rw [List.mem_append]
        tauto
      have hne : other.pointer ≠ slot.pointer := by
        intro heq
        exact hpointer (heq ▸ List.mem_map_of_mem hmem)
      calc (state.setInfo slot.pointer info).infos other.pointer
          = state.infos other.pointer := Function.update_of_ne hne _ _
        _ = some other.info := h.infos other (mem_insert hmem)
  distinct := by
    have hdistinct := h.distinct
    rw [List.map_append, List.map_cons] at hdistinct ⊢
    exact hdistinct

/-- Taking a node out of the list and freeing the worker behind it. -/
theorem Registered.remove (hgru : UnlinksNode gru)
    (h : Registered state (before ++ slot :: after)) :
    ∃ gwlist nodes, removeUnlocked gru slot.node state =
        .ok (firstNode after, { state with gwlist := gwlist, nodes := nodes }) ∧
      infoDestroy slot.pointer { state with gwlist := gwlist, nodes := nodes } =
        .ok { state with gwlist := gwlist, nodes := nodes,
                         infos := Function.update state.infos slot.pointer none } ∧
      Registered { state with gwlist := gwlist, nodes := nodes,
                              infos := Function.update state.infos slot.pointer none }
        (before ++ after) := by
  have hroot : root state ≠ none := by
    rw [h.root_eq, firstNode]
    cases before <;> simp [first]
  obtain ⟨list, hlist⟩ : ∃ list, state.list = some list := by
    apply Option.ne_none_iff_exists'.mp
    intro hnone
    rw [root, hnone] at hroot
    exact hroot rfl
  have hchain := h.chain
  rw [root, hlist, Option.bind_some, List.map_append, List.map_cons] at hchain
  obtain ⟨hunlinked, hallocated⟩ := hgru list state.nodes _ _ slot.entry hchain
  rw [← List.map_append] at hunlinked
  refine ⟨some ⟨some (gru.removeNode list slot.node state.nodes).2.1⟩, Function.update
    (gru.removeNode list slot.node state.nodes).2.2 slot.node none, ?_, ?_, ?_⟩
  · obtain ⟨cell, hcell⟩ := Option.isSome_iff_exists.mp hallocated
    have hfreed : (gru.removeNode list slot.node state.nodes).2.2 slot.node = some cell := hcell
    rw [removeUnlocked, h.node_eq]
    simp only [hlist, ListState.node, hfreed, bind, Except.bind]
    rfl
  · have hinfo := h.info_eq
    rw [ListState.info] at hinfo
    rw [infoDestroy, ListState.info, hinfo]
    rfl
  · refine ⟨?_, ?_, ?_⟩
    · exact hunlinked.free h.node_notMem
    · intro other hother
      have hne : other.pointer ≠ slot.pointer := by
        intro heq
        exact h.pointer_notMem (heq ▸ List.mem_map_of_mem hother)
      calc Function.update state.infos slot.pointer none other.pointer
          = state.infos other.pointer := Function.update_of_ne hne _ _
        _ = some other.info := h.infos other (mem_insert hother)
    · have hdistinct := h.distinct
      rw [List.map_append, List.map_cons, List.nodup_middle, List.nodup_cons] at hdistinct
      rw [List.map_append]
      exact hdistinct.2

/-! ## A list whose nodes are led around the one that is removed -/

/-- The functions of a linked list without spare memory: nothing can be appended. -/
def plainFunctions : GruFunctions where
  append _ _ _ := none
  count _ _ := 0
  removeNode list address cells :=
    let next := (cells address).bind Cell.next
    (true, ⟨redirect address next list.root⟩, unlink address next cells)
  clean _ cells infos := (cells, infos)

theorem plainFunctions_unlinksNode : UnlinksNode plainFunctions := by
  intro list cells before after entry hchain
  have hcell := hchain.suffix.tail.1
  have hnext : (cells entry.1).bind Cell.next = first after := by
    rw [hcell, Option.bind_some]
  refine ⟨?_, ?_⟩
  · simp only [plainFunctions, hnext]
    exact hchain.unlink
  · simp [plainFunctions, unlink, hcell]

end WorkerList

end MsgPerf.Worker
