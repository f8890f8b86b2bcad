import MsgPerf.Library.OrderedMap

/-!
# Lists of handlers

A list of `vmslh_callback_t` is searched by the address of the callback.  `vmslh_by_addr` returns a
wrapper that is in the list, or appends a new one that `vmslh_add` fills in afterwards; `vmslh_run`
calls every wrapper of the list.  The results of the allocation and of `gru_list_append` are
arguments of the operations.  A node whose wrapper could not be allocated holds a null pointer, on
which `vmslh_run` has no result.

The callbacks and their payloads are of any type; what a callback does is given where it is called.
-/

namespace MsgPerf.Common

open MsgPerf.Library

/-- `vmslh_callback_t`, with null pointers until it is filled in. -/
structure VmslhCallback (Callback Payload : Type*) where
  call : Option Callback
  payload : Option Payload
  deriving DecidableEq, Repr

/-- The data of the nodes of a list of handlers. -/
abbrev HandlerList (Callback Payload : Type*) := List (Option (VmslhCallback Callback Payload))

section Operations

variable {Callback Payload : Type*} [DecidableEq Callback]

/-- The node has a wrapper with the callback. -/
def holdsCallback (callback : Callback) (data : Option (VmslhCallback Callback Payload)) : Bool :=
  data.any fun wrapper ↦ wrapper.call = some callback

/-- The list and the position of the wrapper that is returned. -/
def vmslhByAddr (list : HandlerList Callback Payload) (callback : Callback)
    (allocated appended : Bool) : HandlerList Callback Payload × Option ℕ :=
  match list.findIdx? (holdsCallback callback) with
  | some position => (list, some position)
  | none =>
      let ret : Option (VmslhCallback Callback Payload) :=
        if allocated then some ⟨none, none⟩ else none
      if appended then (list ++ [ret], if allocated then some list.length else none)
      else (list, none)

/-- The list and the returned flag. -/
def vmslhAdd (list : HandlerList Callback Payload) (callback : Callback)
    (payload : Option Payload) (allocated appended : Bool) :
    HandlerList Callback Payload × Bool :=
  match vmslhByAddr list callback allocated appended with
  | (list, some position) => (list.set position (some ⟨some callback, payload⟩), true)
  | (list, none) => (list, false)

/-- The list after a sequence of additions none of which fails. -/
def vmslhAdds (list : HandlerList Callback Payload) (additions : List (Callback × Option Payload)) :
    HandlerList Callback Payload :=
  additions.foldl (fun list addition ↦ (vmslhAdd list addition.1 addition.2 true true).1) list

/-- The loop of `vmslh_run` over the nodes; `invoke` is the effect of a callback. -/
def runNodes {State : Type*} (invoke : Callback → Option Payload → State → State) :
    HandlerList Callback Payload → State → Option State
  | [], state => some state
  | some ⟨some callback, payload⟩ :: rest, state =>
      runNodes invoke rest (invoke callback payload state)
  | _ :: _, _ => none

/-- Nothing is called for a null list. -/
def vmslhRun {State : Type*} (invoke : Callback → Option Payload → State → State)
    (list : Option (HandlerList Callback Payload)) (state : State) : Option State :=
  match list with
  | none => some state
  | some nodes => runNodes invoke nodes state

/-- The payload of the last addition of a callback. -/
def lastPayload (callback : Callback) (additions : List (Callback × Option Payload)) :
    Option Payload :=
  (OrderedMap.lastValue callback additions).join

/-- The callbacks in the order in which they were first added. -/
def firstAdded (additions : List (Callback × Option Payload)) : List Callback :=
  OrderedMap.firstKeys additions

/-- What a list of handlers holds and calls after some additions. -/
structure HoldsAdditions (additions : List (Callback × Option Payload))
    (list : HandlerList Callback Payload) : Prop where
  atMostOne : ∀ callback, list.countP (holdsCallback callback) ≤ 1
  order : list.map (fun data ↦ data.bind VmslhCallback.call) = (firstAdded additions).map some
  payload : ∀ data ∈ list, ∃ callback payload, data = some ⟨some callback, payload⟩ ∧
    OrderedMap.lastValue callback additions = some payload
  run : ∀ {State : Type} (invoke : Callback → Option Payload → State → State) (state : State),
    vmslhRun invoke (some list) state = some ((firstAdded additions).foldl
      (fun state callback ↦ invoke callback (lastPayload callback additions) state) state)

end Operations

/-! ## The list as a map -/

section Entries

variable {Callback Payload : Type*}

/-- The nodes of a list whose wrappers are all filled in. -/
def nodes (entries : List (Callback × Option Payload)) : HandlerList Callback Payload :=
  entries.map fun entry ↦ some ⟨some entry.1, entry.2⟩

theorem runNodes_nodes {State : Type*} (invoke : Callback → Option Payload → State → State)
    (entries : List (Callback × Option Payload)) (state : State) :
    runNodes invoke (nodes entries) state =
      some (entries.foldl (fun state entry ↦ invoke entry.1 entry.2 state) state) := by
  induction entries generalizing state with
  | nil => rfl
  | cons entry rest ih => exact ih (invoke entry.1 entry.2 state)

variable [DecidableEq Callback]

/-- An addition to a list without null pointers is an assignment. -/
theorem vmslhAdd_nodes (entries : List (Callback × Option Payload)) (callback : Callback)
    (payload : Option Payload) :
    vmslhAdd (nodes entries) callback payload true true =
      (nodes (OrderedMap.assign callback payload entries), true) := by
  induction entries with
  | nil => rfl
  | cons entry rest ih =>
    have hnodes : nodes (entry :: rest) = some ⟨some entry.1, entry.2⟩ :: nodes rest := rfl
    by_cases hsame : entry.1 = callback
    · have hholds : holdsCallback callback
          (some (⟨some entry.1, entry.2⟩ : VmslhCallback Callback Payload)) = true := by
        simp [holdsCallback, hsame]
      rw [OrderedMap.assign, if_pos hsame, vmslhAdd, vmslhByAddr, hnodes, List.findIdx?_cons,
        hholds]
      rfl
    · have hother : holdsCallback callback
          (some (⟨some entry.1, entry.2⟩ : VmslhCallback Callback Payload)) = false := by
        simp [holdsCallback, hsame]
      have hassign : nodes (OrderedMap.assign callback payload (entry :: rest)) =
          some ⟨some entry.1, entry.2⟩ :: nodes (OrderedMap.assign callback payload rest) := by
        rw [OrderedMap.assign, if_neg hsame]
        rfl
      rw [vmslhAdd, vmslhByAddr] at ih
      rw [hassign, vmslhAdd, vmslhByAddr, hnodes, List.findIdx?_cons, hother]
      cases hfound : (nodes rest).findIdx? (holdsCallback callback) with
      | some position => simpa [hfound] using ih
      | none => simpa [hfound] using ih

theorem vmslhAdds_eq (entries additions : List (Callback × Option Payload)) :
    vmslhAdds (nodes entries) additions = nodes (OrderedMap.assignAll entries additions) := by
  induction additions generalizing entries with
  | nil => rfl
  | cons addition additions ih =>
    calc
      vmslhAdds (nodes entries) (addition :: additions)
        = vmslhAdds (vmslhAdd (nodes entries) addition.1 addition.2 true true).1 additions := rfl
      _ = vmslhAdds (nodes (OrderedMap.assign addition.1 addition.2 entries)) additions := by
        rw [vmslhAdd_nodes]
      _ = nodes (OrderedMap.assignAll entries (addition :: additions)) := ih _

theorem vmslhAdds_nil (additions : List (Callback × Option Payload)) :
    vmslhAdds [] additions = nodes (OrderedMap.assignAll [] additions) :=
  vmslhAdds_eq [] additions

/-- What a list that was empty before the additions calls. -/
theorem vmslhRun_vmslhAdds {State : Type*} (invoke : Callback → Option Payload → State → State)
    (additions : List (Callback × Option Payload)) (state : State) :
    vmslhRun invoke (some (vmslhAdds [] additions)) state = some ((firstAdded additions).foldl
      (fun state callback ↦ invoke callback (lastPayload callback additions) state) state) := by
  have hentries := OrderedMap.assignAll_nil additions
  calc
    vmslhRun invoke (some (vmslhAdds [] additions)) state
      = runNodes invoke (nodes (OrderedMap.assignAll [] additions)) state :=
        congrArg (fun list ↦ runNodes invoke list state) (vmslhAdds_nil additions)
    _ = some ((OrderedMap.assignAll [] additions).foldl
          (fun state entry ↦ invoke entry.1 entry.2 state) state) := runNodes_nodes _ _ _
    _ = some (((OrderedMap.assignAll [] additions).map fun entry ↦ (entry.1, some entry.2)).foldl
          (fun state entry ↦ invoke entry.1 entry.2.join state) state) := by
        rw [List.foldl_map]
        rfl
    _ = some ((firstAdded additions).foldl
          (fun state callback ↦ invoke callback (lastPayload callback additions) state) state) := by
        rw [hentries, List.foldl_map]
        rfl

end Entries

/-- After any additions to a new list it holds at most one wrapper for a callback, the wrappers are
in the order of the first additions, each has the payload of the last addition, and each is called
once with that payload. -/
theorem vmslhAdds_holdsAdditions {Callback Payload : Type*} [DecidableEq Callback]
    (additions : List (Callback × Option Payload)) :
    HoldsAdditions additions (vmslhAdds [] additions) where
  atMostOne callback := by
    have hcount : (vmslhAdds [] additions).countP (holdsCallback callback) =
        (firstAdded additions).count callback := by
      rw [vmslhAdds_nil, nodes, List.countP_map, firstAdded,
        ← OrderedMap.keys_assignAll_nil, List.count, List.countP_map]
      apply List.countP_congr
      intro entry _
      simp [holdsCallback]
    rw [hcount]
    exact List.nodup_iff_count_le_one.mp (OrderedMap.nodup_firstKeys additions) callback
  order := by
    rw [vmslhAdds_nil, nodes, List.map_map, firstAdded,
      ← OrderedMap.keys_assignAll_nil, List.map_map]
    rfl
  payload data hdata := by
    rw [vmslhAdds_nil, nodes] at hdata
    obtain ⟨entry, hentry, rfl⟩ := List.mem_map.mp hdata
    refine ⟨entry.1, entry.2, rfl, ?_⟩
    have hmem : (entry.1, some entry.2) ∈
        (firstAdded additions).map fun key ↦ (key, OrderedMap.lastValue key additions) := by
      rw [firstAdded, ← OrderedMap.assignAll_nil]
      exact List.mem_map_of_mem
        (f := fun entry : Callback × Option Payload ↦ (entry.1, some entry.2)) hentry
    obtain ⟨key, -, hkey⟩ := List.mem_map.mp hmem
    obtain ⟨rfl, hvalue⟩ := Prod.mk.inj hkey
    exact hvalue
  run invoke state := vmslhRun_vmslhAdds invoke additions state

end MsgPerf.Common
