import MsgPerf.Library.Machine

/-!
# Receiving over AMQP

`proton_receive` takes one message from the local buffer of the messenger, which it refills when it
is empty, and settles the messages it took in groups: after every `window` messages and at the end
of the local buffer.  Three static counters follow the groups across the calls.

The messenger is described by its local buffer, which grows only in `pn_messenger_recv`, and never
fails.  A call without a creation timestamp returns before the counters are updated.  The number of
messages taken since the last run of the `finalize_receive` handlers is a ghost field.
-/

namespace MsgPerf.Api

open MsgPerf.Library

/-! ## Calls -/

/-- `vmsl_stat_t`. -/
abbrev VmslStat := ℕ

def vmslError : VmslStat := 0

def vmslSuccess : VmslStat := 1

def vmslNoData : VmslStat := 2

def vmslNoTimestamp : VmslStat := 4

/-- The size of the acknowledgement window. -/
def window : ℕ := 10

/-- A message by its creation time, which is not positive when the sender set none. -/
structure AmqpMessage where
  creationTime : ℤ
  deriving DecidableEq, Repr

def AmqpMessage.stamped (message : AmqpMessage) : Bool := 0 < message.creationTime

/-- The local buffer of the messenger, the static variables of `proton_receive`, and the number of
messages that were taken and are not settled. -/
structure ProtonState where
  incoming : List AmqpMessage
  nmsgs : ℕ
  cur : ℕ
  lastAck : ℕ
  unsettled : ℕ
  deriving DecidableEq, Repr

/-- What `pn_messenger_recv` does if the call comes to it: the messages that arrive, and whether it
returns zero rather than that the operation is in progress. -/
structure ProtonRecv where
  arrived : List AmqpMessage
  completed : Bool
  deriving DecidableEq, Repr

/-- A run of the `finalize_receive` handlers, and the reset of the counters after it. -/
def ProtonState.settle (state : ProtonState) : ProtonState :=
  { state with cur := 0, lastAck := 0, unsettled := 0 }

/-- The end of `proton_receive` behind `proton_do_receive`, which took the given message. -/
def ProtonState.takeMessage (state : ProtonState) (message : AmqpMessage)
    (rest : List AmqpMessage) : ProtonState × VmslStat :=
  let taken := { state with incoming := rest, unsettled := state.unsettled + 1 }
  if message.stamped then
    let counted := { taken with cur := taken.cur + 1 }
    if counted.lastAck + window = counted.cur then (counted.settle, vmslSuccess)
    else if counted.nmsgs = 1 then (counted.settle, vmslSuccess)
    else (counted, vmslSuccess)
  else (taken, vmslError ||| vmslNoTimestamp)

/-- The local buffer after the test at the beginning of `proton_receive`, or nothing when the call
returns there. -/
def ProtonState.refill (state : ProtonState) (recv : ProtonRecv) : ProtonState × Bool :=
  if state.incoming = [] then
    let received := { state with incoming := recv.arrived, nmsgs := 0 }
    if recv.completed then
      ({ received with nmsgs := recv.arrived.length, cur := 0, lastAck := 0 }, true)
    else (received, false)
  else ({ state with nmsgs := state.incoming.length }, true)

def protonReceive (state : ProtonState) (recv : ProtonRecv) : ProtonState × VmslStat :=
  let refilled := state.refill recv
  if refilled.2 then
    match refilled.1.incoming with
    | [] => (refilled.1, vmslSuccess ||| vmslNoData)
    | message :: rest => refilled.1.takeMessage message rest
  else (refilled.1, vmslSuccess ||| vmslNoData)

/-- Calls on a context whose subscription has prefetched some messages. -/
def protonMachine (prefetched : List AmqpMessage) : Machine ProtonState ProtonRecv where
  initial := ⟨prefetched, 0, 0, 0, 0⟩
  next state recv := some (protonReceive state recv).1

/-- Fewer messages than the window are unsettled, and none when the local buffer is empty. -/
structure WithinWindow (state : ProtonState) : Prop where
  below : state.unsettled < window
  drained : state.incoming = [] → state.unsettled = 0

/-- The message that a call takes. -/
def ProtonState.taken? (state : ProtonState) (recv : ProtonRecv) : Option AmqpMessage :=
  if (state.refill recv).2 then (state.refill recv).1.incoming.head? else none

/-- A message without a timestamp is not the last of the local buffer, and the end of the local
buffer comes within the window. -/
def SettledInTime (state : ProtonState) (recv : ProtonRecv) : Prop :=
  ∀ message, state.taken? recv = some message → message.stamped = false →
    1 < (state.refill recv).1.incoming.length ∧
      state.unsettled + (state.refill recv).1.incoming.length ≤ window

/-! ## The counters and the messenger -/

/-- `cur` counts the unsettled messages, or it is behind them and the end of the local buffer, where
all of them are settled, comes within the window. -/
structure Counted (state : ProtonState) : Prop where
  lastAck : state.lastAck = 0
  unsettled : state.unsettled = state.cur ∧ state.cur < window ∧
      (state.incoming = [] → state.cur = 0) ∨
    state.cur ≤ state.unsettled ∧ state.incoming ≠ [] ∧
      state.unsettled + state.incoming.length ≤ window

theorem Counted.withinWindow {state : ProtonState} (h : Counted state) : WithinWindow state := by
  obtain ⟨hequal, hbelow, hdrained⟩ | ⟨-, hincoming, hend⟩ := h.unsettled
  · exact ⟨hequal ▸ hbelow, fun hempty ↦ hequal.trans (hdrained hempty)⟩
  · have hlength := List.length_pos_iff.mpr hincoming
    exact ⟨by omega, fun hempty ↦ absurd hempty hincoming⟩

theorem ProtonState.refill_counted {state : ProtonState} (recv : ProtonRecv)
    (h : Counted state) : Counted (state.refill recv).1 := by
  obtain ⟨hlastAck, hunsettled⟩ := h
  unfold ProtonState.refill
  split
  next hempty =>
    obtain ⟨hequal, -, hdrained⟩ | ⟨-, hincoming, -⟩ := hunsettled
    · have hcur := hdrained hempty
      have hnone : state.unsettled = 0 := hequal.trans hcur
      split
      · exact ⟨rfl, .inl ⟨hnone, by simp [window], fun _ ↦ rfl⟩⟩
      · exact ⟨hlastAck, .inl ⟨hequal, by simp [hcur, window], fun _ ↦ hcur⟩⟩
    · exact absurd hempty hincoming
  next hincoming => exact ⟨hlastAck, hunsettled⟩

@[simp] theorem ProtonState.refill_unsettled (state : ProtonState) (recv : ProtonRecv) :
    (state.refill recv).1.unsettled = state.unsettled := by
  unfold ProtonState.refill
  split
  · split <;> rfl
  · rfl

/-- Behind the refill `nmsgs` is the number of messages in the local buffer. -/
theorem ProtonState.refill_nmsgs {state : ProtonState} {recv : ProtonRecv}
    (h : (state.refill recv).2 = true) :
    (state.refill recv).1.nmsgs = (state.refill recv).1.incoming.length := by
  unfold ProtonState.refill at *
  split
  next hempty =>
    rw [if_pos hempty] at h
    split
    · rfl
    next hprogress => simp [hprogress] at h
  · rfl

theorem ProtonState.settle_counted {state : ProtonState} : Counted state.settle :=
  ⟨rfl, .inl ⟨rfl, by simp [settle, window], fun _ ↦ rfl⟩⟩

/-- A message that is counted: the end of the window and the end of the local buffer settle it. -/
theorem ProtonState.takeMessage_stamped {state : ProtonState} {message : AmqpMessage}
    {rest : List AmqpMessage} (h : Counted state) (hincoming : state.incoming = message :: rest)
    (hnmsgs : state.nmsgs = state.incoming.length) (hstamped : message.stamped = true) :
    Counted (state.takeMessage message rest).1 := by
  obtain ⟨hlastAck, hunsettled⟩ := h
  rw [hincoming, List.length_cons] at hnmsgs
  rw [hincoming] at hunsettled
  simp only [ProtonState.takeMessage, hstamped, if_true, hlastAck, Nat.zero_add]
  split
  · exact settle_counted
  next hwindow =>
    split
    · exact settle_counted
    next hlast =>
      have hrest : rest ≠ [] := by
        rintro rfl
        exact hlast hnmsgs
      refine ⟨rfl, ?_⟩
      obtain ⟨hequal, hbelow, -⟩ | ⟨hbehind, -, hend⟩ := hunsettled
      · exact .inl ⟨congrArg (· + 1) hequal, by simp only; omega, fun hempty ↦ absurd hempty hrest⟩
      · rw [List.length_cons] at hend
        exact .inr ⟨by simp only; omega, hrest, by simp only; omega⟩

/-- A message that is not counted stays unsettled until the end of the local buffer. -/
theorem ProtonState.takeMessage_unstamped {state : ProtonState} {message : AmqpMessage}
    {rest : List AmqpMessage} (h : Counted state) (hincoming : state.incoming = message :: rest)
    (hstamped : message.stamped = false) (hlast : 1 < state.incoming.length)
    (hend : state.unsettled + state.incoming.length ≤ window) :
    Counted (state.takeMessage message rest).1 := by
  rw [hincoming, List.length_cons] at hlast hend
  have hcur : state.cur ≤ state.unsettled := by
    obtain ⟨hequal, -, -⟩ | ⟨hbehind, -, -⟩ := h.unsettled
    · exact hequal.ge
    · exact hbehind
  simp only [ProtonState.takeMessage, hstamped, Bool.false_eq_true, if_false]
  exact ⟨h.lastAck, .inr ⟨by simp only; omega, List.length_pos_iff.mp (by simp only; omega),
    by simp only; omega⟩⟩

theorem protonReceive_counted {state : ProtonState} {recv : ProtonRecv} (h : Counted state)
    (hguard : SettledInTime state recv) : Counted (protonReceive state recv).1 := by
  have hrefill := state.refill_counted recv h
  simp only [protonReceive]
  split
  next hgoes =>
    split
    · exact hrefill
    next message rest hincoming =>
      have htaken : state.taken? recv = some message := by
        simp [ProtonState.taken?, hgoes, hincoming]
      cases hstamped : message.stamped with
      | true =>
        have hnmsgs := ProtonState.refill_nmsgs hgoes
        exact ProtonState.takeMessage_stamped hrefill hincoming hnmsgs hstamped
      | false =>
        obtain ⟨hlast, hend⟩ := hguard message htaken hstamped
        rw [← ProtonState.refill_unsettled state recv] at hend
        exact ProtonState.takeMessage_unstamped hrefill hincoming hstamped hlast hend
  · exact hrefill

/-- In every run in which no message without a timestamp ends the local buffer or holds back the
window, fewer messages than the window are unsettled after every call, and none at the end of the
local buffer. -/
theorem reachable_withinWindow (prefetched : List AmqpMessage) (state : ProtonState)
    (h : (protonMachine prefetched).ReachableUnder SettledInTime state) : WithinWindow state := by
  apply Counted.withinWindow
  apply h.invariant
  · exact ⟨rfl, .inl ⟨rfl, by simp [protonMachine, window], fun _ ↦ rfl⟩⟩
  · rintro before recv after hbefore hguard hnext
    obtain rfl : (protonReceive before recv).1 = after := Option.some.inj hnext
    exact protonReceive_counted hbefore hguard

/-- A batch of two messages of which the first has no timestamp. -/
theorem twoMessages_withinWindow :
    (protonMachine []).run (protonMachine []).initial
      [⟨[⟨0⟩, ⟨7⟩], true⟩, ⟨[], false⟩] = some ⟨[], 1, 0, 0, 0⟩ ∧
    WithinWindow ⟨[], 1, 0, 0, 0⟩ := by
  refine ⟨by decide, reachable_withinWindow [] _ ?_⟩
  have hfirst : SettledInTime ⟨[], 0, 0, 0, 0⟩ ⟨[⟨0⟩, ⟨7⟩], true⟩ := by
    intro message _ _
    decide
  have hsecond : SettledInTime ⟨[⟨7⟩], 2, 0, 0, 1⟩ ⟨[], false⟩ := by
    intro message htaken hstamped
    obtain rfl : ⟨7⟩ = message := Option.some.inj htaken
    exact absurd hstamped (by decide)
  exact .step (.step .initial hfirst rfl) hsecond rfl

/-- The only message of a batch has no timestamp, and nothing settles it. -/
theorem lastUnstamped_not_withinWindow :
    ¬ ∀ prefetched state, (protonMachine prefetched).Reachable state → WithinWindow state := by
  intro hevery
  have hreachable : (protonMachine []).Reachable ⟨[], 1, 0, 0, 1⟩ :=
    Machine.reachable_of_run [⟨[⟨0⟩], true⟩] rfl
  have hdrained := (hevery [] _ hreachable).drained rfl
  exact absurd hdrained (by decide)

end MsgPerf.Api
