import MsgPerf.Library.Machine

/-!
# Message buffers

`msg_content_data_t` holds a block of memory with its capacity and the size of the message in it.
Capacity and size are set by hand in every operation, and the operations write to the block without
comparing with its length.  An operation that would write outside the block, or divide by zero, has
no result; the machine then marks its state as corrupted for good.

Sizes are 64-bit numbers.  The results of allocations and of `rand` are part of the steps.
-/

namespace MsgPerf.Common

open MsgPerf.Library

/-! ## The operations on a buffer -/

/-- `msg_content_data_t`, without the time of creation. -/
structure Content where
  data : Option (List UInt8)
  capacity : ℕ
  size : ℕ
  deriving DecidableEq, Repr

namespace Content

def zero : Content := ⟨none, 0, 0⟩

/-- The bytes of the block; a null pointer has none. -/
def bytes (content : Content) : List UInt8 := content.data.getD []

/-- `msg_content_data_new`, when both allocations succeed. -/
def msgContentDataNew (size : ℕ) : Content := ⟨some (List.replicate size 0), size, 0⟩

def msgContentDataRelease (_ : Content) : Content := zero

def msgContentDataInit (content : Content) (size : ℕ) (allocated : Bool) : Content :=
  let released := content.msgContentDataRelease
  if allocated then { released with data := some (List.replicate size 0), capacity := size }
  else released

/-- Bytes copied to the start of the block. -/
def memcpy (content : Content) (source : List UInt8) : Option Content :=
  if source.length ≤ content.bytes.length then
    some { content with data := content.data.map fun data ↦ source ++ data.drop source.length }
  else none

def msgContentDataReset (content : Content) : Option Content :=
  (content.memcpy (List.replicate content.capacity 0)).map fun content ↦ { content with size := 0 }

def msgContentDataCopy (content : Content) (source : List UInt8) (allocated : Bool) : Content :=
  let released := content.msgContentDataRelease
  if allocated then ⟨some source, source.length, source.length⟩ else released

/-- The loop of the fill functions, from the given index down to the first byte. -/
def fillDown (value : ℕ → UInt8) : ℕ → List UInt8 → List UInt8
  | 0, data => data.set 0 (value 0)
  | index + 1, data => fillDown value index (data.set (index + 1) (value (index + 1)))

/-- Both fill functions start at the last byte of the capacity.  Without a capacity the first index
is the largest 64-bit number. -/
def fillWith (content : Content) (value : ℕ → UInt8) : Option Content :=
  if 0 < content.capacity ∧ content.capacity ≤ content.bytes.length then
    some { content with
      data := content.data.map (fillDown value (content.capacity - 1))
      size := content.capacity }
  else none

def msgContentDataFill (content : Content) (value : UInt8) : Option Content :=
  content.fillWith fun _ ↦ value

def dict : List UInt8 :=
  ("0123456789" ++ "ABCDEFGHIJKLMNOPQRSTUVWXYZ" ++ "abcdefghijklmnopqrstuvwxyz").toUTF8.toList

/-- `random` gives the results of `rand` in the order of the calls, which starts at the last
byte. -/
def msgContentDataRfill (content : Content) (random : ℕ → ℕ) : Option Content :=
  content.fillWith fun index ↦ dict.getD (random (content.capacity - 1 - index) % dict.length) 0

/-- `paho_receive` of a message.  A message that is longer than the capacity is cut one byte before
the end of the block, and the size is that of the message. -/
def pahoReceive (content : Content) (payload : List UInt8) : Option Content :=
  let copied :=
    if content.capacity < payload.length then
      -- Without a capacity the length of the copy is the largest 64-bit number.
      if content.capacity = 0 then none else content.memcpy (payload.take (content.capacity - 1))
    else content.memcpy payload
  copied.map fun content ↦ { content with size := payload.length }

end Content

/-! ## The payload strategies -/

/-- The static variables of the variable strategy. -/
structure VariableBounds where
  lower : ℕ
  upper : ℕ
  limit : ℕ
  deriving DecidableEq, Repr

/-- The bounds that `pl_variable_init` computes. -/
def variableBounds (size : ℕ) : VariableBounds :=
  let bound := size / 100 * 5
  let lower := if 100 < size then size - bound else (size + (2 ^ 64 - 1)) % 2 ^ 64
  let upper := if 100 < size then (size + bound) % 2 ^ 64 else size + 1
  ⟨lower, upper, (upper + (2 ^ 64 - lower)) % 2 ^ 64⟩

def Content.plFixedInit (content : Content) (size : ℕ) (allocated status : Bool) :
    Option Content :=
  let initialized := content.msgContentDataInit size allocated
  if allocated && status then initialized.msgContentDataFill 0x64
  else some initialized.msgContentDataRelease

def Content.plVariableInit (content : Content) (size : ℕ) (allocated status : Bool)
    (random : ℕ → ℕ) : Option Content :=
  let initialized := content.msgContentDataInit (variableBounds size).upper allocated
  if allocated && status then initialized.msgContentDataRfill random
  else some initialized.msgContentDataRelease

/-- `pl_variable_load`, which divides by the limit. -/
def Content.plVariableLoad (content : Content) (bounds : VariableBounds) (random : ℕ) :
    Option Content :=
  if bounds.limit = 0 then none
  else some { content with size := (bounds.lower + random % bounds.limit) % 2 ^ 64 }

/-! ## Sequences of operations -/

/-- The buffer, the static variables of the variable strategy, the message of the last receive while
the buffer has not been touched since, and whether an operation had no result. -/
structure BufferState where
  content : Content
  bounds : VariableBounds
  received : Option (List UInt8)
  corrupted : Bool
  deriving DecidableEq, Repr

/-- The operations; `allocated` is the result of the allocation and `status` whether the status was
successful before the call. -/
inductive BufferStep where
  | new (size : ℕ)
  | init (size : ℕ) (allocated : Bool)
  | reset
  | copy (source : List UInt8) (allocated : Bool)
  | fill (value : UInt8)
  | rfill (random : ℕ → ℕ)
  | release
  | plFixedInit (size : ℕ) (allocated status : Bool)
  | plFixedLoad
  | plVariableInit (size : ℕ) (allocated status : Bool) (random : ℕ → ℕ)
  | plVariableLoad (random : ℕ)
  | pahoReceive (payload : List UInt8)

/-- The buffer that a step leaves, if it has a result. -/
def BufferStep.content (state : BufferState) : BufferStep → Option Content
  | .new size => some (.msgContentDataNew size)
  | .init size allocated => some (state.content.msgContentDataInit size allocated)
  | .reset => state.content.msgContentDataReset
  | .copy source allocated => some (state.content.msgContentDataCopy source allocated)
  | .fill value => state.content.msgContentDataFill value
  | .rfill random => state.content.msgContentDataRfill random
  | .release => some state.content.msgContentDataRelease
  | .plFixedInit size allocated status => state.content.plFixedInit size allocated status
  | .plFixedLoad => some state.content
  | .plVariableInit size allocated status random =>
      state.content.plVariableInit size allocated status random
  | .plVariableLoad random => state.content.plVariableLoad state.bounds random
  | .pahoReceive payload => state.content.pahoReceive payload

def BufferStep.bounds (state : BufferState) : BufferStep → VariableBounds
  | .plVariableInit size _ _ _ => variableBounds size
  | _ => state.bounds

def BufferStep.received (state : BufferState) : BufferStep → Option (List UInt8)
  | .pahoReceive payload => some payload
  | .plFixedLoad => state.received
  | _ => none

def bufferNext (state : BufferState) (step : BufferStep) : Option BufferState :=
  match step.content state with
  | some content => some ⟨content, step.bounds state, step.received state, state.corrupted⟩
  | none => some { state with corrupted := true }

def bufferMachine : Machine BufferState BufferStep where
  initial := ⟨.zero, ⟨0, 0, 0⟩, none, false⟩
  next := bufferNext

/-- The message is within the capacity, the block has the bytes of the capacity, and after a receive
the message in the buffer is a prefix of the one that was sent. -/
structure BufferSound (state : BufferState) : Prop where
  intact : state.corrupted = false
  sized : state.content.size ≤ state.content.capacity
  block : state.content.bytes.length = state.content.capacity
  received : ∀ payload, state.received = some payload →
    state.content.bytes.take state.content.size = payload.take state.content.size

/-- A received message is not longer than the capacity, no buffer without a capacity is filled, and
a variable size is loaded only after its bounds have been computed and into a buffer that has room
for the largest size they allow. -/
def FitsBuffer (state : BufferState) : BufferStep → Prop
  | .fill _ | .rfill _ => 0 < state.content.capacity
  | .plFixedInit size allocated status => allocated = true → status = true → 0 < size
  | .plVariableInit size allocated status _ =>
      allocated = true → status = true → 0 < (variableBounds size).upper
  | .plVariableLoad _ => 0 < state.bounds.limit ∧
      state.bounds.lower + state.bounds.limit ≤ state.content.capacity + 1
  | .pahoReceive payload => payload.length ≤ state.content.capacity
  | _ => True

/-! ## Each operation -/

namespace Content

/-- The message is within the capacity and the block has the bytes of the capacity. -/
structure Sound (content : Content) : Prop where
  sized : content.size ≤ content.capacity
  block : content.bytes.length = content.capacity

variable {content : Content}

theorem sound_new (size : ℕ) : (msgContentDataNew size).Sound :=
  ⟨Nat.zero_le size, List.length_replicate⟩

theorem sound_release (content : Content) : content.msgContentDataRelease.Sound :=
  ⟨Nat.le_refl 0, rfl⟩

theorem sound_init (content : Content) (size : ℕ) (allocated : Bool) :
    (content.msgContentDataInit size allocated).Sound := by
  cases allocated with
  | true => exact sound_new size
  | false => exact sound_release content

theorem sound_copy (content : Content) (source : List UInt8) (allocated : Bool) :
    (content.msgContentDataCopy source allocated).Sound := by
  cases allocated with
  | true => exact ⟨Nat.le_refl _, rfl⟩
  | false => exact sound_release content

/-- A copy that fits keeps the length of the block and puts the source in front. -/
theorem memcpy_of_le {source : List UInt8} (hfits : source.length ≤ content.bytes.length) :
    ∃ after, content.memcpy source = some after ∧ after.capacity = content.capacity ∧
      after.bytes.length = content.bytes.length ∧ after.bytes.take source.length = source := by
  refine ⟨_, if_pos hfits, rfl, ?_, ?_⟩
  · cases hdata : content.data with
    | none => simp [bytes, hdata]
    | some data =>
      rw [bytes, hdata, Option.getD_some] at hfits
      simp only [bytes, hdata, Option.map_some, Option.getD_some, List.length_append,
        List.length_drop]
      omega
  · cases hdata : content.data with
    | none =>
      rw [bytes, hdata] at hfits
      simp only [Option.getD_none, List.length_nil, Nat.le_zero, List.length_eq_zero_iff] at hfits
      simp [bytes, hfits]
    | some data => simp [bytes]

theorem sound_reset (h : content.Sound) :
    ∃ after, content.msgContentDataReset = some after ∧ after.Sound := by
  have hfits : (List.replicate content.capacity (0 : UInt8)).length ≤ content.bytes.length := by
    rw [List.length_replicate, h.block]
  rcases memcpy_of_le hfits with ⟨after, hcopy, hcapacity, hlength, -⟩
  refine ⟨{ after with size := 0 }, ?_, Nat.zero_le _, ?_⟩
  · rw [msgContentDataReset, hcopy]
    rfl
  · exact hlength.trans (h.block.trans hcapacity.symm)

theorem length_fillDown (value : ℕ → UInt8) (index : ℕ) (data : List UInt8) :
    (fillDown value index data).length = data.length := by
  induction index generalizing data with
  | zero => simp [fillDown]
  | succ index ih => simp [fillDown, ih]

theorem sound_fillWith (h : content.Sound) (hcapacity : 0 < content.capacity) (value : ℕ → UInt8) :
    ∃ after, content.fillWith value = some after ∧ after.Sound := by
  have hroom : content.capacity ≤ content.bytes.length := h.block.ge
  refine ⟨_, if_pos ⟨hcapacity, hroom⟩, Nat.le_refl _, ?_⟩
  have hblock := h.block
  cases hdata : content.data with
  | none => simpa [bytes, hdata] using hblock
  | some data =>
    rw [bytes, hdata, Option.getD_some] at hblock
    simp [bytes, length_fillDown, hblock]

theorem sound_plFixedInit {size : ℕ} {allocated status : Bool}
    (hsize : allocated = true → status = true → 0 < size) :
    ∃ after, content.plFixedInit size allocated status = some after ∧ after.Sound := by
  cases allocated with
  | false => exact ⟨_, rfl, sound_release _⟩
  | true =>
    cases status with
    | false => exact ⟨_, rfl, sound_release _⟩
    | true => exact sound_fillWith (sound_init content size true) (hsize rfl rfl) _

theorem sound_plVariableInit {size : ℕ} {allocated status : Bool} (random : ℕ → ℕ)
    (hupper : allocated = true → status = true → 0 < (variableBounds size).upper) :
    ∃ after, content.plVariableInit size allocated status random = some after ∧ after.Sound := by
  cases allocated with
  | false => exact ⟨_, rfl, sound_release _⟩
  | true =>
    cases status with
    | false => exact ⟨_, rfl, sound_release _⟩
    | true =>
      exact sound_fillWith (sound_init content (variableBounds size).upper true) (hupper rfl rfl) _

theorem sound_plVariableLoad (h : content.Sound) {bounds : VariableBounds} (random : ℕ)
    (hlimit : 0 < bounds.limit) (hroom : bounds.lower + bounds.limit ≤ content.capacity + 1) :
    ∃ after, content.plVariableLoad bounds random = some after ∧ after.Sound := by
  refine ⟨_, if_neg hlimit.ne', ?_, h.block⟩
  have hrandom := Nat.mod_lt random hlimit
  calc
    (bounds.lower + random % bounds.limit) % 2 ^ 64 ≤ bounds.lower + random % bounds.limit :=
      Nat.mod_le _ _
    _ ≤ content.capacity := by omega

/-- A message within the capacity arrives whole. -/
theorem sound_pahoReceive (h : content.Sound) {payload : List UInt8}
    (hfits : payload.length ≤ content.capacity) :
    ∃ after, content.pahoReceive payload = some after ∧ after.Sound ∧
      after.bytes.take after.size = payload.take after.size := by
  rcases memcpy_of_le (hfits.trans h.block.ge) with ⟨after, hcopy, hcapacity, hlength, hsource⟩
  refine ⟨{ after with size := payload.length }, ?_, ⟨?_, ?_⟩, ?_⟩
  · rw [pahoReceive, if_neg (not_lt.mpr hfits), hcopy]
    rfl
  · exact hfits.trans hcapacity.ge
  · exact hlength.trans (h.block.trans hcapacity.symm)
  · exact hsource.trans (List.take_length).symm

/-- A longer message leaves a size beyond the capacity. -/
theorem pahoReceive_of_lt (h : content.Sound) {payload : List UInt8}
    (hcapacity : 0 < content.capacity) (hlong : content.capacity < payload.length) :
    ∃ after, content.pahoReceive payload = some after ∧ after.size = payload.length ∧
      after.capacity = content.capacity := by
  have hfits : (payload.take (content.capacity - 1)).length ≤ content.bytes.length := by
    rw [List.length_take, h.block]
    omega
  rcases memcpy_of_le hfits with ⟨after, hcopy, hsame, -, -⟩
  refine ⟨{ after with size := payload.length }, ?_, rfl, hsame⟩
  rw [pahoReceive, if_pos hlong, if_neg hcapacity.ne', hcopy]
  rfl

end Content

/-! ## Every sequence of operations -/

theorem BufferSound.content {state : BufferState} (h : BufferSound state) : state.content.Sound :=
  ⟨h.sized, h.block⟩

/-- The buffer after a step that fits. -/
theorem BufferSound.step {state : BufferState} (h : BufferSound state) {step : BufferStep}
    (hguard : FitsBuffer state step) :
    ∃ after, step.content state = some after ∧ after.Sound ∧
      ∀ payload, step.received state = some payload →
        after.bytes.take after.size = payload.take after.size := by
  have hfree : ∀ {content : Option Content},
      (∃ after, content = some after ∧ after.Sound) → step.received state = none →
      ∃ after, content = some after ∧ after.Sound ∧
        ∀ payload, step.received state = some payload →
          after.bytes.take after.size = payload.take after.size := by
    rintro content ⟨after, hafter, hsound⟩ hnone
    exact ⟨after, hafter, hsound, fun payload hpayload ↦ by simp [hnone] at hpayload⟩
  cases step with
  | new size => exact hfree ⟨_, rfl, Content.sound_new size⟩ rfl
  | init size allocated => exact hfree ⟨_, rfl, Content.sound_init _ size allocated⟩ rfl
  | reset => exact hfree (Content.sound_reset h.content) rfl
  | copy source allocated => exact hfree ⟨_, rfl, Content.sound_copy _ source allocated⟩ rfl
  | fill value => exact hfree (Content.sound_fillWith h.content hguard _) rfl
  | rfill random => exact hfree (Content.sound_fillWith h.content hguard _) rfl
  | release => exact hfree ⟨_, rfl, Content.sound_release _⟩ rfl
  | plFixedInit size allocated status => exact hfree (Content.sound_plFixedInit hguard) rfl
  | plFixedLoad => exact ⟨state.content, rfl, h.content, h.received⟩
  | plVariableInit size allocated status random =>
    exact hfree (Content.sound_plVariableInit random hguard) rfl
  | plVariableLoad random =>
    exact hfree (Content.sound_plVariableLoad h.content random hguard.1 hguard.2) rfl
  | pahoReceive payload =>
    rcases Content.sound_pahoReceive h.content hguard with ⟨after, hafter, hsound, hprefix⟩
    refine ⟨after, hafter, hsound, fun other hother ↦ ?_⟩
    rw [← Option.some.inj hother]
    exact hprefix

/-- In every sequence of operations that fit the buffer, the buffer is sound. -/
theorem reachable_bufferSound {state : BufferState}
    (h : bufferMachine.ReachableUnder FitsBuffer state) : BufferSound state := by
  apply h.invariant
  · exact ⟨rfl, Nat.le_refl 0, rfl, fun payload hpayload ↦ by cases hpayload⟩
  · intro before step after hbefore hguard hnext
    rcases hbefore.step hguard with ⟨content, hcontent, hsound, hreceived⟩
    have hafter : bufferNext before step =
        some ⟨content, step.bounds before, step.received before, before.corrupted⟩ := by
      rw [bufferNext, hcontent]
    rw [← Option.some.inj (hafter.symm.trans hnext)]
    exact ⟨hbefore.intact, hsound.sized, hsound.block, hreceived⟩

/-- A buffer takes a message of its full length. -/
theorem fullMessage_bufferSound :
    ∃ state, bufferMachine.ReachableUnder FitsBuffer state ∧ state.content.size = 4 ∧
      state.received = some [1, 2, 3, 4] ∧ BufferSound state := by
  have hinitial : bufferMachine.ReachableUnder FitsBuffer bufferMachine.initial := .initial
  have hnew := hinitial.step (show FitsBuffer _ (.new 4) from trivial) rfl
  have hreceive := hnew.step (show FitsBuffer _ (.pahoReceive [1, 2, 3, 4]) from
    Nat.le_refl 4) rfl
  exact ⟨_, hreceive, rfl, rfl, reachable_bufferSound hreceive⟩

/-- A message that is one byte longer than the 256 bytes of the note buffer. -/
theorem longNote_not_bufferSound :
    ¬ ∀ state, bufferMachine.Reachable state → BufferSound state := by
  intro hevery
  rcases Content.pahoReceive_of_lt (Content.sound_new 256) (by decide)
    (show 256 < (List.replicate 257 1).length by rw [List.length_replicate]; decide) with ⟨content, hcontent, hsize, hcapacity⟩
  have hrun : bufferMachine.run bufferMachine.initial
      [.new 256, .pahoReceive (List.replicate 257 1)] =
        some ⟨content, ⟨0, 0, 0⟩, some (List.replicate 257 1), false⟩ := by
    have hnew : bufferNext bufferMachine.initial (.new 256) =
        some ⟨.msgContentDataNew 256, ⟨0, 0, 0⟩, none, false⟩ := by
      simp only [bufferNext, bufferMachine, BufferStep.content, BufferStep.bounds,
        BufferStep.received]
    have hnext : bufferNext ⟨.msgContentDataNew 256, ⟨0, 0, 0⟩, none, false⟩
        (.pahoReceive (List.replicate 257 1)) =
          some ⟨content, ⟨0, 0, 0⟩, some (List.replicate 257 1), false⟩ := by
      simp only [bufferNext, BufferStep.content, hcontent, BufferStep.bounds, BufferStep.received]
    have hmachine : bufferMachine.next = bufferNext := rfl
    simp only [Machine.run, hmachine, hnew, hnext, Option.bind_some]
  have hsized := (hevery _ (Machine.reachable_of_run _ hrun)).sized
  simp only [hsize, hcapacity, List.length_replicate, Content.msgContentDataNew] at hsized
  omega

end MsgPerf.Common
