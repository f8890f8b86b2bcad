import MsgPerf.Maestro.Deserialize

/-!
# Which inputs the deserializer accepts

The return value of the deserializer does not depend on memory: for every member it is decided by
the object at hand and by the static size of the destination.  `Field.outcome` is that decision
for one member and `fieldsOutcome` for a row of members.  From these the acceptance of a note is
described on the sequence of unpack results alone (`Clean`, `Masked`), and the deserializer is
shown to follow the description.
-/

namespace MsgPerf.Maestro

open MsgPerf.Library.ByteMemory

/-! ## What an assignment writes -/

inductive Assignment where
  | bytes (data : List UInt8)
  | unsupported
  | undefined
  deriving DecidableEq, Repr

/-- The bytes that an object of a supported kind writes to its destination. -/
def Object.assignment (object : Object) : Assignment :=
  match object.type with
  | .boolean => .bytes (toLE 1 object.via.toNat)
  | .positiveInteger | .negativeInteger | .float => .bytes (toLE 8 object.via.toNat)
  | .str =>
      if object.strSize < 2 ^ 31 then .bytes (object.bytes.takeWhile (· ≠ 0) ++ [0]) else .undefined
  | _ => .unsupported

/-- The buffer length passed to `snprintf` never truncates the text. -/
theorem snprintfText_of_str {object : Object} (h : object.type = .str) :
    snprintfText ((object.strSize + 1) % 2 ^ 32) object.strSize object.bytes =
      if object.strSize < 2 ^ 31 then some (object.bytes.takeWhile (· ≠ 0) ++ [0]) else none := by
  have hsize := Object.strSize_of_str h
  unfold snprintfText
  by_cases hlong : object.strSize < 2 ^ 31
  · have hprefix : (object.bytes.takeWhile (· ≠ 0)).length ≤ object.bytes.length :=
      (List.takeWhile_sublist _).length_le
    have hlength : (object.strSize + 1) % 2 ^ 32 = object.strSize + 1 :=
      Nat.mod_eq_of_lt (by omega)
    rw [if_neg (by omega), hlength, if_neg (by omega), if_pos hlong, Nat.add_sub_cancel, hsize,
      List.take_length, List.take_of_length_le hprefix]
  · rw [if_pos (by omega), if_neg hlong]

theorem maestroDeserializeNoteAssign_eq (object : Object) (address offset : ℕ)
    (state : DecodeState) :
    maestroDeserializeNoteAssign object address offset state =
      match object.assignment with
      | .bytes data => state.storeAt address offset data
      | .unsupported => some (state.fail ("Unsupported type: " ++ toString object.type.code))
      | .undefined => none := by
  unfold maestroDeserializeNoteAssign Object.assignment
  cases htype : object.type with
  | str =>
    simp only [snprintfText_of_str htype]
    by_cases hlong : object.strSize < 2 ^ 31
    · simp only [if_pos hlong, Option.bind_some]
    · simp only [if_neg hlong, Option.bind_none]
  | _ => rfl

/-! ## Outcomes -/

/-- What becomes of one member: its object is stored, it is refused with a recorded failure, or
its store leaves the destination. -/
inductive FieldOutcome where
  | stored
  | refused
  | overflow
  deriving DecidableEq, Repr

def Object.outcome (object : Object) (room : ℕ) : FieldOutcome :=
  match object.assignment with
  | .bytes data => if data.length ≤ room then .stored else .overflow
  | .unsupported => .refused
  | .undefined => .overflow

/-- The bytes a member can take: the rest of the payload, or the buffer allocated for it. -/
def Field.room (field : Field) (object : Object) : ℕ :=
  if field.kind = .string then (object.strSize + 1) % 2 ^ 32 else payloadSize - field.offset

def Field.outcome (field : Field) : UnpackReturn → FieldOutcome
  | .success object => object.outcome (field.room object)
  | _ => .refused

/-- The outcome of a row of members read from result `start` on, with the number of results
consumed. -/
def fieldsOutcome (results : ℕ → UnpackReturn) : List Field → ℕ → FieldOutcome × ℕ
  | [], _ => (.stored, 0)
  | field :: fields, start =>
      match field.outcome (results start) with
      | .stored =>
          ((fieldsOutcome results fields (start + 1)).1,
            (fieldsOutcome results fields (start + 1)).2 + 1)
      | outcome => (outcome, 1)

theorem fieldsOutcome_stored_length {results : ℕ → UnpackReturn} {fields : List Field}
    {start : ℕ} (h : (fieldsOutcome results fields start).1 = .stored) :
    (fieldsOutcome results fields start).2 = fields.length := by
  induction fields generalizing start with
  | nil => rfl
  | cons field fields ih =>
    simp only [fieldsOutcome] at h ⊢
    split at h
    · simp only [List.length_cons]
      rw [ih h]
    · rename_i hnot
      exact absurd h hnot

theorem fieldsOutcome_append_stored {results : ℕ → UnpackReturn} {first second : List Field}
    {start : ℕ} :
    (fieldsOutcome results (first ++ second) start).1 = .stored ↔
      (fieldsOutcome results first start).1 = .stored ∧
        (fieldsOutcome results second (start + first.length)).1 = .stored := by
  induction first generalizing start with
  | nil => simp [fieldsOutcome]
  | cons field first ih =>
    have hshift : start + (first.length + 1) = start + 1 + first.length := by omega
    simp only [List.cons_append, fieldsOutcome, List.length_cons]
    split
    · simp only [hshift]
      exact ih
    · rename_i hnot
      exact ⟨fun h ↦ absurd h hnot, fun h ↦ absurd h.1 hnot⟩

/-! ## The deserializer follows the outcomes -/

/-- The memory of a note whose payload has been prepared.  The decoding of members leaves the
block of the note alone. -/
structure Prepared (heap : Heap) (note : ℕ) (head : Block) (payload : ℕ) : Prop where
  held : heap.block? note = some head
  pointer : notePayload heap note = some payload
  body : ∃ body, heap.block? payload = some body ∧ body.length = payloadSize
  older : note < payload

/-- A defined result follows an outcome: the flag says whether it was stored, a refusal leaves a
recorded failure, and anything else leaves the status alone. -/
def Decoded.Follows (decoded : Decoded) (outcome : FieldOutcome) (status : Status)
    (post : DecodeState → Prop) : Prop :=
  match outcome with
  | .stored => ∃ state, decoded = some (true, state) ∧ state.status = status ∧ post state
  | .refused => ∃ state, decoded = some (false, state) ∧ state.status.failed = true ∧ post state
  | .overflow => decoded = none

theorem Decoded.Follows.imp {decoded : Decoded} {outcome : FieldOutcome} {status : Status}
    {post weaker : DecodeState → Prop} (h : decoded.Follows outcome status post)
    (himp : ∀ state, post state → weaker state) : decoded.Follows outcome status weaker := by
  cases outcome with
  | stored =>
    rcases h with ⟨state, hdecode, hstatus, hpost⟩
    exact ⟨state, hdecode, hstatus, himp state hpost⟩
  | refused =>
    rcases h with ⟨state, hdecode, hfailed, hpost⟩
    exact ⟨state, hdecode, hfailed, himp state hpost⟩
  | overflow => exact h

theorem notePayload_of_block {left right : Heap} {note : ℕ}
    (h : left.block? note = right.block? note) : notePayload left note = notePayload right note := by
  unfold notePayload Heap.loadWord Heap.load
  rw [h]

theorem noteCommand_of_block {left right : Heap} {note : ℕ}
    (h : left.block? note = right.block? note) : noteCommand left note = noteCommand right note := by
  unfold noteCommand Heap.loadWord Heap.load
  rw [h]

theorem noteType_of_block {left right : Heap} {note : ℕ}
    (h : left.block? note = right.block? note) : noteType left note = noteType right note := by
  unfold noteType Heap.loadWord Heap.load
  rw [h]

namespace Prepared

variable {heap after : Heap} {note payload : ℕ} {head : Block}

theorem distinct (h : Prepared heap note head payload) : note ≠ payload := h.older.ne

theorem alloc (h : Prepared heap note head payload) (size : ℕ) :
    Prepared (heap.alloc size).1 note head payload := by
  have hnote : (heap.alloc size).1.block? note = some head := Heap.block?_alloc_of_some h.held
  rcases h.body with ⟨body, hbody, hlength⟩
  refine ⟨hnote, ?_, ⟨body, Heap.block?_alloc_of_some hbody, hlength⟩, h.older⟩
  rw [notePayload_of_block (hnote.trans h.held.symm)]
  exact h.pointer

/-- A store to any block but the note keeps the payload prepared. -/
theorem store {address offset : ℕ} {data : List UInt8} (h : Prepared heap note head payload)
    (hstore : heap.store address offset data = some after) (haddress : note ≠ address) :
    Prepared after note head payload := by
  rcases Heap.store_eq_some hstore with ⟨block, changed, hblock, hwrite, hafter, hframe, _⟩
  have hnote := hframe note haddress
  rcases h.body with ⟨body, hbody, hlength⟩
  refine ⟨hnote.trans h.held, ?_, ?_, h.older⟩
  · rw [notePayload_of_block hnote]
    exact h.pointer
  · by_cases hsame : payload = address
    · subst hsame
      have hchanged : block = body := Option.some.inj (hblock.symm.trans hbody)
      exact ⟨changed, hafter, by rw [Block.length_write hwrite, hchanged, hlength]⟩
    · exact ⟨body, by rw [hframe payload hsame, hbody], hlength⟩

end Prepared

/-- An assignment to a destination with the given room, in a block other than the note. -/
theorem assign_follows (state : DecodeState) {note payload address : ℕ} (offset : ℕ)
    {head target : Block} (object : Object) (h : Prepared state.heap note head payload)
    (htarget : state.heap.block? address = some target) (haddress : note ≠ address)
    (hoffset : offset ≤ target.length) :
    Decoded.Follows (maestroDeserializeNoteAssign object address offset state)
      (object.outcome (target.length - offset)) state.status
      (fun after ↦ after.offset = state.offset ∧ Prepared after.heap note head payload) := by
  rw [maestroDeserializeNoteAssign_eq]
  unfold Object.outcome
  cases hassign : object.assignment with
  | bytes data =>
    by_cases hfits : data.length ≤ target.length - offset
    · rcases Heap.store_of_le htarget (show offset + data.length ≤ target.length by omega)
        with ⟨heap, hstore⟩
      simp only [hfits, if_true, Decoded.Follows, DecodeState.storeAt, hstore, Option.map_some]
      exact ⟨_, rfl, rfl, rfl, h.store hstore haddress⟩
    · have hnone := Heap.store_eq_none htarget (show ¬ offset + data.length ≤ target.length by omega)
      simp only [hfits, if_false, Decoded.Follows, DecodeState.storeAt, hnone, Option.map_none]
  | unsupported => exact ⟨_, rfl, rfl, rfl, h⟩
  | undefined => rfl

section

variable (mp : Msgpack) (input : List UInt8)

theorem decodeField_follows (state : DecodeState) {note payload index : ℕ} {head : Block}
    (field : Field) (missing : String) (h : Prepared state.heap note head payload)
    (hoffset : state.offset = mp.offsetAt input index) :
    Decoded.Follows (decodeField mp input note field missing state)
      (field.outcome (mp.result input index)) state.status
      (fun after ↦ after.offset = mp.offsetAt input (index + 1) ∧
        Prepared after.heap note head payload) := by
  have hnext : msgpackUnpackNext mp input state =
      (mp.result input index, { state with offset := mp.offsetAt input (index + 1) }) := by
    rw [msgpackUnpackNext, hoffset, Msgpack.unpackNext_offsetAt]
  unfold decodeField
  rw [hnext]
  cases hresult : mp.result input index with
  | success object =>
    simp only [h.pointer, Option.bind_some, Field.outcome, Field.room]
    by_cases hkind : field.kind = .string
    · -- the buffer is fresh, so the note and the payload are other blocks
      simp only [if_pos hkind]
      have hfresh := h.alloc ((object.strSize + 1) % 2 ^ 32)
      rcases hfresh.body with ⟨body, hbody, hlength⟩
      have hroom : field.offset + 8 ≤ body.length := by
        rw [hlength]
        exact field.offset_add_le
      rcases Heap.storeWord_of_le (state.heap.alloc ((object.strSize + 1) % 2 ^ 32)).2 hbody hroom
        with ⟨heap, hstore⟩
      have hprepared := hfresh.store hstore hfresh.distinct
      have haddress : note ≠ (state.heap.alloc ((object.strSize + 1) % 2 ^ 32)).2 := by
        have hlt := Heap.block?_lt h.held
        rw [Heap.alloc_address]
        omega
      have hpayload : (state.heap.alloc ((object.strSize + 1) % 2 ^ 32)).2 ≠ payload := by
        rcases h.body with ⟨_, hold, _⟩
        have hlt := Heap.block?_lt hold
        rw [Heap.alloc_address]
        omega
      have htarget : heap.block? (state.heap.alloc ((object.strSize + 1) % 2 ^ 32)).2 =
          some (List.replicate ((object.strSize + 1) % 2 ^ 32) 0) := by
        rcases Heap.store_eq_some hstore with ⟨_, _, _, _, _, hframe, _⟩
        rw [hframe _ hpayload, Heap.block?_alloc_fresh]
      simp only [hstore, Option.bind_some]
      have hassign := assign_follows ⟨heap, mp.offsetAt input (index + 1), state.status⟩ 0
        object hprepared htarget haddress (Nat.zero_le _)
      simpa only [List.length_replicate, Nat.sub_zero] using hassign
    · simp only [if_neg hkind]
      rcases h.body with ⟨body, hbody, hlength⟩
      have hbound := field.offset_add_le
      have hassign := assign_follows
        ⟨state.heap, mp.offsetAt input (index + 1), state.status⟩ field.offset object h hbody
        h.distinct (by rw [hlength, payloadSize]; omega)
      simpa only [hlength] using hassign
  | _ => exact ⟨_, rfl, rfl, rfl, h⟩

/-- A row of members follows the outcome of the row. -/
theorem decodeFields_follows {note payload : ℕ} {head : Block} (fields : List (Field × String))
    (state : DecodeState) {index : ℕ} (h : Prepared state.heap note head payload)
    (hoffset : state.offset = mp.offsetAt input index) :
    Decoded.Follows (decodeFields mp input note fields state)
      (fieldsOutcome (mp.result input) (fields.map Prod.fst) index).1 state.status
      (fun after ↦ after.offset = mp.offsetAt input
          (index + (fieldsOutcome (mp.result input) (fields.map Prod.fst) index).2) ∧
        Prepared after.heap note head payload) := by
  induction fields generalizing state index with
  | nil => exact ⟨state, rfl, rfl, hoffset, h⟩
  | cons entry fields ih =>
    rcases entry with ⟨field, missing⟩
    have hfield := decodeField_follows mp input state field missing h hoffset
    simp only [decodeFields, List.map_cons, fieldsOutcome]
    cases houtcome : field.outcome (mp.result input index) with
    | stored =>
      rw [houtcome] at hfield
      rcases hfield with ⟨next, hdecode, hstatus, hnext, hprepared⟩
      have hrest := ih next hprepared hnext
      rw [hstatus] at hrest
      have hshift : ∀ count, index + 1 + count = index + (count + 1) := by
        intro count
        omega
      simp only [hdecode, Option.bind_some, if_true]
      simpa only [hshift] using hrest
    | refused =>
      rw [houtcome] at hfield
      rcases hfield with ⟨next, hdecode, hstatus, hnext, hprepared⟩
      rw [hdecode]
      exact ⟨next, rfl, hstatus, hnext, hprepared⟩
    | overflow =>
      rw [houtcome] at hfield
      change decodeField mp input note field missing state = none at hfield
      simp only [hfield, Option.bind_none, Decoded.Follows]

end

/-! ## Type and command -/

/-- The value left in `note->type`: the eight byte store keeps the low half there. -/
def wireType (type : Object) : ℕ := type.via.toNat % 2 ^ 32

/-- The value left in `note->command`: the first four bytes of what the command object writes,
completed by the upper half of the type when it writes fewer. -/
def wireCommand (type command : Object) : ℕ :=
  match command.assignment with
  | .bytes data => ofLE ((data ++ (toLE 4 (type.via.toNat / 2 ^ 32)).drop data.length).take 4)
  | _ => 0

/-- The type and command of an input whose first two objects are stored. -/
def head? (results : ℕ → UnpackReturn) : Option (ℕ × ℕ) :=
  match results 0, results 1 with
  | .success type, .success command =>
      if type.type = .positiveInteger ∧ command.outcome (noteSize - commandOffset) = .stored then
        some (wireType type, wireCommand type command)
      else none
  | _, _ => none

/-- The payload members read for a type and a command, as the two switches select them. -/
def responseBody (command : ℕ) : List Field :=
  if command = Command.ping.code then [.pingElapsed]
  else if command = Command.stats.code then
    [.childCount, .role, .roleinfo, .statType, .perfTimestamp, .perfCount, .perfRate, .perfLatency]
  else []

def requestFields (command : ℕ) : List Field :=
  if command = Command.set.code then [.setOpt, .setValue]
  else if command = Command.ping.code then [.pingSec, .pingUsec]
  else []

def responseHeader : List Field := [.responseId, .responseName]

def notificationFields : List Field := [.notificationId, .notificationName, .notificationMessage]

def wireLayout (type command : ℕ) : List Field :=
  if type = RequestType.response.code then responseHeader ++ responseBody command
  else if type = RequestType.request.code then requestFields command
  else if type = RequestType.notification.code then notificationFields
  else []

theorem wireLayout_code (type : RequestType) (command : Command) :
    wireLayout type.code command.code = layout type command := by
  cases type <;> cases command <;> rfl

/-- Every member of the layout is stored. -/
def Clean (results : ℕ → UnpackReturn) : Prop :=
  ∃ type command, head? results = some (type, command) ∧
    (fieldsOutcome results (wireLayout type command) 2).1 = .stored

/-- A ping or stats response whose id or name is refused, while the members of the body, read from
the object after the refused one, are stored. -/
def MaskedAt (results : ℕ → UnpackReturn) (type command : ℕ) : Prop :=
  type = RequestType.response.code ∧
    (command = Command.ping.code ∨ command = Command.stats.code) ∧
    (fieldsOutcome results responseHeader 2).1 = .refused ∧
    (fieldsOutcome results (responseBody command)
      (2 + (fieldsOutcome results responseHeader 2).2)).1 = .stored

def Masked (results : ℕ → UnpackReturn) : Prop :=
  ∃ type command, head? results = some (type, command) ∧ MaskedAt results type command

/-! ## The payload stage -/

/-- `maestro_note_payload_prepare` on a note that fits its block. -/
theorem prepare_spec {heap : Heap} {note : ℕ} {head : Block}
    (hnote : heap.block? note = some head) (hsize : head.length = noteSize)
    (hroom : heap.blocks.length + 1 < 2 ^ 64) :
    ∃ after changed, maestroNotePayloadPrepare heap note = some after ∧
      Prepared after note changed (heap.blocks.length + 1) ∧
      noteType after note = noteType heap note ∧
      noteCommand after note = noteCommand heap note := by
  have hheld : (heap.alloc payloadSize).1.block? note = some head := Heap.block?_alloc_of_some hnote
  have hlt := Heap.block?_lt hnote
  rcases Heap.storeWord_of_le (heap.alloc payloadSize).2 hheld
    (show payloadOffset + 8 ≤ head.length by rw [hsize]; decide) with ⟨after, hstore⟩
  have hbefore : ∀ start width, start + width ≤ payloadOffset →
      after.loadWord note start width = heap.loadWord note start width := by
    intro start width hwindow
    rw [Heap.loadWord_store_disjoint hstore (Or.inl hwindow)]
    unfold Heap.loadWord Heap.load
    rw [hheld, hnote]
  have hpointer : notePayload after note = some (heap.blocks.length + 1) := by
    have hload := Heap.loadWord_storeWord hstore
    rw [Heap.alloc_address, Nat.mod_eq_of_lt (by norm_num; omega)] at hload
    exact hload
  rcases Heap.store_eq_some hstore with ⟨_, changed, _, _, hafter, hframe, _⟩
  have hbody : after.block? (heap.blocks.length + 1) = some (List.replicate payloadSize 0) := by
    rw [hframe _ (by omega), ← Heap.alloc_address heap payloadSize, Heap.block?_alloc_fresh]
  refine ⟨after, changed, hstore, ⟨hafter, hpointer, ⟨_, hbody, by simp⟩, by omega⟩, ?_, ?_⟩
  · exact hbefore typeOffset 4 (by decide)
  · exact hbefore commandOffset 4 (by decide)

/-- An accepted note in memory: its type and command, and a payload when its layout has members. -/
structure Delivered (heap : Heap) (note type command : ℕ) : Prop where
  payload : wireLayout type command ≠ [] →
    ∃ payload, payload ≠ 0 ∧ notePayload heap note = some payload
  type : noteType heap note = some type
  command : noteCommand heap note = some command

/-- A prepared note keeps its type and command while members are stored. -/
theorem Prepared.delivered {heap after : Heap} {note payload type command : ℕ} {head : Block}
    (hafter : Prepared after note head payload) (h : Prepared heap note head payload)
    (htype : noteType heap note = some type) (hcommand : noteCommand heap note = some command) :
    Delivered after note type command := by
  have hsame := hafter.held.trans h.held.symm
  have hpositive := (Nat.zero_le note).trans_lt hafter.older
  refine ⟨fun _ ↦ ⟨payload, hpositive.ne', hafter.pointer⟩, ?_, ?_⟩
  · rw [noteType_of_block hsame, htype]
  · rw [noteCommand_of_block hsame, hcommand]

section

variable (mp : Msgpack) (input : List UInt8)

/-- Preparing the payload and decoding a row of members. -/
theorem withPayload_follows {state : DecodeState} {note index type command : ℕ} {head : Block}
    (fields : List (Field × String)) (hnote : state.heap.block? note = some head)
    (hsize : head.length = noteSize) (hroom : state.heap.blocks.length + 1 < 2 ^ 64)
    (hoffset : state.offset = mp.offsetAt input index)
    (htype : noteType state.heap note = some type)
    (hcommand : noteCommand state.heap note = some command) :
    Decoded.Follows (withPayload note (decodeFields mp input note fields) state)
      (fieldsOutcome (mp.result input) (fields.map Prod.fst) index).1 state.status
      (fun after ↦ Delivered after.heap note type command) := by
  rcases prepare_spec hnote hsize hroom with ⟨heap, changed, hprepare, hprepared, hkept, hkeeps⟩
  have hrow := decodeFields_follows mp input fields { state with heap := heap } hprepared hoffset
  unfold withPayload
  rw [hprepare, Option.bind_some]
  refine hrow.imp fun after hafter ↦ ?_
  exact hafter.2.delivered hprepared (hkept.trans htype) (hkeeps.trans hcommand)

theorem decodeFields_append (note : ℕ) (first second : List (Field × String))
    (state : DecodeState) :
    decodeFields mp input note (first ++ second) state =
      (decodeFields mp input note first state).bind fun (ok, state) ↦
        if ok then decodeFields mp input note second state else some (false, state) := by
  induction first generalizing state with
  | nil => rfl
  | cons entry first ih =>
    rcases entry with ⟨field, missing⟩
    simp only [List.cons_append, decodeFields]
    cases decodeField mp input note field missing state with
    | none => rfl
    | some decoded =>
      rcases decoded with ⟨ok, next⟩
      cases ok with
      | false => rfl
      | true => exact ih next

/-- A call settles: accepted with the status as it was, accepted with a failure recorded on the
way, or not accepted. -/
def Decoded.Settles (decoded : Decoded) (clean masked : Prop) (status : Status)
    (post : DecodeState → Prop) : Prop :=
  (clean ∧ ∃ after, decoded = some (true, after) ∧ after.status = status ∧ post after) ∨
    (masked ∧ ∃ after, decoded = some (true, after) ∧ after.status.failed = true ∧ post after) ∨
    (¬ clean ∧ ¬ masked ∧
      ((∃ after, decoded = some (false, after) ∧ after.status.failed = true) ∨ decoded = none))

theorem Decoded.Settles.imp {decoded : Decoded} {clean masked : Prop} {status : Status}
    {post weaker : DecodeState → Prop} (h : decoded.Settles clean masked status post)
    (himp : ∀ state, post state → weaker state) : decoded.Settles clean masked status weaker := by
  rcases h with ⟨hclean, after, hdecode, hstatus, hpost⟩ |
    ⟨hmasked, after, hdecode, hfailed, hpost⟩ | hrest
  · exact Or.inl ⟨hclean, after, hdecode, hstatus, himp after hpost⟩
  · exact Or.inr (Or.inl ⟨hmasked, after, hdecode, hfailed, himp after hpost⟩)
  · exact Or.inr (Or.inr hrest)

theorem Decoded.Follows.settles {decoded : Decoded} {outcome : FieldOutcome} {status : Status}
    {post : DecodeState → Prop} {clean masked : Prop} (h : decoded.Follows outcome status post)
    (hclean : clean ↔ outcome = .stored) (hmasked : ¬ masked) :
    decoded.Settles clean masked status post := by
  cases outcome with
  | stored => exact Or.inl ⟨hclean.mpr rfl, h⟩
  | refused =>
    rcases h with ⟨after, hdecode, hfailed, _⟩
    have hnot : ¬ clean := fun hc ↦ by cases hclean.mp hc
    exact Or.inr (Or.inr ⟨hnot, hmasked, Or.inl ⟨after, hdecode, hfailed⟩⟩)
  | overflow =>
    have hnot : ¬ clean := fun hc ↦ by cases hclean.mp hc
    exact Or.inr (Or.inr ⟨hnot, hmasked, Or.inr h⟩)

/-- A header row whose flag is dropped, followed by a body row. -/
theorem headerThenBody_settles (state : DecodeState) {note payload command : ℕ} {head : Block}
    (header body : List (Field × String)) (h : Prepared state.heap note head payload)
    (hoffset : state.offset = mp.offsetAt input 2)
    (hheader : header.map Prod.fst = responseHeader)
    (hbody : body.map Prod.fst = responseBody command)
    (hcommand : command = Command.ping.code ∨ command = Command.stats.code) :
    Decoded.Settles
      ((decodeFields mp input note header state).bind fun (_, next) ↦
        decodeFields mp input note body next)
      ((fieldsOutcome (mp.result input) (responseHeader ++ responseBody command) 2).1 = .stored)
      (MaskedAt (mp.result input) RequestType.response.code command) state.status
      (fun after ↦ Prepared after.heap note head payload) := by
  have hfirst := decodeFields_follows mp input header state h hoffset
  rw [hheader] at hfirst
  rw [fieldsOutcome_append_stored]
  unfold MaskedAt
  cases houtcome : (fieldsOutcome (mp.result input) responseHeader 2).1 with
  | stored =>
    have hcount := fieldsOutcome_stored_length houtcome
    rw [houtcome, hcount] at hfirst
    rcases hfirst with ⟨next, hdecode, hstatus, hnext, hprepared⟩
    have hsecond := decodeFields_follows mp input body next hprepared hnext
    rw [hbody, hstatus] at hsecond
    rw [hdecode, Option.bind_some]
    have hkept : Decoded.Follows (decodeFields mp input note body next)
        (fieldsOutcome (mp.result input) (responseBody command)
          (2 + responseHeader.length)).1 state.status
        (fun after ↦ Prepared after.heap note head payload) :=
      hsecond.imp fun after hafter ↦ hafter.2
    exact hkept.settles (by simp) (by simp)
  | refused =>
    rw [houtcome] at hfirst
    rcases hfirst with ⟨next, hdecode, hfailed, hnext, hprepared⟩
    have hsecond := decodeFields_follows mp input body next hprepared hnext
    rw [hbody] at hsecond
    rw [hdecode, Option.bind_some]
    generalize hlast : (fieldsOutcome (mp.result input) (responseBody command)
      (2 + (fieldsOutcome (mp.result input) responseHeader 2).2)).1 = last at hsecond ⊢
    cases last with
    | stored =>
      -- the body succeeds after the refused header: the failure stays only in the status
      rcases hsecond with ⟨after, hafter, hstatus, _, hheld⟩
      refine Or.inr (Or.inl ⟨⟨rfl, hcommand, rfl, rfl⟩, after, hafter, ?_, hheld⟩)
      rw [hstatus, hfailed]
    | refused =>
      rcases hsecond with ⟨after, hafter, hlater, _, _⟩
      exact Or.inr (Or.inr ⟨by simp, by simp, Or.inl ⟨after, hafter, hlater⟩⟩)
    | overflow => exact Or.inr (Or.inr ⟨by simp, by simp, Or.inr hsecond⟩)
  | overflow =>
    rw [houtcome] at hfirst
    change decodeFields mp input note header state = none at hfirst
    rw [hfirst, Option.bind_none]
    exact Or.inr (Or.inr ⟨by simp, by simp, Or.inr rfl⟩)

/-- The switch of the response stage, whatever became of the header. -/
theorem maestroDeserializeResponse_switch {state : DecodeState} {note command payload : ℕ}
    {heap : Heap} {changed : Block} (hprepare : maestroNotePayloadPrepare state.heap note = some heap)
    (hprepared : Prepared heap note changed payload) (hoffset : state.offset = mp.offsetAt input 2)
    (hread : ∀ next : DecodeState, Prepared next.heap note changed payload →
      noteCommand next.heap note = some command) :
    maestroDeserializeResponse mp input note state =
      (decodeFields mp input note responseHeaderRow { state with heap := heap }).bind
        fun (ok, next) ↦
          if command = Command.ping.code then
            maestroDeserializeNotePingResponse mp input note next
          else if command = Command.stats.code then
            maestroDeserializeNoteStatsResponse mp input note next
          else some (ok, next) := by
  have hheader := decodeFields_follows mp input responseHeaderRow { state with heap := heap }
    hprepared hoffset
  unfold maestroDeserializeResponse withPayload maestroDeserializeResponseHeader
  rw [hprepare, Option.bind_some]
  change (decodeFields mp input note responseHeaderRow { state with heap := heap }).bind _ = _
  cases houtcome : (fieldsOutcome (mp.result input) (responseHeaderRow.map Prod.fst) 2).1 with
  | overflow =>
    rw [houtcome] at hheader
    change decodeFields mp input note responseHeaderRow { state with heap := heap } = none at hheader
    rw [hheader]
    rfl
  | _ =>
    rw [houtcome] at hheader
    rcases hheader with ⟨next, hdecode, _, _, hnext⟩
    rw [hdecode, Option.bind_some, Option.bind_some]
    simp only [hread next hnext, Option.bind_some]

/-- The response stage: the header row decides unless a body row follows it. -/
theorem maestroDeserializeResponse_settles {state : DecodeState} {note command : ℕ}
    {head : Block} (hnote : state.heap.block? note = some head) (hsize : head.length = noteSize)
    (hroom : state.heap.blocks.length + 1 < 2 ^ 64) (hoffset : state.offset = mp.offsetAt input 2)
    (htype : noteType state.heap note = some RequestType.response.code)
    (hcommand : noteCommand state.heap note = some command) :
    Decoded.Settles (maestroDeserializeResponse mp input note state)
      ((fieldsOutcome (mp.result input) (responseHeader ++ responseBody command) 2).1 = .stored)
      (MaskedAt (mp.result input) RequestType.response.code command) state.status
      (fun after ↦ Delivered after.heap note RequestType.response.code command) := by
  rcases prepare_spec hnote hsize hroom with ⟨heap, changed, hprepare, hprepared, hkept, hkeeps⟩
  let prepared : DecodeState := { state with heap := heap }
  have hkeep : ∀ after : DecodeState,
      Prepared after.heap note changed (state.heap.blocks.length + 1) →
      Delivered after.heap note RequestType.response.code command := by
    intro after hafter
    exact hafter.delivered hprepared (hkept.trans htype) (hkeeps.trans hcommand)
  have hheader := decodeFields_follows mp input responseHeaderRow prepared hprepared hoffset
  have hswitch := maestroDeserializeResponse_switch mp input hprepare hprepared hoffset
    fun next hnext ↦ (hkeep next hnext).command
  rw [hswitch]
  by_cases hping : command = Command.ping.code
  · simp only [if_pos hping]
    exact (headerThenBody_settles mp input prepared responseHeaderRow pingResponseRow hprepared
      hoffset rfl (by rw [hping]; rfl) (Or.inl hping)).imp hkeep
  · simp only [if_neg hping]
    by_cases hstats : command = Command.stats.code
    · simp only [if_pos hstats]
      exact (headerThenBody_settles mp input prepared responseHeaderRow statsResponseRow hprepared
        hoffset rfl (by rw [hstats]; rfl) (Or.inr hstats)).imp hkeep
    · simp only [if_neg hstats]
      have hbody : responseBody command = [] := by
        unfold responseBody
        rw [if_neg hping, if_neg hstats]
      have hsame : ((decodeFields mp input note responseHeaderRow prepared).bind fun (ok, next) ↦
          some (ok, next)) = decodeFields mp input note responseHeaderRow prepared := by
        cases decodeFields mp input note responseHeaderRow prepared <;> rfl
      rw [hsame, hbody, List.append_nil]
      exact (hheader.imp fun after hafter ↦ hkeep after hafter.2).settles Iff.rfl
        fun hmasked ↦ hmasked.2.1.elim hping hstats

/-- Header and message of a notification are read as one row. -/
theorem maestroDeserializeNotification_eq (note : ℕ) (state : DecodeState) :
    maestroDeserializeNotification mp input note state =
      withPayload note (decodeFields mp input note
        (notificationHeaderRow ++ notificationMessageRow)) state := by
  unfold maestroDeserializeNotification withPayload maestroDeserializeNotificationHeader
  simp only [decodeFields_append]

/-- The whole payload stage. -/
theorem deserializePayload_settles {state : DecodeState} {note type command : ℕ} {head : Block}
    (hnote : state.heap.block? note = some head) (hsize : head.length = noteSize)
    (hroom : state.heap.blocks.length + 1 < 2 ^ 64) (hoffset : state.offset = mp.offsetAt input 2)
    (htype : noteType state.heap note = some type)
    (hcommand : noteCommand state.heap note = some command) :
    Decoded.Settles (deserializePayload mp input note state)
      ((fieldsOutcome (mp.result input) (wireLayout type command) 2).1 = .stored)
      (MaskedAt (mp.result input) type command) state.status
      (fun after ↦ Delivered after.heap note type command) := by
  have hempty : wireLayout type command = [] → Delivered state.heap note type command :=
    fun hnone ↦ ⟨fun hsome ↦ absurd hnone hsome, htype, hcommand⟩
  unfold deserializePayload
  unfold wireLayout at hempty ⊢
  rw [htype, Option.bind_some]
  by_cases hresponse : type = RequestType.response.code
  · subst hresponse
    simp only [if_true]
    exact maestroDeserializeResponse_settles mp input hnote hsize hroom hoffset htype hcommand
  · have hunmasked : ¬ MaskedAt (mp.result input) type command := fun h ↦ hresponse h.1
    simp only [if_neg hresponse] at hempty ⊢
    by_cases hrequest : type = RequestType.request.code
    · simp only [if_pos hrequest] at hempty ⊢
      unfold requestFields at hempty
      unfold maestroDeserializeRequest requestFields
      rw [hcommand, Option.bind_some]
      by_cases hset : command = Command.set.code
      · simp only [if_pos hset]
        have hrow := withPayload_follows mp input setRequestRow hnote hsize hroom hoffset htype
          hcommand
        exact hrow.settles Iff.rfl hunmasked
      · simp only [if_neg hset] at hempty ⊢
        by_cases hping : command = Command.ping.code
        · simp only [if_pos hping]
          have hrow := withPayload_follows mp input pingRequestRow hnote hsize hroom hoffset htype
            hcommand
          exact hrow.settles Iff.rfl hunmasked
        · simp only [if_neg hping] at hempty ⊢
          exact Or.inl ⟨rfl, state, rfl, rfl, hempty trivial⟩
    · simp only [if_neg hrequest] at hempty ⊢
      by_cases hnotification : type = RequestType.notification.code
      · simp only [if_pos hnotification]
        have hrow := withPayload_follows mp input
          (notificationHeaderRow ++ notificationMessageRow) hnote hsize hroom hoffset htype hcommand
        rw [← maestroDeserializeNotification_eq] at hrow
        exact hrow.settles Iff.rfl hunmasked
      · simp only [if_neg hnotification] at hempty ⊢
        exact Or.inl ⟨rfl, state, rfl, rfl, hempty trivial⟩

/-! ## The head stage -/

/-- The note after its type has been stored: the upper half of the object is in the command. -/
def typedNote (type : Object) : Block := toLE 8 type.via.toNat ++ List.replicate 8 0

theorem deserializeType_of_positive {type : Object} (status : Status)
    (hresult : mp.result input 0 = .success type) (hkind : type.type = .positiveInteger) :
    deserializeType mp input noteAddress ⟨zeroNote, 0, status⟩ =
      some (true, ⟨⟨[typedNote type]⟩, mp.offsetAt input 1, status⟩) := by
  have hnext : msgpackUnpackNext mp input ⟨zeroNote, 0, status⟩ =
      (.success type, ⟨zeroNote, mp.offsetAt input 1, status⟩) := by
    rw [← hresult]
    rfl
  have hassign : type.assignment = .bytes (toLE 8 type.via.toNat) := by
    unfold Object.assignment
    rw [hkind]
  unfold deserializeType
  rw [hnext]
  simp only [if_pos hkind, maestroDeserializeNoteAssign_eq, hassign]
  rfl

theorem deserializeType_of_not_positive (status : Status)
    (h : ∀ type, mp.result input 0 = .success type → type.type ≠ .positiveInteger) :
    ∃ after, deserializeType mp input noteAddress ⟨zeroNote, 0, status⟩ = some (false, after) ∧
      after.status.failed = true := by
  have hnext : msgpackUnpackNext mp input ⟨zeroNote, 0, status⟩ =
      (mp.result input 0, ⟨zeroNote, mp.offsetAt input 1, status⟩) := rfl
  unfold deserializeType
  rw [hnext]
  cases hresult : mp.result input 0 with
  | success type =>
    simp only [if_neg (h type hresult)]
    exact ⟨_, rfl, rfl⟩
  | _ => exact ⟨_, rfl, rfl⟩

theorem length_typedNote (type : Object) : (typedNote type).length = noteSize := by
  simp [typedNote, noteSize]

/-- The bytes of the command member after the command object has been stored. -/
theorem take_command (type : Object) (data : List UInt8) :
    (data ++ (typedNote type).drop (4 + data.length)).take 4 =
      (data ++ (toLE 4 (type.via.toNat / 2 ^ 32)).drop data.length).take 4 := by
  have hupper : (typedNote type).drop 4 =
      toLE 4 (type.via.toNat / 2 ^ 32) ++ List.replicate 8 0 := by
    rw [typedNote, List.drop_append_of_le_length (by simp), drop_toLE (by omega)]
    norm_num
  rw [← List.drop_drop, hupper, List.take_append, List.take_append]
  congr 1
  by_cases hlong : 4 ≤ data.length
  · simp [Nat.sub_eq_zero_of_le hlong]
  · rw [List.drop_append_of_le_length (by simp; omega), List.take_append_of_le_length (by simp)]

theorem noteType_typedNote (type : Object) :
    noteType ⟨[typedNote type]⟩ noteAddress = some (wireType type) := by
  change some (ofLE ((typedNote type).take 4)) = _
  rw [typedNote, List.take_append_of_le_length (by simp), take_toLE (by omega), ofLE_toLE]
  norm_num [wireType]

/-- A store into the command member leaves the type alone. -/
theorem storeCommand_typedNote (type : Object) {data : List UInt8}
    (hfits : data.length ≤ noteSize - commandOffset) :
    ∃ head : Block, Heap.store ⟨[typedNote type]⟩ noteAddress commandOffset data = some ⟨[head]⟩ ∧
      head.length = noteSize ∧ noteType ⟨[head]⟩ noteAddress = some (wireType type) ∧
      noteCommand ⟨[head]⟩ noteAddress =
        some (ofLE ((data ++ (toLE 4 (type.via.toNat / 2 ^ 32)).drop data.length).take 4)) := by
  have hlength := length_typedNote type
  have hroom : commandOffset + data.length ≤ (typedNote type).length := by
    rw [hlength]
    simp only [noteSize, commandOffset] at hfits ⊢
    omega
  let head : Block := (typedNote type).take commandOffset ++
    (data ++ (typedNote type).drop (commandOffset + data.length))
  have hwrite : Block.write (typedNote type) commandOffset data = some head :=
    Block.write_of_le hroom
  have hhead : head.length = noteSize := by rw [Block.length_write hwrite, hlength]
  have hstore : Heap.store ⟨[typedNote type]⟩ noteAddress commandOffset data = some ⟨[head]⟩ := by
    change (Block.write (typedNote type) commandOffset data).map _ = _
    rw [hwrite]
    rfl
  refine ⟨head, hstore, hhead, ?_, ?_⟩
  · rw [← noteType_typedNote]
    exact Heap.loadWord_store_disjoint hstore (Or.inl (by decide))
  · have hread : Block.read head commandOffset 4 =
        some ((data ++ (typedNote type).drop (4 + data.length)).take 4) := by
      rw [Block.read, if_pos (by rw [hhead]; decide)]
      congr 2
    change (Block.read head commandOffset 4).map ofLE = _
    rw [hread, take_command]
    rfl

theorem deserializeCommand_of_stored (type : Object) {command : Object} (status : Status)
    (hresult : mp.result input 1 = .success command)
    (hstored : command.outcome (noteSize - commandOffset) = .stored) :
    ∃ after head, deserializeCommand mp input noteAddress
        ⟨⟨[typedNote type]⟩, mp.offsetAt input 1, status⟩ = some (true, after) ∧
      after.status = status ∧ after.offset = mp.offsetAt input 2 ∧ after.heap = ⟨[head]⟩ ∧
      head.length = noteSize ∧ noteType after.heap noteAddress = some (wireType type) ∧
      noteCommand after.heap noteAddress = some (wireCommand type command) := by
  have hnext : msgpackUnpackNext mp input ⟨⟨[typedNote type]⟩, mp.offsetAt input 1, status⟩ =
      (.success command, ⟨⟨[typedNote type]⟩, mp.offsetAt input 2, status⟩) := by
    rw [← hresult]
    rfl
  unfold Object.outcome at hstored
  unfold deserializeCommand
  rw [hnext]
  simp only [maestroDeserializeNoteAssign_eq]
  cases hassign : command.assignment with
  | bytes data =>
    rw [hassign] at hstored
    have hfits : data.length ≤ noteSize - commandOffset := by
      by_contra hlong
      simp only [if_neg hlong] at hstored
      cases hstored
    rcases storeCommand_typedNote type hfits with ⟨head, hstore, hhead, htypes, hcommand⟩
    refine ⟨⟨⟨[head]⟩, mp.offsetAt input 2, status⟩, head, ?_, rfl, rfl, rfl, hhead, htypes, ?_⟩
    · simp only [DecodeState.storeAt, hstore, Option.map_some]
    · rw [hcommand, wireCommand, hassign]
  | _ =>
    rw [hassign] at hstored
    cases hstored

theorem deserializeCommand_of_not_stored (type : Object) (status : Status)
    (h : ∀ command, mp.result input 1 = .success command →
      command.outcome (noteSize - commandOffset) ≠ .stored) :
    (∃ after, deserializeCommand mp input noteAddress
        ⟨⟨[typedNote type]⟩, mp.offsetAt input 1, status⟩ = some (false, after) ∧
      after.status.failed = true) ∨
    deserializeCommand mp input noteAddress
      ⟨⟨[typedNote type]⟩, mp.offsetAt input 1, status⟩ = none := by
  have hnext : msgpackUnpackNext mp input ⟨⟨[typedNote type]⟩, mp.offsetAt input 1, status⟩ =
      (mp.result input 1, ⟨⟨[typedNote type]⟩, mp.offsetAt input 2, status⟩) := rfl
  have hlength := length_typedNote type
  unfold deserializeCommand
  rw [hnext]
  cases hresult : mp.result input 1 with
  | success command =>
    have hnot := h command hresult
    unfold Object.outcome at hnot
    simp only [maestroDeserializeNoteAssign_eq]
    cases hassign : command.assignment with
    | bytes data =>
      rw [hassign] at hnot
      have hlong : ¬ data.length ≤ noteSize - commandOffset := by
        intro hfits
        simp only [if_pos hfits] at hnot
        exact hnot rfl
      have hnone : Heap.store ⟨[typedNote type]⟩ noteAddress commandOffset data = none := by
        refine Heap.store_eq_none rfl ?_
        rw [hlength]
        simp only [noteSize, commandOffset] at hlong ⊢
        omega
      right
      simp only [DecodeState.storeAt, hnone, Option.map_none]
    | unsupported => exact Or.inl ⟨_, rfl, rfl⟩
    | undefined => exact Or.inr rfl
  | _ => exact Or.inl ⟨_, rfl, rfl⟩

/-! ## The head of an input -/

theorem head?_of_stored {results : ℕ → UnpackReturn} {type command : Object}
    (hfirst : results 0 = .success type) (hkind : type.type = .positiveInteger)
    (hsecond : results 1 = .success command)
    (hfits : command.outcome (noteSize - commandOffset) = .stored) :
    head? results = some (wireType type, wireCommand type command) := by
  unfold head?
  rw [hfirst, hsecond]
  simp only [hkind, hfits, and_self, if_true]

theorem head?_eq_none_of_type {results : ℕ → UnpackReturn}
    (hnot : ∀ type, results 0 = .success type → type.type ≠ .positiveInteger) :
    head? results = none := by
  unfold head?
  cases hfirst : results 0 with
  | success type =>
    cases results 1 with
    | success command => simp [hnot type hfirst]
    | _ => rfl
  | _ => rfl

theorem head?_eq_none_of_command {results : ℕ → UnpackReturn} {type : Object}
    (hfirst : results 0 = .success type)
    (hnot : ∀ command, results 1 = .success command →
      command.outcome (noteSize - commandOffset) ≠ .stored) : head? results = none := by
  unfold head?
  rw [hfirst]
  cases hsecond : results 1 with
  | success command => simp [hnot command hsecond]
  | _ => rfl

theorem clean_iff_of_head {results : ℕ → UnpackReturn} {type command : ℕ}
    (hhead : head? results = some (type, command)) :
    Clean results ↔ (fieldsOutcome results (wireLayout type command) 2).1 = .stored := by
  simp [Clean, hhead]

theorem masked_iff_of_head {results : ℕ → UnpackReturn} {type command : ℕ}
    (hhead : head? results = some (type, command)) :
    Masked results ↔ MaskedAt results type command := by
  simp [Masked, hhead]

/-- An input without a head is neither clean nor masked. -/
theorem settles_of_headless {results : ℕ → UnpackReturn} {status : Status} {decoded : Decoded}
    {kept : DecodeState → Prop} (hnone : head? results = none)
    (hrest : (∃ after, decoded = some (false, after) ∧ after.status.failed = true) ∨
      decoded = none) :
    Decoded.Settles decoded (Clean results) (Masked results) status kept := by
  refine Or.inr (Or.inr ⟨?_, ?_, hrest⟩)
  · rintro ⟨type, command, hhead, _⟩
    rw [hnone] at hhead
    cases hhead
  · rintro ⟨type, command, hhead, _⟩
    rw [hnone] at hhead
    cases hhead

/-- **Acceptance.**  A fresh note is accepted with the status untouched exactly on clean inputs,
accepted with a recorded failure exactly on masked ones, and otherwise not accepted. -/
theorem maestroDeserializeNote_settles (status : Status) :
    Decoded.Settles (maestroDeserializeNote mp input noteAddress zeroNote status)
      (Clean (mp.result input)) (Masked (mp.result input)) status
      (fun after ↦ ∃ type command, head? (mp.result input) = some (type, command) ∧
        Delivered after.heap noteAddress type command) := by
  unfold maestroDeserializeNote
  by_cases hpositive : ∃ type, mp.result input 0 = .success type ∧ type.type = .positiveInteger
  · rcases hpositive with ⟨type, hfirst, hkind⟩
    rw [deserializeType_of_positive mp input status hfirst hkind]
    simp only [Option.bind_some, if_true]
    by_cases hstored : ∃ command, mp.result input 1 = .success command ∧
        command.outcome (noteSize - commandOffset) = .stored
    · rcases hstored with ⟨command, hsecond, hfits⟩
      have hhead := head?_of_stored hfirst hkind hsecond hfits
      rcases deserializeCommand_of_stored mp input type status hsecond hfits with
        ⟨after, head, hdecode, hstatus, hoffset, hheap, hsize, htypes, hcommands⟩
      have hblock : after.heap.block? noteAddress = some head := by
        rw [hheap]
        rfl
      have hroom : after.heap.blocks.length + 1 < 2 ^ 64 := by
        rw [hheap]
        norm_num
      have hpayload := deserializePayload_settles mp input hblock hsize hroom hoffset htypes
        hcommands
      rw [hstatus] at hpayload
      rw [hdecode]
      simp only [Option.bind_some, if_true]
      rw [clean_iff_of_head hhead, masked_iff_of_head hhead]
      exact hpayload.imp fun final hkept ↦ ⟨_, _, hhead, hkept⟩
    · have hnot : ∀ command, mp.result input 1 = .success command →
          command.outcome (noteSize - commandOffset) ≠ .stored :=
        fun command hsecond hfits ↦ hstored ⟨command, hsecond, hfits⟩
      have hnone := head?_eq_none_of_command hfirst hnot
      rcases deserializeCommand_of_not_stored mp input type status hnot with
        ⟨after, hdecode, hfailed⟩ | hundefined
      · rw [hdecode]
        exact settles_of_headless hnone (Or.inl ⟨after, rfl, hfailed⟩)
      · rw [hundefined]
        exact settles_of_headless hnone (Or.inr rfl)
  · have hnot : ∀ type, mp.result input 0 = .success type → type.type ≠ .positiveInteger :=
      fun type hfirst hkind ↦ hpositive ⟨type, hfirst, hkind⟩
    have hnone := head?_eq_none_of_type hnot
    rcases deserializeType_of_not_positive mp input status hnot with ⟨after, hdecode, hfailed⟩
    rw [hdecode]
    exact settles_of_headless hnone (Or.inl ⟨after, rfl, hfailed⟩)

/-- Acceptance is a property of the input. -/
theorem maestroDeserializeNote_accepts_iff (status : Status) :
    (∃ after, maestroDeserializeNote mp input noteAddress zeroNote status = some (true, after)) ↔
      Clean (mp.result input) ∨ Masked (mp.result input) := by
  have hsettles := maestroDeserializeNote_settles mp input status
  constructor
  · intro haccepted
    rcases haccepted with ⟨after, hafter⟩
    rcases hsettles with hclean | hmasked | ⟨_, _, hrest⟩
    · exact Or.inl hclean.1
    · exact Or.inr hmasked.1
    · rw [hafter] at hrest
      simp at hrest
  · intro h
    rcases hsettles with ⟨_, after, hafter, _⟩ | ⟨_, after, hafter, _⟩ | ⟨hclean, hmasked, _⟩
    · exact ⟨after, hafter⟩
    · exact ⟨after, hafter⟩
    · exact absurd h (not_or.mpr ⟨hclean, hmasked⟩)

/-- What acceptance says about the input and leaves in memory. -/
theorem maestroDeserializeNote_delivered {status : Status} {state : DecodeState}
    (h : maestroDeserializeNote mp input noteAddress zeroNote status = some (true, state)) :
    ∃ type command, head? (mp.result input) = some (type, command) ∧
      ((fieldsOutcome (mp.result input) (wireLayout type command) 2).1 = .stored ∨
        MaskedAt (mp.result input) type command) ∧
      Delivered state.heap noteAddress type command := by
  rcases maestroDeserializeNote_settles mp input status with
    ⟨⟨cleanType, cleanCommand, hclean, hstored⟩, after, hafter, _, type, command, hhead, hdelivered⟩ |
    ⟨⟨maskType, maskCommand, hmask, hmasked⟩, after, hafter, _, type, command, hhead, hdelivered⟩ |
    ⟨_, _, hrest⟩
  · rw [h, Option.some.injEq, Prod.mk.injEq] at hafter
    rw [hhead, Option.some.injEq, Prod.mk.injEq] at hclean
    rw [← hclean.1, ← hclean.2] at hstored
    rw [← hafter.2] at hdelivered
    exact ⟨type, command, hhead, Or.inl hstored, hdelivered⟩
  · rw [h, Option.some.injEq, Prod.mk.injEq] at hafter
    rw [hhead, Option.some.injEq, Prod.mk.injEq] at hmask
    rw [← hmask.1, ← hmask.2] at hmasked
    rw [← hafter.2] at hdelivered
    exact ⟨type, command, hhead, Or.inr hmasked, hdelivered⟩
  · rw [h] at hrest
    simp at hrest

end

end MsgPerf.Maestro
