import MsgPerf.Common.Status
import MsgPerf.Maestro.Msgpack
import MsgPerf.Maestro.Note

/-!
# Deserializing a note

The deserializer unpacks one object per member and stores it through a pointer to the member.
The store is chosen by the kind of the object found on the wire: one byte for a boolean, eight
for a number and the text with its NUL for a string.  The room it needs is not compared with the
room it has, so that an object of the wrong kind may leave its destination; the call then has no
result.  A defined call returns the flag of the C function, the heap, the input offset and the
status object.
-/

namespace MsgPerf.Maestro

open MsgPerf.Library.ByteMemory

structure DecodeState where
  heap : Heap
  offset : ℕ
  status : Status
  deriving DecidableEq, Repr

/-- The value returned by a decoding function and the state it leaves, when it has one. -/
abbrev Decoded := Option (Bool × DecodeState)

namespace DecodeState

/-- `gru_status_set(status, GRU_FAILURE, message); return false`. -/
def fail (state : DecodeState) (message : String) : Bool × DecodeState :=
  (false, { state with status := .failure message })

def storeAt (state : DecodeState) (address offset : ℕ) (data : List UInt8) : Decoded :=
  (state.heap.store address offset data).map fun heap ↦ (true, { state with heap := heap })

end DecodeState

/-- `snprintf(out, size, "%.*s", precision, source)`.  The precision is an `int`; a negative one is
taken as absent, and the source has no NUL to stop at. -/
def snprintfText (size precision : ℕ) (source : List UInt8) : Option (List UInt8) :=
  if 2 ^ 31 ≤ precision then none
  else if size = 0 then some []
  else some (((source.take precision).takeWhile (· ≠ 0)).take (size - 1) ++ [0])

def maestroDeserializeNoteAssign (object : Object) (address offset : ℕ) (state : DecodeState) :
    Decoded :=
  match object.type with
  | .boolean => state.storeAt address offset (toLE 1 object.via.toNat)
  | .positiveInteger => state.storeAt address offset (toLE 8 object.via.toNat)
  | .negativeInteger => state.storeAt address offset (toLE 8 object.via.toNat)
  | .float => state.storeAt address offset (toLE 8 object.via.toNat)
  | .str =>
      (snprintfText ((object.strSize + 1) % 2 ^ 32) object.strSize object.bytes).bind
        (state.storeAt address offset)
  | _ => some (state.fail ("Unsupported type: " ++ toString object.type.code))

/-! ## The members read by each function, with the message for a missing object -/

def setRequestRow : List (Field × String) :=
  [(.setOpt, "Unable to unpack set command: invalid and/or missing command"),
    (.setValue, "Unable to unpack set value: invalid and/or missing value")]

def pingRequestRow : List (Field × String) :=
  [(.pingSec, "Unable to unpack ping timestamp: invalid and/or missing timestamp"),
    (.pingUsec, "Unable to unpack set command: invalid and/or missing command")]

def responseHeaderRow : List (Field × String) :=
  [(.responseId, "Unable to unpack response: invalid and/or missing ID"),
    (.responseName, "Unable to unpack response: invalid and/or missing name")]

def notificationHeaderRow : List (Field × String) :=
  [(.notificationId, "Unable to unpack notification: invalid and/or missing ID"),
    (.notificationName, "Unable to unpack notification: invalid and/or missing name")]

def notificationMessageRow : List (Field × String) :=
  [(.notificationMessage, "Unable to unpack notification message: invalid and/or missing message")]

def pingResponseRow : List (Field × String) :=
  [(.pingElapsed, "Unable to unpack ping response: invalid and/or missing elapsed time")]

def statsResponseRow : List (Field × String) :=
  [(.childCount, "Unable to unpack stats response: invalid and/or missing child count"),
    (.role, "Unable to unpack stats response: invalid and/or missing role"),
    (.roleinfo, "Unable to unpack stats response: invalid and/or missing roleinfo"),
    (.statType, "Unable to unpack stats response: invalid and/or missing stat type"),
    (.perfTimestamp, "Unable to unpack stats response: invalid and/or missing perf timestamp"),
    (.perfCount, "Unable to unpack stats response: invalid and/or missing perf count"),
    (.perfRate, "Unable to unpack stats response: invalid and/or missing perf rate"),
    (.perfLatency, "Unable to unpack stats response: invalid and/or missing perf latency")]

/-! ## The deserializer -/

section

variable (mp : Msgpack) (input : List UInt8)

/-- `msgpack_unpack_next(msg, in->data, in->size, offset)`. -/
def msgpackUnpackNext (state : DecodeState) : UnpackReturn × DecodeState :=
  ((mp.unpackNext input state.offset).1,
    { state with offset := (mp.unpackNext input state.offset).2 })

variable (note : ℕ)

/-- Unpack one object and assign it to a member.  A string member first receives a buffer whose
size is taken from the string view of the object, in 32-bit arithmetic. -/
def decodeField (field : Field) (missing : String) (state : DecodeState) : Decoded :=
  match msgpackUnpackNext mp input state with
  | (.success object, state) =>
      (notePayload state.heap note).bind fun payload ↦
        if field.kind = .string then
          let fresh := state.heap.alloc ((object.strSize + 1) % 2 ^ 32)
          (fresh.1.storeWord payload field.offset 8 fresh.2).bind fun heap ↦
            maestroDeserializeNoteAssign object fresh.2 0 { state with heap := heap }
        else maestroDeserializeNoteAssign object payload field.offset state
  | (_, state) => some (state.fail missing)

/-- Members one after the other, each with the message for a missing object; the first failure
ends the function. -/
def decodeFields : List (Field × String) → DecodeState → Decoded
  | [], state => some (true, state)
  | (field, missing) :: fields, state =>
      (decodeField mp input note field missing state).bind fun (ok, state) ↦
        if ok then decodeFields fields state else some (false, state)

/-- `maestro_note_payload_prepare` followed by the rest of a function. -/
def withPayload (rest : DecodeState → Decoded) (state : DecodeState) : Decoded :=
  (maestroNotePayloadPrepare state.heap note).bind fun heap ↦ rest { state with heap := heap }

def maestroDeserializeNoteSetRequest : DecodeState → Decoded :=
  withPayload note (decodeFields mp input note setRequestRow)

def maestroDeserializeNotePingRequest : DecodeState → Decoded :=
  withPayload note (decodeFields mp input note pingRequestRow)

def maestroDeserializeResponseHeader : DecodeState → Decoded :=
  decodeFields mp input note responseHeaderRow

def maestroDeserializeNotificationHeader : DecodeState → Decoded :=
  decodeFields mp input note notificationHeaderRow

def maestroDeserializeNotePingResponse : DecodeState → Decoded :=
  decodeFields mp input note pingResponseRow

def maestroDeserializeNoteStatsResponse : DecodeState → Decoded :=
  decodeFields mp input note statsResponseRow

/-- The flag of the header is overwritten by the flag of the body for ping and stats. -/
def maestroDeserializeResponse (state : DecodeState) : Decoded :=
  withPayload note (fun state ↦
    (maestroDeserializeResponseHeader mp input note state).bind fun (header, state) ↦
      (noteCommand state.heap note).bind fun command ↦
        if command = Command.ping.code then
          maestroDeserializeNotePingResponse mp input note state
        else if command = Command.stats.code then
          maestroDeserializeNoteStatsResponse mp input note state
        else some (header, state)) state

def maestroDeserializeRequest (state : DecodeState) : Decoded :=
  (noteCommand state.heap note).bind fun command ↦
    if command = Command.set.code then maestroDeserializeNoteSetRequest mp input note state
    else if command = Command.ping.code then maestroDeserializeNotePingRequest mp input note state
    else some (true, state)

def maestroDeserializeNotification : DecodeState → Decoded :=
  withPayload note (fun state ↦
    (maestroDeserializeNotificationHeader mp input note state).bind fun (ok, state) ↦
      if ok then decodeFields mp input note notificationMessageRow state
      else some (false, state))

/-- The switch on `note->type`; a value outside the enumeration matches no case. -/
def deserializePayload (state : DecodeState) : Decoded :=
  (noteType state.heap note).bind fun type ↦
    if type = RequestType.response.code then maestroDeserializeResponse mp input note state
    else if type = RequestType.request.code then maestroDeserializeRequest mp input note state
    else if type = RequestType.notification.code then
      maestroDeserializeNotification mp input note state
    else some (true, state)

/-- Unpack the command and store it through the pointer to `note->command`. -/
def deserializeCommand (state : DecodeState) : Decoded :=
  match msgpackUnpackNext mp input state with
  | (.success object, state) => maestroDeserializeNoteAssign object note commandOffset state
  | (_, state) =>
      some (state.fail "Unable to unpack protocol data: invalid and/or missing command")

/-- Unpack the type, the one object whose kind is checked. -/
def deserializeType (state : DecodeState) : Decoded :=
  match msgpackUnpackNext mp input state with
  | (.success object, state) =>
      if object.type = .positiveInteger then
        maestroDeserializeNoteAssign object note typeOffset state
      else some (state.fail "Unable to unpack protocol data: invalid note type")
  | (_, state) =>
      some (state.fail "Unable to unpack protocol data: invalid and/or missing note type")

def maestroDeserializeNote (heap : Heap) (status : Status) : Decoded :=
  (deserializeType mp input note ⟨heap, 0, status⟩).bind fun (ok, state) ↦
    if ok then
      (deserializeCommand mp input note state).bind fun (ok, state) ↦
        if ok then deserializePayload mp input note state else some (false, state)
    else some (false, state)

end

end MsgPerf.Maestro
