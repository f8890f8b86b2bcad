import MsgPerf.Maestro.Msgpack
import MsgPerf.Maestro.Note

/-!
# Serializing a note

Each function packs the type as an 8-bit and the command as a 64-bit integer, then the members of
the arm it is written for, and copies the packed bytes to the output.  The result is absent when
the function dereferences a null payload or string; otherwise it is the returned flag together
with what was copied to the output, if anything.

`NoteValue` is what a note means: its type, its command and a value for every payload member.
`Represents` relates it to the structure in memory, and the serializer is determined by it.
-/

namespace MsgPerf.Maestro

open MsgPerf.Library.ByteMemory

/-! ## The serializer -/

variable (mp : Msgpack)

def maestroSerializeStrField (heap : Heap) (note : ℕ) (field : Field) : Option (List UInt8) :=
  (loadText heap note field).map fun text ↦ mp.packStr text.length ++ mp.packStrBody text

/-- The packer call made for a member of the payload. -/
def packField (heap : Heap) (note : ℕ) : Field → Option (List UInt8)
  | .setOpt => (loadScalar heap note .setOpt).map fun value ↦ mp.packInt64 (.ofNat 64 value)
  | .pingSec => (loadScalar heap note .pingSec).map fun value ↦ mp.packUint64 (.ofNat 64 value)
  | .pingUsec => (loadScalar heap note .pingUsec).map fun value ↦ mp.packUint64 (.ofNat 64 value)
  | .pingElapsed =>
      (loadScalar heap note .pingElapsed).map fun value ↦ mp.packUint64 (.ofNat 64 value)
  | .childCount =>
      (loadScalar heap note .childCount).map fun value ↦ mp.packUint32 (.ofNat 32 value)
  | .statType => (loadScalar heap note .statType).map fun value ↦ mp.packUint8 (.ofNat 8 value)
  | .perfCount => (loadScalar heap note .perfCount).map fun value ↦ mp.packUint64 (.ofNat 64 value)
  | .perfRate => (loadScalar heap note .perfRate).map fun value ↦ mp.packDouble (.ofNat 64 value)
  | .perfLatency =>
      (loadScalar heap note .perfLatency).map fun value ↦ mp.packDouble (.ofNat 64 value)
  | field => maestroSerializeStrField mp heap note field

def packFields (heap : Heap) (note : ℕ) : List Field → Option (List UInt8)
  | [] => some []
  | field :: fields =>
      (packField mp heap note field).bind fun packed ↦
        (packFields heap note fields).map fun rest ↦ packed ++ rest

/-- `msgpack_pack_int8(&pk, note->type); msgpack_pack_int64(&pk, note->command)`. -/
def packHead (heap : Heap) (note : ℕ) : Option (List UInt8) :=
  (noteType heap note).bind fun type ↦
    (noteCommand heap note).map fun command ↦
      mp.packInt8 (.ofNat 8 type) ++ mp.packInt64 (.ofNat 64 command)

/-- The returned flag and the bytes copied to the output by `msg_content_data_copy`. -/
abbrev Serialized := Bool × Option (List UInt8)

def packExchange (heap : Heap) (note : ℕ) (fields : List Field) : Option Serialized :=
  (packHead mp heap note).bind fun head ↦
    (packFields mp heap note fields).map fun body ↦ (true, some (head ++ body))

def maestroSerializeEmptyExchange (heap : Heap) (note : ℕ) : Option Serialized :=
  (noteType heap note).bind fun type ↦
    if type = RequestType.response.code then
      packExchange mp heap note [.responseId, .responseName]
    else packExchange mp heap note []

/-- A request with a payload is refused when the payload is null; nothing is copied then. -/
def packRequest (heap : Heap) (note : ℕ) (fields : List Field) : Option Serialized :=
  (notePayload heap note).bind fun payload ↦
    if payload = 0 then some (false, none) else packExchange mp heap note fields

def maestroNoteSetRequest (heap : Heap) (note : ℕ) : Option Serialized :=
  packRequest mp heap note [.setOpt, .setValue]

def maestroSerializePingRequest (heap : Heap) (note : ℕ) : Option Serialized :=
  packRequest mp heap note [.pingSec, .pingUsec]

def maestroSerializePingResponse (heap : Heap) (note : ℕ) : Option Serialized :=
  packExchange mp heap note [.responseId, .responseName, .pingElapsed]

def maestroSerializeStatsResponse (heap : Heap) (note : ℕ) : Option Serialized :=
  packExchange mp heap note [.responseId, .responseName, .childCount, .role, .roleinfo, .statType,
    .perfTimestamp, .perfCount, .perfRate, .perfLatency]

/-- The header of a notification takes the id through the response arm. -/
def maestroSerializeNotificationExchange (heap : Heap) (note : ℕ) : Option Serialized :=
  packExchange mp heap note [.responseId, .notificationName, .notificationMessage]

def maestroSerializeRequest (heap : Heap) (note : ℕ) : Option Serialized :=
  (noteCommand heap note).bind fun command ↦
    if command = Command.set.code then maestroNoteSetRequest mp heap note
    else if command = Command.ping.code then maestroSerializePingRequest mp heap note
    else maestroSerializeEmptyExchange mp heap note

def maestroSerializeResponse (heap : Heap) (note : ℕ) : Option Serialized :=
  (noteCommand heap note).bind fun command ↦
    if command = Command.ping.code then maestroSerializePingResponse mp heap note
    else if command = Command.stats.code then maestroSerializeStatsResponse mp heap note
    else maestroSerializeEmptyExchange mp heap note

def maestroSerializeNotification (heap : Heap) (note : ℕ) : Option Serialized :=
  maestroSerializeNotificationExchange mp heap note

/-- A type outside the enumeration matches no case of the switch. -/
def maestroSerializeNote (heap : Heap) (note : ℕ) : Option Serialized :=
  (noteType heap note).bind fun type ↦
    if type = RequestType.request.code then maestroSerializeRequest mp heap note
    else if type = RequestType.response.code then maestroSerializeResponse mp heap note
    else if type = RequestType.notification.code then maestroSerializeNotification mp heap note
    else some (false, none)

/-! ## What a note means -/

/-- A C string of the protocol: no NUL inside, and short enough for an `int` length. -/
abbrev Text := { bytes : List UInt8 // 0 ∉ bytes ∧ bytes.length < 2 ^ 31 }

/-- A note the setters can build.  Members outside the layout of its type and command carry no
meaning; the statistics type is transmitted in one byte. -/
structure NoteValue where
  type : RequestType
  command : Command
  scalar : Field → BitVec 64
  text : Field → Text
  childCount_lt : (scalar .childCount).toNat < 2 ^ 32
  statType_lt : (scalar .statType).toNat < 256

namespace NoteValue

def fields (value : NoteValue) : List Field := layout value.type value.command

end NoteValue

/-- The structure at `note` holds the note: every member of its layout reads back as its value,
and a note without members has a null payload. -/
structure Represents (heap : Heap) (note : ℕ) (value : NoteValue) : Prop where
  type : noteType heap note = some value.type.code
  command : noteCommand heap note = some value.command.code
  scalar : ∀ field ∈ value.fields, field.kind ≠ .string →
    loadScalar heap note field = some (value.scalar field).toNat
  text : ∀ field ∈ value.fields, field.kind = .string →
    loadText heap note field = some (value.text field).1
  payload : ∃ payload, notePayload heap note = some payload ∧ (payload = 0 ↔ value.fields = [])

/-! ## The bytes of a note -/

namespace NoteValue

/-- The packer call for one member. -/
def packedField (value : NoteValue) (field : Field) : List UInt8 :=
  match field with
  | .setOpt => mp.packInt64 (value.scalar field)
  | .childCount => mp.packUint32 ((value.scalar field).setWidth 32)
  | .statType => mp.packUint8 ((value.scalar field).setWidth 8)
  | .perfRate | .perfLatency => mp.packDouble (value.scalar field)
  | .pingSec | .pingUsec | .pingElapsed | .perfCount => mp.packUint64 (value.scalar field)
  | _ => mp.packStr (value.text field).1.length ++ mp.packStrBody (value.text field).1

/-- The packed objects of a note, in order. -/
def pieces (value : NoteValue) : List (List UInt8) :=
  mp.packInt8 (.ofNat 8 value.type.code) :: mp.packInt64 (.ofNat 64 value.command.code) ::
    value.fields.map (value.packedField mp)

end NoteValue

theorem packField_of_represents {heap : Heap} {note : ℕ} {value : NoteValue}
    (h : Represents heap note value) {field : Field} (hfield : field ∈ value.fields) :
    packField mp heap note field = some (value.packedField mp field) := by
  have hscalar := h.scalar field hfield
  have htext := h.text field hfield
  cases field <;>
    simp_all [packField, maestroSerializeStrField, NoteValue.packedField, Field.kind]

theorem packFields_of_represents {heap : Heap} {note : ℕ} {value : NoteValue}
    (h : Represents heap note value) {fields : List Field} (hfields : fields ⊆ value.fields) :
    packFields mp heap note fields = some (fields.map (value.packedField mp)).flatten := by
  induction fields with
  | nil => rfl
  | cons field fields ih =>
    have hhead : packField mp heap note field = some (value.packedField mp field) :=
      packField_of_represents mp h (hfields List.mem_cons_self)
    have htail := ih fun other hother ↦ hfields (List.mem_cons_of_mem field hother)
    simp [packFields, hhead, htail]

/-- Packing exactly the members of the layout copies the pieces of the note to the output. -/
theorem packExchange_of_represents {heap : Heap} {note : ℕ} {value : NoteValue}
    (h : Represents heap note value) :
    packExchange mp heap note value.fields = some (true, some (value.pieces mp).flatten) := by
  have hhead : packHead mp heap note = some (mp.packInt8 (.ofNat 8 value.type.code) ++
      mp.packInt64 (.ofNat 64 value.command.code)) := by
    rw [packHead, h.type, h.command]
    rfl
  have hbody := packFields_of_represents mp h (List.Subset.refl value.fields)
  simp [packExchange, hhead, hbody, NoteValue.pieces]

/-- The response header and the notification header read the same words, so that the id of a
notification is found through the response arm. -/
theorem packExchange_notification (heap : Heap) (note : ℕ) (fields : List Field) :
    packExchange mp heap note (.responseId :: .notificationName :: fields) =
      packExchange mp heap note (.notificationId :: .notificationName :: fields) := rfl

/-- The serializer picks the members of the layout for every type and command. -/
theorem maestroSerializeNote_of_represents {heap : Heap} {note : ℕ} {value : NoteValue}
    (h : Represents heap note value) :
    maestroSerializeNote mp heap note = some (true, some (value.pieces mp).flatten) := by
  have hpacked := packExchange_of_represents mp h
  rcases h.payload with ⟨payload, hpayload, hnull⟩
  have htype := h.type
  have hcommand := h.command
  unfold NoteValue.fields at hpacked hnull
  cases hvalue : value.type with
  | request =>
    rw [hvalue] at hpacked hnull htype
    cases hname : value.command <;> rw [hname] at hpacked hnull hcommand <;>
      simp_all [maestroSerializeNote, maestroSerializeRequest, maestroNoteSetRequest,
        maestroSerializePingRequest, packRequest, maestroSerializeEmptyExchange,
        RequestType.code, Command.code, layout]
  | response =>
    rw [hvalue] at hpacked htype
    cases hname : value.command <;> rw [hname] at hpacked hcommand <;>
      simp_all [maestroSerializeNote, maestroSerializeResponse, maestroSerializePingResponse,
        maestroSerializeStatsResponse, maestroSerializeEmptyExchange,
        RequestType.code, Command.code, layout]
  | notification =>
    rw [hvalue] at hpacked htype
    simp_all [maestroSerializeNote, maestroSerializeNotification, packExchange_notification,
      maestroSerializeNotificationExchange, RequestType.code, layout]

end MsgPerf.Maestro
