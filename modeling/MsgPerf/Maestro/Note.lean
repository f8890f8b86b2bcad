import MsgPerf.Library.ByteMemory

/-!
# Notes: types, commands, payload layout and setters

A note is a sixteen byte structure: the type and the command, four bytes each, and the pointer
to the payload.  The payload is a union of eighty bytes whose arms overlay each other.  `Field`
names the members of all the arms with their LP64 offsets; an arm is the list of its fields in
the order in which the protocol transmits them (`layout`).

The setters work on a heap that holds the note, as the C functions do on memory.  A setter has no
result when it would dereference a null or foreign pointer.  Allocation does not fail here.
-/

namespace MsgPerf.Maestro

open MsgPerf.Library.ByteMemory

/-! ## Enumerations -/

/-- `maestro_request_type`. -/
inductive RequestType where
  | request | response | notification
  deriving DecidableEq, Repr

def RequestType.code : RequestType → ℕ
  | .request => 0
  | .response => 1
  | .notification => 2

/-- `maestro_command_t`. -/
inductive Command where
  | startReceiver | stopReceiver | startSender | stopSender | startInspector | stopInspector
  | flush | set | stats | halt | ping | ok | protocolError | internalError | abnormalDisconnect
  | notifyFail | notifySuccess
  deriving DecidableEq, Repr

def Command.code : Command → ℕ
  | .startReceiver => 0
  | .stopReceiver => 1
  | .startSender => 2
  | .stopSender => 3
  | .startInspector => 4
  | .stopInspector => 5
  | .flush => 6
  | .set => 7
  | .stats => 8
  | .halt => 9
  | .ping => 10
  | .ok => 11
  | .protocolError => 12
  | .internalError => 13
  | .abnormalDisconnect => 14
  | .notifyFail => 15
  | .notifySuccess => 16

theorem RequestType.code_le (type : RequestType) : type.code ≤ 2 := by
  cases type <;> decide

theorem Command.code_le (command : Command) : command.code ≤ 16 := by
  cases command <;> decide

/-! ## Payload layout -/

/-- The members of the payload union. -/
inductive Field where
  | setOpt | setValue
  | pingSec | pingUsec
  | responseId | responseName
  | pingElapsed
  | childCount | role | roleinfo | statType | perfTimestamp | perfCount | perfRate | perfLatency
  | notificationId | notificationName | notificationMessage
  deriving DecidableEq, Repr

inductive FieldKind where
  | integer | float | string
  deriving DecidableEq, Repr

namespace Field

/-- Byte offset in `maestro_payload_t`. -/
def offset : Field → ℕ
  | .setOpt => 0
  | .setValue => 8
  | .pingSec => 0
  | .pingUsec => 8
  | .responseId => 0
  | .responseName => 8
  | .pingElapsed => 16
  | .childCount => 16
  | .role => 24
  | .roleinfo => 32
  | .statType => 40
  | .perfTimestamp => 48
  | .perfCount => 56
  | .perfRate => 64
  | .perfLatency => 72
  | .notificationId => 0
  | .notificationName => 8
  | .notificationMessage => 16

/-- Size of the member: four bytes for `child_count` and the `stat_type` enumeration. -/
def width : Field → ℕ
  | .childCount => 4
  | .statType => 4
  | _ => 8

def kind : Field → FieldKind
  | .setOpt | .pingSec | .pingUsec | .pingElapsed | .childCount | .statType | .perfCount => .integer
  | .perfRate | .perfLatency => .float
  | _ => .string

theorem offset_add_le (field : Field) : field.offset + 8 ≤ 80 := by
  cases field <;> decide

theorem width_le (field : Field) : field.width ≤ 8 := by
  cases field <;> decide

end Field

/-- The payload members of a note, in transmission order. -/
def layout : RequestType → Command → List Field
  | .request, .set => [.setOpt, .setValue]
  | .request, .ping => [.pingSec, .pingUsec]
  | .request, _ => []
  | .response, .ping => [.responseId, .responseName, .pingElapsed]
  | .response, .stats => [.responseId, .responseName, .childCount, .role, .roleinfo, .statType,
      .perfTimestamp, .perfCount, .perfRate, .perfLatency]
  | .response, _ => [.responseId, .responseName]
  | .notification, _ => [.notificationId, .notificationName, .notificationMessage]

/-- Members of one arm occupy disjoint words of the payload. -/
theorem layout_pairwise (type : RequestType) (command : Command) :
    (layout type command).Pairwise fun left right ↦ left.offset + 8 ≤ right.offset := by
  cases type <;> cases command <;> decide

/-! ## The structure in memory -/

def noteSize : ℕ := 16
def payloadSize : ℕ := 80
def typeOffset : ℕ := 0
def commandOffset : ℕ := 4
def payloadOffset : ℕ := 8

/-- The memory of a caller that has declared `maestro_note_t note = {0}`, at address one. -/
def zeroNote : Heap := ⟨[List.replicate noteSize 0]⟩

def noteAddress : ℕ := 1

/-- `note->payload`. -/
def notePayload (heap : Heap) (note : ℕ) : Option ℕ := heap.loadWord note payloadOffset 8

/-- `note->type`. -/
def noteType (heap : Heap) (note : ℕ) : Option ℕ := heap.loadWord note typeOffset 4

/-- `note->command`. -/
def noteCommand (heap : Heap) (note : ℕ) : Option ℕ := heap.loadWord note commandOffset 4

/-- An integer or double member of the payload, as a bit pattern. -/
def loadScalar (heap : Heap) (note : ℕ) (field : Field) : Option ℕ :=
  (notePayload heap note).bind fun payload ↦ heap.loadWord payload field.offset field.width

/-- The text a string member of the payload points at. -/
def loadText (heap : Heap) (note : ℕ) (field : Field) : Option (List UInt8) :=
  (notePayload heap note).bind fun payload ↦
    (heap.loadWord payload field.offset 8).bind fun address ↦ heap.cString address

/-! ## Setters -/

/-- `strdup`: a fresh copy of the text with its terminating NUL. -/
def strdup (heap : Heap) (text : List UInt8) : Option (Heap × ℕ) :=
  let fresh := heap.alloc (text.length + 1)
  (fresh.1.store fresh.2 0 (text ++ [0])).map fun after ↦ (after, fresh.2)

def storeScalar (heap : Heap) (note : ℕ) (field : Field) (value : ℕ) : Option Heap :=
  (notePayload heap note).bind fun payload ↦ heap.storeWord payload field.offset field.width value

def storeText (heap : Heap) (note : ℕ) (field : Field) (text : List UInt8) : Option Heap :=
  (strdup heap text).bind fun copy ↦
    (notePayload copy.1 note).bind fun payload ↦ copy.1.storeWord payload field.offset 8 copy.2

def maestroNotePayloadPrepare (heap : Heap) (note : ℕ) : Option Heap :=
  let fresh := heap.alloc payloadSize
  fresh.1.storeWord note payloadOffset 8 fresh.2

def maestroNoteSetType (heap : Heap) (note : ℕ) (type : RequestType) : Option Heap :=
  heap.storeWord note typeOffset 4 type.code

def maestroNoteSetCmd (heap : Heap) (note : ℕ) (command : Command) : Option Heap :=
  heap.storeWord note commandOffset 4 command.code

/-- Stores in the arm that the type of the note selects; a request is left alone. -/
def maestroNoteResponseSetId (heap : Heap) (note : ℕ) (id : List UInt8) : Option Heap :=
  (noteType heap note).bind fun type ↦
    if type = RequestType.response.code then storeText heap note .responseId id
    else if type = RequestType.notification.code then storeText heap note .notificationId id
    else some heap

def maestroNoteResponseSetName (heap : Heap) (note : ℕ) (name : List UInt8) : Option Heap :=
  (noteType heap note).bind fun type ↦
    if type = RequestType.response.code then storeText heap note .responseName name
    else if type = RequestType.notification.code then storeText heap note .notificationName name
    else some heap

def maestroNoteNotificationSetMessage (heap : Heap) (note : ℕ) (message : List UInt8) :
    Option Heap :=
  storeText heap note .notificationMessage message

def maestroNotePingSetTs (heap : Heap) (note sec usec : ℕ) : Option Heap :=
  (storeScalar heap note .pingSec sec).bind fun heap ↦ storeScalar heap note .pingUsec usec

def maestroNotePingSetElapsed (heap : Heap) (note elapsed : ℕ) : Option Heap :=
  storeScalar heap note .pingElapsed elapsed

def maestroNoteSetOpt (heap : Heap) (note opt : ℕ) (value : List UInt8) : Option Heap :=
  (maestroNotePayloadPrepare heap note).bind fun heap ↦
    (storeScalar heap note .setOpt opt).bind fun heap ↦ storeText heap note .setValue value

def maestroNoteStatsSetChildCount (heap : Heap) (note count : ℕ) : Option Heap :=
  storeScalar heap note .childCount count

def maestroNoteStatsSetRole (heap : Heap) (note : ℕ) (role : List UInt8) : Option Heap :=
  storeText heap note .role role

def maestroNoteStatsSetRoleinfo (heap : Heap) (note : ℕ) (roleinfo : List UInt8) : Option Heap :=
  storeText heap note .roleinfo roleinfo

def maestroNoteStatsSetStatType (heap : Heap) (note statType : ℕ) : Option Heap :=
  storeScalar heap note .statType statType

def maestroNoteStatsSetPerfTs (heap : Heap) (note : ℕ) (ts : List UInt8) : Option Heap :=
  storeText heap note .perfTimestamp ts

def maestroNoteStatsSetPerfCount (heap : Heap) (note count : ℕ) : Option Heap :=
  storeScalar heap note .perfCount count

def maestroNoteStatsSetPerfRate (heap : Heap) (note rate : ℕ) : Option Heap :=
  storeScalar heap note .perfRate rate

def maestroNoteStatsSetPerfLatency (heap : Heap) (note latency : ℕ) : Option Heap :=
  storeScalar heap note .perfLatency latency

end MsgPerf.Maestro
