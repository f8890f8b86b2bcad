import MsgPerf.Daemon.Remote
import MsgPerf.Library.Decimal
import MsgPerf.Library.FormattedText
import MsgPerf.Library.Interleaving
import MsgPerf.Maestro.Forward

/-!
# What the tool prints

The answers of the daemons and their notifications reach the forward daemon in some order, pass
through the local queue, and are printed when the tool collects them.  With the way of the commands
in `MsgPerf.Daemon.Remote` this closes the circle: from the commands of the tool to the lines that
it prints.

The queue has room for what is forwarded between two collects.  The cleanup of the collected notes
is in `MsgPerf.Maestro.Cleanup`.
-/

namespace MsgPerf.Daemon.Conversation

open MsgPerf.Library MsgPerf.Library.ByteMemory MsgPerf.Common MsgPerf.Maestro
open MsgPerf.Maestro.Forward (QueueMessage forwardTurn responseBuffer maestroCmdDoCollect noteBytes
  typeLength)

/-! ## The forward daemon -/

/-- The loop of `maestro_loop_reply_run` over the notes that it receives: its buffer and what is in
the queue.  A note that the queue does not take is dropped. -/
def maestroLoopReplyRun : Content → List (List UInt8) → Option (Content × List QueueMessage)
  | content, [] => some (content, [])
  | content, payload :: payloads => do
      let (content, outcome) ← forwardTurn content payload
      let (last, queue) ← maestroLoopReplyRun content payloads
      match outcome with
      | .accepted message => some (last, message :: queue)
      | .refused => some (last, queue)
      | .outside => none

/-! ## Printing -/

/-- A text of the source. -/
def literal (text : String) : List UInt8 := text.toUTF8.toList

/-- The conversions `PRIu32`, `PRIu64` and `d` for a number that is not negative. -/
def printNumber (number : ℕ) : List UInt8 :=
  (printDecimal number).map fun char ↦ UInt8.ofNat char.toNat

section Printing

-- The conversion `.2f` of a double.
variable (printDouble : ℕ → List UInt8)

/-- The part of `maestro_cmd_print_responses` that depends on the command. -/
def printResponseBody (heap : Heap) (command : ℕ) : Option (List UInt8) :=
  if command = Command.ok.code then some (literal "Response: OK\n")
  else if command = Command.ping.code then
    (loadScalar heap noteAddress .pingElapsed).map fun elapsed ↦
      literal "Time: " ++ printNumber elapsed ++ literal " ms\n"
  else if command = Command.stats.code then do
    let children ← loadScalar heap noteAddress .childCount
    let count ← loadScalar heap noteAddress .perfCount
    let rate ← loadScalar heap noteAddress .perfRate
    let latency ← loadScalar heap noteAddress .perfLatency
    some (literal "Children: " ++ printNumber children ++ literal " Count: " ++ printNumber count ++
      literal " Rate: " ++ printDouble rate ++ literal " Latency: " ++ printDouble latency ++
      literal "\n")
  else if command = Command.protocolError.code then
    some (literal "Error: one of more of the commands did not complete successfully\n")
  else if command = Command.internalError.code then some (literal "Error: internal server error\n")
  else some (literal "Error: unhandled response: " ++ printNumber command ++ literal "\n")

def maestroCmdPrintResponses (heap : Heap) : Option (List UInt8) := do
  let name ← loadText heap noteAddress .responseName
  let id ← loadText heap noteAddress .responseId
  let command ← noteCommand heap noteAddress
  let body ← printResponseBody printDouble heap command
  some (literal "Name: " ++ padRight 45 name ++ literal "\tID: " ++ padRight 40 id ++
    literal " " ++ body)

/-- The name and the id of a notification are read as those of a response. -/
def maestroCmdPrintNotifications (heap : Heap) : Option (List UInt8) := do
  let name ← loadText heap noteAddress .responseName
  let id ← loadText heap noteAddress .responseId
  let command ← noteCommand heap noteAddress
  let body ←
    if command = Command.abnormalDisconnect.code ∨ command = Command.notifyFail.code ∨
        command = Command.notifySuccess.code then
      (loadText heap noteAddress .notificationMessage).map fun message ↦ message ++ literal "\n"
    else some (literal "Error: unhandled notification\n")
  some (literal "Notification from: " ++ padRight 45 name ++ literal "\tID: " ++ padRight 40 id ++
    literal " Message: " ++ body)

/-- What a turn of `maestro_cmd_do_collect` prints; bytes that are no note are only reported on the
standard error output. -/
def collectTurn (mp : Msgpack) (status : Status) (message : QueueMessage) :
    Option (List UInt8 × Status) := do
  let bytes ← maestroCmdDoCollect message
  let (accepted, state) ← maestroDeserializeNote mp bytes noteAddress zeroNote status
  if accepted then
    let type ← noteType state.heap noteAddress
    let line ←
      if type = RequestType.response.code then maestroCmdPrintResponses printDouble state.heap
      else maestroCmdPrintNotifications state.heap
    some (line, state.status)
  else some ([], state.status)

/-- The loop of `maestro_cmd_do_collect` over the messages in the queue. -/
def collectQueue (mp : Msgpack) : Status → List QueueMessage → Option (List (List UInt8) × Status)
  | status, [] => some ([], status)
  | status, message :: queue => do
      let (line, status) ← collectTurn printDouble mp status message
      let (lines, status) ← collectQueue mp status queue
      some (line :: lines, status)

/-! ## The lines -/

/-- What stands behind the name and the id of a peer in a response. -/
def responseText (value : NoteValue) : List UInt8 :=
  match value.command with
  | .ok => literal "Response: OK\n"
  | .ping =>
      literal "Time: " ++ printNumber (value.scalar .pingElapsed).toNat ++ literal " ms\n"
  | .stats =>
      literal "Children: " ++ printNumber (value.scalar .childCount).toNat ++
        literal " Count: " ++ printNumber (value.scalar .perfCount).toNat ++
        literal " Rate: " ++ printDouble (value.scalar .perfRate).toNat ++
        literal " Latency: " ++ printDouble (value.scalar .perfLatency).toNat ++ literal "\n"
  | .protocolError =>
      literal "Error: one of more of the commands did not complete successfully\n"
  | .internalError => literal "Error: internal server error\n"
  | command => literal "Error: unhandled response: " ++ printNumber command.code ++ literal "\n"

/-- What stands behind the name and the id of a peer in a notification. -/
def notificationText (value : NoteValue) : List UInt8 :=
  match value.command with
  | .abnormalDisconnect | .notifyFail | .notifySuccess =>
      (value.text .notificationMessage).1 ++ literal "\n"
  | _ => literal "Error: unhandled notification\n"

/-- The line for a note. -/
def noteLine (value : NoteValue) : List UInt8 :=
  match value.type with
  | .notification =>
      literal "Notification from: " ++ padRight 45 (value.text .notificationName).1 ++
        literal "\tID: " ++ padRight 40 (value.text .notificationId).1 ++ literal " Message: " ++
        notificationText value
  | _ =>
      literal "Name: " ++ padRight 45 (value.text .responseName).1 ++ literal "\tID: " ++
        padRight 40 (value.text .responseId).1 ++ literal " " ++ responseText printDouble value

theorem printResponseBody_of_represents {heap : Heap} {value : NoteValue}
    (h : Represents heap noteAddress value) (htype : value.type = .response) :
    printResponseBody printDouble heap value.command.code =
      some (responseText printDouble value) := by
  have hscalar : ∀ field ∈ layout .response value.command, field.kind ≠ .string →
      loadScalar heap noteAddress field = some (value.scalar field).toNat := by
    intro field hfield
    apply h.scalar field
    rw [NoteValue.fields, htype]
    exact hfield
  cases hcommand : value.command with
  | ping =>
    rw [hcommand] at hscalar
    have helapsed := hscalar .pingElapsed (by decide) (by decide)
    simp [printResponseBody, responseText, hcommand, Command.code, helapsed]
  | stats =>
    rw [hcommand] at hscalar
    have hchildren := hscalar .childCount (by decide) (by decide)
    have hcount := hscalar .perfCount (by decide) (by decide)
    have hrate := hscalar .perfRate (by decide) (by decide)
    have hlatency := hscalar .perfLatency (by decide) (by decide)
    simp [printResponseBody, responseText, hcommand, Command.code, hchildren, hcount, hrate,
      hlatency]
  | _ => simp [printResponseBody, responseText, hcommand, Command.code]

theorem maestroCmdPrintResponses_of_represents {heap : Heap} {value : NoteValue}
    (h : Represents heap noteAddress value) (htype : value.type = .response) :
    maestroCmdPrintResponses printDouble heap = some (noteLine printDouble value) := by
  have hheader : ∀ field ∈ responseHeader, loadText heap noteAddress field =
      some (value.text field).1 := by
    intro field hfield
    apply h.text field
    · rw [NoteValue.fields, htype, layout_response]
      exact List.mem_append_left _ hfield
    · revert field
      decide
  have hname := hheader .responseName (by decide)
  have hid := hheader .responseId (by decide)
  have hbody := printResponseBody_of_represents printDouble h htype
  simp [maestroCmdPrintResponses, hname, hid, h.command, hbody, noteLine, htype]

/-- The members of a notification lie where those of a response do. -/
theorem maestroCmdPrintNotifications_of_represents {heap : Heap} {value : NoteValue}
    (h : Represents heap noteAddress value) (htype : value.type = .notification) :
    maestroCmdPrintNotifications heap = some (noteLine printDouble value) := by
  have htext : ∀ field ∈ [Field.notificationId, .notificationName, .notificationMessage],
      loadText heap noteAddress field = some (value.text field).1 := by
    intro field hfield
    apply h.text field
    · rw [NoteValue.fields, htype]
      exact hfield
    · revert field
      decide
  have hname : loadText heap noteAddress .responseName = some (value.text .notificationName).1 :=
    htext .notificationName (by decide)
  have hid : loadText heap noteAddress .responseId = some (value.text .notificationId).1 :=
    htext .notificationId (by decide)
  have hmessage := htext .notificationMessage (by decide)
  cases hcommand : value.command <;>
    simp [maestroCmdPrintNotifications, hname, hid, h.command, hmessage, noteLine, htype,
      notificationText, hcommand, Command.code]

/-! ## Through the queue -/

/-- A note that passes through the queue: it leaves room for the type of a message, and its eighth
byte does not make that type negative. -/
structure Forwardable (value : NoteValue) : Prop where
  type : value.type ≠ .request
  length : (noteBytes value).length ≤ 248
  eighth : (noteBytes value).getD 7 0 < 0x80

theorem Forwardable.forwardTurn {value : NoteValue} (h : Forwardable value) :
    ∃ message, forwardTurn responseBuffer (noteBytes value) =
        some (responseBuffer, .accepted message) ∧
      maestroCmdDoCollect message = some (noteBytes value) := by
  obtain ⟨code, rest, hnote, hcode⟩ := Forward.noteBytes_eq_cons h.type
  have hlength := h.length
  have hfits : typeLength + (noteBytes value).length ≤ Forward.maestroNoteSize := by
    simp only [typeLength, Forward.maestroNoteSize]
    omega
  obtain ⟨content, reset, message, hcontent, hturn, hcollect⟩ :=
    (Forward.roundTrips_iff_of_cons [] ((Nat.le_add_left _ _).trans hfits) hnote hcode).mpr
      ⟨hfits, h.eighth⟩
  obtain rfl := Option.some.inj hcontent
  obtain ⟨outcome, hreset⟩ := Forward.forwardTurn_reset (noteBytes value)
  rw [hreset, Option.some.injEq, Prod.mk.injEq] at hturn
  exact ⟨message, by rw [hreset, hturn.2], hcollect⟩

theorem collectTurn_eq {value : NoteValue} {message : QueueMessage} (htype : value.type ≠ .request)
    (hcollect : maestroCmdDoCollect message = some (noteBytes value)) (status : Status) :
    collectTurn printDouble msgpackFormat status message =
      some (noteLine printDouble value, status) := by
  obtain ⟨state, hdecode, hstatus, hrepresents⟩ :=
    maestroDeserializeNote_pieces msgpackFormat_lawful value status
  rw [← noteBytes] at hdecode
  cases hvalue : value.type with
  | request => exact absurd hvalue htype
  | response =>
    have hline := maestroCmdPrintResponses_of_represents printDouble hrepresents hvalue
    simp [collectTurn, hcollect, hdecode, hrepresents.type, hvalue, hline, hstatus]
  | notification =>
    have hline := maestroCmdPrintNotifications_of_represents printDouble hrepresents hvalue
    simp [collectTurn, hcollect, hdecode, hrepresents.type, hvalue, hline, hstatus,
      RequestType.code]

/-- Notes that are forwarded one after the other are printed in their order. -/
theorem collectQueue_maestroLoopReplyRun (values : List NoteValue)
    (h : ∀ value ∈ values, Forwardable value) (status : Status) :
    ∃ queue, maestroLoopReplyRun responseBuffer (values.map noteBytes) =
        some (responseBuffer, queue) ∧
      collectQueue printDouble msgpackFormat status queue =
        some (values.map (noteLine printDouble), status) := by
  induction values with
  | nil => exact ⟨[], rfl, rfl⟩
  | cons value values ih =>
    rw [List.forall_mem_cons] at h
    obtain ⟨queue, hrun, hcollected⟩ := ih h.2
    obtain ⟨message, hturn, hcollect⟩ := h.1.forwardTurn
    have hline := collectTurn_eq printDouble h.1.type hcollect status
    refine ⟨message :: queue, ?_, ?_⟩
    · simp [maestroLoopReplyRun, hturn, hrun]
    · simp [collectQueue, hline, hcollected]

end Printing

/-! ## The id of a peer -/

/-- The id with which a note begins. -/
def senderId (value : NoteValue) : Text :=
  value.text (if value.type = .notification then .notificationId else .responseId)

/-- The type and the command take a byte each, and the id follows. -/
theorem noteBytes_eq_id {value : NoteValue} (htype : value.type ≠ .request) :
    ∃ type command rest, noteBytes value =
      type :: command :: (MsgpackFormat.packStrHead (senderId value).1.length ++
        ((senderId value).1 ++ rest)) := by
  have hcommand : ∃ byte, msgpackFormat.packInt64 (.ofNat 64 value.command.code) = [byte] := by
    cases value.command <;> exact ⟨_, rfl⟩
  obtain ⟨command, hcommand⟩ := hcommand
  have hfields : ∃ field rest, value.fields = field :: rest ∧
      value.packedField msgpackFormat field =
        MsgpackFormat.packStrHead (senderId value).1.length ++ (senderId value).1 := by
    cases hvalue : value.type with
    | request => exact absurd hvalue htype
    | response =>
      refine ⟨.responseId, .responseName :: responseBody value.command.code, ?_, ?_⟩
      · rw [NoteValue.fields, hvalue, layout_response]
        rfl
      · simp [NoteValue.packedField, senderId, hvalue, msgpackFormat]
    | notification =>
      refine ⟨.notificationId, [.notificationName, .notificationMessage], ?_, ?_⟩
      · rw [NoteValue.fields, hvalue]
        rfl
      · simp [NoteValue.packedField, senderId, hvalue, msgpackFormat]
  obtain ⟨field, rest, hfields, hfield⟩ := hfields
  have hbytes : ∃ byte, msgpackFormat.packInt8 (.ofNat 8 value.type.code) = [byte] := by
    cases value.type <;> exact ⟨_, rfl⟩
  obtain ⟨type, hbytes⟩ := hbytes
  refine ⟨type, command, (rest.map (value.packedField msgpackFormat)).flatten, ?_⟩
  rw [noteBytes, NoteValue.pieces, hfields, hbytes, hcommand]
  simp [hfield]

/-- A peer with an ASCII id of at least five letters: whatever the length of the id, its fourth or
fifth letter is the eighth byte of the note. -/
theorem forwardable_of_ascii {value : NoteValue} (htype : value.type ≠ .request)
    (hlength : (noteBytes value).length ≤ 248) (hid : 5 ≤ (senderId value).1.length)
    (hascii : ∀ byte ∈ (senderId value).1, byte < 0x80) : Forwardable value := by
  refine ⟨htype, hlength, ?_⟩
  obtain ⟨type, command, rest, hbytes⟩ := noteBytes_eq_id htype
  have hletter : ∀ index, index < (senderId value).1.length →
      ((senderId value).1 ++ rest).getD index 0 < 0x80 := by
    intro index hindex
    rw [List.getD_eq_getElem?_getD, List.getElem?_append_left hindex,
      List.getElem?_eq_getElem hindex, Option.getD_some]
    exact hascii _ (List.getElem_mem hindex)
  have hshort : (senderId value).1.length < 2 ^ 8 := by
    rw [hbytes] at hlength
    simp only [List.length_cons, List.length_append] at hlength
    omega
  rw [hbytes, MsgpackFormat.packStrHead]
  by_cases hone : (senderId value).1.length < 2 ^ 5
  · rw [if_pos hone]
    exact hletter 4 (by omega)
  · rw [if_neg hone, if_pos hshort]
    exact hletter 3 (by omega)

/-! ## From the commands to the lines -/

/-- Where notes for the tool come from: the player of a daemon answers commands, and its main thread
announces the ends of tests. -/
inductive Publisher (Daemon : Type) where
  | player (daemon : Daemon)
  | main (daemon : Daemon)
  deriving DecidableEq, Repr

section Participants

variable {Uri Duration LogLevel : Type} (elapsedMilli : Clock → Clock → ℤ)

/-- A daemon in a conversation, with the commands that it gets and what it announces meanwhile.  The
commands fit into its buffer and its notes into the queue, and it has an id of at least five ASCII
characters. -/
structure Participant (Uri Duration LogLevel : Type) where
  kind : Kind
  pinfo : PlayerInfo
  others : Handler → Heap → NoteValue
  listening : Listening Uri Duration LogLevel
  commands : List RemoteCommand
  announcements : List NoteValue
  buffer : PlayerBuffer listening.buffer
  fits : ∀ command ∈ commands, command.Fits msgpackFormat
  idLength : 5 ≤ pinfo.id.1.length
  idAscii : ∀ byte ∈ pinfo.id.1, byte < 0x80
  answersFit : ∀ answer ∈ commands.filterMap (RemoteCommand.answer? elapsedMilli kind),
    (noteBytes (answer.reply pinfo)).length ≤ 248
  announced : ∀ value ∈ announcements, value.type = .notification ∧
    value.text .notificationId = pinfo.id ∧ (noteBytes value).length ≤ 248

namespace Participant

variable {elapsedMilli} (participant : Participant elapsedMilli Uri Duration LogLevel)

/-- What the daemon answers. -/
def answers : List NoteValue :=
  (participant.commands.filterMap (RemoteCommand.answer? elapsedMilli participant.kind)).map
    fun answer ↦ answer.reply participant.pinfo

theorem answers_forwardable {value : NoteValue} (h : value ∈ participant.answers) :
    Forwardable value := by
  obtain ⟨answer, hanswer, rfl⟩ := List.mem_map.mp h
  exact forwardable_of_ascii (by simp [NoteValue.reply]) (participant.answersFit answer hanswer)
    participant.idLength participant.idAscii

theorem announcements_forwardable {value : NoteValue} (h : value ∈ participant.announcements) :
    Forwardable value := by
  obtain ⟨htype, hid, hlength⟩ := participant.announced value h
  have hsender : senderId value = participant.pinfo.id := by
    rw [senderId, if_pos htype, hid]
  refine forwardable_of_ascii (by simp [htype]) hlength ?_ ?_
  · rw [hsender]
    exact participant.idLength
  · rw [hsender]
    exact participant.idAscii

end Participant

variable {elapsedMilli} (gru : Settings.GruParsers Uri Duration LogLevel)
  (printDouble : ℕ → List UInt8) {Daemon : Type} [DecidableEq Daemon]

/-- The run of a daemon with its commands. -/
def Participant.run (participant : Participant elapsedMilli Uri Duration LogLevel) :
    Option (Listening Uri Duration LogLevel × List (String × List UInt8)) :=
  remoteRun participant.pinfo msgpackFormat gru elapsedMilli participant.kind participant.others
    (participant.listening, []) participant.commands

theorem Participant.run_eq (participant : Participant elapsedMilli Uri Duration LogLevel) :
    ∃ after, participant.run gru =
      some (after, participant.answers.map fun answer ↦ (maestroTopic, noteBytes answer)) := by
  obtain ⟨buffer, -, hrun⟩ := remoteRun_eq_handleSets participant.pinfo msgpackFormat_lawful gru
    elapsedMilli participant.kind participant.others participant.commands participant.buffer
    participant.fits []
  have hanswers : participant.answers.map (fun answer ↦ (maestroTopic, noteBytes answer)) =
      (participant.commands.filterMap (RemoteCommand.answer? elapsedMilli participant.kind)).map
        (answerBytes participant.pinfo msgpackFormat) := by
    rw [Participant.answers, List.map_map]
    rfl
  rw [Participant.run, hrun, List.nil_append, hanswers]
  exact ⟨_, rfl⟩

end Participants

/-- A clock that counts seconds. -/
def elapsedSeconds (created now : Clock) : ℤ := 1000 * (now.1.toNat - created.1.toNat)

theorem five_lt : 5 < 2 ^ 31 := by decide

/-- The daemon of the example, with an id of five letters. -/
def examplePeer : PlayerInfo := ⟨Forward.letters 5 five_lt, Forward.letters 5 five_lt⟩

/-- The announcement of a failed test. -/
def exampleVerdict : NoteValue :=
  { emptyNote .notification .notifyFail with text := fun _ ↦ examplePeer.id }

theorem remoteExample_fits : ∀ command ∈ remoteExample, command.Fits msgpackFormat := by
  have hlengths : ∀ command ∈ remoteExample,
      (command.published msgpackFormat).join.elim 0 List.length ≤ maestroNoteSize := by
    decide +kernel
  exact fun command hcommand ↦ RemoteCommand.fits_of_length_le (hlengths command hcommand)

theorem remoteExample_answersFit :
    ∀ answer ∈ remoteExample.filterMap (RemoteCommand.answer? elapsedSeconds .senderd),
      (noteBytes (answer.reply examplePeer)).length ≤ 248 := by
  decide +kernel

theorem exampleVerdict_announced : ∀ value ∈ [exampleVerdict], value.type = .notification ∧
    value.text .notificationId = examplePeer.id ∧ (noteBytes value).length ≤ 248 := by
  decide +kernel

theorem examplePeer_idLength : 5 ≤ examplePeer.id.1.length := List.length_replicate.ge

theorem examplePeer_idAscii : ∀ byte ∈ examplePeer.id.1, byte < 0x80 := by decide +kernel

/-- A sender daemon that gets the commands of `remoteExample`. -/
def exampleParticipant : Participant elapsedSeconds (List Char) ℕ (List Char) where
  kind := .senderd
  pinfo := examplePeer
  others _ _ := protocolErrorNote
  listening := ⟨Content.msgContentDataNew maestroNoteSize, Settings.noOptions⟩
  commands := remoteExample
  announcements := [exampleVerdict]
  buffer := playerBuffer_new
  fits := remoteExample_fits
  idLength := examplePeer_idLength
  idAscii := examplePeer_idAscii
  answersFit := remoteExample_answersFit
  announced := exampleVerdict_announced

end MsgPerf.Daemon.Conversation
