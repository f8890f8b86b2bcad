import MsgPerf.Common.MessageBuffer
import MsgPerf.Daemon.Consumers
import MsgPerf.Daemon.Settings
import MsgPerf.Maestro.Requests

/-!
# Commands from the tool to a daemon

A command of the tool is serialized, taken into the buffer of the player, deserialized, played by
the first instrument of the sheet with its command, and answered.  Here these parts are put
together: a sequence of commands that a daemon gets in order leaves the worker options that the last
values ask for, whatever stands between them, and is answered in order, with the time between the
two clocks for each PING.

The buffer of the player is used for one message after the other.  A message that does not fit would
be cut while its size is not, so the requests are assumed to fit.
-/

namespace MsgPerf.Daemon

open MsgPerf.Library.ByteMemory MsgPerf.Maestro MsgPerf.Common
open Settings (GruParsers WorkerOptions SetRequest commondHandleSet handleSets)

/-! ## The buffer of the player -/

/-- `MAESTRO_NOTE_SIZE`. -/
def maestroNoteSize : ℕ := 256

/-- One turn of `maestro_player_run` with a message. -/
def playerReceive (buffer : Content) (message : List UInt8) : Option Content :=
  buffer.msgContentDataReset.bind fun buffer ↦ buffer.pahoReceive message

/-- What the deserializer is given. -/
def received (buffer : Content) : List UInt8 := buffer.bytes.take buffer.size

/-- The block that `msg_content_data_new` has allocated for the player. -/
structure PlayerBuffer (buffer : Content) : Prop where
  data : ∃ data, buffer.data = some data ∧ data.length = maestroNoteSize
  capacity : buffer.capacity = maestroNoteSize

theorem playerBuffer_new : PlayerBuffer (Content.msgContentDataNew maestroNoteSize) :=
  ⟨⟨_, rfl, List.length_replicate⟩, rfl⟩

/-- Bytes copied to the start of the block. -/
theorem PlayerBuffer.memcpy {buffer : Content} (h : PlayerBuffer buffer) (source : List UInt8)
    (hfit : source.length ≤ maestroNoteSize) :
    ∃ after, buffer.memcpy source = some after ∧ PlayerBuffer after ∧
      after.bytes.take source.length = source := by
  obtain ⟨data, hdata, hlength⟩ := h.data
  have hroom : source.length ≤ buffer.bytes.length := by
    rw [Content.bytes, hdata, Option.getD_some, hlength]
    exact hfit
  refine ⟨_, if_pos hroom, ⟨⟨source ++ data.drop source.length, ?_, ?_⟩, h.capacity⟩, ?_⟩
  · simp [hdata]
  · rw [List.length_append, List.length_drop, hlength]
    omega
  · simp [Content.bytes, hdata]

/-- A message that fits is received as it is, and the buffer is ready for the next one. -/
theorem PlayerBuffer.receive {buffer : Content} (h : PlayerBuffer buffer) {message : List UInt8}
    (hfit : message.length ≤ maestroNoteSize) :
    ∃ after, playerReceive buffer message = some after ∧ PlayerBuffer after ∧
      received after = message := by
  obtain ⟨zeroed, hzeroed, hready, -⟩ := h.memcpy (List.replicate buffer.capacity 0)
    (by rw [List.length_replicate, h.capacity])
  have hreset : buffer.msgContentDataReset = some { zeroed with size := 0 } := by
    rw [Content.msgContentDataReset, hzeroed, Option.map_some]
  have hcleared : PlayerBuffer { zeroed with size := 0 } := ⟨hready.data, hready.capacity⟩
  obtain ⟨copied, hcopied, hafter, hbytes⟩ := hcleared.memcpy message hfit
  refine ⟨{ copied with size := message.length }, ?_, ⟨hafter.data, hafter.capacity⟩, hbytes⟩
  rw [playerReceive, hreset, Option.bind_some, Content.pahoReceive,
    if_neg (by rw [hready.capacity]; omega), hcopied, Option.map_some]

/-! ## The sheet of a daemon -/

/-- The instruments of a sheet, each with what its handler decides. -/
def instruments (sheet : Sheet) (play : Handler → Heap → NoteValue) : List Instrument :=
  sheet.map fun entry ↦ ⟨entry.1, play entry.2⟩

variable (pinfo : PlayerInfo) {mp : Msgpack} (hlawful : mp.Lawful)

include hlawful in
/-- The player on the bytes of a note: the handler of its command answers with a response, and a
note whose command has no handler is not answered. -/
theorem maestroPlayerHandleNote_pieces (sheet : Sheet) (play : Handler → Heap → NoteValue)
    (value : NoteValue) :
    ∃ state, maestroDeserializeNote mp (value.pieces mp).flatten noteAddress zeroNote Status.new =
        some (true, state) ∧ Represents state.heap noteAddress value ∧
      maestroPlayerHandleNote pinfo mp (instruments sheet play) (value.pieces mp).flatten
          Status.new =
        some ((sheet.handler? value.command.code).toList.map fun handler ↦
          (maestroTopic, (((play handler state.heap).reply pinfo).pieces mp).flatten)) := by
  rcases maestroDeserializeNote_pieces hlawful value Status.new with
    ⟨state, hdecode, hstatus, hrepresents⟩
  refine ⟨state, hdecode, hrepresents, ?_⟩
  have hpublished := maestroPlayerHandleNote_eq pinfo mp (instruments sheet play) _ hdecode
    fun _ ↦ ⟨_, hrepresents.command⟩
  have hsuccess : state.status.success = true := by
    rw [hstatus]
    rfl
  rw [hpublished, if_pos hsuccess, Option.some.injEq, replies, instruments, List.find?_map,
    Sheet.handler?, hrepresents.command]
  have hsame : ((fun instrument : Instrument ↦
      decide (some value.command.code = some instrument.tessitura.code)) ∘
        fun entry : Command × Handler ↦ ⟨entry.1, play entry.2⟩) =
      fun entry ↦ decide (entry.1.code = value.command.code) := by
    funext entry
    simp [eq_comm]
  rw [hsame]
  cases hfind : sheet.find? fun entry ↦ decide (entry.1.code = value.command.code) with
  | none => rfl
  | some entry => rfl

/-! ## The handlers of SET and PING -/

/-- A `char` of the value of an option. -/
def charOfByte (byte : UInt8) : Char := Char.ofNat byte.toNat

/-- `request->payload->request.set`. -/
def readSetRequest (heap : Heap) : Option SetRequest :=
  (loadScalar heap noteAddress .setOpt).bind fun opt ↦
    (loadText heap noteAddress .setValue).map fun value ↦
      ⟨(BitVec.ofNat 64 opt).toInt, value.map charOfByte⟩

/-- A time, in seconds and microseconds. -/
abbrev Clock := BitVec 64 × BitVec 64

/-- `request->payload->request.ping`. -/
def readPing (heap : Heap) : Option Clock :=
  (loadScalar heap noteAddress .pingSec).bind fun sec ↦
    (loadScalar heap noteAddress .pingUsec).map fun usec ↦ (.ofNat 64 sec, .ofNat 64 usec)

/-- The answer to a PING. -/
def pingReply (elapsed : BitVec 64) : NoteValue where
  type := .response
  command := .ping
  scalar field := if field = .pingElapsed then elapsed else 0
  text _ := emptyText
  childCount_lt := by simp
  statType_lt := by simp

section Handlers

variable {Uri Duration LogLevel : Type} (gru : GruParsers Uri Duration LogLevel)
  (elapsedMilli : Clock → Clock → ℤ)

def commondHandlePing (now : Clock) (heap : Heap) : Option NoteValue :=
  (readPing heap).map fun created ↦ pingReply (.ofInt 64 (elapsedMilli created now))

/-- The worker options after a note and the answer of `commond_handle_set`. -/
def handleSetNote (options : WorkerOptions Uri Duration LogLevel) (heap : Heap) :
    Option (WorkerOptions Uri Duration LogLevel × NoteValue) :=
  (readSetRequest heap).map fun request ↦
    ((commondHandleSet gru options request).1,
      emptyNote .response (commondHandleSet gru options request).2)

/-- What the handlers of a daemon decide; a handler that reads no request answers anything, and so
do the handlers that are not followed here. -/
def daemonPlay (others : Handler → Heap → NoteValue)
    (options : WorkerOptions Uri Duration LogLevel) (now : Clock) :
    Handler → Heap → NoteValue
  | .set => fun heap ↦ ((handleSetNote gru options heap).map Prod.snd).getD (others .set heap)
  | .ping => fun heap ↦ (commondHandlePing elapsedMilli now heap).getD (others .ping heap)
  | handler => others handler

/-- A daemon between two messages. -/
structure Listening (Uri Duration LogLevel : Type) where
  buffer : Content
  options : WorkerOptions Uri Duration LogLevel

variable (mp) (kind : Kind) (others : Handler → Heap → NoteValue)

/-- A message at a time: what the daemon publishes, and its options.  Only the handler of SET
changes the options. -/
def playMessage (daemon : Listening Uri Duration LogLevel) (now : Clock) (message : List UInt8) :
    Option (Listening Uri Duration LogLevel × List (String × List UInt8)) := do
  let buffer ← playerReceive daemon.buffer message
  let published ← maestroPlayerHandleNote pinfo mp
    (instruments kind.newSheet (daemonPlay gru elapsedMilli others daemon.options now))
    (received buffer) Status.new
  let (accepted, state) ←
    maestroDeserializeNote mp (received buffer) noteAddress zeroNote Status.new
  let command ← noteCommand state.heap noteAddress
  if accepted ∧ kind.newSheet.handler? command = some .set then
    (handleSetNote gru daemon.options state.heap).map fun (options, _) ↦
      (⟨buffer, options⟩, published)
  else some (⟨buffer, daemon.options⟩, published)

/-! ## Commands of the tool -/

/-- A command of the tool that reaches the daemon.  A PING has the times at which it is sent and
handled, and a command without a payload has the answer of its handler. -/
inductive RemoteCommand where
  | set (opt : List UInt8) (value : Text)
  | ping (sent handled : Clock)
  | plain (command : Command) (hplain : layout .request command = []) (answer : NoteValue)

/-- The time on the clock of the daemon, where it matters. -/
def RemoteCommand.now : RemoteCommand → Clock
  | .ping _ handled => handled
  | .set _ _ | .plain _ _ _ => (0, 0)

/-- The handlers that do not read the request. -/
def RemoteCommand.handlers : RemoteCommand → Handler → Heap → NoteValue
  | .plain _ _ answer => fun _ _ ↦ answer
  | .set _ _ | .ping _ _ => others

/-- What the tool publishes; nothing for an option that it does not know. -/
def RemoteCommand.published : RemoteCommand → Option (Option (List UInt8))
  | .set opt value => (maestroCmdSetOptByName mp opt value).map fun note ↦ note.bind Prod.snd
  | .ping sent _ => (maestroCmdRequestPing mp sent.1 sent.2).map Prod.snd
  | .plain command _ _ => (maestroEasyRequest mp command).map Prod.snd

/-- The daemon gets what the tool publishes. -/
def remoteNext (run : Listening Uri Duration LogLevel × List (String × List UInt8))
    (command : RemoteCommand) :
    Option (Listening Uri Duration LogLevel × List (String × List UInt8)) := do
  match ← command.published mp with
  | none => some run
  | some message =>
      (playMessage pinfo mp gru elapsedMilli kind (command.handlers others) run.1 command.now
        message).map fun (daemon, replies) ↦ (daemon, run.2 ++ replies)

/-- A sequence of commands, in order. -/
def remoteRun (run : Listening Uri Duration LogLevel × List (String × List UInt8))
    (commands : List RemoteCommand) :
    Option (Listening Uri Duration LogLevel × List (String × List UInt8)) :=
  commands.foldlM (remoteNext pinfo mp gru elapsedMilli kind others) run

/-! ## What a daemon makes of the commands -/

/-- The request that a command of the tool stands for. -/
def RemoteCommand.setRequest? : RemoteCommand → Option SetRequest
  | .set opt value => (setOptionCode? opt).map fun code ↦ ⟨code, value.1.map charOfByte⟩
  | .ping _ _ | .plain _ _ _ => none

/-- The answer that a command gets. -/
def RemoteCommand.answer? : RemoteCommand → Option NoteValue
  | .set opt _ => (setOptionCode? opt).map fun _ ↦ emptyNote .response .ok
  | .ping sent handled => some (pingReply (.ofInt 64 (elapsedMilli sent handled)))
  | .plain command _ answer => (kind.newSheet.handler? command.code).map fun _ ↦ answer

/-- The answer as it is published. -/
def answerBytes (value : NoteValue) : String × List UInt8 :=
  (maestroTopic, ((value.reply pinfo).pieces mp).flatten)

theorem readSetRequest_of_represents {heap : Heap} {code : ℕ} {value : Text} (hcode : code < 8)
    (h : Represents heap noteAddress (setNote (.ofNat 64 code) value)) :
    readSetRequest heap = some ⟨code, value.1.map charOfByte⟩ := by
  have hopt := h.scalar .setOpt List.mem_cons_self (by decide)
  have hvalue := h.text .setValue (List.mem_cons_of_mem _ List.mem_cons_self) rfl
  have hint : ((BitVec.ofNat 64 (BitVec.ofNat 64 code).toNat).toInt : ℤ) = code := by
    interval_cases code <;> decide
  have hscalar : (setNote (.ofNat 64 code) value).scalar .setOpt = .ofNat 64 code := rfl
  have htext : (setNote (.ofNat 64 code) value).text .setValue = value := rfl
  rw [hscalar] at hopt
  rw [htext] at hvalue
  rw [readSetRequest, hopt, Option.bind_some, hvalue, Option.map_some, hint]

theorem readPing_of_represents {heap : Heap} {sec usec : BitVec 64}
    (h : Represents heap noteAddress (pingNote sec usec)) : readPing heap = some (sec, usec) := by
  have hsec := h.scalar .pingSec List.mem_cons_self (by decide)
  have husec := h.scalar .pingUsec (List.mem_cons_of_mem _ List.mem_cons_self) (by decide)
  have hscalars : (pingNote sec usec).scalar .pingSec = sec ∧
      (pingNote sec usec).scalar .pingUsec = usec := ⟨rfl, rfl⟩
  rw [hscalars.1] at hsec
  rw [hscalars.2] at husec
  rw [readPing, hsec, Option.bind_some, husec, Option.map_some, BitVec.ofNat_toNat,
    BitVec.ofNat_toNat, BitVec.setWidth_eq, BitVec.setWidth_eq]

theorem commondHandleSet_of_lt (options : WorkerOptions Uri Duration LogLevel) {code : ℕ}
    (hcode : code < 8) (value : List Char) :
    (commondHandleSet gru options ⟨code, value⟩).2 = .ok := by
  interval_cases code <;> rfl

theorem handler?_set (kind : Kind) : kind.newSheet.handler? Command.set.code = some .set := by
  cases kind <;> rfl

theorem handler?_ping (kind : Kind) : kind.newSheet.handler? Command.ping.code = some .ping := by
  cases kind <;> rfl

variable {mp} {daemon : Listening Uri Duration LogLevel}

include hlawful in
/-- A SET that fits is applied and answered. -/
theorem playMessage_set (hbuffer : PlayerBuffer daemon.buffer) (now : Clock) {code : ℕ}
    (hcode : code < 8) {value : Text}
    (hfit : ((setNote (.ofNat 64 code) value).pieces mp).flatten.length ≤ maestroNoteSize) :
    ∃ buffer, PlayerBuffer buffer ∧
      playMessage pinfo mp gru elapsedMilli kind others daemon now
          ((setNote (.ofNat 64 code) value).pieces mp).flatten =
        some (⟨buffer, (commondHandleSet gru daemon.options ⟨code, value.1.map charOfByte⟩).1⟩,
          [answerBytes pinfo mp (emptyNote .response .ok)]) := by
  obtain ⟨buffer, hreceive, hafter, hreceived⟩ := hbuffer.receive hfit
  obtain ⟨state, hdecode, hrepresents, hpublished⟩ := maestroPlayerHandleNote_pieces pinfo hlawful
    kind.newSheet (daemonPlay gru elapsedMilli others daemon.options now)
    (setNote (.ofNat 64 code) value)
  have hrequest := readSetRequest_of_represents hcode hrepresents
  have hanswer := commondHandleSet_of_lt gru daemon.options hcode (value.1.map charOfByte)
  have hcommand : noteCommand state.heap noteAddress = some Command.set.code := hrepresents.command
  have hname : (setNote (.ofNat 64 code) value).command.code = Command.set.code := rfl
  refine ⟨buffer, hafter, ?_⟩
  simp only [hname, handler?_set, Option.toList_some, List.map_cons, List.map_nil, daemonPlay,
    handleSetNote, hrequest, hanswer, Option.map_some, Option.getD_some] at hpublished
  simp [playMessage, hreceive, hreceived, hpublished, hdecode, hcommand, handler?_set,
    handleSetNote, hrequest, answerBytes]

include hlawful in
/-- A PING that fits is answered with the time since it was sent. -/
theorem playMessage_ping (hbuffer : PlayerBuffer daemon.buffer) (sent now : Clock)
    (hfit : ((pingNote sent.1 sent.2).pieces mp).flatten.length ≤ maestroNoteSize) :
    ∃ buffer, PlayerBuffer buffer ∧
      playMessage pinfo mp gru elapsedMilli kind others daemon now
          ((pingNote sent.1 sent.2).pieces mp).flatten =
        some (⟨buffer, daemon.options⟩,
          [answerBytes pinfo mp (pingReply (.ofInt 64 (elapsedMilli sent now)))]) := by
  obtain ⟨buffer, hreceive, hafter, hreceived⟩ := hbuffer.receive hfit
  obtain ⟨state, hdecode, hrepresents, hpublished⟩ := maestroPlayerHandleNote_pieces pinfo hlawful
    kind.newSheet (daemonPlay gru elapsedMilli others daemon.options now)
    (pingNote sent.1 sent.2)
  have hrequest := readPing_of_represents hrepresents
  have hcommand : noteCommand state.heap noteAddress = some Command.ping.code := hrepresents.command
  have hname : (pingNote sent.1 sent.2).command.code = Command.ping.code := rfl
  refine ⟨buffer, hafter, ?_⟩
  simp only [hname, handler?_ping, Option.toList_some, List.map_cons, List.map_nil, daemonPlay,
    commondHandlePing, hrequest, Option.map_some, Option.getD_some] at hpublished
  simp [playMessage, hreceive, hreceived, hpublished, hdecode, hcommand, handler?_ping, answerBytes]

/-- The handlers of the commands without a payload are neither SET nor PING. -/
theorem handler?_plain (kind : Kind) {command : Command} (h : layout .request command = []) :
    kind.newSheet.handler? command.code ≠ some .set ∧
      kind.newSheet.handler? command.code ≠ some .ping := by
  cases command with
  | set | ping => cases h
  | _ => cases kind <;> decide

include hlawful in
/-- A command without a payload is answered by its handler, if there is one. -/
theorem playMessage_plain (hbuffer : PlayerBuffer daemon.buffer) (now : Clock) {command : Command}
    (hplain : layout .request command = []) (answer : NoteValue)
    (hfit : ((emptyNote .request command).pieces mp).flatten.length ≤ maestroNoteSize) :
    ∃ buffer, PlayerBuffer buffer ∧
      playMessage pinfo mp gru elapsedMilli kind (fun _ _ ↦ answer) daemon now
          ((emptyNote .request command).pieces mp).flatten =
        some (⟨buffer, daemon.options⟩,
          (kind.newSheet.handler? command.code).toList.map
            fun _ ↦ answerBytes pinfo mp answer) := by
  obtain ⟨buffer, hreceive, hafter, hreceived⟩ := hbuffer.receive hfit
  obtain ⟨state, hdecode, hrepresents, hpublished⟩ := maestroPlayerHandleNote_pieces pinfo hlawful
    kind.newSheet (daemonPlay gru elapsedMilli (fun _ _ ↦ answer) daemon.options now)
    (emptyNote .request command)
  have hcommand : noteCommand state.heap noteAddress = some command.code := hrepresents.command
  have hname : (emptyNote .request command).command = command := rfl
  obtain ⟨hset, hping⟩ := handler?_plain kind hplain
  rw [hname] at hpublished
  refine ⟨buffer, hafter, ?_⟩
  cases hhandler : kind.newSheet.handler? command.code with
  | none =>
    rw [hhandler] at hpublished
    simp only [Option.toList_none, List.map_nil] at hpublished
    simp [playMessage, hreceive, hreceived, hpublished, hdecode, hcommand, hhandler]
  | some handler =>
    rw [hhandler] at hset hping hpublished
    have hplay : daemonPlay gru elapsedMilli (fun _ _ ↦ answer) daemon.options now handler
        state.heap = answer := by
      cases handler with
      | set => exact absurd rfl hset
      | ping => exact absurd rfl hping
      | _ => rfl
    have hother : handler ≠ .set := fun heq ↦ hset (congrArg some heq)
    simp only [Option.toList_some, List.map_cons, List.map_nil, hplay] at hpublished
    simp [playMessage, hreceive, hreceived, hpublished, hdecode, hcommand, hhandler, hother,
      answerBytes]

/-- The message that a command publishes fits into the buffer of the player. -/
def RemoteCommand.Fits (mp : Msgpack) (command : RemoteCommand) : Prop :=
  ∀ message, command.published mp = some (some message) → message.length ≤ maestroNoteSize

theorem RemoteCommand.fits_of_length_le {command : RemoteCommand}
    (h : (command.published mp).join.elim 0 List.length ≤ maestroNoteSize) : command.Fits mp := by
  intro message hpublished
  simpa [hpublished] using h

include hlawful in
theorem remoteNext_eq (hbuffer : PlayerBuffer daemon.buffer) {command : RemoteCommand}
    (hfit : command.Fits mp) (replies : List (String × List UInt8)) :
    ∃ buffer, PlayerBuffer buffer ∧
      remoteNext pinfo mp gru elapsedMilli kind others (daemon, replies) command =
        some (⟨buffer, handleSets gru daemon.options command.setRequest?.toList⟩,
          replies ++ (command.answer? elapsedMilli kind).toList.map (answerBytes pinfo mp)) := by
  cases command with
  | set opt value =>
    have hpublished := maestroCmdSetOptByName_eq mp opt value
    cases hcode : setOptionCode? opt with
    | none =>
      refine ⟨daemon.buffer, hbuffer, ?_⟩
      simp [remoteNext, RemoteCommand.published, RemoteCommand.setRequest?, RemoteCommand.answer?,
        hpublished, hcode, handleSets]
    | some code =>
      have hmessage : (RemoteCommand.set opt value).published mp =
          some (some ((setNote (.ofNat 64 code) value).pieces mp).flatten) := by
        simp [RemoteCommand.published, hpublished, hcode]
      obtain ⟨buffer, hafter, hplay⟩ := playMessage_set pinfo hlawful gru elapsedMilli kind others
        hbuffer (RemoteCommand.set opt value).now (setOptionCode?_lt hcode) (hfit _ hmessage)
      refine ⟨buffer, hafter, ?_⟩
      simp [remoteNext, hmessage, hplay, RemoteCommand.handlers, RemoteCommand.setRequest?,
        RemoteCommand.answer?, hcode, handleSets]
  | ping sent handled =>
    have hmessage : (RemoteCommand.ping sent handled).published mp =
        some (some ((pingNote sent.1 sent.2).pieces mp).flatten) := by
      simp [RemoteCommand.published, maestroCmdRequestPing_eq]
    obtain ⟨buffer, hafter, hplay⟩ := playMessage_ping pinfo hlawful gru elapsedMilli kind others
      hbuffer sent handled (hfit _ hmessage)
    refine ⟨buffer, hafter, ?_⟩
    simp [remoteNext, hmessage, hplay, RemoteCommand.now, RemoteCommand.handlers,
      RemoteCommand.setRequest?, RemoteCommand.answer?, handleSets]
  | plain command hplain answer =>
    have hmessage : (RemoteCommand.plain command hplain answer).published mp =
        some (some ((emptyNote .request command).pieces mp).flatten) := by
      simp [RemoteCommand.published, maestroEasyRequest_eq mp hplain]
    obtain ⟨buffer, hafter, hplay⟩ := playMessage_plain pinfo hlawful gru elapsedMilli kind hbuffer
      (RemoteCommand.plain command hplain answer).now hplain answer (hfit _ hmessage)
    refine ⟨buffer, hafter, ?_⟩
    cases hhandler : kind.newSheet.handler? command.code <;>
      simp [remoteNext, hmessage, hplay, RemoteCommand.handlers, RemoteCommand.setRequest?,
        RemoteCommand.answer?, handleSets, hhandler]

include hlawful in
theorem remoteRun_eq_handleSets (commands : List RemoteCommand)
    (hbuffer : PlayerBuffer daemon.buffer)
    (hfit : ∀ command ∈ commands, command.Fits mp) (replies : List (String × List UInt8)) :
    ∃ buffer, PlayerBuffer buffer ∧
      remoteRun pinfo mp gru elapsedMilli kind others (daemon, replies) commands =
        some (⟨buffer, handleSets gru daemon.options
            (commands.filterMap RemoteCommand.setRequest?)⟩,
          replies ++ (commands.filterMap (RemoteCommand.answer? elapsedMilli kind)).map
            (answerBytes pinfo mp)) := by
  induction commands generalizing daemon replies with
  | nil => exact ⟨daemon.buffer, hbuffer, by simp [remoteRun, handleSets]⟩
  | cons command commands ih =>
    rw [List.forall_mem_cons] at hfit
    obtain ⟨middle, hmiddle, hnext⟩ := remoteNext_eq pinfo hlawful gru elapsedMilli kind others
      hbuffer hfit.1 replies
    have hready : PlayerBuffer (Listening.mk middle
        (handleSets gru daemon.options command.setRequest?.toList)).buffer := hmiddle
    obtain ⟨buffer, hafter, hrest⟩ := ih hready hfit.2 _
    refine ⟨buffer, hafter, ?_⟩
    rw [remoteRun] at hrest ⊢
    rw [List.foldlM_cons, hnext, Option.bind_eq_bind, Option.bind_some, hrest]
    cases hset : command.setRequest? <;> cases hreply : command.answer? elapsedMilli kind <;>
      simp [hset, hreply, handleSets]

variable (daemon) in
include hlawful in
/-- **Remote settings.**  For any sequence of commands whose messages fit into the buffer of the
player, the daemon is left with the options that the last value for each option asks for.  It has
answered every PING with the time between the clocks, every SET of a known option with OK and every
other command that it plays with the answer of its handler, in the order of the commands. -/
theorem remoteRun_eq_written (commands : List RemoteCommand) (hbuffer : PlayerBuffer daemon.buffer)
    (hfit : ∀ command ∈ commands, command.Fits mp) :
    ∃ buffer, remoteRun pinfo mp gru elapsedMilli kind others (daemon, []) commands =
      some (⟨buffer, Settings.written gru daemon.options
          (fun option ↦ Settings.lastValue option (commands.filterMap RemoteCommand.setRequest?))
          ((commands.filterMap RemoteCommand.setRequest?).any SetRequest.isVariable)⟩,
        (commands.filterMap (RemoteCommand.answer? elapsedMilli kind)).map
          (answerBytes pinfo mp)) := by
  obtain ⟨buffer, -, hrun⟩ := remoteRun_eq_handleSets pinfo hlawful gru elapsedMilli kind others
    commands hbuffer hfit []
  refine ⟨buffer, ?_⟩
  rw [hrun, Settings.handleSets_eq_written, List.nil_append]

end Handlers

/-- Two values for one option with a PING, a misspelt option and a FLUSH between them. -/
def remoteExample : List RemoteCommand :=
  [.set [0x72, 0x61, 0x74, 0x65] ⟨[0x35], by decide⟩, .ping (1, 0) (3, 0),
    .set [0x72] ⟨[0x36], by decide⟩, .plain .flush rfl (emptyNote .response .ok),
    .set [0x72, 0x61, 0x74, 0x65] ⟨[0x37], by decide⟩]

theorem remoteExample_rate :
    ∃ buffer options replies,
      remoteRun ⟨⟨[0x69], by decide⟩, ⟨[0x6e], by decide⟩⟩ msgpackFormat Settings.textParsers
          (fun created now ↦ 1000 * (now.1.toNat - created.1.toNat)) .senderd
          (fun _ _ ↦ protocolErrorNote)
          (⟨Content.msgContentDataNew maestroNoteSize, Settings.noOptions⟩, []) remoteExample =
        some (⟨buffer, options⟩, replies) ∧ options.rate = 7 ∧ replies.length = 4 := by
  have hlengths : ∀ command ∈ remoteExample,
      (command.published msgpackFormat).join.elim 0 List.length ≤ maestroNoteSize := by
    decide +kernel
  have hfit : ∀ command ∈ remoteExample, command.Fits msgpackFormat :=
    fun command hcommand ↦ RemoteCommand.fits_of_length_le (hlengths command hcommand)
  obtain ⟨buffer, hrun⟩ := remoteRun_eq_written ⟨⟨[0x69], by decide⟩, ⟨[0x6e], by decide⟩⟩
    msgpackFormat_lawful Settings.textParsers
    (fun created now ↦ 1000 * (now.1.toNat - created.1.toNat)) .senderd
    (fun _ _ ↦ protocolErrorNote) ⟨Content.msgContentDataNew maestroNoteSize, Settings.noOptions⟩
    remoteExample playerBuffer_new hfit
  exact ⟨buffer, _, _, hrun, by decide +kernel, by decide +kernel⟩

end MsgPerf.Daemon
