import MsgPerf.Maestro.RoundTrip

/-!
# The player: from a received byte string to a reply

The player hands the received bytes to its sheet, which deserializes them, looks for the first
instrument whose tessitura has the command of the note and lets it fill a prepared response.  The
player publishes the serialized response unless the status object carries a failure.

A reply is described by the note value that the handler leaves in the response; sends and
allocations succeed.
-/

namespace MsgPerf.Maestro

open MsgPerf.Library.ByteMemory

/-- `maestro_player_info_t`. -/
structure PlayerInfo where
  id : Text
  name : Text

/-- `maestro_instrument_t`: the command it plays and its handler.  The handler reads the request
and decides the command and the body of the response. -/
structure Instrument where
  tessitura : Command
  play : Heap → NoteValue

/-- The response with the header of the player. -/
def NoteValue.reply (value : NoteValue) (pinfo : PlayerInfo) : NoteValue where
  type := .response
  command := value.command
  scalar := value.scalar
  text field :=
    if field = .responseId then pinfo.id else if field = .responseName then pinfo.name
    else value.text field
  childCount_lt := value.childCount_lt
  statType_lt := value.statType_lt

/-- `MAESTRO_TOPIC`. -/
def maestroTopic : String := "/mpt/maestro"

/-! ## The sheet -/

section

variable (pinfo : PlayerInfo)

/-- The response as `maestro_sheet_play` prepares it. -/
def prepareResponse : Option Heap := do
  let heap ← maestroNoteSetType zeroNote noteAddress .response
  let heap ← maestroNotePayloadPrepare heap noteAddress
  let heap ← maestroNoteResponseSetId heap noteAddress pinfo.id.1
  maestroNoteResponseSetName heap noteAddress pinfo.name.1

/-- A handler sets the command of the response and the members of its body. -/
def fillResponse (value : NoteValue) (response : Heap) : Option Heap := do
  let response ← maestroNoteSetCmd response noteAddress value.command
  buildResponseBody value response

def maestroInstrumentCanPlay (instrument : Instrument) (command : ℕ) : Bool :=
  instrument.tessitura.code = command

/-- The flag says whether an instrument was found. -/
def maestroSheetDoPlay (request response : Heap) : List Instrument → Option (Bool × Heap)
  | [] => some (false, response)
  | instrument :: sheet =>
      (noteCommand request noteAddress).bind fun command ↦
        if maestroInstrumentCanPlay instrument command then
          (fillResponse ((instrument.play request).reply pinfo) response).map fun response ↦
            (true, response)
        else maestroSheetDoPlay request response sheet

variable (mp : Msgpack) (sheet : List Instrument) (input : List UInt8)

/-- The serialized response, if there is one, and the status. -/
def maestroSheetPlay (status : Status) : Option (Option (List UInt8) × Status) :=
  (prepareResponse pinfo).bind fun response ↦
    (maestroDeserializeNote mp input noteAddress zeroNote status).bind fun (ok, state) ↦
      if ok then
        (maestroSheetDoPlay pinfo state.heap response sheet).bind fun (played, response) ↦
          if played then
            (maestroSerializeNote mp response noteAddress).map fun (_, bytes) ↦
              (bytes, state.status)
          else some (none, state.status)
      else
        (maestroNoteSetCmd response noteAddress .protocolError).bind fun response ↦
          (maestroSerializeNote mp response noteAddress).map fun (_, bytes) ↦ (bytes, state.status)

/-- The topics and bytes published for a received byte string. -/
def maestroPlayerHandleNote (status : Status) : Option (List (String × List UInt8)) :=
  (maestroSheetPlay pinfo mp sheet input status).map fun (bytes, status) ↦
    if status.success then bytes.toList.map fun bytes ↦ (maestroTopic, bytes) else []

/-! ## The reply protocol -/

/-- The reply to a byte string that is not a note. -/
def protocolErrorNote : NoteValue where
  type := .response
  command := .protocolError
  scalar _ := 0
  text _ := ⟨[], by decide⟩
  childCount_lt := by decide
  statType_lt := by decide

/-- What the protocol has the player publish, given what the deserializer returned. -/
def replies : Bool × DecodeState → List (String × List UInt8)
  | (false, _) => [(maestroTopic, ((protocolErrorNote.reply pinfo).pieces mp).flatten)]
  | (true, state) =>
      match sheet.find? fun instrument ↦
        noteCommand state.heap noteAddress = some instrument.tessitura.code with
      | none => []
      | some instrument =>
          [(maestroTopic, (((instrument.play state.heap).reply pinfo).pieces mp).flatten)]

/-- The player publishes what the protocol asks for. -/
def FollowsProtocol : Prop :=
  ∃ decoded, maestroDeserializeNote mp input noteAddress zeroNote Status.new = some decoded ∧
    maestroPlayerHandleNote pinfo mp sheet input Status.new =
      some (replies pinfo mp sheet decoded)

end

/-! ## Responses in memory -/

/-- The pointer at its end shows that the note is complete. -/
theorem Prepared.noteSize_le {heap : Heap} {note payload : ℕ} {head : Block}
    (h : Prepared heap note head payload) : noteSize ≤ head.length := by
  have hpointer := h.pointer
  unfold notePayload Heap.loadWord Heap.load at hpointer
  rw [h.held, Option.bind_some, Block.read] at hpointer
  by_contra hshort
  rw [if_neg (by simpa [noteSize, payloadOffset] using hshort)] at hpointer
  cases hpointer

/-- Setting the command leaves the payload alone. -/
theorem setCmd_spec {heap : Heap} {note payload : ℕ} {head : Block} (value : NoteValue)
    (h : Prepared heap note head payload) (command : Command) :
    ∃ after changed, maestroNoteSetCmd heap note command = some after ∧
      Prepared after note changed payload ∧ after.blocks.length = heap.blocks.length ∧
      noteType after note = noteType heap note ∧ noteCommand after note = some command.code ∧
      ∀ field, Stored heap heap.blocks.length payload value field →
        Stored after after.blocks.length payload value field := by
  have hsize := h.noteSize_le
  rcases Heap.storeWord_of_le command.code h.held
    (show commandOffset + 4 ≤ head.length from le_trans (by decide) hsize) with ⟨after, hstore⟩
  rcases Heap.store_eq_some hstore with ⟨_, changed, _, _, hafter, hframe, hlength⟩
  have hpointer : notePayload after note = some payload := by
    rw [notePayload, Heap.loadWord_store_disjoint hstore
      (Or.inr (by rw [length_toLE]; decide))]
    exact h.pointer
  have hcommand : noteCommand after note = some command.code := by
    rw [noteCommand, Heap.loadWord_storeWord hstore,
      Nat.mod_eq_of_lt (command.code_le.trans_lt (by norm_num))]
  have htype : noteType after note = noteType heap note :=
    Heap.loadWord_store_disjoint hstore (Or.inl (by decide))
  have hbody : ∃ body, after.block? payload = some body ∧ body.length = payloadSize := by
    rw [hframe payload h.distinct.symm]
    exact h.body
  refine ⟨after, changed, hstore, ⟨hafter, hpointer, hbody, h.older⟩, hlength, htype, hcommand, ?_⟩
  intro field hfield
  rw [hlength]
  exact hfield.store_older hstore h.older

/-- The header of a response is in place before a handler is called. -/
theorem prepareResponse_spec (value : NoteValue) :
    ∃ heap head payload, prepareResponse ⟨value.text .responseId, value.text .responseName⟩ =
        some heap ∧ Prepared heap noteAddress head payload ∧
      noteType heap noteAddress = some RequestType.response.code ∧ heap.blocks.length ≤ 4 ∧
      ∀ field ∈ responseHeader, Stored heap heap.blocks.length payload value field := by
  rcases prepare_headNote .response .startReceiver with
    ⟨heap, head, payload, hprepare, hprepared, hresponse, _, hlength⟩
  rcases setHeader_fills value .response hprepared hresponse (by omega) .responseId .responseName
    (Or.inl ⟨rfl, rfl, rfl⟩) with ⟨first, second, hid, hname, hheader⟩
  have hset : maestroNoteSetType zeroNote noteAddress .response =
      some (headNote .response .startReceiver) := rfl
  have hstart : prepareResponse ⟨value.text .responseId, value.text .responseName⟩ =
      some second := by
    simp [prepareResponse, hset, hprepare, hid, hname]
  have hsecond := hheader.prepared hprepared
  have hgrows := hheader.length_le
  refine ⟨second, head, payload, hstart, hsecond, ?_, ?_, hheader.stored (by decide)⟩
  · rw [noteType_of_block (hsecond.held.trans hprepared.held.symm), hresponse]
  · simp only [List.length_cons, List.length_nil] at hgrows
    omega

/-- The members of the header lie before those of the body. -/
theorem responseHeader_below_body (command : ℕ) :
    ∀ field ∈ responseHeader, ∀ later ∈ responseBody command, field.offset + 8 ≤ later.offset := by
  unfold responseBody
  split
  · decide
  · split <;> decide

/-- A handler turns the prepared response into the note it describes. -/
theorem fillResponse_spec (value : NoteValue) (htype : value.type = .response) :
    ∃ heap after, prepareResponse ⟨value.text .responseId, value.text .responseName⟩ = some heap ∧
      fillResponse value heap = some after ∧ Represents after noteAddress value := by
  rcases prepareResponse_spec value with
    ⟨heap, head, payload, hstart, hprepared, hresponse, hlength, hheader⟩
  rcases setCmd_spec value hprepared value.command with
    ⟨middle, changed, hset, hmiddle, hkept, htypes, hcommand, hstored⟩
  have hshort := length_responseBody_le value.command.code
  rcases setFields_fills value (responseBody value.command.code) hmiddle (by omega) with
    ⟨after, hbody, hfills⟩
  have hafter := hfills.prepared hmiddle
  have hsame := hafter.held.trans hmiddle.held.symm
  have hfields : value.fields = responseHeader ++ responseBody value.command.code := by
    rw [NoteValue.fields, htype, layout_response]
  have hordered := layout_pairwise .response value.command
  rw [layout_response, List.pairwise_append] at hordered
  refine ⟨heap, after, hstart, ?_, represents_of_stored hafter ?_ ?_ ?_ ?_⟩
  · simp [fillResponse, hset, buildResponseBody_eq, hbody]
  · rw [noteType_of_block hsame, htypes, hresponse, htype]
  · rw [noteCommand_of_block hsame, hcommand]
  · rw [hfields]
    simp [responseHeader]
  · intro field hfield
    rw [hfields, List.mem_append] at hfield
    rcases hfield with hfirst | hlater
    · have hbelow := responseHeader_below_body value.command.code field hfirst
      exact FillsAll.frame hbelow (hstored field (hheader field hfirst)) hfills
    · exact hfills.stored hordered.2.1 field hlater

/-! ## The player follows the protocol on answerable inputs -/

/-- The inputs that get the reply of the protocol: nothing failed on the way, or the failure was
masked and no instrument plays the note. -/
def Answerable (results : ℕ → UnpackReturn) (sheet : List Instrument) : Prop :=
  Clean results ∨
    Masked results ∧ ∃ type command, head? results = some (type, command) ∧
      ∀ instrument ∈ sheet, instrument.tessitura.code ≠ command

/-- A refused header is not a stored one. -/
theorem not_clean_of_masked {results : ℕ → UnpackReturn} (h : Masked results) :
    ¬ Clean results := by
  intro hclean
  rcases h with ⟨type, command, hhead, htype, _, hrefused, _⟩
  rcases hclean with ⟨cleanType, cleanCommand, hsame, hstored⟩
  rw [hhead, Option.some.injEq, Prod.mk.injEq] at hsame
  rw [← hsame.1, ← hsame.2, wireLayout, if_pos htype, fieldsOutcome_append_stored] at hstored
  rw [hstored.1] at hrefused
  cases hrefused

section

variable (pinfo : PlayerInfo) (mp : Msgpack) (sheet : List Instrument) (input : List UInt8)

/-- The first instrument with the command of the note plays it. -/
theorem maestroSheetDoPlay_eq {request : Heap} (response : Heap) {command : ℕ}
    (h : noteCommand request noteAddress = some command) :
    maestroSheetDoPlay pinfo request response sheet =
      match sheet.find? fun instrument ↦
        noteCommand request noteAddress = some instrument.tessitura.code with
      | none => some (false, response)
      | some instrument =>
          (fillResponse ((instrument.play request).reply pinfo) response).map fun response ↦
            (true, response) := by
  induction sheet with
  | nil => rfl
  | cons instrument sheet ih =>
    rw [maestroSheetDoPlay, h, Option.bind_some, List.find?_cons]
    by_cases hsame : instrument.tessitura.code = command
    · simp [maestroInstrumentCanPlay, hsame]
    · have hother : command ≠ instrument.tessitura.code := fun heq ↦ hsame heq.symm
      rw [ih, h]
      simp [maestroInstrumentCanPlay, hsame, hother]

/-- The response that is written when a handler describes it, and its bytes. -/
theorem serialize_reply (value : NoteValue) :
    ∃ response after, prepareResponse pinfo = some response ∧
      fillResponse (value.reply pinfo) response = some after ∧
      maestroSerializeNote mp after noteAddress =
        some (true, some ((value.reply pinfo).pieces mp).flatten) := by
  rcases fillResponse_spec (value.reply pinfo) rfl with ⟨response, after, hstart, hfill, hvalue⟩
  exact ⟨response, after, hstart, hfill, maestroSerializeNote_of_represents mp hvalue⟩

/-- An accepted note: the response of the first matching instrument, or none. -/
theorem maestroSheetPlay_accepted {status : Status} {state : DecodeState} {command : ℕ}
    (hdecode : maestroDeserializeNote mp input noteAddress zeroNote status = some (true, state))
    (hcommand : noteCommand state.heap noteAddress = some command) :
    maestroSheetPlay pinfo mp sheet input status =
      some (((replies pinfo mp sheet (true, state)).head?.map Prod.snd), state.status) := by
  have hplay := fun response ↦ maestroSheetDoPlay_eq pinfo sheet response hcommand
  unfold maestroSheetPlay replies
  cases hfind : sheet.find? fun instrument ↦
      noteCommand state.heap noteAddress = some instrument.tessitura.code with
  | none =>
    rcases serialize_reply pinfo mp protocolErrorNote with ⟨response, _, hstart, _⟩
    simp only [hstart, hdecode, hplay, hfind, Option.bind_some, if_true]
    rfl
  | some instrument =>
    rcases serialize_reply pinfo mp (instrument.play state.heap) with
      ⟨response, after, hstart, hfill, hbytes⟩
    simp only [hstart, hdecode, hplay, hfind, hfill, hbytes, Option.bind_some, Option.map_some,
      if_true]
    rfl

/-- A rejected byte string: the protocol error is serialized, with the failure in the status. -/
theorem maestroSheetPlay_rejected {status : Status} {state : DecodeState}
    (hdecode : maestroDeserializeNote mp input noteAddress zeroNote status = some (false, state)) :
    maestroSheetPlay pinfo mp sheet input status =
      some (some ((protocolErrorNote.reply pinfo).pieces mp).flatten, state.status) := by
  rcases serialize_reply pinfo mp protocolErrorNote with
    ⟨response, after, hstart, hfill, hbytes⟩
  have hset : maestroNoteSetCmd response noteAddress .protocolError = some after := by
    rw [← hfill]
    change _ = (maestroNoteSetCmd response noteAddress .protocolError).bind some
    rw [Option.bind_fun_some]
  unfold maestroSheetPlay
  simp only [hstart, hdecode, hset, hbytes, Option.bind_some, Option.map_some]
  rfl

/-- What is published: the replies, unless a failure is recorded. -/
theorem maestroPlayerHandleNote_eq {ok : Bool} {state : DecodeState}
    (hdecode : maestroDeserializeNote mp input noteAddress zeroNote Status.new = some (ok, state))
    (hcommand : ok = true → ∃ command, noteCommand state.heap noteAddress = some command) :
    maestroPlayerHandleNote pinfo mp sheet input Status.new =
      some (if state.status.success then replies pinfo mp sheet (ok, state) else []) := by
  have hreplies : ((replies pinfo mp sheet (ok, state)).head?.map Prod.snd).toList.map
      (fun bytes ↦ (maestroTopic, bytes)) = replies pinfo mp sheet (ok, state) := by
    cases ok with
    | false => rfl
    | true =>
      simp only [replies]
      split <;> rfl
  unfold maestroPlayerHandleNote
  cases ok with
  | true =>
    rcases hcommand rfl with ⟨command, hread⟩
    rw [maestroSheetPlay_accepted pinfo mp sheet input hdecode hread, Option.map_some]
    simp only [hreplies]
  | false =>
    rw [maestroSheetPlay_rejected pinfo mp sheet input hdecode, Option.map_some]
    rfl

/-- An accepted note is left without a reply when no instrument plays its command. -/
theorem replies_eq_nil_iff {state : DecodeState} {command : ℕ}
    (hcommand : noteCommand state.heap noteAddress = some command) :
    replies pinfo mp sheet (true, state) = [] ↔
      ∀ instrument ∈ sheet, instrument.tessitura.code ≠ command := by
  simp only [replies, hcommand]
  split
  · rename_i hfind
    simp only [List.find?_eq_none, decide_eq_true_eq, Option.some.injEq] at hfind
    exact iff_of_true rfl fun instrument hmem hsame ↦ hfind instrument hmem hsame.symm
  · rename_i instrument hfind
    have hmem := List.mem_of_find?_eq_some hfind
    have hsame := List.find?_some hfind
    simp only [decide_eq_true_eq, Option.some.injEq] at hsame
    exact iff_of_false (List.cons_ne_nil _ _) fun hall ↦ hall instrument hmem hsame.symm

/-- With a failure recorded nothing is published. -/
theorem maestroPlayerHandleNote_of_failed {ok : Bool} {state : DecodeState}
    (hdecode : maestroDeserializeNote mp input noteAddress zeroNote Status.new = some (ok, state))
    (hcommand : ok = true → ∃ command, noteCommand state.heap noteAddress = some command)
    (hfailed : state.status.failed = true) :
    maestroPlayerHandleNote pinfo mp sheet input Status.new = some [] := by
  rw [maestroPlayerHandleNote_eq pinfo mp sheet input hdecode hcommand,
    Status.success_of_failed hfailed]
  rfl

end

end MsgPerf.Maestro
