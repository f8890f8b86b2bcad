import MsgPerf.Common.MessageBuffer
import MsgPerf.Library.ByteMemory
import MsgPerf.Maestro.MsgpackFormat
import MsgPerf.Maestro.Player

/-!
# The forward queue

The forward daemon receives notes into a buffer and puts them into a System V queue, from which the
command line tool collects them.  The calls of the queue take a word with the type of the message in
front of its text; both programs pass the plain note with its length.  The first eight bytes of the
note are therefore the type, and the text reaches eight bytes behind the note.

A read or a write outside of a block has no result.  The queue has room, and the allocations
succeed.
-/

namespace MsgPerf.Maestro.Forward

open MsgPerf.Common
open MsgPerf.Library.ByteMemory

/-! ## The queue -/

/-- `MAESTRO_NOTE_SIZE`. -/
def maestroNoteSize : ℕ := 256

/-- The length of the type of a message, a `long`. -/
def typeLength : ℕ := 8

/-- A message in the queue. -/
structure QueueMessage where
  type : List UInt8
  text : List UInt8
  deriving DecidableEq, Repr

/-- What comes of a call of `msgsnd`; `outside` is a read behind the block. -/
inductive SendOutcome where
  | accepted (message : QueueMessage)
  | refused
  | outside
  deriving DecidableEq, Repr

/-- The type is a positive number with a sign bit. -/
def ValidType (type : List UInt8) : Prop := 0 < ofLE type ∧ ofLE type < 2 ^ 63

instance (type : List UInt8) : Decidable (ValidType type) := inferInstanceAs (Decidable (_ ∧ _))

/-- `msgsnd`: the type is tested before the text is copied. -/
def msgsnd (block : Block) (size : ℕ) : SendOutcome :=
  match block.read 0 typeLength with
  | none => .outside
  | some type =>
    if ValidType type then
      match block.read typeLength size with
      | none => .outside
      | some text => .accepted ⟨type, text⟩
    else .refused

/-- `msgrcv`: the block with the type and the text, and the length of the text. -/
def msgrcv (message : QueueMessage) (block : Block) (size : ℕ) : Option (Block × ℕ) :=
  if message.text.length ≤ size then
    (block.write 0 (message.type ++ message.text)).map fun after ↦ (after, message.text.length)
  else none

/-! ## The two programs -/

/-- The buffer of the forward daemon. -/
def responseBuffer : Content := Content.zero.msgContentDataInit maestroNoteSize true

/-- A turn of `maestro_loop_reply_run` with a note, whatever comes of the call of `msgsnd`. -/
def forwardTurn (content : Content) (payload : List UInt8) : Option (Content × SendOutcome) :=
  (content.pahoReceive payload).bind fun received ↦
    received.msgContentDataReset.map fun reset ↦
      (reset, msgsnd received.bytes received.size)

/-- The buffer after some notes. -/
def forwardNotes : Content → List (List UInt8) → Option Content
  | content, [] => some content
  | content, payload :: payloads =>
    (forwardTurn content payload).bind fun turn ↦ forwardNotes turn.1 payloads

/-- A turn of `maestro_cmd_do_collect`: the bytes for `maestro_deserialize_note`. -/
def maestroCmdDoCollect (message : QueueMessage) : Option (List UInt8) :=
  (msgrcv message (List.replicate maestroNoteSize 0) maestroNoteSize).map fun received ↦
    (Content.zero.msgContentDataCopy (received.1.take received.2) true).bytes

/-- The queue accepts the note, and exactly its bytes are collected. -/
def RoundTrips (earlier : List (List UInt8)) (note : List UInt8) : Prop :=
  ∃ content reset message, forwardNotes responseBuffer earlier = some content ∧
    forwardTurn content note = some (reset, .accepted message) ∧
    maestroCmdDoCollect message = some note

/-! ## The buffer between two notes -/

/-- A note in the block of the buffer. -/
def noteBlock (note : List UInt8) : Block :=
  note ++ List.replicate (maestroNoteSize - note.length) 0

theorem length_noteBlock {note : List UInt8} (h : note.length ≤ maestroNoteSize) :
    (noteBlock note).length = maestroNoteSize := by
  rw [noteBlock, List.length_append, List.length_replicate]
  exact Nat.add_sub_cancel' h

/-- The buffer with a note in its block and the size of the message. -/
def receivedBuffer (note : List UInt8) (size : ℕ) : Content :=
  ⟨some (noteBlock note), maestroNoteSize, size⟩

theorem reset_receivedBuffer {note : List UInt8} (h : note.length ≤ maestroNoteSize) (size : ℕ) :
    (receivedBuffer note size).msgContentDataReset = some responseBuffer := by
  have hblock := length_noteBlock h
  have hfits : (List.replicate (receivedBuffer note size).capacity (0 : UInt8)).length ≤
      (receivedBuffer note size).bytes.length := by
    simp [receivedBuffer, Content.bytes, hblock]
  rw [Content.msgContentDataReset, Content.memcpy, if_pos hfits]
  simp [receivedBuffer, ← hblock, responseBuffer, Content.msgContentDataInit,
    Content.msgContentDataRelease, Content.zero]

theorem memcpy_responseBuffer {source : List UInt8} (h : source.length ≤ maestroNoteSize) :
    responseBuffer.memcpy source = some (receivedBuffer source 0) := by
  have hfits : source.length ≤ responseBuffer.bytes.length := by
    simpa [responseBuffer, Content.msgContentDataInit, Content.bytes] using h
  rw [Content.memcpy, if_pos hfits]
  simp [responseBuffer, Content.msgContentDataInit, Content.msgContentDataRelease, Content.zero,
    receivedBuffer, noteBlock]

/-- A turn leaves the buffer as it was. -/
theorem forwardTurn_of_receive {payload note : List UInt8} (h : note.length ≤ maestroNoteSize)
    (hreceive : responseBuffer.pahoReceive payload = some (receivedBuffer note payload.length)) :
    forwardTurn responseBuffer payload =
      some (responseBuffer, msgsnd (noteBlock note) payload.length) := by
  rw [forwardTurn, hreceive, Option.bind_some, reset_receivedBuffer h]
  rfl

/-- The note is sent with zeros behind it. -/
theorem forwardTurn_of_le {note : List UInt8} (h : note.length ≤ maestroNoteSize) :
    forwardTurn responseBuffer note =
      some (responseBuffer, msgsnd (noteBlock note) note.length) := by
  have hshort : ¬ responseBuffer.capacity < note.length := not_lt.mpr h
  apply forwardTurn_of_receive h
  simp only [Content.pahoReceive, if_neg hshort, memcpy_responseBuffer h, Option.map_some,
    receivedBuffer]

theorem forwardTurn_reset (payload : List UInt8) :
    ∃ outcome, forwardTurn responseBuffer payload = some (responseBuffer, outcome) := by
  by_cases h : payload.length ≤ maestroNoteSize
  · exact ⟨_, forwardTurn_of_le h⟩
  · have hcut : (payload.take (responseBuffer.capacity - 1)).length ≤ maestroNoteSize :=
      (List.length_take_le _ _).trans (Nat.sub_le _ _)
    have hlong : responseBuffer.capacity < payload.length := not_le.mp h
    have hcapacity : responseBuffer.capacity ≠ 0 := by decide
    refine ⟨_, forwardTurn_of_receive hcut ?_⟩
    simp only [Content.pahoReceive, if_pos hlong, if_neg hcapacity, memcpy_responseBuffer hcut,
      Option.map_some, receivedBuffer]

theorem forwardNotes_eq (earlier : List (List UInt8)) :
    forwardNotes responseBuffer earlier = some responseBuffer := by
  induction earlier with
  | nil => rfl
  | cons payload earlier ih =>
    obtain ⟨outcome, hturn⟩ := forwardTurn_reset payload
    rw [forwardNotes, hturn, Option.bind_some, ih]

/-! ## The round trip -/

section RoundTrip

variable {note : List UInt8}

/-- The eighth byte of the buffer is that of the note, or zero. -/
theorem noteBlock_getElem? : (noteBlock note)[7]? = some (note.getD 7 0) := by
  rw [noteBlock, List.getD_eq_getElem?_getD]
  by_cases h : 7 < note.length
  · rw [List.getElem?_append_left h, List.getElem?_eq_getElem h, Option.getD_some]
  · rw [List.getElem?_append_right (not_lt.mp h), List.getElem?_eq_none (not_lt.mp h),
      List.getElem?_replicate, if_pos (by simp [maestroNoteSize]; omega), Option.getD_none]

/-- A note that does not begin with a zero is refused exactly when its eighth byte has the sign
bit. -/
theorem validType_iff (hlength : note.length ≤ maestroNoteSize) {code : UInt8} {rest : List UInt8}
    (hnote : note = code :: rest) (hcode : code ≠ 0) :
    ValidType ((noteBlock note).take typeLength) ↔ note.getD 7 0 < 0x80 := by
  have htype : (noteBlock note).take typeLength =
      (noteBlock note).take 7 ++ [note.getD 7 0] := by
    rw [typeLength, List.take_add_one, noteBlock_getElem?]
    rfl
  have hlow : ((noteBlock note).take 7).length = 7 := by
    rw [List.length_take, length_noteBlock hlength]
    rfl
  have hhalf := ofLE_lt_half_iff ((noteBlock note).take 7) (note.getD 7 0)
  rw [hlow, ← htype] at hhalf
  have hpositive : 0 < ofLE ((noteBlock note).take typeLength) := by
    rw [hnote, noteBlock, List.cons_append, typeLength, List.take_succ_cons, ofLE]
    have hcodePositive : 0 < code.toNat := by
      rw [Nat.pos_iff_ne_zero]
      intro hzero
      exact hcode (UInt8.toNat_inj.mp hzero)
    omega
  have hbound : (2 : ℕ) ^ 63 = 128 * 256 ^ 7 := by norm_num
  rw [ValidType, hbound, hhalf]
  exact and_iff_right hpositive

/-- The type and the text are the whole buffer up to eight bytes behind the note. -/
theorem msgsnd_noteBlock (hlength : note.length ≤ maestroNoteSize) {message : QueueMessage} :
    msgsnd (noteBlock note) note.length = .accepted message ↔
      ValidType ((noteBlock note).take typeLength) ∧
        typeLength + note.length ≤ maestroNoteSize ∧
        message = ⟨(noteBlock note).take typeLength,
          ((noteBlock note).drop typeLength).take note.length⟩ := by
  have hblock := length_noteBlock hlength
  have htype : (noteBlock note).read 0 typeLength = some ((noteBlock note).take typeLength) := by
    rw [Block.read, hblock, if_pos (by decide), List.drop_zero]
  by_cases hvalid : ValidType ((noteBlock note).take typeLength)
  · by_cases hfits : typeLength + note.length ≤ maestroNoteSize
    · have htext : (noteBlock note).read typeLength note.length =
          some (((noteBlock note).drop typeLength).take note.length) := by
        rw [Block.read, hblock, if_pos hfits]
      simp [msgsnd, htype, htext, hvalid, hfits, eq_comm]
    · have htext : (noteBlock note).read typeLength note.length = none := by
        rw [Block.read, hblock, if_neg hfits]
      simp [msgsnd, htype, htext, hvalid, hfits]
  · simp [msgsnd, htype, hvalid]

/-- What is collected: the note, with its first bytes in the place of the type. -/
theorem maestroCmdDoCollect_eq (hfits : typeLength + note.length ≤ maestroNoteSize) :
    maestroCmdDoCollect ⟨(noteBlock note).take typeLength,
      ((noteBlock note).drop typeLength).take note.length⟩ = some note := by
  have hlength : note.length ≤ maestroNoteSize := (Nat.le_add_left _ _).trans hfits
  have hblock := length_noteBlock hlength
  have htype : ((noteBlock note).take typeLength).length = typeLength := by
    rw [List.length_take, hblock]
    rfl
  have htext : (((noteBlock note).drop typeLength).take note.length).length = note.length := by
    rw [List.length_take, List.length_drop, hblock]
    omega
  have hwrite : (0 : ℕ) + ((noteBlock note).take typeLength ++
      ((noteBlock note).drop typeLength).take note.length).length ≤
        (List.replicate maestroNoteSize (0 : UInt8)).length := by
    rw [List.length_append, htype, htext, List.length_replicate, Nat.zero_add]
    exact hfits
  rw [maestroCmdDoCollect, msgrcv, if_pos (htext.trans_le hlength), Block.write_of_le hwrite]
  simp only [Option.map_some, htext, List.take_zero, List.nil_append, Content.msgContentDataCopy,
    if_true, Content.bytes, Option.getD_some, Option.some.injEq]
  calc ((noteBlock note).take typeLength ++ ((noteBlock note).drop typeLength).take note.length ++
        _).take note.length
      = ((noteBlock note).take (typeLength + note.length)).take note.length := by
        rw [← List.take_add, List.take_append_of_le_length]
        rw [List.length_take, hblock]
        omega
    _ = (noteBlock note).take note.length := by
        rw [List.take_take, Nat.min_eq_left (Nat.le_add_left _ _)]
    _ = note := List.take_left

theorem roundTrips_iff_of_cons (earlier : List (List UInt8))
    (hlength : note.length ≤ maestroNoteSize) {code : UInt8} {rest : List UInt8}
    (hnote : note = code :: rest) (hcode : code ≠ 0) :
    RoundTrips earlier note ↔
      typeLength + note.length ≤ maestroNoteSize ∧ note.getD 7 0 < 0x80 := by
  rw [← validType_iff hlength hnote hcode]
  constructor
  · rintro ⟨content, reset, message, hearlier, hturn, -⟩
    rw [forwardNotes_eq, Option.some.injEq] at hearlier
    subst hearlier
    rw [forwardTurn_of_le hlength, Option.some.injEq, Prod.mk.injEq] at hturn
    obtain ⟨hvalid, hfits, -⟩ := (msgsnd_noteBlock hlength).mp hturn.2
    exact ⟨hfits, hvalid⟩
  · rintro ⟨hfits, hvalid⟩
    refine ⟨responseBuffer, responseBuffer, _, forwardNotes_eq earlier, ?_,
      maestroCmdDoCollect_eq hfits⟩
    rw [forwardTurn_of_le hlength, (msgsnd_noteBlock hlength).mpr ⟨hvalid, hfits, rfl⟩]

end RoundTrip

/-- The serialized form of a note. -/
def noteBytes (value : NoteValue) : List UInt8 := (value.pieces msgpackFormat).flatten

/-- A response or a notification begins with the code of its type. -/
theorem noteBytes_eq_cons {value : NoteValue} (h : value.type ≠ .request) :
    ∃ code rest, noteBytes value = code :: rest ∧ code ≠ 0 := by
  cases htype : value.type with
  | request => exact absurd htype h
  | response =>
    refine ⟨1, (value.pieces msgpackFormat).tail.flatten, ?_, by decide⟩
    rw [noteBytes, NoteValue.pieces, htype]
    rfl
  | notification =>
    refine ⟨2, (value.pieces msgpackFormat).tail.flatten, ?_, by decide⟩
    rw [noteBytes, NoteValue.pieces, htype]
    rfl

/-- After any other notes, a response or a notification of at most 256 bytes is forwarded and
collected as it is exactly when it leaves room for the type in the buffers, and its eighth byte does
not make the type negative. -/
theorem roundTrips_iff (earlier : List (List UInt8)) (value : NoteValue)
    (htype : value.type ≠ .request) (hlength : (noteBytes value).length ≤ maestroNoteSize) :
    RoundTrips earlier (noteBytes value) ↔
      (noteBytes value).length ≤ 248 ∧ (noteBytes value).getD 7 0 < 0x80 := by
  obtain ⟨code, rest, hnote, hcode⟩ := noteBytes_eq_cons htype
  rw [roundTrips_iff_of_cons earlier hlength hnote hcode]
  have hroom : typeLength + (noteBytes value).length ≤ maestroNoteSize ↔
      (noteBytes value).length ≤ 248 := by
    simp only [typeLength, maestroNoteSize]
    omega
  rw [hroom]

/-- A response that acknowledges a request, from a peer with the given id and name. -/
def okResponse (id name : Text) : NoteValue :=
  { protocolErrorNote with
    command := .ok
    text := fun field ↦ if field = .responseId then id else name }

/-- Some copies of a letter. -/
def letters (count : ℕ) (h : count < 2 ^ 31) : Text :=
  ⟨List.replicate count 0x61, by simp, by simpa using h⟩

/-- A response from a peer with an id of six letters. -/
theorem sixLetters_roundTrips :
    RoundTrips [[1, 2, 3]] (noteBytes (okResponse (letters 6 (by decide)) (letters 4 (by decide)))) :=
  (roundTrips_iff [[1, 2, 3]] (okResponse (letters 6 (by decide)) (letters 4 (by decide)))
    (by decide) (by decide)).mpr (by decide)

/-- A response of 250 bytes. -/
def longResponse : NoteValue := okResponse (letters 36 (by decide)) (letters 208 (by decide))

/-- A response from a peer with a long name does not fit with its type. -/
theorem longResponse_not_roundTrips :
    ¬ ∀ earlier value, value.type ≠ .request → (noteBytes value).length ≤ maestroNoteSize →
      RoundTrips earlier (noteBytes value) := by
  intro hevery
  have htype : longResponse.type ≠ .request := by decide
  have hlength : (noteBytes longResponse).length = 250 := by decide +kernel
  have hfits : (noteBytes longResponse).length ≤ maestroNoteSize := by
    rw [hlength]
    decide
  have hroundTrips := hevery [] longResponse htype hfits
  obtain ⟨code, rest, hnote, hcode⟩ := noteBytes_eq_cons htype
  rw [roundTrips_iff_of_cons [] hfits hnote hcode, hlength] at hroundTrips
  exact absurd hroundTrips.1 (by decide)

end MsgPerf.Maestro.Forward
