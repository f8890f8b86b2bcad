import MsgPerf.Maestro.Player

/-!
# The requests of the command line tool

A command without a payload is a note with type and command only.  The request of a PING is prepared
before its type and command are set, and the request of a SET is prepared twice, once by the command
and once more by the setter of the option; the first payload is lost.  An option name that is not
known ends the command before anything is serialized.

In each case the bytes are those of the note that the command means.
-/

namespace MsgPerf.Maestro

open MsgPerf.Library.ByteMemory

/-! ## What the requests mean -/

theorem nil_isText : 0 ∉ ([] : List UInt8) ∧ ([] : List UInt8).length < 2 ^ 31 := by decide

def emptyText : Text := ⟨[], nil_isText⟩

theorem zero_toNat_lt : (0 : BitVec 64).toNat < 2 ^ 32 := by decide

theorem zero_toNat_lt_byte : (0 : BitVec 64).toNat < 256 := by decide

/-- A note with no members but those of the header. -/
def emptyNote (type : RequestType) (command : Command) : NoteValue where
  type := type
  command := command
  scalar _ := 0
  text _ := emptyText
  childCount_lt := zero_toNat_lt
  statType_lt := zero_toNat_lt_byte

/-- A request to set an option. -/
def setNote (opt : BitVec 64) (value : Text) : NoteValue where
  type := .request
  command := .set
  scalar field := if field = .setOpt then opt else 0
  text _ := value
  childCount_lt := by simp
  statType_lt := by simp

/-- A PING that was sent at the given time. -/
def pingNote (sec usec : BitVec 64) : NoteValue where
  type := .request
  command := .ping
  scalar field := if field = .pingSec then sec else if field = .pingUsec then usec else 0
  text _ := emptyText
  childCount_lt := by simp
  statType_lt := by simp

/-! ## The functions of the tool -/

variable (mp : Msgpack)

def maestroEasyRequest (command : Command) : Option Serialized := do
  let heap ← maestroNoteSetType zeroNote noteAddress .request
  let heap ← maestroNoteSetCmd heap noteAddress command
  maestroSerializeNote mp heap noteAddress

def maestroCmdRequestPing (sec usec : BitVec 64) : Option Serialized := do
  let heap ← maestroNotePayloadPrepare zeroNote noteAddress
  let heap ← maestroNoteSetType heap noteAddress .request
  let heap ← maestroNoteSetCmd heap noteAddress .ping
  let heap ← maestroNotePingSetTs heap noteAddress sec.toNat usec.toNat
  maestroSerializeNote mp heap noteAddress

/-- The option names of `maestro_cmd_set_opt_by_name`, in the order of the comparisons, with the
codes of `set_opts_t`. -/
def setOptions : List (String × ℕ) :=
  [("broker", 0), ("duration", 1), ("log-level", 2), ("parallel-count", 3), ("message-size", 4),
    ("throttle", 5), ("rate", 6), ("fcl", 7)]

/-- The code of an option name. -/
def setOptionCode? (name : List UInt8) : Option ℕ :=
  (setOptions.find? fun entry ↦ entry.1.toUTF8.toList = name).map Prod.snd

/-- No serialized note inside when the name is unknown. -/
def maestroCmdSetOptByName (opt : List UInt8) (value : Text) : Option (Option Serialized) := do
  let heap ← maestroNoteSetType zeroNote noteAddress .request
  let heap ← maestroNoteSetCmd heap noteAddress .set
  let heap ← maestroNotePayloadPrepare heap noteAddress
  match setOptionCode? opt with
  | none => some none
  | some code => do
      let heap ← maestroNoteSetOpt heap noteAddress code value.1
      (maestroSerializeNote mp heap noteAddress).map some

/-! ## Their bytes -/

/-- A request without members. -/
theorem maestroEasyRequest_eq {command : Command} (h : layout .request command = []) :
    maestroEasyRequest mp command =
      some (true, some ((emptyNote .request command).pieces mp).flatten) := by
  obtain ⟨middle, htype, hcommand⟩ := setHead_eq .request command
  have hrepresents := represents_headNote (show (emptyNote .request command).fields = [] from h)
  simp only [maestroEasyRequest, htype, hcommand, Option.bind_eq_bind, Option.bind_some]
  exact maestroSerializeNote_of_represents mp hrepresents

/-- A payload that is prepared and then filled by the setters of a request. -/
theorem represents_of_setFields {heap : Heap} {head : Block} {payload : ℕ} (value : NoteValue)
    (hprepared : Prepared heap noteAddress head payload)
    (htype : noteType heap noteAddress = some value.type.code)
    (hcommand : noteCommand heap noteAddress = some value.command.code)
    (hfields : value.fields ≠ []) (hroom : heap.blocks.length + value.fields.length < 2 ^ 64) :
    ∃ after, setFields value noteAddress value.fields heap = some after ∧
      Represents after noteAddress value := by
  rcases setFields_fills value value.fields hprepared hroom with ⟨after, hset, hfills⟩
  exact ⟨after, hset, represents_of_filled hprepared htype hcommand hfields hfills⟩

/-- Type and command of a note whose payload has been prepared. -/
theorem setHead_prepared :
    ∃ prepared typed heap head payload,
      maestroNotePayloadPrepare zeroNote noteAddress = some prepared ∧
      maestroNoteSetType prepared noteAddress .request = some typed ∧
      maestroNoteSetCmd typed noteAddress .ping = some heap ∧
      Prepared heap noteAddress head payload ∧
      noteType heap noteAddress = some RequestType.request.code ∧
      noteCommand heap noteAddress = some Command.ping.code ∧ heap.blocks.length = 2 := by
  refine ⟨_, _, _, _, 2, rfl, rfl, rfl, ⟨rfl, rfl, ⟨_, rfl, rfl⟩, by decide⟩, rfl, rfl, rfl⟩

theorem maestroCmdRequestPing_eq (sec usec : BitVec 64) :
    maestroCmdRequestPing mp sec usec =
      some (true, some ((pingNote sec usec).pieces mp).flatten) := by
  rcases setHead_prepared with
    ⟨prepared, typed, heap, head, payload, hprepare, htyped, hheap, hprepared, htype, hcommand,
      hlength⟩
  have hfields : (pingNote sec usec).fields = [.pingSec, .pingUsec] := rfl
  rcases represents_of_setFields (pingNote sec usec) hprepared htype hcommand
    (by simp [hfields]) (by simp [hfields, hlength]) with ⟨after, hset, hrepresents⟩
  have hstored : maestroNotePingSetTs heap noteAddress sec.toNat usec.toNat = some after := by
    rw [hfields] at hset
    simpa [setFields, setField, maestroNotePingSetTs, pingNote, Field.kind] using hset
  simp only [maestroCmdRequestPing, hprepare, htyped, hheap, hstored, Option.bind_eq_bind,
    Option.bind_some]
  exact maestroSerializeNote_of_represents mp hrepresents

/-- The second payload of a SET. -/
theorem prepare_twice :
    ∃ typed heap prepared again head payload,
      maestroNoteSetType zeroNote noteAddress .request = some typed ∧
      maestroNoteSetCmd typed noteAddress .set = some heap ∧
      maestroNotePayloadPrepare heap noteAddress = some prepared ∧
      maestroNotePayloadPrepare prepared noteAddress = some again ∧
      Prepared again noteAddress head payload ∧
      noteType again noteAddress = some RequestType.request.code ∧
      noteCommand again noteAddress = some Command.set.code ∧ again.blocks.length = 3 := by
  refine ⟨_, _, _, _, _, 3, rfl, rfl, rfl, rfl, ⟨rfl, rfl, ⟨_, rfl, rfl⟩, by decide⟩, rfl, rfl, rfl⟩

theorem setOptionCode?_lt {name : List UInt8} {code : ℕ} (h : setOptionCode? name = some code) :
    code < 8 := by
  obtain ⟨entry, hentry, rfl⟩ := Option.map_eq_some_iff.mp h
  have hmem := List.mem_of_find?_eq_some hentry
  have hall : ∀ entry ∈ setOptions, entry.2 < 8 := by decide
  exact hall entry hmem

/-- The request of a known option; nothing is serialized for another name. -/
theorem maestroCmdSetOptByName_eq (opt : List UInt8) (value : Text) :
    maestroCmdSetOptByName mp opt value =
      some ((setOptionCode? opt).map fun code ↦
        (true, some ((setNote (.ofNat 64 code) value).pieces mp).flatten)) := by
  rcases prepare_twice with
    ⟨typed, heap, prepared, again, head, payload, htyped, hheap, hprepare, hagain, hprepared, htype,
      hcommand, hlength⟩
  cases hcode : setOptionCode? opt with
  | none => simp [maestroCmdSetOptByName, htyped, hheap, hprepare, hcode]
  | some code =>
    have hsmall : code % 18446744073709551616 = code :=
      Nat.mod_eq_of_lt ((setOptionCode?_lt hcode).trans (by norm_num))
    have hfields : (setNote (.ofNat 64 code) value).fields = [.setOpt, .setValue] := rfl
    rcases represents_of_setFields (setNote (.ofNat 64 code) value) hprepared htype hcommand
      (by simp [hfields]) (by simp [hfields, hlength]) with ⟨after, hset, hrepresents⟩
    have hstored : maestroNoteSetOpt prepared noteAddress code value.1 = some after := by
      rw [hfields] at hset
      simpa [setFields, setField, maestroNoteSetOpt, hagain, setNote, Field.kind, hsmall] using hset
    have hserialized := maestroSerializeNote_of_represents mp hrepresents
    simp [maestroCmdSetOptByName, htyped, hheap, hprepare, hcode, hstored, hserialized]

end MsgPerf.Maestro
