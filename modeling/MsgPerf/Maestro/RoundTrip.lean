import MsgPerf.Maestro.Acceptance
import MsgPerf.Maestro.MsgpackFormat
import MsgPerf.Maestro.Serialize

/-!
# The note codec round trip

A note built by the setters is serialized and deserialized into a fresh note.  Both the setters
and the deserializer fill the payload member by member, in the order of the layout; `Fills` says
what filling one member does to memory, and a chain of it yields every member of the layout.
In between, the serializer only depends on the value of the note and msgpack-c returns the packed
objects in order.

The eight byte stores of the deserializer are wider than the four byte members they aim at.  The
store of the type spills into the command, which is stored next, the store of the command into
the payload pointer, which stays null for the small values of a command and is set afterwards
otherwise, and the two narrow members of the statistics into padding.
-/

namespace MsgPerf.Maestro

open MsgPerf.Library.ByteMemory

/-! ## Members in memory -/

/-- The member of the payload holds its value; the strings were allocated after the payload and
within the blocks up to `bound`. -/
structure Stored (heap : Heap) (bound payload : ℕ) (value : NoteValue) (field : Field) :
    Prop where
  scalar : field.kind ≠ .string →
    heap.loadWord payload field.offset field.width = some (value.scalar field).toNat
  text : field.kind = .string → ∃ address, heap.loadWord payload field.offset 8 = some address ∧
    address ≤ bound ∧ payload < address ∧ heap.cString address = some (value.text field).1

namespace Stored

variable {heap after : Heap} {bound payload : ℕ} {value : NoteValue} {field : Field}

theorem mono (h : Stored heap bound payload value field) {larger : ℕ} (hle : bound ≤ larger) :
    Stored heap larger payload value field := by
  refine ⟨h.scalar, fun hkind ↦ ?_⟩
  rcases h.text hkind with ⟨address, hpointer, hbound, hlater, hstring⟩
  exact ⟨address, hpointer, hbound.trans hle, hlater, hstring⟩

theorem alloc (h : Stored heap bound payload value field) (size : ℕ) :
    Stored (heap.alloc size).1 bound payload value field := by
  refine ⟨fun hkind ↦ Heap.loadWord_alloc_of_some (h.scalar hkind), fun hkind ↦ ?_⟩
  rcases h.text hkind with ⟨address, hpointer, hbound, hlater, hstring⟩
  exact ⟨address, Heap.loadWord_alloc_of_some hpointer, hbound, hlater,
    Heap.cString_alloc_of_some hstring⟩

/-- A store to a later word of the payload. -/
theorem store_payload {offset : ℕ} {data : List UInt8}
    (h : Stored heap bound payload value field)
    (hstore : heap.store payload offset data = some after) (hbelow : field.offset + 8 ≤ offset) :
    Stored after bound payload value field := by
  have hwidth := field.width_le
  refine ⟨fun hkind ↦ ?_, fun hkind ↦ ?_⟩
  · rw [Heap.loadWord_store_disjoint hstore (Or.inl (by omega))]
    exact h.scalar hkind
  · rcases h.text hkind with ⟨address, hpointer, hbound, hlater, hstring⟩
    refine ⟨address, ?_, hbound, hlater, ?_⟩
    · rw [Heap.loadWord_store_disjoint hstore (Or.inl hbelow)]
      exact hpointer
    · rw [Heap.cString_store_other hstore hlater.ne']
      exact hstring

/-- A store to a block that no member points at yet. -/
theorem store_fresh {address offset : ℕ} {data : List UInt8}
    (h : Stored heap bound payload value field)
    (hstore : heap.store address offset data = some after) (hfresh : bound < address)
    (hpayload : payload ≠ address) : Stored after bound payload value field := by
  refine ⟨fun hkind ↦ ?_, fun hkind ↦ ?_⟩
  · rw [Heap.loadWord_store_other hstore hpayload]
    exact h.scalar hkind
  · rcases h.text hkind with ⟨pointer, hpointer, hbound, hlater, hstring⟩
    refine ⟨pointer, ?_, hbound, hlater, ?_⟩
    · rw [Heap.loadWord_store_other hstore hpayload]
      exact hpointer
    · rw [Heap.cString_store_other hstore (by omega)]
      exact hstring

/-- A store to a block older than the payload. -/
theorem store_older {address offset : ℕ} {data : List UInt8}
    (h : Stored heap bound payload value field)
    (hstore : heap.store address offset data = some after) (holder : address < payload) :
    Stored after bound payload value field := by
  refine ⟨fun hkind ↦ ?_, fun hkind ↦ ?_⟩
  · rw [Heap.loadWord_store_other hstore holder.ne']
    exact h.scalar hkind
  · rcases h.text hkind with ⟨pointer, hpointer, hbound, hlater, hstring⟩
    refine ⟨pointer, ?_, hbound, hlater, ?_⟩
    · rw [Heap.loadWord_store_other hstore holder.ne']
      exact hpointer
    · rw [Heap.cString_store_other hstore (by omega)]
      exact hstring

end Stored

/-- Filling one member: the payload stays prepared, at most one block is added, the member holds
its value and the members before it keep theirs. -/
structure Fills (note : ℕ) (head : Block) (payload : ℕ) (value : NoteValue) (field : Field)
    (before after : Heap) : Prop where
  prepared : Prepared after note head payload
  grows : after.blocks.length ≤ before.blocks.length + 1
  stored : Stored after after.blocks.length payload value field
  frame : ∀ other : Field, other.offset + 8 ≤ field.offset →
    Stored before before.blocks.length payload value other →
    Stored after after.blocks.length payload value other

section

variable {heap : Heap} {note payload : ℕ} {head : Block} (value : NoteValue) {field : Field}

/-- A member of at most the given width, stored with a word of that width or a wider one. -/
theorem fills_scalar (h : Prepared heap note head payload) (hkind : field.kind ≠ .string)
    {width : ℕ} (hwidth : field.width ≤ width) (hwide : width ≤ 8)
    (hvalue : (value.scalar field).toNat < 256 ^ field.width) :
    ∃ after, heap.storeWord payload field.offset width (value.scalar field).toNat = some after ∧
      Fills note head payload value field heap after := by
  rcases h.body with ⟨body, hbody, hlength⟩
  have hoffset := field.offset_add_le
  rcases Heap.storeWord_of_le (value.scalar field).toNat hbody
    (show field.offset + width ≤ body.length by rw [hlength, payloadSize]; omega) with
    ⟨after, hstore⟩
  have hblocks := Heap.length_store hstore
  refine ⟨after, hstore, h.store hstore h.distinct, by omega, ⟨fun _ ↦ ?_, fun hstring ↦ ?_⟩, ?_⟩
  · rw [Heap.loadWord_storeWord_low hstore hwidth, Nat.mod_eq_of_lt hvalue]
  · exact absurd hstring hkind
  · intro other hbelow hother
    exact (hother.store_payload hstore hbelow).mono (by omega)

/-- A string member whose text ends up in a fresh block. -/
theorem fills_text {after : Heap} (hkind : field.kind = .string)
    (h : Prepared heap note head payload) (hafter : Prepared after note head payload)
    (hgrows : after.blocks.length = heap.blocks.length + 1)
    (hpointer : after.loadWord payload field.offset 8 = some (heap.blocks.length + 1))
    (hstring : after.cString (heap.blocks.length + 1) = some (value.text field).1)
    (hframe : ∀ other : Field, other.offset + 8 ≤ field.offset →
      Stored heap heap.blocks.length payload value other →
      Stored after heap.blocks.length payload value other) :
    Fills note head payload value field heap after := by
  rcases h.body with ⟨body, hbody, _⟩
  have hlt := Heap.block?_lt hbody
  refine ⟨hafter, hgrows.le, ⟨fun hnot ↦ absurd hkind hnot, fun _ ↦ ?_⟩, ?_⟩
  · exact ⟨heap.blocks.length + 1, hpointer, hgrows.ge, by omega, hstring⟩
  · intro other hbelow hother
    exact (hframe other hbelow hother).mono (by omega)

/-- The deserializer stores the pointer to the fresh block first and the text afterwards. -/
theorem fills_pointer_then_text (h : Prepared heap note head payload)
    (hkind : field.kind = .string) (hroom : heap.blocks.length + 1 < 2 ^ 64) :
    ∃ middle after,
      (heap.alloc ((value.text field).1.length + 1)).1.storeWord payload field.offset 8
        (heap.blocks.length + 1) = some middle ∧
      middle.store (heap.blocks.length + 1) 0 ((value.text field).1 ++ [0]) = some after ∧
      Fills note head payload value field heap after := by
  have hfresh := h.alloc ((value.text field).1.length + 1)
  rcases hfresh.body with ⟨body, hbody, hlength⟩
  rcases h.body with ⟨_, hold, _⟩
  have hpayload := Heap.block?_lt hold
  have hnote := Heap.block?_lt h.held
  rcases Heap.storeWord_of_le (heap.blocks.length + 1) hbody
    (show field.offset + 8 ≤ body.length by rw [hlength]; exact field.offset_add_le) with
    ⟨middle, hmiddle⟩
  have hprepared := hfresh.store hmiddle h.distinct
  have htarget : middle.block? (heap.blocks.length + 1) =
      some (List.replicate ((value.text field).1.length + 1) 0) := by
    rcases Heap.store_eq_some hmiddle with ⟨_, _, _, _, _, hframe, _⟩
    rw [hframe _ (by omega), ← Heap.alloc_address heap ((value.text field).1.length + 1),
      Heap.block?_alloc_fresh]
  rcases Heap.store_of_le htarget
    (show 0 + ((value.text field).1 ++ [0]).length ≤ _ by simp) with ⟨after, hafter⟩
  refine ⟨middle, after, hmiddle, hafter, fills_text value hkind h (hprepared.store hafter (by omega)) ?_
    ?_ (Heap.cString_store_text hafter (value.text field).2.1) ?_⟩
  · rw [Heap.length_store hafter, Heap.length_store hmiddle, Heap.length_alloc]
  · rw [Heap.loadWord_store_other hafter (by omega), Heap.loadWord_storeWord hmiddle,
      Nat.mod_eq_of_lt (by norm_num; omega)]
  · intro other hbelow hother
    have hpointer := (hother.alloc ((value.text field).1.length + 1)).store_payload hmiddle hbelow
    exact hpointer.store_fresh hafter (by omega) (by omega)

/-- The setters duplicate the text first and store the pointer to the copy afterwards. -/
theorem storeText_fills (h : Prepared heap note head payload) (hkind : field.kind = .string)
    (hroom : heap.blocks.length + 1 < 2 ^ 64) :
    ∃ after, storeText heap note field (value.text field).1 = some after ∧
      Fills note head payload value field heap after := by
  have hfresh := h.alloc ((value.text field).1.length + 1)
  rcases h.body with ⟨_, hold, _⟩
  have hpayload := Heap.block?_lt hold
  have hnote := Heap.block?_lt h.held
  have htarget := Heap.block?_alloc_fresh heap ((value.text field).1.length + 1)
  rcases Heap.store_of_le htarget
    (show 0 + ((value.text field).1 ++ [0]).length ≤ _ by simp) with ⟨middle, hmiddle⟩
  rw [Heap.alloc_address] at hmiddle
  have hprepared := hfresh.store hmiddle (show note ≠ heap.blocks.length + 1 by omega)
  rcases hprepared.body with ⟨body, hbody, hlength⟩
  rcases Heap.storeWord_of_le (heap.blocks.length + 1) hbody
    (show field.offset + 8 ≤ body.length by rw [hlength]; exact field.offset_add_le) with
    ⟨after, hafter⟩
  refine ⟨after, ?_, fills_text value hkind h (hprepared.store hafter h.distinct) ?_ ?_ ?_ ?_⟩
  · simp only [storeText, strdup, Heap.alloc_address, hmiddle, Option.map_some, Option.bind_some,
      hprepared.pointer, hafter]
  · rw [Heap.length_store hafter, Heap.length_store hmiddle, Heap.length_alloc]
  · rw [Heap.loadWord_storeWord hafter, Nat.mod_eq_of_lt (by norm_num; omega)]
  · rw [Heap.cString_store_other hafter (by omega)]
    exact Heap.cString_store_text hmiddle (value.text field).2.1
  · intro other hbelow hother
    have htext := (hother.alloc ((value.text field).1.length + 1)).store_fresh hmiddle
      (Nat.lt_succ_self _) (by omega)
    exact htext.store_payload hafter hbelow

end

/-! ## Rows of members -/

/-- Filling a row of members one after the other. -/
def FillsAll (note : ℕ) (head : Block) (payload : ℕ) (value : NoteValue) :
    List Field → Heap → Heap → Prop
  | [], before, after => before = after
  | field :: fields, before, after =>
      ∃ middle, Fills note head payload value field before middle ∧
        FillsAll note head payload value fields middle after

namespace FillsAll

variable {note payload : ℕ} {head : Block} {value : NoteValue} {fields : List Field}
  {before after : Heap}

theorem append {rest : List Field} {last : Heap}
    (h : FillsAll note head payload value fields before after)
    (hrest : FillsAll note head payload value rest after last) :
    FillsAll note head payload value (fields ++ rest) before last := by
  induction fields generalizing before with
  | nil =>
    change before = after at h
    subst h
    exact hrest
  | cons field fields ih =>
    rcases h with ⟨middle, hfield, hfields⟩
    exact ⟨middle, hfield, ih hfields⟩

theorem prepared (hbefore : Prepared before note head payload)
    (h : FillsAll note head payload value fields before after) :
    Prepared after note head payload := by
  induction fields generalizing before with
  | nil =>
    change before = after at h
    exact h ▸ hbefore
  | cons field fields ih =>
    rcases h with ⟨middle, hfield, hfields⟩
    exact ih hfield.prepared hfields

theorem length_le (h : FillsAll note head payload value fields before after) :
    after.blocks.length ≤ before.blocks.length + fields.length := by
  induction fields generalizing before with
  | nil =>
    change before = after at h
    exact h ▸ le_rfl
  | cons field fields ih =>
    rcases h with ⟨middle, hfield, hfields⟩
    have hfirst := hfield.grows
    have hrest := ih hfields
    rw [List.length_cons]
    omega

/-- Members before the row keep their values. -/
theorem frame {other : Field} (hbelow : ∀ field ∈ fields, other.offset + 8 ≤ field.offset)
    (hother : Stored before before.blocks.length payload value other)
    (h : FillsAll note head payload value fields before after) :
    Stored after after.blocks.length payload value other := by
  induction fields generalizing before with
  | nil =>
    change before = after at h
    exact h ▸ hother
  | cons field fields ih =>
    rcases h with ⟨middle, hfield, hfields⟩
    have hmiddle := hfield.frame other (hbelow field List.mem_cons_self) hother
    exact ih (fun later hlater ↦ hbelow later (List.mem_cons_of_mem field hlater)) hmiddle hfields

/-- After a row of members in increasing order every one of them holds its value. -/
theorem stored (hordered : fields.Pairwise fun left right ↦ left.offset + 8 ≤ right.offset)
    (h : FillsAll note head payload value fields before after) :
    ∀ field ∈ fields, Stored after after.blocks.length payload value field := by
  induction fields generalizing before with
  | nil => simp
  | cons field fields ih =>
    rcases h with ⟨middle, hfield, hfields⟩
    rw [List.pairwise_cons] at hordered
    intro other hother
    rcases List.mem_cons.mp hother with hsame | hlater
    · rw [hsame]
      exact frame hordered.1 hfield.stored hfields
    · exact ih hordered.2 hfields other hlater

end FillsAll

/-- A note whose payload holds the members of its layout. -/
theorem represents_of_stored {heap : Heap} {note payload : ℕ} {head : Block} {value : NoteValue}
    (hprepared : Prepared heap note head payload)
    (htype : noteType heap note = some value.type.code)
    (hcommand : noteCommand heap note = some value.command.code) (hfields : value.fields ≠ [])
    (hstored : ∀ field ∈ value.fields, Stored heap heap.blocks.length payload value field) :
    Represents heap note value := by
  refine ⟨htype, hcommand, ?_, ?_, payload, hprepared.pointer, ?_⟩
  · intro field hfield hkind
    rw [loadScalar, hprepared.pointer]
    exact (hstored field hfield).scalar hkind
  · intro field hfield hkind
    rcases (hstored field hfield).text hkind with ⟨address, hpointer, _, _, hstring⟩
    rw [loadText, hprepared.pointer, Option.bind_some, hpointer]
    exact hstring
  · have hpositive := (Nat.zero_le note).trans_lt hprepared.older
    exact ⟨fun hnull ↦ absurd hnull hpositive.ne', fun hnone ↦ absurd hnone hfields⟩

/-- A note whose payload has been filled with the members of its layout. -/
theorem represents_of_filled {before after : Heap} {note payload : ℕ} {head : Block}
    {value : NoteValue} (hprepared : Prepared before note head payload)
    (htype : noteType before note = some value.type.code)
    (hcommand : noteCommand before note = some value.command.code)
    (hfields : value.fields ≠ [])
    (hfilled : FillsAll note head payload value value.fields before after) :
    Represents after note value := by
  have hafter := hfilled.prepared hprepared
  have hsame := hafter.held.trans hprepared.held.symm
  apply represents_of_stored hafter
  · rw [noteType_of_block hsame, htype]
  · rw [noteCommand_of_block hsame, hcommand]
  · exact hfields
  · exact hfilled.stored (layout_pairwise value.type value.command)

/-! ## Notes built by the setters -/

/-- The heap that holds only the head of a note, with a null payload. -/
def headNote (type : RequestType) (command : Command) : Heap :=
  ⟨[toLE 4 type.code ++ (toLE 4 command.code ++ List.replicate 8 0)]⟩

theorem headNote_block (type : RequestType) (command : Command) :
    ∃ head, (headNote type command).block? noteAddress = some head ∧ head.length = noteSize :=
  ⟨_, rfl, rfl⟩

theorem noteType_headNote (type : RequestType) (command : Command) :
    noteType (headNote type command) noteAddress = some type.code := by
  cases type <;> rfl

theorem noteCommand_headNote (type : RequestType) (command : Command) :
    noteCommand (headNote type command) noteAddress = some command.code := by
  cases command <;> rfl

theorem notePayload_headNote (type : RequestType) (command : Command) :
    notePayload (headNote type command) noteAddress = some 0 := rfl

/-- A note without members. -/
theorem represents_headNote {value : NoteValue} (h : value.fields = []) :
    Represents (headNote value.type value.command) noteAddress value := by
  refine ⟨noteType_headNote _ _, noteCommand_headNote _ _, ?_, ?_, 0,
    notePayload_headNote _ _, iff_of_true rfl h⟩
  · intro field hfield
    rw [h] at hfield
    cases hfield
  · intro field hfield
    rw [h] at hfield
    cases hfield

section

variable (value : NoteValue)

/-- The setters of the statistics, in the order of the layout. -/
def buildStats (heap : Heap) : Option Heap := do
  let heap ← maestroNoteStatsSetChildCount heap noteAddress (value.scalar .childCount).toNat
  let heap ← maestroNoteStatsSetRole heap noteAddress (value.text .role).1
  let heap ← maestroNoteStatsSetRoleinfo heap noteAddress (value.text .roleinfo).1
  let heap ← maestroNoteStatsSetStatType heap noteAddress (value.scalar .statType).toNat
  let heap ← maestroNoteStatsSetPerfTs heap noteAddress (value.text .perfTimestamp).1
  let heap ← maestroNoteStatsSetPerfCount heap noteAddress (value.scalar .perfCount).toNat
  let heap ← maestroNoteStatsSetPerfRate heap noteAddress (value.scalar .perfRate).toNat
  maestroNoteStatsSetPerfLatency heap noteAddress (value.scalar .perfLatency).toNat

def buildRequest (heap : Heap) : Option Heap :=
  match value.command with
  | .set => maestroNoteSetOpt heap noteAddress (value.scalar .setOpt).toNat (value.text .setValue).1
  | .ping => do
      let heap ← maestroNotePayloadPrepare heap noteAddress
      maestroNotePingSetTs heap noteAddress (value.scalar .pingSec).toNat
        (value.scalar .pingUsec).toNat
  | _ => some heap

/-- What follows id and name in a response. -/
def buildResponseBody (heap : Heap) : Option Heap :=
  match value.command with
  | .ping => maestroNotePingSetElapsed heap noteAddress (value.scalar .pingElapsed).toNat
  | .stats => buildStats value heap
  | _ => some heap

def buildResponse (heap : Heap) : Option Heap := do
  let heap ← maestroNotePayloadPrepare heap noteAddress
  let heap ← maestroNoteResponseSetId heap noteAddress (value.text .responseId).1
  let heap ← maestroNoteResponseSetName heap noteAddress (value.text .responseName).1
  buildResponseBody value heap

def buildNotification (heap : Heap) : Option Heap := do
  let heap ← maestroNotePayloadPrepare heap noteAddress
  let heap ← maestroNoteResponseSetId heap noteAddress (value.text .notificationId).1
  let heap ← maestroNoteResponseSetName heap noteAddress (value.text .notificationName).1
  maestroNoteNotificationSetMessage heap noteAddress (value.text .notificationMessage).1

/-- The calls by which the program builds a note in memory. -/
def buildNote : Option Heap := do
  let heap ← maestroNoteSetType zeroNote noteAddress value.type
  let heap ← maestroNoteSetCmd heap noteAddress value.command
  match value.type with
  | .request => buildRequest value heap
  | .response => buildResponse value heap
  | .notification => buildNotification value heap

/-- One member through its setter. -/
def setField (note : ℕ) (field : Field) (heap : Heap) : Option Heap :=
  if field.kind = .string then storeText heap note field (value.text field).1
  else storeScalar heap note field (value.scalar field).toNat

def setFields (note : ℕ) : List Field → Heap → Option Heap
  | [], heap => some heap
  | field :: fields, heap => (setField value note field heap).bind (setFields note fields)

/-- A scalar member fits its width. -/
theorem NoteValue.scalar_lt (field : Field) :
    (value.scalar field).toNat < 256 ^ field.width := by
  have hword := (value.scalar field).isLt
  have hchild := value.childCount_lt
  have hstat := value.statType_lt
  cases field <;> simp only [Field.width] at * <;> omega

theorem setField_fills {heap : Heap} {note payload : ℕ} {head : Block} (field : Field)
    (h : Prepared heap note head payload) (hroom : heap.blocks.length + 1 < 2 ^ 64) :
    ∃ after, setField value note field heap = some after ∧
      Fills note head payload value field heap after := by
  unfold setField
  by_cases hkind : field.kind = .string
  · simp only [if_pos hkind]
    exact storeText_fills value h hkind hroom
  · simp only [if_neg hkind, storeScalar, h.pointer, Option.bind_some]
    exact fills_scalar value h hkind le_rfl field.width_le (value.scalar_lt field)

theorem setFields_fills {heap : Heap} {note payload : ℕ} {head : Block} (fields : List Field)
    (h : Prepared heap note head payload)
    (hroom : heap.blocks.length + fields.length < 2 ^ 64) :
    ∃ after, setFields value note fields heap = some after ∧
      FillsAll note head payload value fields heap after := by
  induction fields generalizing heap with
  | nil => exact ⟨heap, rfl, rfl⟩
  | cons field fields ih =>
    rw [List.length_cons] at hroom
    rcases setField_fills value field h (by omega) with ⟨middle, hset, hfills⟩
    have hgrows := hfills.grows
    rcases ih hfills.prepared (by omega) with ⟨after, hrest, hall⟩
    refine ⟨after, ?_, middle, hfills, hall⟩
    rw [setFields, hset, Option.bind_some, hrest]

/-- The setters of id and name pick the arm of a response or a notification. -/
theorem setHeader_fills {heap : Heap} {note payload : ℕ} {head : Block} (type : RequestType)
    (h : Prepared heap note head payload) (htype : noteType heap note = some type.code)
    (hroom : heap.blocks.length + 2 < 2 ^ 64) (id name : Field)
    (harm : type = .response ∧ id = .responseId ∧ name = .responseName ∨
      type = .notification ∧ id = .notificationId ∧ name = .notificationName) :
    ∃ middle after, maestroNoteResponseSetId heap note (value.text id).1 = some middle ∧
      maestroNoteResponseSetName middle note (value.text name).1 = some after ∧
      FillsAll note head payload value [id, name] heap after := by
  have hkinds : id.kind = .string ∧ name.kind = .string := by
    rcases harm with ⟨_, rfl, rfl⟩ | ⟨_, rfl, rfl⟩ <;> exact ⟨rfl, rfl⟩
  rcases storeText_fills value h hkinds.1 (by omega) with ⟨middle, hid, hfirst⟩
  have hgrows := hfirst.grows
  rcases storeText_fills value hfirst.prepared hkinds.2 (by omega) with
    ⟨after, hname, hsecond⟩
  have hkept : noteType middle note = some type.code := by
    rw [noteType_of_block (hfirst.prepared.held.trans h.held.symm)]
    exact htype
  refine ⟨middle, after, ?_, ?_, middle, hfirst, after, hsecond, rfl⟩
  · rcases harm with ⟨rfl, rfl, rfl⟩ | ⟨rfl, rfl, rfl⟩ <;>
      simpa [maestroNoteResponseSetId, htype, RequestType.code] using hid
  · rcases harm with ⟨rfl, rfl, rfl⟩ | ⟨rfl, rfl, rfl⟩ <;>
      simpa [maestroNoteResponseSetName, hkept, RequestType.code] using hname

/-- Type and command of a zeroed note. -/
theorem setHead_eq (type : RequestType) (command : Command) :
    ∃ middle, maestroNoteSetType zeroNote noteAddress type = some middle ∧
      maestroNoteSetCmd middle noteAddress command = some (headNote type command) := by
  cases type <;> cases command <;> exact ⟨_, rfl, rfl⟩

theorem prepare_headNote (type : RequestType) (command : Command) :
    ∃ heap head payload, maestroNotePayloadPrepare (headNote type command) noteAddress = some heap ∧
      Prepared heap noteAddress head payload ∧
      noteType heap noteAddress = some type.code ∧
      noteCommand heap noteAddress = some command.code ∧ heap.blocks.length = 2 := by
  rcases headNote_block type command with ⟨block, hblock, hsize⟩
  rcases prepare_spec hblock hsize (show 1 + 1 < 2 ^ 64 by norm_num) with
    ⟨heap, head, hprepare, hprepared, htype, hcommand⟩
  refine ⟨heap, head, _, hprepare, hprepared, ?_, ?_, ?_⟩
  · rw [htype, noteType_headNote]
  · rw [hcommand, noteCommand_headNote]
  · have hstore : ((headNote type command).alloc payloadSize).1.storeWord noteAddress
        payloadOffset 8 2 = some heap := hprepare
    rw [Heap.length_store hstore, Heap.length_alloc]
    rfl

/-- The setters of a request fill the members of the layout. -/
theorem buildRequest_represents (h : value.type = .request) :
    ∃ heap, buildRequest value (headNote value.type value.command) = some heap ∧
      Represents heap noteAddress value := by
  rcases prepare_headNote value.type value.command with
    ⟨heap, head, payload, hprepare, hprepared, htype, hcommand, hlength⟩
  have hrow : ∀ fields, value.fields = fields → fields ≠ [] → fields.length ≤ 2 →
      ∃ after, setFields value noteAddress fields heap = some after ∧
        Represents after noteAddress value := by
    intro fields hfields hsome hshort
    rcases setFields_fills value fields hprepared (by omega) with ⟨after, hset, hfills⟩
    subst hfields
    exact ⟨after, hset, represents_of_filled hprepared htype hcommand hsome hfills⟩
  have hempty : value.fields = [] → ∃ after, some (headNote value.type value.command) =
      some after ∧ Represents after noteAddress value :=
    fun hnone ↦ ⟨_, rfl, represents_headNote hnone⟩
  unfold NoteValue.fields at hrow hempty
  unfold buildRequest maestroNoteSetOpt maestroNotePingSetTs
  rw [h] at hrow hempty hprepare ⊢
  cases hname : value.command with
  | set =>
    rw [hname] at hrow hprepare
    simpa [hprepare, setFields, setField, Field.kind, layout] using
      hrow _ rfl (by decide) (by decide)
  | ping =>
    rw [hname] at hrow hprepare
    simpa [hprepare, setFields, setField, Field.kind, layout] using
      hrow _ rfl (by decide) (by decide)
  | _ =>
    rw [hname] at hempty
    exact hempty rfl

theorem buildResponseBody_eq (heap : Heap) :
    buildResponseBody value heap =
      setFields value noteAddress (responseBody value.command.code) heap := by
  unfold buildResponseBody
  cases value.command <;>
    simp [responseBody, buildStats, setFields, setField, Field.kind, Command.code,
      maestroNotePingSetElapsed, maestroNoteStatsSetChildCount, maestroNoteStatsSetRole,
      maestroNoteStatsSetRoleinfo, maestroNoteStatsSetStatType, maestroNoteStatsSetPerfTs,
      maestroNoteStatsSetPerfCount, maestroNoteStatsSetPerfRate, maestroNoteStatsSetPerfLatency]

theorem length_responseBody_le (command : ℕ) : (responseBody command).length ≤ 8 := by
  unfold responseBody
  split
  · decide
  · split <;> decide

/-- The layout of a response is the header followed by the body. -/
theorem layout_response (command : Command) :
    layout .response command = responseHeader ++ responseBody command.code := by
  cases command <;> rfl

theorem buildResponse_represents (h : value.type = .response) :
    ∃ heap, buildResponse value (headNote value.type value.command) = some heap ∧
      Represents heap noteAddress value := by
  rcases prepare_headNote value.type value.command with
    ⟨heap, head, payload, hprepare, hprepared, htype, hcommand, hlength⟩
  rcases setHeader_fills value value.type hprepared htype (by omega) .responseId .responseName
    (Or.inl ⟨h, rfl, rfl⟩) with ⟨first, second, hid, hname, hheader⟩
  have hshort := length_responseBody_le value.command.code
  have hgrows := hheader.length_le
  rcases setFields_fills value (responseBody value.command.code) (hheader.prepared hprepared)
    (by simp only [List.length_cons, List.length_nil] at hgrows; omega) with ⟨after, hset, hbody⟩
  have hfields : value.fields = responseHeader ++ responseBody value.command.code := by
    rw [NoteValue.fields, h, layout_response]
  refine ⟨after, ?_, represents_of_filled hprepared htype hcommand ?_ ?_⟩
  · rw [← hset, ← buildResponseBody_eq]
    simp [buildResponse, hprepare, hid, hname]
  · rw [hfields]
    simp [responseHeader]
  · rw [hfields]
    exact hheader.append hbody

theorem buildNotification_represents (h : value.type = .notification) :
    ∃ heap, buildNotification value (headNote value.type value.command) = some heap ∧
      Represents heap noteAddress value := by
  rcases prepare_headNote value.type value.command with
    ⟨heap, head, payload, hprepare, hprepared, htype, hcommand, hlength⟩
  rcases setHeader_fills value value.type hprepared htype (by omega) .notificationId
    .notificationName (Or.inr ⟨h, rfl, rfl⟩) with ⟨first, second, hid, hname, hheader⟩
  have hgrows := hheader.length_le
  rcases setFields_fills value [.notificationMessage] (hheader.prepared hprepared)
    (by simp only [List.length_cons, List.length_nil] at hgrows ⊢; omega) with
    ⟨after, hset, hbody⟩
  have hfields : value.fields = [.notificationId, .notificationName] ++ [.notificationMessage] := by
    rw [NoteValue.fields, h]
    rfl
  refine ⟨after, ?_, represents_of_filled hprepared htype hcommand ?_ ?_⟩
  · rw [← hset]
    simp [buildNotification, hprepare, hid, hname, setFields, setField, Field.kind,
      maestroNoteNotificationSetMessage]
  · rw [hfields]
    simp
  · rw [hfields]
    exact hheader.append hbody

/-- Every note value is built by the setters. -/
theorem buildNote_represents :
    ∃ heap, buildNote value = some heap ∧ Represents heap noteAddress value := by
  rcases setHead_eq value.type value.command with ⟨middle, htype, hcommand⟩
  have hrequest := buildRequest_represents value
  have hresponse := buildResponse_represents value
  have hnotification := buildNotification_represents value
  unfold buildNote
  simp only [htype, hcommand, Option.bind_eq_bind, Option.bind_some]
  cases hvalue : value.type with
  | request => simpa only [hvalue] using hrequest hvalue
  | response => simpa only [hvalue] using hresponse hvalue
  | notification => simpa only [hvalue] using hnotification hvalue

end

/-! ## Decoding packed members -/

/-- The object holds the value of the member. -/
def Carries (value : NoteValue) (field : Field) (object : Object) : Prop :=
  if field.kind = .string then object.IsText (value.text field).1
  else (object.IsInteger ∨ object.type = .float) ∧ object.via = value.scalar field

section

variable {value : NoteValue} {field : Field} {object : Object}

theorem Carries.assignment_scalar (h : Carries value field object) (hkind : field.kind ≠ .string) :
    object.assignment = .bytes (toLE 8 (value.scalar field).toNat) := by
  rw [Carries, if_neg hkind] at h
  rcases h with ⟨htype, hvia⟩
  unfold Object.assignment
  rw [hvia]
  rcases htype with (htype | htype) | htype <;> rw [htype]

theorem Carries.assignment_text (h : Carries value field object) (hkind : field.kind = .string) :
    object.assignment = .bytes ((value.text field).1 ++ [0]) ∧
      (object.strSize + 1) % 2 ^ 32 = (value.text field).1.length + 1 := by
  rw [Carries, if_pos hkind] at h
  rcases h with ⟨htype, hbytes⟩
  have hsize := Object.strSize_of_str htype
  have hshort := (value.text field).2.2
  have hclean : (value.text field).1.takeWhile (· ≠ 0) = (value.text field).1 := by
    rw [List.takeWhile_eq_self_iff]
    intro byte hmem
    have hne : byte ≠ 0 := fun hzero ↦ (value.text field).2.1 (hzero ▸ hmem)
    simpa using hne
  rw [hbytes] at hsize
  constructor
  · unfold Object.assignment
    rw [htype, hsize, hbytes, hclean]
    exact if_pos hshort
  · rw [hsize]
    omega

variable (mp : Msgpack) (input : List UInt8)

/-- Decoding an object that carries the value of a member fills the member. -/
theorem decodeField_fills (state : DecodeState) {note payload index : ℕ} {head : Block}
    (missing : String) (h : Prepared state.heap note head payload)
    (hroom : state.heap.blocks.length + 1 < 2 ^ 64)
    (hoffset : state.offset = mp.offsetAt input index)
    (hresult : mp.result input index = .success object) (hcarries : Carries value field object) :
    ∃ after, decodeField mp input note field missing state = some (true, after) ∧
      after.status = state.status ∧ after.offset = mp.offsetAt input (index + 1) ∧
      Fills note head payload value field state.heap after.heap := by
  have hnext : msgpackUnpackNext mp input state =
      (.success object, { state with offset := mp.offsetAt input (index + 1) }) := by
    rw [msgpackUnpackNext, hoffset, Msgpack.unpackNext_offsetAt, hresult]
  unfold decodeField
  rw [hnext]
  simp only [h.pointer, Option.bind_some, maestroDeserializeNoteAssign_eq]
  by_cases hkind : field.kind = .string
  · rcases hcarries.assignment_text hkind with ⟨hassign, hsize⟩
    rcases fills_pointer_then_text value h hkind hroom with ⟨middle, after, hmiddle, hafter, hfills⟩
    refine ⟨⟨after, mp.offsetAt input (index + 1), state.status⟩, ?_, rfl, rfl, hfills⟩
    simp only [if_pos hkind, hassign, hsize, Heap.alloc_address, hmiddle, Option.bind_some,
      DecodeState.storeAt, hafter, Option.map_some]
  · have hassign := hcarries.assignment_scalar hkind
    rcases fills_scalar value h hkind field.width_le le_rfl (value.scalar_lt field) with
      ⟨after, hafter, hfills⟩
    refine ⟨⟨after, mp.offsetAt input (index + 1), state.status⟩, ?_, rfl, rfl, hfills⟩
    change state.heap.store payload field.offset (toLE 8 _) = some after at hafter
    simp only [if_neg hkind, hassign, DecodeState.storeAt, hafter, Option.map_some]

/-- The results from `index` on carry the values of a row of members. -/
def CarriesFrom (value : NoteValue) (results : ℕ → UnpackReturn) : List Field → ℕ → Prop
  | [], _ => True
  | field :: fields, index =>
      (∃ object, results index = .success object ∧ Carries value field object) ∧
        CarriesFrom value results fields (index + 1)

theorem CarriesFrom.of_append {results : ℕ → UnpackReturn} {first second : List Field} {index : ℕ}
    (h : CarriesFrom value results (first ++ second) index) :
    CarriesFrom value results first index ∧
      CarriesFrom value results second (index + first.length) := by
  induction first generalizing index with
  | nil => exact ⟨trivial, h⟩
  | cons field first ih =>
    rcases h with ⟨hhead, htail⟩
    rcases ih htail with ⟨hfirst, hsecond⟩
    refine ⟨⟨hhead, hfirst⟩, ?_⟩
    rw [List.length_cons, Nat.add_comm first.length, ← Nat.add_assoc]
    exact hsecond

theorem decodeFields_fills (row : List (Field × String)) (state : DecodeState)
    {note payload index : ℕ} {head : Block} (h : Prepared state.heap note head payload)
    (hroom : state.heap.blocks.length + row.length < 2 ^ 64)
    (hoffset : state.offset = mp.offsetAt input index)
    (hcarries : CarriesFrom value (mp.result input) (row.map Prod.fst) index) :
    ∃ after, decodeFields mp input note row state = some (true, after) ∧
      after.status = state.status ∧ after.offset = mp.offsetAt input (index + row.length) ∧
      FillsAll note head payload value (row.map Prod.fst) state.heap after.heap := by
  induction row generalizing state index with
  | nil => exact ⟨state, rfl, rfl, hoffset, rfl⟩
  | cons entry row ih =>
    rcases entry with ⟨field, missing⟩
    rcases hcarries with ⟨⟨object, hresult, hobject⟩, hrest⟩
    rw [List.length_cons] at hroom
    rcases decodeField_fills mp input state missing h (by omega) hoffset hresult hobject with
      ⟨next, hdecode, hstatus, hnext, hfills⟩
    have hgrows := hfills.grows
    rcases ih next hfills.prepared (by omega) hnext hrest with
      ⟨after, hrow, hkept, hlast, hall⟩
    refine ⟨after, ?_, hkept.trans hstatus, ?_, next.heap, hfills, hall⟩
    · simp only [decodeFields, hdecode, Option.bind_some, if_true, hrow]
    · rw [hlast, List.length_cons, Nat.add_comm row.length, ← Nat.add_assoc]

/-- The head of a note: the spilled halves of the eight byte stores are zero. -/
theorem deserializeHead_eq (status : Status) (type : RequestType) (command : Command)
    {typeObject commandObject : Object}
    (htype : mp.result input 0 = .success typeObject)
    (htypes : typeObject.IsUnsigned (.ofNat 64 type.code))
    (hcommand : mp.result input 1 = .success commandObject)
    (hcommands : commandObject.IsUnsigned (.ofNat 64 command.code)) :
    maestroDeserializeNote mp input noteAddress zeroNote status =
      deserializePayload mp input noteAddress
        ⟨headNote type command, mp.offsetAt input 2, status⟩ := by
  have hnext : msgpackUnpackNext mp input
      ⟨⟨[typedNote typeObject]⟩, mp.offsetAt input 1, status⟩ =
      (.success commandObject, ⟨⟨[typedNote typeObject]⟩, mp.offsetAt input 2, status⟩) := by
    rw [← hcommand]
    rfl
  have hassign : commandObject.assignment =
      .bytes (toLE 8 (BitVec.ofNat 64 command.code).toNat) := by
    unfold Object.assignment
    rw [hcommands.1, hcommands.2]
  have hstore : Heap.store ⟨[typedNote typeObject]⟩ noteAddress commandOffset
      (toLE 8 (BitVec.ofNat 64 command.code).toNat) = some (headNote type command) := by
    rw [typedNote, htypes.2]
    cases type <;> cases command <;> rfl
  unfold maestroDeserializeNote
  rw [deserializeType_of_positive mp input status htype htypes.1]
  simp only [Option.bind_some, if_true, deserializeCommand, hnext, maestroDeserializeNoteAssign_eq,
    hassign, DecodeState.storeAt, hstore, Option.map_some]

/-- Preparing the payload and decoding the whole layout. -/
theorem withPayload_represents (value : NoteValue) (status : Status)
    (row : List (Field × String)) (hrow : row.map Prod.fst = value.fields) (hsome : row ≠ [])
    (hshort : row.length ≤ 10) (h : CarriesFrom value (mp.result input) value.fields 2) :
    ∃ after, withPayload noteAddress (decodeFields mp input noteAddress row)
        ⟨headNote value.type value.command, mp.offsetAt input 2, status⟩ = some (true, after) ∧
      after.status = status ∧ Represents after.heap noteAddress value := by
  rcases prepare_headNote value.type value.command with
    ⟨heap, head, payload, hprepare, hprepared, htype, hcommand, hlength⟩
  rw [← hrow] at h
  rcases decodeFields_fills mp input row ⟨heap, mp.offsetAt input 2, status⟩ hprepared
    (show heap.blocks.length + row.length < 2 ^ 64 by omega) rfl h with
    ⟨after, hdecode, hstatus, _, hfills⟩
  refine ⟨after, ?_, hstatus, represents_of_filled hprepared htype hcommand ?_ ?_⟩
  · simp only [withPayload, hprepare, Option.bind_some, hdecode]
  · rw [← hrow]
    simpa using hsome
  · rw [← hrow]
    exact hfills

/-- The row read after the header of a response. -/
def responseBodyRow : Command → List (Field × String)
  | .ping => pingResponseRow
  | .stats => statsResponseRow
  | _ => []

/-- When header and body succeed the response stage reads them as one row. -/
theorem maestroDeserializeResponse_eq (value : NoteValue) (status : Status)
    (h : CarriesFrom value (mp.result input) responseHeader 2) :
    maestroDeserializeResponse mp input noteAddress
        ⟨headNote value.type value.command, mp.offsetAt input 2, status⟩ =
      withPayload noteAddress
        (decodeFields mp input noteAddress (responseHeaderRow ++ responseBodyRow value.command))
        ⟨headNote value.type value.command, mp.offsetAt input 2, status⟩ := by
  rcases prepare_headNote value.type value.command with
    ⟨heap, head, payload, hprepare, hprepared, htype, hcommand, hlength⟩
  rcases decodeFields_fills mp input responseHeaderRow ⟨heap, mp.offsetAt input 2, status⟩
    hprepared (show heap.blocks.length + 2 < 2 ^ 64 by omega) rfl h with
    ⟨next, hdecode, _, _, hfills⟩
  have hkept : noteCommand next.heap noteAddress = some value.command.code := by
    rw [noteCommand_of_block ((hfills.prepared hprepared).held.trans hprepared.held.symm)]
    exact hcommand
  simp only [maestroDeserializeResponse, withPayload, hprepare, Option.bind_some,
    maestroDeserializeResponseHeader, decodeFields_append, hdecode, if_true, hkept]
  cases value.command <;> rfl

/-- The payload stage fills the members of the layout. -/
theorem deserializePayload_represents (value : NoteValue) (status : Status)
    (h : CarriesFrom value (mp.result input) value.fields 2) :
    ∃ after, deserializePayload mp input noteAddress
        ⟨headNote value.type value.command, mp.offsetAt input 2, status⟩ = some (true, after) ∧
      after.status = status ∧ Represents after.heap noteAddress value := by
  have hrow := fun row hrow hsome hshort ↦
    withPayload_represents mp input value status row hrow hsome hshort h
  unfold deserializePayload
  rw [noteType_headNote, Option.bind_some]
  cases htype : value.type with
  | request =>
    have hempty : value.fields = [] → Represents (headNote value.type value.command) noteAddress
        value := represents_headNote
    unfold NoteValue.fields at hrow hempty
    rw [htype] at hrow hempty
    simp only [maestroDeserializeRequest, noteCommand_headNote, Option.bind_some]
    cases hcommand : value.command with
    | set =>
      rw [hcommand] at hrow
      exact hrow setRequestRow rfl (by decide) (by decide)
    | ping =>
      rw [hcommand] at hrow
      exact hrow pingRequestRow rfl (by decide) (by decide)
    | _ =>
      rw [hcommand] at hempty
      exact ⟨_, rfl, rfl, hempty rfl⟩
  | response =>
    have hfields : value.fields = responseHeader ++ responseBody value.command.code := by
      rw [NoteValue.fields, htype, layout_response]
    rw [hfields] at h
    have hmerged := maestroDeserializeResponse_eq mp input value status h.of_append.1
    rw [htype] at hmerged hrow
    simp only [if_true, hmerged]
    refine hrow _ ?_ (by simp [responseHeaderRow]) ?_
    · rw [hfields]
      cases value.command <;> rfl
    · cases value.command <;> decide
  | notification =>
    have hfields : value.fields = notificationFields := by
      rw [NoteValue.fields, htype]
      rfl
    rw [htype] at hrow
    have hmerged := hrow (notificationHeaderRow ++ notificationMessageRow) hfields.symm
      (by decide) (by decide)
    rw [← maestroDeserializeNotification_eq] at hmerged
    exact hmerged

end

/-! ## The round trip -/

theorem Msgpack.Unpacks.imp {mp : Msgpack} {packed : List UInt8} {expected weaker : Object → Prop}
    (h : mp.Unpacks packed expected) (himp : ∀ object, expected object → weaker object) :
    mp.Unpacks packed weaker := by
  intro before after
  rcases h before after with ⟨object, hobject, hunpack⟩
  exact ⟨object, himp object hobject, hunpack⟩

section

variable {mp : Msgpack} (hlawful : mp.Lawful) (value : NoteValue)

include hlawful

/-- Every packed member is unpacked to an object that carries its value. -/
theorem packedField_unpacks (field : Field) :
    mp.Unpacks (value.packedField mp field) (Carries value field) := by
  have hunsigned : ∀ object : Object, object.IsUnsigned (value.scalar field) →
      (object.IsInteger ∨ object.type = .float) ∧ object.via = value.scalar field :=
    fun object h ↦ ⟨Or.inl h.isInteger, h.2⟩
  have hdouble : ∀ object : Object, object.IsDouble (value.scalar field) →
      (object.IsInteger ∨ object.type = .float) ∧ object.via = value.scalar field :=
    fun object h ↦ ⟨Or.inr h.1, h.2⟩
  have hstring := hlawful.str (value.text field).1 ((value.text field).2.2.trans (by norm_num))
  cases field with
  | setOpt =>
    refine (hlawful.int64 (value.scalar .setOpt)).imp fun object h ↦ ?_
    exact ⟨Or.inl h.isInteger, h.2⟩
  | childCount =>
    have hnarrow : ((value.scalar .childCount).setWidth 32).setWidth 64 =
        value.scalar .childCount := by
      apply BitVec.eq_of_toNat_eq
      have hlt := value.childCount_lt
      simp only [BitVec.toNat_setWidth]
      omega
    refine (hlawful.uint32 ((value.scalar .childCount).setWidth 32)).imp fun object h ↦ ?_
    rw [hnarrow] at h
    exact hunsigned object h
  | statType =>
    have hnarrow : ((value.scalar .statType).setWidth 8).setWidth 64 = value.scalar .statType := by
      apply BitVec.eq_of_toNat_eq
      have hlt := value.statType_lt
      simp only [BitVec.toNat_setWidth]
      omega
    refine (hlawful.uint8 ((value.scalar .statType).setWidth 8)).imp fun object h ↦ ?_
    rw [hnarrow] at h
    exact hunsigned object h
  | perfRate | perfLatency => exact (hlawful.double _).imp hdouble
  | pingSec | pingUsec | pingElapsed | perfCount => exact (hlawful.uint64 _).imp hunsigned
  | _ => exact hstring

/-- The objects unpacked from the bytes of a note. -/
theorem pieces_unpack :
    List.Forall₂ mp.Unpacks (value.pieces mp)
      (Object.IsUnsigned (.ofNat 64 value.type.code) ::
        Object.IsUnsigned (.ofNat 64 value.command.code) ::
        value.fields.map (Carries value)) := by
  refine List.Forall₂.cons ?_ (List.Forall₂.cons ?_ ?_)
  · have hsign : ((BitVec.ofNat 8 value.type.code).signExtend 64 = .ofNat 64 value.type.code) ∧
        (BitVec.ofNat 64 value.type.code).msb = false := by
      cases value.type <;> decide
    refine (hlawful.int8 _).imp fun object h ↦ ?_
    rw [hsign.1] at h
    exact h.isUnsigned hsign.2
  · have hsign : (BitVec.ofNat 64 value.command.code).msb = false := by
      cases value.command <;> decide
    exact (hlawful.int64 _).imp fun object h ↦ h.isUnsigned hsign
  · rw [List.forall₂_map_left_iff, List.forall₂_map_right_iff, List.forall₂_same]
    intro field _
    exact packedField_unpacks hlawful value field

omit hlawful in
theorem carriesFrom_of_forall {results : ℕ → UnpackReturn} {fields : List Field} {index : ℕ}
    (h : ∀ i (hi : i < fields.length), ∃ object, Carries value fields[i] object ∧
      results (index + i) = .success object) : CarriesFrom value results fields index := by
  induction fields generalizing index with
  | nil => trivial
  | cons field fields ih =>
    constructor
    · rcases h 0 (by simp) with ⟨object, hcarries, hresult⟩
      exact ⟨object, hresult, hcarries⟩
    · apply ih
      intro i hi
      rcases h (i + 1) (by simpa using hi) with ⟨object, hcarries, hresult⟩
      rw [Nat.add_comm i, ← Nat.add_assoc] at hresult
      exact ⟨object, by simpa using hcarries, hresult⟩

/-- The deserializer on the bytes of a note. -/
theorem maestroDeserializeNote_pieces (status : Status) :
    ∃ after, maestroDeserializeNote mp (value.pieces mp).flatten noteAddress zeroNote status =
        some (true, after) ∧ after.status = status ∧
      Represents after.heap noteAddress value := by
  have hresults := Msgpack.result_flatten (pieces_unpack hlawful value) [] [] 0 rfl
  simp only [List.nil_append, List.append_nil, Nat.zero_add] at hresults
  rcases hresults 0 (by simp) with ⟨type, htypes, htype⟩
  rcases hresults 1 (by simp) with ⟨command, hcommands, hcommand⟩
  have hcarries : CarriesFrom value (mp.result (value.pieces mp).flatten) value.fields 2 := by
    apply carriesFrom_of_forall
    intro i hi
    rcases hresults (i + 2) (by simpa using hi) with ⟨object, hobject, hresult⟩
    rw [Nat.add_comm i 2] at hresult
    exact ⟨object, by simpa using hobject, hresult⟩
  rw [deserializeHead_eq mp _ status value.type value.command htype htypes hcommand hcommands]
  exact deserializePayload_represents mp _ value status hcarries

/-- **Round trip.**  Every note the setters can build is serialized, and the bytes are accepted and
decoded to the same note. -/
theorem maestroDeserializeNote_maestroSerializeNote (status : Status) :
    ∃ built bytes after, buildNote value = some built ∧
      maestroSerializeNote mp built noteAddress = some (true, some bytes) ∧
      maestroDeserializeNote mp bytes noteAddress zeroNote status = some (true, after) ∧
      Represents built noteAddress value ∧ Represents after.heap noteAddress value := by
  rcases buildNote_represents value with ⟨built, hbuilt, hrepresents⟩
  have hserialized := maestroSerializeNote_of_represents mp hrepresents
  rcases maestroDeserializeNote_pieces hlawful value status with ⟨after, hdecode, _, hafter⟩
  exact ⟨built, _, after, hbuilt, hserialized, hdecode, hrepresents, hafter⟩

end

/-- Statistics of two children with every member set. -/
def statsNote : NoteValue where
  type := .response
  command := .stats
  scalar field := if field = .childCount then 2 else 3
  text _ := ⟨[0x61, 0x62], by decide⟩
  childCount_lt := by decide
  statType_lt := by decide

theorem statsNote_roundTrip :
    msgpackFormat.Lawful ∧ ∃ built bytes after, buildNote statsNote = some built ∧
      maestroSerializeNote msgpackFormat built noteAddress = some (true, some bytes) ∧
      maestroDeserializeNote msgpackFormat bytes noteAddress zeroNote Status.new =
        some (true, after) ∧
      Represents built noteAddress statsNote ∧ Represents after.heap noteAddress statsNote :=
  ⟨msgpackFormat_lawful,
    maestroDeserializeNote_maestroSerializeNote msgpackFormat_lawful statsNote Status.new⟩

end MsgPerf.Maestro
