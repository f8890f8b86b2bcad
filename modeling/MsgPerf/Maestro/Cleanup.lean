import MsgPerf.Maestro.RoundTrip
import MsgPerf.Maestro.WellKinded

/-!
# Freeing a decoded note

`maestro_note_payload_cleanup` frees the strings of a response, of a set request and of statistics,
and then the payload.  It is called for every note that was decoded, also when the decoding broke
off, and relies on the pointers of the members that were not reached being null.

For the objects of the protocol, whether they are complete or end anywhere, it frees every block
that the decoding has allocated, and each of them once; only the strings of a notification are
forgotten.  An object of another kind can leave anything in a pointer.
-/

namespace MsgPerf.Maestro

open MsgPerf.Library.ByteMemory

/-! ## The cleanup -/

/-- The strings that are freed, in order. -/
def cleanupFields (type command : ℕ) : List Field :=
  (if type = RequestType.response.code then [.responseId, .responseName] else []) ++
    (if type = RequestType.request.code ∧ command = Command.set.code then [.setValue] else []) ++
    (if type = RequestType.response.code ∧ command = Command.stats.code then
      [.role, .roleinfo, .perfTimestamp] else [])

/-- `gru_dealloc_string` on one member after the other; a null pointer is left alone. -/
def gruDeallocStrings (heap : Heap) (payload : ℕ) : List Field → Option (List ℕ)
  | [] => some []
  | field :: fields =>
      (heap.loadWord payload field.offset 8).bind fun address ↦
        (gruDeallocStrings heap payload fields).map fun freed ↦
          if address = 0 then freed else address :: freed

/-- The addresses that are freed, in order. -/
def maestroNotePayloadCleanup (heap : Heap) (note : ℕ) : Option (List ℕ) :=
  (notePayload heap note).bind fun payload ↦
    if payload = 0 then some []
    else
      (noteType heap note).bind fun type ↦
        (noteCommand heap note).bind fun command ↦
          (gruDeallocStrings heap payload (cleanupFields type command)).map fun freed ↦
            freed ++ [payload]

/-! ## Notes that end anywhere -/

/-- The results for a note of the protocol that ends behind `cut` objects. -/
structure CutNote (results : ℕ → UnpackReturn) (type : RequestType) (command : Command)
    (cut : ℕ) : Prop where
  types : 0 < cut → ∃ object, results 0 = .success object ∧ object.IsUnsigned (.ofNat 64 type.code)
  commands : 1 < cut → ∃ object, results 1 = .success object ∧
    object.IsUnsigned (.ofNat 64 command.code)
  members : ∀ index field, (layout type command)[index]? = some field → 2 + index < cut →
    ∃ object, results (2 + index) = .success object ∧ field.kind.Matches object ∧
      object.bytes.length < 2 ^ 31
  ended : ∀ index, cut ≤ index → ∀ object, results index ≠ .success object

/-- The strings among some members. -/
def strings (fields : List Field) : List Field := fields.filter fun field ↦ field.kind = .string

theorem strings_append (first second : List Field) :
    strings (first ++ second) = strings first ++ strings second := List.filter_append ..

/-- The heap while the members of a row are decoded: those that are done have the blocks behind the
payload, in order, and the pointers of the others are null. -/
structure Decoding (heap : Heap) (note : ℕ) (head : Block) (payload : ℕ) (all done : List Field) :
    Prop where
  prepared : Prepared heap note head payload
  length : heap.blocks.length = payload + (strings done).length
  allocated : ∀ index field, (strings done)[index]? = some field →
    heap.loadWord payload field.offset 8 = some (payload + 1 + index)
  null : ∀ field ∈ all, field ∉ done → heap.loadWord payload field.offset 8 = some 0

/-- Different members lie in different words of the payload. -/
def InOwnWords (fields : List Field) : Prop :=
  ∀ first ∈ fields, ∀ second ∈ fields, first ≠ second →
    first.offset + 8 ≤ second.offset ∨ second.offset + 8 ≤ first.offset

/-! ## One member -/

section

variable {heap : Heap} {note payload : ℕ} {head : Block} {all done : List Field} {field : Field}

/-- An object of the kind of a member that is not a string writes one word. -/
theorem assignment_of_matches {object : Object} (h : field.kind.Matches object)
    (hkind : field.kind ≠ .string) : ∃ value, object.assignment = .bytes (toLE 8 value) := by
  unfold Object.assignment
  cases hfield : field.kind with
  | integer =>
    rw [hfield] at h
    rcases h with htype | htype
    · exact ⟨_, by rw [htype]⟩
    · exact ⟨_, by rw [htype]⟩
  | float =>
    rw [hfield] at h
    exact ⟨_, by rw [show object.type = .float from h]⟩
  | string => exact absurd hfield hkind

/-- A word stored in the place of a member that is not a string. -/
theorem Decoding.storeScalar (h : Decoding heap note head payload all done)
    (hown : InOwnWords all) (hdone : done ⊆ all) (hfield : field ∈ all) (hnew : field ∉ done)
    (hkind : field.kind ≠ .string) (value : ℕ) :
    ∃ after, heap.store payload field.offset (toLE 8 value) = some after ∧
      Decoding after note head payload all (done ++ [field]) := by
  rcases h.prepared.body with ⟨body, hbody, hlength⟩
  have hroom : field.offset + (toLE 8 value).length ≤ body.length := by
    rw [length_toLE, hlength]
    exact field.offset_add_le
  rcases Heap.store_of_le hbody hroom with ⟨after, hstore⟩
  have hother : ∀ other ∈ all, other ≠ field →
      after.loadWord payload other.offset 8 = heap.loadWord payload other.offset 8 := by
    intro other hmem hne
    apply Heap.loadWord_store_disjoint hstore
    rw [length_toLE]
    exact hown other hmem field hfield hne
  have hstrings : strings (done ++ [field]) = strings done := by
    rw [strings_append, strings, strings, List.filter_singleton]
    simp [hkind]
  refine ⟨after, hstore, h.prepared.store hstore h.prepared.distinct, ?_, ?_, ?_⟩
  · rw [hstrings, Heap.length_store hstore, h.length]
  · intro index other hget
    rw [hstrings] at hget
    have hmem : other ∈ done := List.mem_of_mem_filter (List.mem_of_getElem? hget)
    rw [hother other (hdone hmem) fun heq ↦ hnew (heq ▸ hmem)]
    exact h.allocated index other hget
  · intro other hmem hnot
    rw [List.mem_append, List.mem_singleton, not_or] at hnot
    rw [hother other hmem hnot.2]
    exact h.null other hmem hnot.1

/-- A fresh block whose address is stored in the place of a string. -/
theorem Decoding.storePointer (h : Decoding heap note head payload all done)
    (hown : InOwnWords all) (hdone : done ⊆ all) (hfield : field ∈ all) (hnew : field ∉ done)
    (hkind : field.kind = .string) (hroom : heap.blocks.length + 1 < 2 ^ 64) (size : ℕ) :
    ∃ after, (heap.alloc size).1.storeWord payload field.offset 8 (heap.alloc size).2 = some after ∧
      after.block? (heap.alloc size).2 = some (List.replicate size 0) ∧
      Decoding after note head payload all (done ++ [field]) := by
  have hfresh := h.prepared.alloc size
  rcases hfresh.body with ⟨body, hbody, hlength⟩
  rcases Heap.storeWord_of_le (heap.alloc size).2 hbody
    (show field.offset + 8 ≤ body.length by rw [hlength]; exact field.offset_add_le) with
    ⟨after, hstore⟩
  rcases h.prepared.body with ⟨old, hold, -⟩
  have hpayload := Heap.block?_lt hold
  have hother : ∀ other ∈ all, other ≠ field → ∀ value,
      heap.loadWord payload other.offset 8 = some value →
        after.loadWord payload other.offset 8 = some value := by
    intro other hmem hne value hvalue
    rw [Heap.loadWord_store_disjoint hstore
      (by rw [length_toLE]; exact hown other hmem field hfield hne)]
    exact Heap.loadWord_alloc_of_some hvalue
  have hstrings : strings (done ++ [field]) = strings done ++ [field] := by
    rw [strings_append, strings, strings, List.filter_singleton]
    simp [hkind]
  refine ⟨after, hstore, ?_, hfresh.store hstore hfresh.distinct, ?_, ?_, ?_⟩
  · rcases Heap.store_eq_some hstore with ⟨_, _, _, _, _, hframe, _⟩
    rw [hframe _ (by rw [Heap.alloc_address]; omega), Heap.block?_alloc_fresh]
  · rw [hstrings, Heap.length_store hstore, Heap.length_alloc, h.length, List.length_append,
      List.length_singleton, Nat.add_assoc]
  · intro index other hget
    rw [hstrings, List.getElem?_append] at hget
    split at hget
    · have hmem : other ∈ done := List.mem_of_mem_filter (List.mem_of_getElem? hget)
      exact hother other (hdone hmem) (fun heq ↦ hnew (heq ▸ hmem)) _
        (h.allocated index other hget)
    next hlast =>
      obtain ⟨hindex, rfl⟩ := List.getElem?_eq_some_iff.mp hget
      rw [List.length_singleton] at hindex
      rw [List.getElem_singleton, Heap.loadWord_storeWord hstore, Heap.alloc_address,
        Nat.mod_eq_of_lt (by norm_num; omega), h.length]
      congr 1
      omega
  · intro other hmem hnot
    rw [List.mem_append, List.mem_singleton, not_or] at hnot
    exact hother other hmem hnot.2 0 (h.null other hmem hnot.1)

/-- A store outside the note and its payload. -/
theorem Decoding.storeElsewhere (h : Decoding heap note head payload all done) {after : Heap}
    {address offset : ℕ} {data : List UInt8} (hstore : heap.store address offset data = some after)
    (hnote : note ≠ address) (hpayload : payload ≠ address) :
    Decoding after note head payload all done where
  prepared := h.prepared.store hstore hnote
  length := by rw [Heap.length_store hstore, h.length]
  allocated index field hget := by
    rw [Heap.loadWord_store_other hstore hpayload]
    exact h.allocated index field hget
  null field hmem hnot := by
    rw [Heap.loadWord_store_other hstore hpayload]
    exact h.null field hmem hnot

end

/-! ## Rows of members -/

section

variable (mp : Msgpack) (input : List UInt8) {note payload : ℕ} {head : Block}
  {all done : List Field} {field : Field} {state : DecodeState} {index : ℕ}

/-- A member whose object is missing. -/
theorem decodeField_missing (note : ℕ) (field : Field) (missing : String)
    (hoffset : state.offset = mp.offsetAt input index)
    (h : ∀ object, mp.result input index ≠ .success object) :
    decodeField mp input note field missing state =
      some (false, { state with
        offset := mp.offsetAt input (index + 1), status := .failure missing }) := by
  unfold decodeField
  rw [msgpackUnpackNext, hoffset, Msgpack.unpackNext_offsetAt]
  cases hresult : mp.result input index with
  | success object => exact absurd hresult (h object)
  | _ => rfl

/-- A member whose object has its kind. -/
theorem decodeField_matching (missing : String) {object : Object}
    (h : Decoding state.heap note head payload all done) (hown : InOwnWords all)
    (hdone : done ⊆ all) (hfield : field ∈ all) (hnew : field ∉ done)
    (hroom : state.heap.blocks.length + 1 < 2 ^ 64)
    (hoffset : state.offset = mp.offsetAt input index)
    (hresult : mp.result input index = .success object) (hmatches : field.kind.Matches object)
    (hshort : object.bytes.length < 2 ^ 31) :
    ∃ after, decodeField mp input note field missing state = some (true, after) ∧
      after.offset = mp.offsetAt input (index + 1) ∧
      Decoding after.heap note head payload all (done ++ [field]) := by
  have hnext : msgpackUnpackNext mp input state =
      (.success object, { state with offset := mp.offsetAt input (index + 1) }) := by
    rw [msgpackUnpackNext, hoffset, Msgpack.unpackNext_offsetAt, hresult]
  unfold decodeField
  rw [hnext]
  simp only [h.prepared.pointer, Option.bind_some, maestroDeserializeNoteAssign_eq]
  by_cases hkind : field.kind = .string
  · have htype : object.type = .str := by
      rw [hkind] at hmatches
      exact hmatches
    have hsize := Object.strSize_of_str htype
    have hassign : object.assignment = .bytes (object.bytes.takeWhile (· ≠ 0) ++ [0]) := by
      unfold Object.assignment
      rw [htype]
      exact if_pos (by rw [hsize]; exact hshort)
    rcases h.storePointer hown hdone hfield hnew hkind hroom ((object.strSize + 1) % 2 ^ 32) with
      ⟨middle, hmiddle, hblock, hdecoding⟩
    have hprefix : (object.bytes.takeWhile (· ≠ 0)).length ≤ object.bytes.length :=
      (List.takeWhile_sublist _).length_le
    rcases Heap.store_of_le hblock
      (show 0 + (object.bytes.takeWhile (· ≠ 0) ++ [0]).length ≤ _ by
        rw [List.length_append, List.length_singleton, List.length_replicate, hsize]
        omega) with ⟨last, hlast⟩
    have hnote := Heap.block?_lt h.prepared.held
    rcases h.prepared.body with ⟨body, hbody, -⟩
    have hpayload := Heap.block?_lt hbody
    refine ⟨⟨last, mp.offsetAt input (index + 1), state.status⟩, ?_, rfl,
      hdecoding.storeElsewhere hlast (by rw [Heap.alloc_address]; omega)
        (by rw [Heap.alloc_address]; omega)⟩
    simp only [if_pos hkind, hassign, hmiddle, Option.bind_some, DecodeState.storeAt, hlast,
      Option.map_some]
  · rcases assignment_of_matches hmatches hkind with ⟨value, hassign⟩
    rcases h.storeScalar hown hdone hfield hnew hkind value with ⟨after, hstore, hdecoding⟩
    refine ⟨⟨after, mp.offsetAt input (index + 1), state.status⟩, ?_, rfl, hdecoding⟩
    simp only [if_neg hkind, hassign, DecodeState.storeAt, hstore, Option.map_some]

/-- The objects from `index` on have the kinds of the members, as far as there are any. -/
structure MatchesFrom (results : ℕ → UnpackReturn) (fields : List Field) (index cut : ℕ) :
    Prop where
  members : ∀ place field, fields[place]? = some field → index + place < cut →
    ∃ object, results (index + place) = .success object ∧ field.kind.Matches object ∧
      object.bytes.length < 2 ^ 31
  ended : ∀ place, cut ≤ place → ∀ object, results place ≠ .success object

theorem MatchesFrom.tail {results : ℕ → UnpackReturn} {fields : List Field} {cut : ℕ}
    (h : MatchesFrom results (field :: fields) index cut) :
    MatchesFrom results fields (index + 1) cut where
  members place field hfield hplace := by
    have hshift : index + 1 + place = index + (place + 1) := by omega
    rw [hshift] at hplace ⊢
    exact h.members (place + 1) field hfield hplace
  ended := h.ended

theorem MatchesFrom.left {results : ℕ → UnpackReturn} {first second : List Field} {cut : ℕ}
    (h : MatchesFrom results (first ++ second) index cut) :
    MatchesFrom results first index cut where
  members place field hfield := by
    apply h.members place field
    rw [List.getElem?_append_left (List.getElem?_eq_some_iff.mp hfield).1]
    exact hfield
  ended := h.ended

theorem MatchesFrom.right {results : ℕ → UnpackReturn} {first second : List Field} {cut : ℕ}
    (h : MatchesFrom results (first ++ second) index cut) :
    MatchesFrom results second (index + first.length) cut where
  members place field hfield hplace := by
    rw [Nat.add_assoc] at hplace ⊢
    apply h.members (first.length + place) field _ hplace
    rw [List.getElem?_append_right (Nat.le_add_right _ _), Nat.add_sub_cancel_left]
    exact hfield
  ended := h.ended

/-- Nothing is left to decode behind the end of the objects. -/
theorem MatchesFrom.behind {results : ℕ → UnpackReturn} {fields other : List Field}
    {cut later : ℕ} (h : MatchesFrom results fields index cut) (hlater : cut ≤ later) :
    MatchesFrom results other later cut where
  members place field _ hplace := by omega
  ended := h.ended

/-- A row is decoded up to the end of the objects. -/
theorem decodeFields_cut (row : List (Field × String)) (state : DecodeState) {cut : ℕ}
    (h : Decoding state.heap note head payload all done) (hown : InOwnWords all)
    (hsub : done ++ row.map Prod.fst ⊆ all) (hnodup : (done ++ row.map Prod.fst).Nodup)
    (hroom : state.heap.blocks.length + row.length < 2 ^ 64)
    (hoffset : state.offset = mp.offsetAt input index)
    (hmatches : MatchesFrom (mp.result input) (row.map Prod.fst) index cut) :
    ∃ ok after, decodeFields mp input note row state = some (ok, after) ∧
      Decoding after.heap note head payload all (done ++ (row.map Prod.fst).take (cut - index)) ∧
      ∃ next, after.offset = mp.offsetAt input next ∧ next ≤ index + row.length ∧
        (ok = true → next = index + row.length) ∧ (ok = false → cut ≤ next) := by
  induction row generalizing state index done with
  | nil =>
    refine ⟨true, state, rfl, ?_, index, hoffset, le_rfl, fun _ ↦ rfl, by simp⟩
    simpa using h
  | cons entry row ih =>
    rcases entry with ⟨field, missing⟩
    rw [List.length_cons] at hroom
    by_cases hcut : index < cut
    · obtain ⟨object, hresult, hkind, hshort⟩ := hmatches.members 0 field rfl hcut
      have hfield : field ∈ all := hsub (by simp)
      have hdone : done ⊆ all := fun other hmem ↦ hsub (List.mem_append_left _ hmem)
      have hnew : field ∉ done := by
        rw [List.nodup_append] at hnodup
        exact fun hmem ↦ hnodup.2.2 field hmem field (by simp) rfl
      obtain ⟨next, hdecode, hnext, hdecoding⟩ := decodeField_matching mp input missing h hown hdone
        hfield hnew (by omega) hoffset hresult hkind hshort
      have hsplit : done ++ List.map Prod.fst ((field, missing) :: row) =
          (done ++ [field]) ++ row.map Prod.fst := by simp
      rw [hsplit] at hsub hnodup
      have hgrows : next.heap.blocks.length ≤ state.heap.blocks.length + 1 := by
        rw [hdecoding.length, h.length, strings_append, List.length_append]
        have hone : (strings [field]).length ≤ 1 := List.length_filter_le _ _
        omega
      obtain ⟨ok, after, hrow, hafter, last, hlast, hbound, htrue, hfalse⟩ := ih next hdecoding hsub
        hnodup (by omega) hnext hmatches.tail
      refine ⟨ok, after, ?_, ?_, last, hlast, ?_, ?_, hfalse⟩
      · simp only [decodeFields, hdecode, Option.bind_some, if_true, hrow]
      · have hcount : cut - index = cut - (index + 1) + 1 := by omega
        rw [hcount, List.map_cons, List.take_succ_cons]
        simpa using hafter
      · rw [List.length_cons]
        omega
      · intro hok
        rw [htrue hok, List.length_cons]
        omega
    · have hdecode := decodeField_missing mp input note field missing hoffset
        (hmatches.ended index (by omega))
      refine ⟨false,
        { state with offset := mp.offsetAt input (index + 1), status := .failure missing },
        ?_, ?_, index + 1, rfl, by simp, by simp, fun _ ↦ by omega⟩
      · simp only [decodeFields, hdecode, Option.bind_some]
        rfl
      · have hnone : cut - index = 0 := by omega
        rw [hnone, List.take_zero, List.append_nil]
        exact h

end

/-! ## Whole notes -/

/-- The payload that has been prepared for a note. -/
theorem decoding_prepared (type : RequestType) (command : Command) (all : List Field) :
    ∃ heap head, maestroNotePayloadPrepare (headNote type command) noteAddress = some heap ∧
      Decoding heap noteAddress head 2 all [] ∧
      noteType heap noteAddress = some type.code ∧
      noteCommand heap noteAddress = some command.code := by
  rcases headNote_block type command with ⟨block, hblock, hsize⟩
  rcases prepare_spec hblock hsize (show 1 + 1 < 2 ^ 64 by norm_num) with
    ⟨heap, head, hprepare, hprepared, htype, hcommand⟩
  have hstore : ((headNote type command).alloc payloadSize).1.storeWord noteAddress
      payloadOffset 8 2 = some heap := hprepare
  have hbody : heap.block? 2 = some (List.replicate payloadSize 0) := by
    rcases Heap.store_eq_some hstore with ⟨_, _, _, _, _, hframe, _⟩
    rw [hframe 2 (by decide)]
    exact Heap.block?_alloc_fresh (headNote type command) payloadSize
  refine ⟨heap, head, hprepare, ⟨hprepared, ?_, ?_, ?_⟩, ?_, ?_⟩
  · rw [Heap.length_store hstore, Heap.length_alloc]
    rfl
  · intro index field hget
    cases hget
  · intro field _ _
    rw [Heap.loadWord, Heap.load, hbody]
    cases field <;> rfl
  · rw [htype, noteType_headNote]
  · rw [hcommand, noteCommand_headNote]

theorem layout_inOwnWords (type : RequestType) (command : Command) :
    InOwnWords (layout type command) := by
  unfold InOwnWords
  cases type <;> cases command <;> decide

theorem layout_nodup (type : RequestType) (command : Command) : (layout type command).Nodup := by
  cases type <;> cases command <;> decide

theorem CutNote.matchesFrom {results : ℕ → UnpackReturn} {type : RequestType} {command : Command}
    {cut : ℕ} (h : CutNote results type command cut) :
    MatchesFrom results (layout type command) 2 cut := ⟨h.members, h.ended⟩

theorem length_layout_le (type : RequestType) (command : Command) :
    (layout type command).length ≤ 10 := by
  cases type <;> cases command <;> decide

section

variable (mp : Msgpack) (input : List UInt8) {type : RequestType} {command : Command} {cut : ℕ}

/-- The note after its members have been decoded as far as there are objects. -/
def Reached (heap : Heap) (type : RequestType) (command : Command) (cut : ℕ) : Prop :=
  ∃ head, Decoding heap noteAddress head 2 (layout type command)
      ((layout type command).take (cut - 2)) ∧
    noteType heap noteAddress = some type.code ∧ noteCommand heap noteAddress = some command.code

/-- A payload that is read as one row. -/
theorem withPayload_cut (row : List (Field × String))
    (hrow : row.map Prod.fst = layout type command)
    (h : CutNote (mp.result input) type command cut) (status : Status) :
    ∃ ok after, withPayload noteAddress (decodeFields mp input noteAddress row)
        ⟨headNote type command, mp.offsetAt input 2, status⟩ = some (ok, after) ∧
      Reached after.heap type command cut := by
  rcases decoding_prepared type command (layout type command) with
    ⟨heap, head, hprepare, hdecoding, htype, hcommand⟩
  have hlength : row.length ≤ 10 := by
    rw [← List.length_map Prod.fst, hrow]
    exact length_layout_le type command
  have hmatches := h.matchesFrom
  rw [← hrow] at hmatches
  obtain ⟨ok, after, hdecode, hafter, -⟩ := decodeFields_cut mp input row
    ⟨heap, mp.offsetAt input 2, status⟩ hdecoding
    (layout_inOwnWords type command) (by rw [hrow]; simp)
    (by rw [hrow, List.nil_append]; exact layout_nodup type command)
    (by rw [hdecoding.length]; simp [strings]; omega) rfl hmatches
  rw [hrow, List.nil_append] at hafter
  have hsame := hafter.prepared.held.trans hdecoding.prepared.held.symm
  refine ⟨ok, after, ?_, head, hafter, ?_, ?_⟩
  · simp only [withPayload, hprepare, Option.bind_some, hdecode]
  · rw [noteType_of_block hsame, htype]
  · rw [noteCommand_of_block hsame, hcommand]

/-- The members behind the header of a response. -/
theorem responseRow_fields (command : Command) :
    (responseHeaderRow ++ responseBodyRow command).map Prod.fst = layout .response command := by
  cases command <;> rfl

/-- The body of a response is read behind its header, also when the header was not complete. -/
theorem maestroDeserializeResponse_cut (h : CutNote (mp.result input) .response command cut)
    (status : Status) :
    ∃ ok after, maestroDeserializeResponse mp input noteAddress
        ⟨headNote .response command, mp.offsetAt input 2, status⟩ = some (ok, after) ∧
      Reached after.heap .response command cut := by
  rcases decoding_prepared .response command (layout .response command) with
    ⟨heap, head, hprepare, hdecoding, htype, hcommand⟩
  have hlayout := responseRow_fields command
  rw [List.map_append] at hlayout
  have hown := layout_inOwnWords .response command
  have hnodup := layout_nodup .response command
  have hmatches := h.matchesFrom
  rw [← hlayout] at hmatches hnodup
  obtain ⟨header, middle, hheader, hmiddle, next, hnext, hbound, htrue, hfalse⟩ :=
    decodeFields_cut mp input responseHeaderRow ⟨heap, mp.offsetAt input 2, status⟩ hdecoding hown
      (by rw [← hlayout]; simp) (List.Nodup.of_append_left hnodup)
      (by rw [hdecoding.length]; decide) rfl hmatches.left
  rw [List.nil_append] at hmiddle
  have hheaderLength : responseHeaderRow.length = 2 := rfl
  have hbody : MatchesFrom (mp.result input) ((responseBodyRow command).map Prod.fst) next cut := by
    cases header with
    | true =>
      rw [htrue rfl]
      exact hmatches.right
    | false => exact hmatches.behind (hfalse rfl)
  have hshort : (responseBodyRow command).length ≤ 8 := by cases command <;> decide
  have hstrings : (strings ((responseHeaderRow.map Prod.fst).take (cut - 2))).length ≤ 2 := by
    have hfilter := List.length_filter_le (fun field : Field ↦ decide (field.kind = .string))
      ((responseHeaderRow.map Prod.fst).take (cut - 2))
    have htake := List.length_take_le' (cut - 2) (responseHeaderRow.map Prod.fst)
    rw [List.length_map, hheaderLength] at htake
    exact hfilter.trans htake
  have hpart : ((responseHeaderRow.map Prod.fst).take (cut - 2) ++
      (responseBodyRow command).map Prod.fst).Sublist (layout .response command) := by
    rw [← hlayout]
    exact (List.take_sublist _ _).append (List.Sublist.refl _)
  obtain ⟨ok, after, hdecode, hafter, -⟩ := decodeFields_cut mp input (responseBodyRow command)
    middle hmiddle hown hpart.subset (hpart.nodup (layout_nodup .response command))
    (by rw [hmiddle.length]; omega) hnext hbody
  have htaken : (responseHeaderRow.map Prod.fst).take (cut - 2) ++
      ((responseBodyRow command).map Prod.fst).take (cut - next) =
        (layout .response command).take (cut - 2) := by
    rw [← hlayout, List.take_append, List.length_map, hheaderLength]
    congr 2
    cases header with
    | true =>
      rw [htrue rfl, hheaderLength]
      omega
    | false =>
      have hend := hfalse rfl
      omega
  rw [htaken] at hafter
  have hkept : noteCommand middle.heap noteAddress = some command.code := by
    rw [noteCommand_of_block (hmiddle.prepared.held.trans hdecoding.prepared.held.symm)]
    exact hcommand
  have hsame := hafter.prepared.held.trans hdecoding.prepared.held.symm
  have hreached : Reached after.heap .response command cut :=
    ⟨head, hafter, by rw [noteType_of_block hsame, htype],
      by rw [noteCommand_of_block hsame, hcommand]⟩
  simp only [maestroDeserializeResponse, withPayload, hprepare, Option.bind_some,
    maestroDeserializeResponseHeader, hheader, hkept]
  cases command with
  | ping => exact ⟨ok, after, hdecode, hreached⟩
  | stats => exact ⟨ok, after, hdecode, hreached⟩
  | _ =>
    -- There is no body, and the flag is that of the header.
    obtain ⟨-, rfl⟩ := Prod.mk.inj (Option.some.inj hdecode)
    exact ⟨header, middle, rfl, hreached⟩

theorem deserializePayload_cut (h : CutNote (mp.result input) type command cut) (status : Status) :
    ∃ ok after, deserializePayload mp input noteAddress
        ⟨headNote type command, mp.offsetAt input 2, status⟩ = some (ok, after) ∧
      (after.heap = headNote type command ∨ Reached after.heap type command cut) := by
  unfold deserializePayload
  rw [noteType_headNote, Option.bind_some]
  cases type with
  | request =>
    simp only [maestroDeserializeRequest, noteCommand_headNote, Option.bind_some]
    cases command with
    | set =>
      obtain ⟨ok, after, hdecode, hreached⟩ := withPayload_cut mp input setRequestRow rfl h status
      exact ⟨ok, after, hdecode, .inr hreached⟩
    | ping =>
      obtain ⟨ok, after, hdecode, hreached⟩ := withPayload_cut mp input pingRequestRow rfl h status
      exact ⟨ok, after, hdecode, .inr hreached⟩
    | _ => exact ⟨true, _, rfl, .inl rfl⟩
  | response =>
    obtain ⟨ok, after, hdecode, hreached⟩ := maestroDeserializeResponse_cut mp input h status
    exact ⟨ok, after, hdecode, .inr hreached⟩
  | notification =>
    obtain ⟨ok, after, hdecode, hreached⟩ := withPayload_cut mp input
      (notificationHeaderRow ++ notificationMessageRow) rfl h status
    rw [← maestroDeserializeNotification_eq] at hdecode
    exact ⟨ok, after, hdecode, .inr hreached⟩

end

/-! ## What is freed -/

section

variable {heap : Heap} {payload : ℕ}

theorem gruDeallocStrings_append (first second : List Field) :
    gruDeallocStrings heap payload (first ++ second) =
      (gruDeallocStrings heap payload first).bind fun freed ↦
        (gruDeallocStrings heap payload second).map fun rest ↦ freed ++ rest := by
  induction first with
  | nil => simp [gruDeallocStrings]
  | cons field first ih =>
    rw [List.cons_append, gruDeallocStrings, gruDeallocStrings, ih]
    cases heap.loadWord payload field.offset 8 with
    | none => rfl
    | some address =>
      cases gruDeallocStrings heap payload first with
      | none => rfl
      | some freed =>
        cases gruDeallocStrings heap payload second with
        | none => rfl
        | some rest =>
          by_cases hnull : address = 0 <;> simp [hnull]

/-- Strings in consecutive blocks. -/
theorem gruDeallocStrings_allocated {fields : List Field} {base : ℕ} (hbase : 0 < base)
    (h : ∀ index field, fields[index]? = some field →
      heap.loadWord payload field.offset 8 = some (base + index)) :
    gruDeallocStrings heap payload fields = some (List.range' base fields.length) := by
  induction fields generalizing base with
  | nil => rfl
  | cons field fields ih =>
    have hfirst := h 0 field rfl
    have hrest := ih (Nat.succ_pos base) fun index other hother ↦ by
      rw [h (index + 1) other hother]
      congr 1
      omega
    rw [gruDeallocStrings, hfirst, Option.bind_some, hrest, Option.map_some,
      if_neg (by omega), Nat.add_zero, List.length_cons, List.range'_succ]

theorem gruDeallocStrings_null {fields : List Field}
    (h : ∀ field ∈ fields, heap.loadWord payload field.offset 8 = some 0) :
    gruDeallocStrings heap payload fields = some [] := by
  induction fields with
  | nil => rfl
  | cons field fields ih =>
    rw [List.forall_mem_cons] at h
    rw [gruDeallocStrings, h.1, Option.bind_some, ih h.2, Option.map_some, if_pos rfl]

/-- The strings of the members that were reached. -/
theorem Decoding.gruDeallocStrings_eq {note : ℕ} {head : Block} {all : List Field} {count : ℕ}
    (h : Decoding heap note head payload all (all.take count)) (hnodup : all.Nodup) :
    gruDeallocStrings heap payload (strings all) =
      some (List.range' (payload + 1) (strings (all.take count)).length) := by
  have hsplit : strings all = strings (all.take count) ++ strings (all.drop count) := by
    rw [← strings_append, List.take_append_drop]
  have hrest : ∀ field ∈ strings (all.drop count),
      heap.loadWord payload field.offset 8 = some 0 := by
    intro field hmem
    have hdrop := List.mem_of_mem_filter hmem
    apply h.null field (List.mem_of_mem_drop hdrop)
    intro htake
    rw [← List.take_append_drop count all, List.nodup_append] at hnodup
    exact hnodup.2.2 field htake field hdrop rfl
  rw [hsplit, gruDeallocStrings_append, gruDeallocStrings_allocated (Nat.succ_pos payload)
    h.allocated, gruDeallocStrings_null hrest]
  simp

end

theorem cleanupFields_eq (type : RequestType) (command : Command) :
    cleanupFields type.code command.code =
      if type = .notification then [] else strings (layout type command) := by
  cases type <;> cases command <;> rfl

/-- What the cleanup of a note frees when the decoding has reached some of its members. -/
theorem Reached.cleanup {heap : Heap} {type : RequestType} {command : Command} {cut : ℕ}
    (h : Reached heap type command cut) :
    ∃ count, heap.blocks.length = 2 + count ∧
      maestroNotePayloadCleanup heap noteAddress =
        some (if type = .notification then [2] else List.range' 3 count ++ [2]) := by
  obtain ⟨head, hdecoding, htype, hcommand⟩ := h
  refine ⟨_, hdecoding.length, ?_⟩
  have hfreed := hdecoding.gruDeallocStrings_eq (layout_nodup type command)
  rw [maestroNotePayloadCleanup, hdecoding.prepared.pointer, Option.bind_some,
    if_neg (by decide), htype, Option.bind_some, hcommand, Option.bind_some, cleanupFields_eq]
  split
  · rfl
  · rw [hfreed]
    rfl

/-- The note ends within its head: nothing but the note has been written. -/
theorem maestroDeserializeNote_headless (mp : Msgpack) (input : List UInt8) {type : RequestType}
    {command : Command} {cut : ℕ} (h : CutNote (mp.result input) type command cut) (hcut : cut < 2)
    (status : Status) :
    ∃ after, maestroDeserializeNote mp input noteAddress zeroNote status = some (false, after) ∧
      notePayload after.heap noteAddress = some 0 ∧ after.heap.blocks.length = 1 := by
  have hcommand := h.ended 1 (by omega)
  by_cases hnone : cut = 0
  · have htype := h.ended 0 (by omega)
    have hnext : msgpackUnpackNext mp input ⟨zeroNote, 0, status⟩ =
        (mp.result input 0, ⟨zeroNote, mp.offsetAt input 1, status⟩) := rfl
    unfold maestroDeserializeNote deserializeType
    rw [hnext]
    cases hresult : mp.result input 0 with
    | success object => exact absurd hresult (htype object)
    | _ => exact ⟨_, rfl, rfl, rfl⟩
  · obtain ⟨object, hresult, hunsigned⟩ := h.types (by omega)
    have hnext : msgpackUnpackNext mp input ⟨⟨[typedNote object]⟩, mp.offsetAt input 1, status⟩ =
        (mp.result input 1, ⟨⟨[typedNote object]⟩, mp.offsetAt input 2, status⟩) := rfl
    have hpayload : notePayload ⟨[typedNote object]⟩ noteAddress = some 0 := by
      rw [typedNote, hunsigned.2]
      cases type <;> rfl
    unfold maestroDeserializeNote
    rw [deserializeType_of_positive mp input status hresult hunsigned.1]
    simp only [Option.bind_some, if_true, deserializeCommand, hnext]
    cases hsecond : mp.result input 1 with
    | success other => exact absurd hsecond (hcommand other)
    | _ => exact ⟨_, rfl, hpayload, rfl⟩

/-- What is right to free: blocks behind the note, none of them twice, and all of them unless some
may be forgotten. -/
structure FreesBlocks (heap : Heap) (freed : List ℕ) (all : Prop) : Prop where
  nodup : freed.Nodup
  allocated : ∀ address ∈ freed, noteAddress < address ∧ address ≤ heap.blocks.length
  complete : all → ∀ address, noteAddress < address → address ≤ heap.blocks.length → address ∈ freed

/-- Without a payload there is nothing to free. -/
theorem freesBlocks_nil {heap : Heap} (hlength : heap.blocks.length = 1) (all : Prop) :
    FreesBlocks heap [] all where
  nodup := List.nodup_nil
  allocated := by simp
  complete _ address hlow hhigh := by
    rw [hlength] at hhigh
    exact absurd hlow (not_lt.mpr hhigh)

theorem cleanup_of_null {heap : Heap} (h : notePayload heap noteAddress = some 0) :
    maestroNotePayloadCleanup heap noteAddress = some [] := by
  rw [maestroNotePayloadCleanup, h, Option.bind_some, if_pos rfl]

/-- The payload behind its strings. -/
theorem freesBlocks_range {heap : Heap} {count : ℕ} (hlength : heap.blocks.length = 2 + count)
    (all : Prop) : FreesBlocks heap (List.range' 3 count ++ [2]) all where
  nodup := by
    refine List.nodup_append.mpr ⟨List.nodup_range', List.nodup_singleton 2, ?_⟩
    intro address hstring other hpayload
    rw [List.mem_range'_1] at hstring
    rw [List.mem_singleton] at hpayload
    omega
  allocated := by
    intro address hmem
    rw [List.mem_append, List.mem_range'_1, List.mem_singleton] at hmem
    rw [noteAddress, hlength]
    omega
  complete _ address hlow hhigh := by
    rw [noteAddress] at hlow
    rw [hlength] at hhigh
    rw [List.mem_append, List.mem_range'_1, List.mem_singleton]
    omega

/-- **Cleanup.**  A note of the protocol, complete or ending anywhere, is decoded without leaving
its memory, and the cleanup that follows frees only blocks that the decoding has allocated and none
of them twice; unless the note is a notification it frees all of them. -/
theorem maestroNotePayloadCleanup_cut (mp : Msgpack) (input : List UInt8) {type : RequestType}
    {command : Command} {cut : ℕ} (h : CutNote (mp.result input) type command cut)
    (status : Status) :
    ∃ ok after freed,
      maestroDeserializeNote mp input noteAddress zeroNote status = some (ok, after) ∧
      maestroNotePayloadCleanup after.heap noteAddress = some freed ∧
      FreesBlocks after.heap freed (type ≠ .notification) := by
  by_cases hcut : cut < 2
  · obtain ⟨after, hdecode, hpayload, hlength⟩ :=
      maestroDeserializeNote_headless mp input h hcut status
    exact ⟨false, after, [], hdecode, cleanup_of_null hpayload, freesBlocks_nil hlength _⟩
  · obtain ⟨typeObject, htype, htypes⟩ := h.types (by omega)
    obtain ⟨commandObject, hcommand, hcommands⟩ := h.commands (by omega)
    obtain ⟨ok, after, hdecode, hplain | hreached⟩ := deserializePayload_cut mp input h status
    · refine ⟨ok, after, [], ?_, ?_, ?_⟩
      · rw [deserializeHead_eq mp input status type command htype htypes hcommand hcommands,
          hdecode]
      · rw [hplain]
        exact cleanup_of_null (notePayload_headNote type command)
      · rw [hplain]
        exact freesBlocks_nil rfl _
    · obtain ⟨count, hlength, hcleanup⟩ := hreached.cleanup
      refine ⟨ok, after, _, ?_, hcleanup, ?_⟩
      · rw [deserializeHead_eq mp input status type command htype htypes hcommand hcommands,
          hdecode]
      · split
        next hnotification =>
          -- Only the payload is freed.
          refine ⟨List.nodup_singleton 2, ?_, fun hother ↦ absurd hnotification hother⟩
          intro address hmem
          rw [List.mem_singleton] at hmem
          rw [hmem, noteAddress, hlength]
          omega
        · exact freesBlocks_range hlength _

/-- A set request that ends behind its option. -/
def cutSetRequest : List UInt8 := [0x00, 0x07, 0x06]

theorem cutSetRequest_cutNote :
    CutNote (msgpackFormat.result cutSetRequest) .request .set 3 where
  types _ := ⟨_, rfl, rfl, rfl⟩
  commands _ := ⟨_, rfl, rfl, rfl⟩
  members index field hfield hindex := by
    obtain rfl : index = 0 := by omega
    obtain rfl : Field.setOpt = field := Option.some.inj hfield
    exact ⟨_, rfl, .inl rfl, by decide⟩
  ended := by
    -- At the end of the input the offset stays where it is.
    have hoffset (count : ℕ) : msgpackFormat.offsetAt cutSetRequest (3 + count) = 3 := by
      induction count with
      | zero => rfl
      | succ count ih =>
        rw [← Nat.add_assoc, Msgpack.offsetAt, ih]
        rfl
    intro index hindex object
    obtain ⟨count, rfl⟩ := Nat.exists_eq_add_of_le hindex
    rw [Msgpack.result, hoffset]
    intro hresult
    cases hresult

theorem cutSetRequest_cleanup :
    ∃ ok after freed, maestroDeserializeNote msgpackFormat cutSetRequest noteAddress zeroNote
        Status.new = some (ok, after) ∧
      maestroNotePayloadCleanup after.heap noteAddress = some freed ∧
      FreesBlocks after.heap freed (RequestType.request ≠ .notification) :=
  maestroNotePayloadCleanup_cut msgpackFormat cutSetRequest cutSetRequest_cutNote Status.new

/-- A set request whose option is a text of fifteen bytes, and which ends behind it. -/
def wildSetRequest : List UInt8 := [0x00, 0x07, 0xaf] ++ List.replicate 15 0x61

/-- The text has run over the pointer of the value, and the cleanup frees what it finds there. -/
theorem wildSetRequest_cleanup :
    ∃ after freed, maestroDeserializeNote msgpackFormat wildSetRequest noteAddress zeroNote
        Status.new = some (false, after) ∧
      maestroNotePayloadCleanup after.heap noteAddress = some freed ∧
      ∃ address ∈ freed, after.heap.blocks.length < address := by
  refine ⟨_, _, rfl, rfl, 0x61616161616161, ?_, ?_⟩
  · decide
  · decide

end MsgPerf.Maestro
