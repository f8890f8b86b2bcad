import MsgPerf.Maestro.Acceptance
import MsgPerf.Maestro.MsgpackFormat

/-!
# Failures of the deserializer reach its caller

A failure is an unpack that does not succeed or an assignment that returns false.  Every function of
the deserializer returns false after its first failure; the response stage is the one caller that
goes on, and for a ping or a stats response it replaces the flag of the header by the flag of the
body.
-/

namespace MsgPerf.Maestro

open MsgPerf.Library.ByteMemory

/-- What becomes of the command. -/
def commandOutcome : UnpackReturn → FieldOutcome
  | .success command => command.outcome (noteSize - commandOffset)
  | _ => .refused

/-- During the call an unpack does not succeed or an assignment returns false: at the type, at the
command, or at the first member of the layout that is not stored. -/
def FailureMet (results : ℕ → UnpackReturn) : Prop :=
  (∀ type, results 0 ≠ .success type) ∨
  (∃ type, results 0 = .success type ∧ type.type = .positiveInteger ∧
    commandOutcome (results 1) = .refused) ∨
  ∃ type command, head? results = some (type, command) ∧
    (fieldsOutcome results (wireLayout type command) 2).1 = .refused

section

variable (mp : Msgpack) (input : List UInt8)

/-- A failure makes the deserializer return false. -/
def FailuresReturned (status : Status) : Prop :=
  FailureMet (mp.result input) →
    ∃ after, maestroDeserializeNote mp input noteAddress zeroNote status = some (false, after)

end

/-- A ping or stats response whose id or name is refused, while no member of the body, read from the
object after the refused one, is. -/
def HeaderFailureDropped (results : ℕ → UnpackReturn) : Prop :=
  ∃ command, head? results = some (RequestType.response.code, command) ∧
    (command = Command.ping.code ∨ command = Command.stats.code) ∧
    (fieldsOutcome results responseHeader 2).1 = .refused ∧
    (fieldsOutcome results (responseBody command)
      (2 + (fieldsOutcome results responseHeader 2).2)).1 ≠ .refused

/-! ## Rows that end in a refusal -/

/-- A row is refused in its first part, or in its second part after the first has been stored. -/
theorem fieldsOutcome_append_refused {results : ℕ → UnpackReturn} {first second : List Field}
    {start : ℕ} :
    (fieldsOutcome results (first ++ second) start).1 = .refused ↔
      (fieldsOutcome results first start).1 = .refused ∨
        (fieldsOutcome results first start).1 = .stored ∧
          (fieldsOutcome results second (start + first.length)).1 = .refused := by
  induction first generalizing start with
  | nil => simp [fieldsOutcome]
  | cons field first ih =>
    have hshift : start + (first.length + 1) = start + 1 + first.length := by omega
    simp only [List.cons_append, fieldsOutcome, List.length_cons]
    cases houtcome : field.outcome (results start) with
    | stored =>
      simp only [hshift]
      exact ih
    | refused => simp
    | overflow => simp

/-- A followed refusal is a returned false. -/
theorem Decoded.Follows.returned {decoded : Decoded} {outcome : FieldOutcome} {status : Status}
    {post : DecodeState → Prop} (h : decoded.Follows outcome status post)
    (hrefused : outcome = .refused) : ∃ after, decoded = some (false, after) := by
  subst hrefused
  rcases h with ⟨after, hafter, -⟩
  exact ⟨after, hafter⟩

/-- A followed outcome other than a refusal is not a returned false. -/
theorem Decoded.Follows.not_returned {decoded : Decoded} {outcome : FieldOutcome} {status : Status}
    {post : DecodeState → Prop} (h : decoded.Follows outcome status post)
    (hother : outcome ≠ .refused) : ¬ ∃ after, decoded = some (false, after) := by
  rintro ⟨after, hafter⟩
  cases outcome with
  | stored =>
    rcases h with ⟨other, hother, -⟩
    rw [hafter] at hother
    cases hother
  | refused => exact hother rfl
  | overflow =>
    rw [hafter] at h
    cases h

section

variable (mp : Msgpack) (input : List UInt8)

/-- A header row whose flag is dropped, followed by a body row: false is returned exactly when the
body ends in a refusal. -/
theorem headerThenBody_returned (state : DecodeState) {note payload : ℕ} {head : Block}
    (header body : List (Field × String)) (h : Prepared state.heap note head payload)
    (hoffset : state.offset = mp.offsetAt input 2)
    (hheader : (fieldsOutcome (mp.result input) (header.map Prod.fst) 2).1 ≠ .overflow) :
    (∃ after, ((decodeFields mp input note header state).bind fun (_, next) ↦
        decodeFields mp input note body next) = some (false, after)) ↔
      (fieldsOutcome (mp.result input) (body.map Prod.fst)
        (2 + (fieldsOutcome (mp.result input) (header.map Prod.fst) 2).2)).1 = .refused := by
  have hfirst := decodeFields_follows mp input header state h hoffset
  have hnext : ∃ ok next, decodeFields mp input note header state = some (ok, next) ∧
      next.offset = mp.offsetAt input
        (2 + (fieldsOutcome (mp.result input) (header.map Prod.fst) 2).2) ∧
      Prepared next.heap note head payload := by
    cases houtcome : (fieldsOutcome (mp.result input) (header.map Prod.fst) 2).1 with
    | stored =>
      rw [houtcome] at hfirst
      rcases hfirst with ⟨next, hdecode, -, hnext, hprepared⟩
      exact ⟨true, next, hdecode, hnext, hprepared⟩
    | refused =>
      rw [houtcome] at hfirst
      rcases hfirst with ⟨next, hdecode, -, hnext, hprepared⟩
      exact ⟨false, next, hdecode, hnext, hprepared⟩
    | overflow => exact absurd houtcome hheader
  rcases hnext with ⟨ok, next, hdecode, hnext, hprepared⟩
  have hsecond := decodeFields_follows mp input body next hprepared hnext
  rw [hdecode, Option.bind_some]
  constructor
  · intro hreturned
    by_contra hother
    exact hsecond.not_returned hother hreturned
  · exact hsecond.returned

/-- The response stage returns the refusal of the last row that it reads. -/
theorem maestroDeserializeResponse_returned {state : DecodeState} {note command : ℕ}
    {head : Block} (hnote : state.heap.block? note = some head) (hsize : head.length = noteSize)
    (hroom : state.heap.blocks.length + 1 < 2 ^ 64) (hoffset : state.offset = mp.offsetAt input 2)
    (htype : noteType state.heap note = some RequestType.response.code)
    (hcommand : noteCommand state.heap note = some command)
    (hheader : (fieldsOutcome (mp.result input) responseHeader 2).1 ≠ .overflow) :
    (∃ after, maestroDeserializeResponse mp input note state = some (false, after)) ↔
      if command = Command.ping.code ∨ command = Command.stats.code then
        (fieldsOutcome (mp.result input) (responseBody command)
          (2 + (fieldsOutcome (mp.result input) responseHeader 2).2)).1 = .refused
      else (fieldsOutcome (mp.result input) responseHeader 2).1 = .refused := by
  rcases prepare_spec hnote hsize hroom with ⟨heap, changed, hprepare, hprepared, hkept, hkeeps⟩
  let prepared : DecodeState := { state with heap := heap }
  have hread : ∀ next : DecodeState,
      Prepared next.heap note changed (state.heap.blocks.length + 1) →
      noteCommand next.heap note = some command := by
    intro next hnext
    exact (hnext.delivered hprepared (hkept.trans htype) (hkeeps.trans hcommand)).command
  have hswitch := maestroDeserializeResponse_switch mp input hprepare hprepared hoffset hread
  rw [hswitch]
  by_cases hping : command = Command.ping.code
  · simp only [hping, true_or, if_true]
    exact headerThenBody_returned mp input prepared responseHeaderRow pingResponseRow hprepared
      hoffset hheader
  · by_cases hstats : command = Command.stats.code
    · simp only [hstats, or_true, if_true]
      exact headerThenBody_returned mp input prepared responseHeaderRow statsResponseRow hprepared
        hoffset hheader
    · have hrow := decodeFields_follows mp input responseHeaderRow prepared hprepared hoffset
      have hsame : ((decodeFields mp input note responseHeaderRow prepared).bind fun (ok, next) ↦
          some (ok, next)) = decodeFields mp input note responseHeaderRow prepared := by
        cases decodeFields mp input note responseHeaderRow prepared <;> rfl
      simp only [hping, hstats, or_self, if_false]
      change (∃ after, ((decodeFields mp input note responseHeaderRow prepared).bind
        fun (ok, next) ↦ some (ok, next)) = some (false, after)) ↔ _
      rw [hsame]
      constructor
      · intro hreturned
        by_contra hother
        exact hrow.not_returned hother hreturned
      · exact hrow.returned

/-- Requests and notifications return their first refusal. -/
theorem deserializePayload_returned {state : DecodeState} {note type command : ℕ} {head : Block}
    (hnote : state.heap.block? note = some head) (hsize : head.length = noteSize)
    (hroom : state.heap.blocks.length + 1 < 2 ^ 64) (hoffset : state.offset = mp.offsetAt input 2)
    (htype : noteType state.heap note = some type)
    (hcommand : noteCommand state.heap note = some command)
    (hresponse : type ≠ RequestType.response.code)
    (hrefused : (fieldsOutcome (mp.result input) (wireLayout type command) 2).1 = .refused) :
    ∃ after, deserializePayload mp input note state = some (false, after) := by
  have hrow := fun fields ↦
    withPayload_follows mp input fields hnote hsize hroom hoffset htype hcommand
  unfold deserializePayload
  unfold wireLayout at hrefused
  rw [htype, Option.bind_some, if_neg hresponse]
  rw [if_neg hresponse] at hrefused
  by_cases hrequest : type = RequestType.request.code
  · rw [if_pos hrequest] at hrefused ⊢
    unfold requestFields at hrefused
    unfold maestroDeserializeRequest
    rw [hcommand, Option.bind_some]
    by_cases hset : command = Command.set.code
    · rw [if_pos hset] at hrefused ⊢
      exact (hrow setRequestRow).returned hrefused
    · rw [if_neg hset] at hrefused ⊢
      by_cases hping : command = Command.ping.code
      · rw [if_pos hping] at hrefused ⊢
        exact (hrow pingRequestRow).returned hrefused
      · rw [if_neg hping] at hrefused
        cases hrefused
  · rw [if_neg hrequest] at hrefused ⊢
    by_cases hnotification : type = RequestType.notification.code
    · rw [if_pos hnotification] at hrefused ⊢
      rw [maestroDeserializeNotification_eq]
      exact (hrow (notificationHeaderRow ++ notificationMessageRow)).returned hrefused
    · rw [if_neg hnotification] at hrefused
      cases hrefused

/-! ## The whole deserializer -/

theorem exists_of_head? {results : ℕ → UnpackReturn} {type command : ℕ}
    (hhead : head? results = some (type, command)) :
    ∃ first second, results 0 = .success first ∧ first.type = .positiveInteger ∧
      results 1 = .success second ∧ second.outcome (noteSize - commandOffset) = .stored ∧
      type = wireType first ∧ command = wireCommand first second := by
  unfold head? at hhead
  split at hhead
  · next first second hfirst hsecond =>
    split at hhead
    · next hstored =>
      rw [Option.some.injEq, Prod.mk.injEq] at hhead
      exact ⟨first, second, hfirst, hstored.1, hsecond, hstored.2, hhead.1.symm, hhead.2.symm⟩
    · cases hhead
  · cases hhead

/-- Behind type and command the result is that of the payload stage. -/
theorem maestroDeserializeNote_of_head {type command : ℕ} (status : Status)
    (hhead : head? (mp.result input) = some (type, command)) :
    ∃ state head, maestroDeserializeNote mp input noteAddress zeroNote status =
        deserializePayload mp input noteAddress state ∧
      state.heap.block? noteAddress = some head ∧ head.length = noteSize ∧
      state.heap.blocks.length + 1 < 2 ^ 64 ∧ state.offset = mp.offsetAt input 2 ∧
      noteType state.heap noteAddress = some type ∧
      noteCommand state.heap noteAddress = some command := by
  rcases exists_of_head? hhead with ⟨first, second, hfirst, hkind, hsecond, hfits, rfl, rfl⟩
  rcases deserializeCommand_of_stored mp input first status hsecond hfits with
    ⟨after, head, hdecode, -, hoffset, hheap, hsize, htypes, hcommands⟩
  refine ⟨after, head, ?_, ?_, hsize, ?_, hoffset, htypes, hcommands⟩
  · unfold maestroDeserializeNote
    rw [deserializeType_of_positive mp input status hfirst hkind]
    simp only [Option.bind_some, if_true]
    rw [hdecode]
    rfl
  · rw [hheap]
    rfl
  · rw [hheap]
    norm_num

/-- A refused command is returned. -/
theorem maestroDeserializeNote_of_command {type : Object} (status : Status)
    (hfirst : mp.result input 0 = .success type) (hkind : type.type = .positiveInteger)
    (hrefused : commandOutcome (mp.result input 1) = .refused) :
    ∃ after, maestroDeserializeNote mp input noteAddress zeroNote status = some (false, after) := by
  have hnext : msgpackUnpackNext mp input ⟨⟨[typedNote type]⟩, mp.offsetAt input 1, status⟩ =
      (mp.result input 1, ⟨⟨[typedNote type]⟩, mp.offsetAt input 2, status⟩) := rfl
  have hcommand : ∃ after, deserializeCommand mp input noteAddress
      ⟨⟨[typedNote type]⟩, mp.offsetAt input 1, status⟩ = some (false, after) := by
    unfold deserializeCommand
    rw [hnext]
    cases hresult : mp.result input 1 with
    | success command =>
      rw [hresult, commandOutcome, Object.outcome] at hrefused
      simp only [maestroDeserializeNoteAssign_eq]
      cases hassign : command.assignment with
      | bytes data =>
        simp only [hassign] at hrefused
        split at hrefused <;> cases hrefused
      | unsupported => exact ⟨_, rfl⟩
      | undefined => simp [hassign] at hrefused
    | _ => exact ⟨_, rfl⟩
  rcases hcommand with ⟨after, hcommand⟩
  unfold maestroDeserializeNote
  rw [deserializeType_of_positive mp input status hfirst hkind]
  simp only [Option.bind_some, if_true]
  rw [hcommand]
  exact ⟨after, rfl⟩

theorem maestroDeserializeNote_of_type (status : Status)
    (hmissing : ∀ type, mp.result input 0 ≠ .success type) :
    ∃ after, maestroDeserializeNote mp input noteAddress zeroNote status = some (false, after) := by
  rcases deserializeType_of_not_positive mp input status
    fun type htype ↦ absurd htype (hmissing type) with ⟨after, hdecode, -⟩
  unfold maestroDeserializeNote
  rw [hdecode]
  exact ⟨after, rfl⟩

/-- Behind the head of a response: the refusal of a layout row is returned unless it is one of the
header that the body overwrites. -/
theorem response_returned_iff {command : ℕ} (status : Status)
    (hhead : head? (mp.result input) = some (RequestType.response.code, command))
    (hrefused : (fieldsOutcome (mp.result input) (responseHeader ++ responseBody command) 2).1 =
      .refused) :
    (∃ after, maestroDeserializeNote mp input noteAddress zeroNote status = some (false, after)) ↔
      ¬ HeaderFailureDropped (mp.result input) := by
  rcases maestroDeserializeNote_of_head mp input status hhead with
    ⟨state, head, hnote, hblock, hsize, hroom, hoffset, htype, hcommand⟩
  have hstage : deserializePayload mp input noteAddress state =
      maestroDeserializeResponse mp input noteAddress state := by
    unfold deserializePayload
    rw [htype, Option.bind_some, if_pos rfl]
  have hparts := fieldsOutcome_append_refused.mp hrefused
  have hheader : (fieldsOutcome (mp.result input) responseHeader 2).1 ≠ .overflow := by
    rcases hparts with hfirst | ⟨hfirst, -⟩ <;> simp [hfirst]
  have hdropped : HeaderFailureDropped (mp.result input) ↔
      (command = Command.ping.code ∨ command = Command.stats.code) ∧
        (fieldsOutcome (mp.result input) responseHeader 2).1 = .refused ∧
        (fieldsOutcome (mp.result input) (responseBody command)
          (2 + (fieldsOutcome (mp.result input) responseHeader 2).2)).1 ≠ .refused := by
    simp [HeaderFailureDropped, hhead]
  rw [hnote, hstage, maestroDeserializeResponse_returned mp input hblock hsize hroom hoffset htype
    hcommand hheader, hdropped]
  by_cases hbody : command = Command.ping.code ∨ command = Command.stats.code
  · rw [if_pos hbody]
    rcases hparts with hfirst | ⟨hfirst, hsecond⟩
    · simp [hbody, hfirst]
    · have hcount := fieldsOutcome_stored_length hfirst
      simp [hfirst, hcount, hsecond]
  · rw [if_neg hbody]
    have hempty : responseBody command = [] := by
      unfold responseBody
      rw [if_neg fun hping ↦ hbody (.inl hping), if_neg fun hstats ↦ hbody (.inr hstats)]
    rw [hempty, List.append_nil] at hrefused
    simp [hbody, hrefused]

end

/-- A ping response with nil for its id and an elapsed time after it. -/
def namelessPing : List UInt8 := [0x01, 0x0a, 0xc0, 0x05]

end MsgPerf.Maestro
