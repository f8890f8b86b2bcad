import MsgPerf.Common.MessageBuffer
import MsgPerf.Library.FormattedText

/-!
# Latency information in MQTT messages

A sender that measures the latency writes the time in front of the message, in a field of eighteen
characters; a receiver scans the beginning of the message for a text of at most seventeen.  The
message is copied behind the field as a string although it has a size of its own.

Reading goes beyond the buffers: the string of the message may end in the memory behind its buffer,
and the scan of a received payload may go on in the memory behind the payload.  What lies there is
part of the arguments.  A string that does not end, and a payload that is longer than the string it
was taken from, have no result.  `asprintf` has memory.
-/

namespace MsgPerf.Api.PahoLatency

open MsgPerf.Library MsgPerf.Common

/-! ## Sending -/

/-- `TS_SIZE`. -/
def tsSize : ℕ := 18

/-- `struct paho_perf_pl`, with the string and its NUL as the data. -/
structure PerfPayload where
  data : List UInt8
  size : ℤ
  deriving DecidableEq, Repr

/-- The payload for the text of the present time; `beyond` is the memory behind the buffer. -/
def pahoSerializeLatencyInfo (formattedTs : List UInt8) (content : Content)
    (beyond : List UInt8) : Option PerfPayload :=
  (stringAt (content.bytes ++ beyond)).map fun body ↦
    ⟨padLeft 18 formattedTs ++ body ++ [0], tsSize + (content.size : ℤ).bmod (2 ^ 32)⟩

/-- The bytes that `MQTTClient_publishMessage` takes. -/
def PerfPayload.published (payload : PerfPayload) : Option (List UInt8) :=
  if payload.size ≤ payload.data.length then some (payload.data.take payload.size.toNat) else none

/-- The guard of `paho_send`. -/
def tooBig (content : Content) : Bool := 2 ^ 31 - 1 < (content.size + tsSize) % 2 ^ 64

inductive SendOutcome where
  | refused
  | undefined
  | published (payload : List UInt8)
  deriving DecidableEq, Repr

/-- `paho_send` with latency statistics, up to the payload that is published. -/
def pahoSend (formattedTs : List UInt8) (content : Content) (beyond : List UInt8) : SendOutcome :=
  if tooBig content then .refused
  else
    match (pahoSerializeLatencyInfo formattedTs content beyond).bind PerfPayload.published with
    | some payload => .published payload
    | none => .undefined

/-! ## Receiving -/

/-- The header that `paho_receive` scans; `behind` is the memory behind the payload. -/
def receivedHeader (payload behind : List UInt8) : List UInt8 := scanToken 17 (payload ++ behind)

/-- The time of creation that `paho_receive` sets. -/
def receivedCreated {Time : Type*} (gruTimeReadStr : List UInt8 → Time)
    (payload behind : List UInt8) : Time :=
  gruTimeReadStr (receivedHeader payload behind)

/-- The message in a buffer. -/
def body (content : Content) : List UInt8 := content.bytes.take content.size

/-- A message that is sent arrives with the time that the sender wrote, and unchanged. -/
def RoundTrips (formattedTs : List UInt8) (content : Content) (beyond behind : List UInt8) : Prop :=
  match pahoSend formattedTs content beyond with
  | .refused => True
  | .undefined => False
  | .published payload =>
      receivedHeader payload behind = formattedTs ∧
      (∀ {Time : Type} (gruTimeReadStr : List UInt8 → Time),
        receivedCreated gruTimeReadStr payload behind = gruTimeReadStr formattedTs) ∧
      payload.length = tsSize + content.size ∧ payload.drop tsSize = body content

/-- The text of the time has seventeen characters, or it is shorter and white space, a NUL or
nothing follows it; and the string of the message ends, and not before the last byte of the
message. -/
def Separated (formattedTs : List UInt8) (content : Content) (beyond behind : List UInt8) : Prop :=
  (formattedTs.length = 17 ∨ formattedTs.length < 17 ∧
    ∀ byte, (following formattedTs (body content ++ behind)).head? = some byte →
      isTokenByte byte = false) ∧
  0 ∈ content.bytes ++ beyond ∧ 0 ∉ (body content).dropLast ∧ content.size + tsSize < 2 ^ 64

/-! ## The payload -/

section Payload

variable {formattedTs : List UInt8} {content : Content} {beyond : List UInt8}

theorem length_body (h : content.Sound) : (body content).length = content.size := by
  rw [body, List.length_take, h.block]
  exact Nat.min_eq_left h.sized

theorem take_memory (h : content.Sound) (beyond : List UInt8) :
    (content.bytes ++ beyond).take content.size = body content :=
  List.take_append_of_le_length (h.sized.trans h.block.ge)

/-- The length of the payload is computed without wrapping. -/
theorem size_of_not_tooBig (hbig : tooBig content = false)
    (hsize : content.size + tsSize < 2 ^ 64) :
    (tsSize + (content.size : ℤ).bmod (2 ^ 32) : ℤ) = ((tsSize + content.size : ℕ) : ℤ) := by
  simp only [tooBig, decide_eq_false_iff_not, not_lt, Nat.mod_eq_of_lt hsize] at hbig
  simp only [tsSize, Int.bmod] at hbig ⊢
  omega

/-- A message without a NUL before its last byte is published behind the field of the time. -/
theorem pahoSend_of_separated (htext : formattedTs.length ≤ tsSize) (hcontent : content.Sound)
    (hbig : tooBig content = false) (hsize : content.size + tsSize < 2 ^ 64)
    (hends : 0 ∈ content.bytes ++ beyond) (hnul : 0 ∉ (body content).dropLast) :
    pahoSend formattedTs content beyond =
      .published (padLeft tsSize formattedTs ++ body content) := by
  obtain ⟨text, hstring⟩ : ∃ text, stringAt (content.bytes ++ beyond) = some text :=
    ⟨_, if_pos hends⟩
  have hmemory := take_memory hcontent beyond
  have hlength : content.size ≤ text.length + 1 := by
    apply (nul_notMem_dropLast_iff hstring ?_).mp
    · rwa [hmemory]
    · rw [List.length_append, hcontent.block]
      exact hcontent.sized.trans (Nat.le_add_right _ _)
  have hfield := length_padLeft htext
  have hdata : (text ++ [0]).take content.size = body content := by
    rw [stringAt_append_nul hstring, List.take_take, Nat.min_eq_left hlength, hmemory]
  have hpublished : PerfPayload.published ⟨padLeft 18 formattedTs ++ text ++ [0],
      tsSize + (content.size : ℤ).bmod (2 ^ 32)⟩ =
      some (padLeft tsSize formattedTs ++ body content) := by
    rw [PerfPayload.published, size_of_not_tooBig hbig hsize, if_pos, Int.toNat_natCast,
      List.append_assoc, show padLeft 18 formattedTs = padLeft tsSize formattedTs from rfl,
      List.take_append, hfield, Nat.add_sub_cancel_left, hdata,
      List.take_of_length_le (by rw [hfield]; exact Nat.le_add_right _ _)]
    · rw [List.append_assoc, List.length_append, List.length_append, List.length_singleton,
        show padLeft 18 formattedTs = padLeft tsSize formattedTs from rfl, hfield]
      exact Int.ofNat_le.mpr (Nat.add_le_add_left hlength tsSize)
  rw [pahoSend, hbig, if_neg Bool.false_ne_true, pahoSerializeLatencyInfo, hstring,
    Option.map_some, Option.bind_some, hpublished]

/-- What is known of a message that was published with the length of its field and its size. -/
theorem separated_of_published {payload : List UInt8} (htext : formattedTs.length ≤ tsSize)
    (hcontent : content.Sound) (hbig : tooBig content = false)
    (hsend : pahoSend formattedTs content beyond = .published payload)
    (hlength : payload.length = tsSize + content.size) :
    0 ∈ content.bytes ++ beyond ∧ 0 ∉ (body content).dropLast ∧
      content.size + tsSize < 2 ^ 64 := by
  rw [pahoSend, hbig, if_neg Bool.false_ne_true] at hsend
  cases hstring : stringAt (content.bytes ++ beyond) with
  | none => simp [pahoSerializeLatencyInfo, hstring] at hsend
  | some text =>
    rw [pahoSerializeLatencyInfo, hstring, Option.map_some, Option.bind_some,
      PerfPayload.published] at hsend
    split at hsend
    next published hpublished =>
      split at hpublished
      next hfits =>
        -- The length of the payload is that of the field and the size reduced to an `int`.
        have hsize : content.size + tsSize < 2 ^ 64 := by
          have htake := congrArg List.length (Option.some.inj hpublished)
          rw [List.length_take, SendOutcome.published.inj hsend, hlength] at htake
          simp only [tsSize, Int.bmod] at htake ⊢
          omega
        have hends : 0 ∈ content.bytes ++ beyond := by
          by_contra hnone
          simp [stringAt, hnone] at hstring
        refine ⟨hends, ?_, hsize⟩
        rw [← take_memory hcontent beyond, nul_notMem_dropLast_iff hstring]
        · have hfield := length_padLeft htext
          simp only [tsSize] at hfield
          rw [size_of_not_tooBig hbig hsize] at hfits
          simp only [List.length_append, List.length_singleton, hfield, tsSize] at hfits
          omega
        · rw [List.length_append, hcontent.block]
          exact hcontent.sized.trans (Nat.le_add_right _ _)
      · cases hpublished
    · cases hsend

end Payload

/-- A message with latency information round trips exactly when it is refused, or its time and its
body are separated as `Separated` says. -/
theorem roundTrips_iff_separated {formattedTs : List UInt8} {content : Content}
    (htext : ∀ byte ∈ formattedTs, isTokenByte byte = true)
    (hlength : formattedTs.length ≤ tsSize) (hcontent : content.Sound)
    (beyond behind : List UInt8) :
    RoundTrips formattedTs content beyond behind ↔
      tooBig content = true ∨ Separated formattedTs content beyond behind := by
  cases hbig : tooBig content with
  | true =>
    have hrefused : pahoSend formattedTs content beyond = .refused := by
      rw [pahoSend, hbig, if_pos rfl]
    simp [RoundTrips, hrefused]
  | false =>
    have hheader := scanToken_padLeft_eq_iff 17 tsSize htext (body content ++ behind)
    rw [← List.append_assoc] at hheader
    constructor
    · intro htrips
      refine .inr ?_
      unfold RoundTrips at htrips
      split at htrips
      · next hrefused =>
        simp only [pahoSend, hbig, if_neg Bool.false_ne_true] at hrefused
        split at hrefused <;> cases hrefused
      · cases htrips
      · next payload hsend =>
        obtain ⟨htoken, -, hpayload, -⟩ := htrips
        obtain ⟨hends, hnul, hsize⟩ :=
          separated_of_published hlength hcontent hbig hsend hpayload
        have hsent := pahoSend_of_separated hlength hcontent hbig hsize hends hnul
        rw [SendOutcome.published.inj (hsend.symm.trans hsent)] at htoken
        exact ⟨hheader.mp htoken, hends, hnul, hsize⟩
    · intro hcases
      obtain ⟨hseparated, hends, hnul, hsize⟩ := hcases.resolve_left Bool.false_ne_true
      have htoken := hheader.mpr hseparated
      have hfield := length_padLeft hlength
      rw [RoundTrips, pahoSend_of_separated hlength hcontent hbig hsize hends hnul]
      refine ⟨htoken, fun gruTimeReadStr ↦ congrArg gruTimeReadStr htoken, ?_, ?_⟩
      · rw [List.length_append, hfield, length_body hcontent]
      · rw [List.drop_append, hfield, Nat.sub_self, List.drop_zero,
          List.drop_of_length_le hfield.le, List.nil_append]

/-- The text `1508411972.681234`. -/
def fullTime : List UInt8 :=
  [49, 53, 48, 56, 52, 49, 49, 57, 55, 50, 46, 54, 56, 49, 50, 51, 52]

/-- The buffer that `pl_fixed_init` fills for messages of three bytes. -/
def threeLetters : Content := ⟨some [100, 100, 100], 3, 3⟩

/-- A time of seventeen characters, with a NUL in the memory behind the buffer. -/
theorem fullTime_roundTrips : RoundTrips fullTime threeLetters [0] [] := by
  have htext : ∀ byte ∈ fullTime, isTokenByte byte = true := by
    rw [← List.all_eq_true]
    decide
  apply (roundTrips_iff_separated htext (by decide) ⟨by decide, rfl⟩ [0] []).mpr
  exact .inr ⟨.inl rfl, by decide, by decide, by decide⟩

/-- A time of fourteen characters, `1508411972.681`, is read with the letters behind it. -/
theorem shortTime_not_roundTrips : ¬ RoundTrips (fullTime.take 14) threeLetters [0] [] := by
  have hsend : pahoSend (fullTime.take 14) threeLetters [0] = .published
      ([32, 32, 32, 32] ++ fullTime.take 14 ++ [100, 100, 100]) := by decide
  intro htrips
  rw [RoundTrips, hsend] at htrips
  exact absurd htrips.1 (by decide)

end MsgPerf.Api.PahoLatency
