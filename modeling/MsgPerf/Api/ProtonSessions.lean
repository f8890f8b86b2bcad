import MsgPerf.Api.ProtonParameters
import MsgPerf.Api.ProtonReceive

/-!
# AMQP sessions

In a session the handlers of the parameters run: those before the connect once, those before and
behind a send with every message, and those at the end of a group of received messages.  Every
message of a sender has the members that the last parameters of the URL ask for.  A receiver settles
what it takes in groups when the URL asks for delivery at most once or for nothing, and for any other
mode it never settles anything.
-/

namespace MsgPerf.Api.ProtonParameters

open MsgPerf.Library MsgPerf.Common
open MsgPerf.Maestro (Variant)
open PahoParameters (MsgDirection)

/-! ## A message -/

section Message

variable (gru : GruVariants) (query : List (String × Variant)) (random : ℕ)

theorem lastValue_sendAdditions (callback : SendCallback) :
    OrderedMap.lastValue callback (sendAdditions query) =
      (OrderedMap.lastValue callback.key query).elim (OrderedMap.lastValue callback sendDefaults)
        fun value ↦ some (some (callback.payload value)) := by
  apply OrderedMap.lastValue_append_filterMap
  · intro value
    exact sendAddition_of_key rfl
  · intro pair hpair addition haddition hsame
    obtain ⟨added, hadded, rfl⟩ := Option.map_eq_some_iff.mp haddition
    obtain rfl : added = callback := hsame
    exact hpair (sendParameter_eq_some_iff.mp hadded)

/-- The payload of a handler is the last value of its parameter. -/
theorem lastPayload_sendAdditions (callback : SendCallback) :
    lastPayload callback (sendAdditions query) =
      (OrderedMap.lastValue callback.key query).map fun value ↦ callback.payload value := by
  rw [lastPayload, lastValue_sendAdditions]
  cases OrderedMap.lastValue callback.key query with
  | none => cases callback <;> rfl
  | some value => rfl

/-- The handlers that run before a send. -/
theorem mem_firstAdded (callback : SendCallback) :
    callback ∈ firstAdded (sendAdditions query) ↔
      callback ∈ sendDefaults.map Prod.fst ∨
        (OrderedMap.lastValue callback.key query).isSome := by
  rw [firstAdded, OrderedMap.mem_firstKeys, lastValue_sendAdditions]
  cases OrderedMap.lastValue callback.key query with
  | none => cases callback <;> decide
  | some value => simp

/-- What a handler with its last payload makes of a message. -/
def SendCallback.effect (message : PnMessage) : SendCallback → PnMessage
  | .setTtl => { message with ttl := (requestedMessage gru query random).ttl }
  | .setDurable => { message with durable := (requestedMessage gru query random).durable }
  | .setContentType =>
    { message with contentType := (requestedMessage gru query random).contentType }
  | .setProperties => { message with properties := (requestedMessage gru query random).properties }
  | .setPriority => { message with priority := (requestedMessage gru query random).priority }

/-- The members of some handlers are those of the requested message. -/
def overlay (callbacks : List SendCallback) (message : PnMessage) : PnMessage where
  ttl := if .setTtl ∈ callbacks then (requestedMessage gru query random).ttl else message.ttl
  durable :=
    if .setDurable ∈ callbacks then (requestedMessage gru query random).durable
    else message.durable
  contentType :=
    if .setContentType ∈ callbacks then (requestedMessage gru query random).contentType
    else message.contentType
  priority :=
    if .setPriority ∈ callbacks then (requestedMessage gru query random).priority
    else message.priority
  properties :=
    if .setProperties ∈ callbacks then (requestedMessage gru query random).properties
    else message.properties

theorem foldl_effect (callbacks : List SendCallback) (message : PnMessage) :
    callbacks.foldl (SendCallback.effect gru query random) message =
      overlay gru query random callbacks message := by
  induction callbacks generalizing message with
  | nil => simp [overlay]
  | cons callback callbacks ih =>
    rw [List.foldl_cons, ih]
    cases callback <;> simp [overlay, SendCallback.effect]

variable {query} in
/-- There is a text exactly when there is a parameter. -/
theorem propertyTexts_eq_nil_iff (hquery : ∀ value,
      ("application-properties", value) ∈ query → ∃ text, value = .text text) :
    propertyTexts query = [] ↔
      OrderedMap.lastValue (SendCallback.key .setProperties) query = none := by
  rw [propertyTexts, List.filterMap_eq_nil_iff, ← Option.not_isSome_iff_eq_none,
    ← OrderedMap.mem_firstKeys, OrderedMap.firstKeys, List.mem_eraseDups]
  constructor
  · intro hnone hmem
    obtain ⟨⟨key, value⟩, hpair, hkey⟩ := List.mem_map.mp hmem
    obtain rfl : key = "application-properties" := hkey
    obtain ⟨text, rfl⟩ := hquery value hpair
    exact absurd (hnone _ hpair) (by simp [variantString])
  · intro hnone pair hpair
    rw [if_neg]
    intro hkey
    exact hnone (List.mem_map.mpr ⟨pair, hpair, hkey⟩)

variable {gru query} (hquery : WellTyped gru query)

include hquery in
/-- Members without a handler have the values of a new message. -/
theorem overlay_firstAdded :
    overlay gru query random (firstAdded (sendAdditions query)) pnMessage =
      requestedMessage gru query random := by
  have hdefault : ∀ callback ∈ sendDefaults.map Prod.fst,
      callback ∈ firstAdded (sendAdditions query) := by
    intro callback hcallback
    exact (mem_firstAdded query callback).mpr (.inl hcallback)
  have hpriority : SendCallback.setPriority ∉ firstAdded (sendAdditions query) →
      pnMessage.priority = (requestedMessage gru query random).priority := by
    rw [mem_firstAdded, not_or, Option.not_isSome_iff_eq_none]
    rintro ⟨-, hnone⟩
    simp only [SendCallback.key] at hnone
    simp [requestedMessage, hnone, pnMessage]
  have hproperties : SendCallback.setProperties ∉ firstAdded (sendAdditions query) →
      pnMessage.properties = (requestedMessage gru query random).properties := by
    rw [mem_firstAdded, not_or, Option.not_isSome_iff_eq_none]
    rintro ⟨-, hnone⟩
    rw [← propertyTexts_eq_nil_iff hquery.properties] at hnone
    simp [requestedMessage, parsedProperties, hnone, pnMessage]
  simp only [overlay, hdefault .setTtl (by decide), hdefault .setDurable (by decide),
    hdefault .setContentType (by decide), if_true]
  congr 1
  · exact ite_eq_left_iff.mpr hpriority
  · exact ite_eq_left_iff.mpr hproperties

theorem mapM_variantString {list : List (String × Variant)}
    (hlist : ∀ pair ∈ list, ∃ text, pair.2 = .text text) :
    (list.mapM fun pair ↦ (variantString pair.2).map (pair.1, ·)) =
      some (list.map fun pair ↦ (pair.1, (variantString pair.2).getD "")) := by
  induction list with
  | nil => rfl
  | cons pair list ih =>
    obtain ⟨text, htext⟩ := hlist pair List.mem_cons_self
    rw [List.mapM_cons, ih fun other hother ↦ hlist other (List.mem_cons_of_mem _ hother),
      List.map_cons, htext]
    rfl

include hquery in
/-- A handler that runs gets a payload of the type that it reads. -/
theorem SendCallback.run_eq_effect {handlers : Handlers}
    (h : SendInstalled gru query handlers) {callback : SendCallback}
    (hmem : callback ∈ firstAdded (sendAdditions query)) (message : PnMessage) :
    callback.run gru handlers.properties random (lastPayload callback (sendAdditions query))
        message = some (callback.effect gru query random message) := by
  rw [mem_firstAdded] at hmem
  rw [lastPayload_sendAdditions]
  cases callback with
  | setTtl =>
    simp only [SendCallback.key, SendCallback.run, SendCallback.effect, requestedMessage]
    cases OrderedMap.lastValue "ttl" query <;> rfl
  | setDurable =>
    simp only [SendCallback.key, SendCallback.run, SendCallback.effect, requestedMessage]
    cases OrderedMap.lastValue "durable" query <;> rfl
  | setContentType =>
    simp only [SendCallback.key, SendCallback.run, SendCallback.effect, requestedMessage]
    cases hlast : OrderedMap.lastValue "content-type" query with
    | none => rfl
    | some value =>
      obtain ⟨text, rfl⟩ := hquery.contentType value hlast
      rfl
  | setPriority =>
    have hsome := hmem.resolve_left (by decide)
    simp only [SendCallback.key] at hsome
    obtain ⟨value, hvalue⟩ := Option.isSome_iff_exists.mp hsome
    simp only [SendCallback.key, SendCallback.run, SendCallback.effect, requestedMessage, hvalue]
    cases value <;> rfl
  | setProperties =>
    have hsome := hmem.resolve_left (by decide)
    obtain ⟨value, hvalue⟩ := Option.isSome_iff_exists.mp hsome
    have htexts : propertyTexts query ≠ [] := by
      rw [Ne, propertyTexts_eq_nil_iff hquery.properties, hvalue]
      exact Option.some_ne_none value
    have hlist : handlers.properties = some (parsedProperties gru query) := by
      rw [h.properties, if_neg htexts]
    rw [hvalue, Option.map_some, SendCallback.payload, SendCallback.run, hlist]
    simp only [protonSetProperties, Option.bind_eq_bind, Option.bind_some,
      mapM_variantString hquery.property]
    rfl

/-- Handlers that succeed one after the other. -/
theorem foldl_bind_eq {Callback State : Type} {run : Callback → State → Option State}
    {effect : State → Callback → State} {callbacks : List Callback}
    (h : ∀ callback ∈ callbacks, ∀ state, run callback state = some (effect state callback))
    (state : State) :
    callbacks.foldl (fun state callback ↦ state.bind (run callback)) (some state) =
      some (callbacks.foldl effect state) := by
  induction callbacks generalizing state with
  | nil => rfl
  | cons callback callbacks ih =>
    rw [List.foldl_cons, List.foldl_cons, Option.bind_some, h callback List.mem_cons_self]
    exact ih (fun other hother ↦ h other (List.mem_cons_of_mem _ hother)) _

include hquery in
/-- The message of a send. -/
theorem vmslhRun_beforeSend {handlers : Handlers} (h : SendInstalled gru query handlers) :
    vmslhRun (fun (callback : SendCallback) payload message ↦ message.bind
        (callback.run gru handlers.properties random payload))
      (some handlers.beforeSend) (some pnMessage) =
        some (some (requestedMessage gru query random)) := by
  rw [h.beforeSend, vmslhRun_vmslhAdds, Option.some.injEq,
    foldl_bind_eq fun callback hmem message ↦
      SendCallback.run_eq_effect random hquery h hmem message,
    foldl_effect, overlay_firstAdded random hquery]

end Message

/-! ## The settlement -/

section Settlement

variable {gru : GruVariants} {query : List (String × Variant)} {handlers : Handlers}
  {direction : MsgDirection}

theorem connectAdditions_concat (direction : MsgDirection) (query : List (String × Variant))
    (pair : String × Variant) :
    connectAdditions direction (query ++ [pair]) =
      connectAdditions direction query ++ (connectAddition direction pair).toList := by
  rw [connectAdditions, connectAdditions, List.filterMap_append, List.append_assoc]
  congr 2

theorem firstAdded_connectAdditions (direction : MsgDirection) (query : List (String × Variant)) :
    firstAdded (connectAdditions direction query) = [Handlers.qosCallback direction] := by
  induction query using List.reverseRecOn with
  | nil => cases direction <;> decide
  | append_singleton query pair ih =>
    rw [firstAdded] at ih ⊢
    rw [connectAdditions_concat, connectAddition]
    split
    · rw [Option.toList_some, OrderedMap.firstKeys_concat, ih, if_pos (List.mem_singleton_self _)]
    · rw [Option.toList_none, List.append_nil, ih]

theorem lastPayload_connectAdditions (direction : MsgDirection)
    (query : List (String × Variant)) :
    lastPayload (Handlers.qosCallback direction) (connectAdditions direction query) =
      (OrderedMap.lastValue "qos-mode" query).map .value := by
  have hkey (value : Variant) : connectAddition direction ("qos-mode", value) =
      some (Handlers.qosCallback direction, some (.value value)) := rfl
  have hother : ∀ pair : String × Variant, pair.1 ≠ "qos-mode" →
      ∀ addition ∈ connectAddition direction pair,
        addition.1 ≠ Handlers.qosCallback direction := by
    intro pair hpair addition haddition
    rw [connectAddition, if_neg hpair] at haddition
    cases haddition
  rw [lastPayload, connectAdditions, OrderedMap.lastValue_append_filterMap hkey hother]
  cases OrderedMap.lastValue "qos-mode" query with
  | none => simp [OrderedMap.lastValue]
  | some value => rfl

/-- Before a connect only the handler of the settlement runs, with the last mode. -/
theorem protonStart_eq (h : Installed gru direction query handlers) :
    protonStart (.new handlers) = some ((Handlers.qosCallback direction).run
      ((OrderedMap.lastValue "qos-mode" query).map .value) (.new handlers)) := by
  rw [protonStart]
  change vmslhRun ConnectCallback.run (some handlers.beforeConnect) _ = _
  rw [h.beforeConnect, vmslhRun_vmslhAdds, firstAdded_connectAdditions, List.foldl_cons,
    List.foldl_nil, lastPayload_connectAdditions]

/-- The test of the handlers on the last mode. -/
theorem atMostOnce_iff :
    (((OrderedMap.lastValue "qos-mode" query).map Payload.value = none ∨
      gruVariantEqualsStr ((OrderedMap.lastValue "qos-mode" query).map .value) "at-most-once") ↔
        AtMostOnce query) := by
  rw [AtMostOnce, gruVariantEqualsStr]
  cases OrderedMap.lastValue "qos-mode" query <;> simp

/-- A sender after some sends. -/
structure Sending (gru : GruVariants) (query : List (String × Variant))
    (outcomes : List SendOutcome) (session : Session) : Prop
    extends SendInstalled gru query session.handlers where
  afterSend : session.handlers.afterSend =
    if AtMostOnce query then [] else [some ⟨some .commit, none⟩]
  sndSettleMode : session.sndSettleMode = if AtMostOnce query then .settled else .unsettled
  sent : session.sent =
    outcomes.map fun outcome ↦ (requestedMessage gru query outcome.random, outcome.ok)
  commits : session.commits = if AtMostOnce query then 0 else outcomes.countP SendOutcome.ok

theorem protonStart_sending (h : Installed gru .sender query handlers) :
    ∃ session, protonStart (.new handlers) = some session ∧ Sending gru query [] session := by
  refine ⟨_, protonStart_eq h, ?_⟩
  simp only [Handlers.qosCallback, if_true, ConnectCallback.run, protonSetQosModeSend,
    atMostOnce_iff]
  by_cases hmode : AtMostOnce query
  · rw [if_pos hmode]
    refine ⟨h.toSendInstalled, ?_, ?_, rfl, ?_⟩
    · rw [if_pos hmode]
      exact h.afterSend
    · rw [if_pos hmode]
    · rw [if_pos hmode]
      rfl
  · rw [if_neg hmode]
    refine ⟨⟨h.beforeSend, h.properties⟩, ?_, ?_, rfl, ?_⟩
    · simp [hmode, Session.new, h.afterSend, vmslhAdd, vmslhByAddr]
    · rw [if_neg hmode]
    · rw [if_neg hmode]
      rfl

theorem Sending.protonSend {outcomes : List SendOutcome} {session : Session}
    (h : Sending gru query outcomes session) (hquery : WellTyped gru query)
    (outcome : SendOutcome) :
    ∃ after, protonSend gru session outcome = some after ∧
      Sending gru query (outcomes ++ [outcome]) after := by
  have hmessage := vmslhRun_beforeSend outcome.random hquery h.toSendInstalled
  unfold ProtonParameters.protonSend
  simp only [hmessage, Option.bind_eq_bind, Option.bind_some]
  have hsent : session.sent ++ [(requestedMessage gru query outcome.random, outcome.ok)] =
      (outcomes ++ [outcome]).map
        fun outcome ↦ (requestedMessage gru query outcome.random, outcome.ok) := by
    rw [h.sent, List.map_append, List.map_singleton]
  cases hok : outcome.ok with
  | false =>
    refine ⟨_, rfl, h.toSendInstalled, h.afterSend, h.sndSettleMode, ?_, ?_⟩
    · rw [← hsent, hok]
    · rw [List.countP_append, List.countP_singleton, hok, if_neg Bool.false_ne_true, add_zero]
      exact h.commits
  | true =>
    rw [if_pos rfl, h.afterSend]
    by_cases hmode : AtMostOnce query
    · rw [if_pos hmode]
      refine ⟨_, rfl, h.toSendInstalled, h.afterSend, h.sndSettleMode, ?_, ?_⟩
      · rw [← hsent, hok]
      · rw [if_pos hmode]
        exact h.commits.trans (if_pos hmode)
    · rw [if_neg hmode]
      refine ⟨_, rfl, h.toSendInstalled, h.afterSend, h.sndSettleMode, ?_, ?_⟩
      · rw [← hsent, hok]
        rfl
      · have hcommits : session.commits = outcomes.countP SendOutcome.ok :=
          h.commits.trans (if_neg hmode)
        rw [if_neg hmode, List.countP_append, List.countP_singleton, hok, if_pos rfl, ← hcommits]
        rfl

theorem Sending.foldlM {outcomes : List SendOutcome} {session : Session}
    (h : Sending gru query outcomes session) (hquery : WellTyped gru query)
    (more : List SendOutcome) :
    ∃ after, more.foldlM (ProtonParameters.protonSend gru) session = some after ∧
      Sending gru query (outcomes ++ more) after := by
  induction more generalizing outcomes session with
  | nil => exact ⟨session, rfl, (List.append_nil outcomes).symm ▸ h⟩
  | cons outcome more ih =>
    obtain ⟨middle, hsend, hmiddle⟩ := h.protonSend hquery outcome
    obtain ⟨after, hrest, hafter⟩ := ih hmiddle
    refine ⟨after, ?_, ?_⟩
    · rw [List.foldlM_cons, hsend]
      exact hrest
    · rwa [List.append_assoc, List.singleton_append] at hafter

end Settlement

/-- Properties are separated by commas, and their keys end at the equals sign. -/
def textVariants : GruVariants where
  split text := (text.toList.splitOn ',').map String.ofList
  keypairParse text :=
    (String.ofList (text.toList.takeWhile (· ≠ '=')),
      .text (String.ofList (text.toList.dropWhile (· ≠ '=')).tail))
  inumber _ := 0
  flag _ := false

/-- Two times to live, and properties in two places. -/
def senderQuery : List (String × Variant) :=
  [("application-properties", .text "a=1,b=2"), ("ttl", .integer 7),
    ("qos-mode", .text "exactly-once"), ("ttl", .integer 9),
    ("application-properties", .text "c=3")]

/-- A receiver, with the number of messages that it has taken and of those that are accepted and
settled. -/
structure Receiving where
  proton : ProtonState
  taken : ℕ
  settled : ℕ
  deriving DecidableEq, Repr

/-- The tracker is the last message that was taken, and the calls are cumulative. -/
def FinalizeCallback.run : FinalizeCallback → Option Payload → Receiving → Receiving
  | .accept => fun _ receiving ↦ { receiving with settled := receiving.taken }

/-- The call has taken a message and run the handlers at its end, which is when none is left since
their last run. -/
def finalizes (state : ProtonState) (recv : ProtonRecv) : Bool :=
  (state.taken? recv).isSome && (protonReceive state recv).1.unsettled = 0

/-- A call of `proton_receive` with its handlers. -/
def receiveNext (finalizeReceive : HandlerList FinalizeCallback Payload) (receiving : Receiving)
    (recv : ProtonRecv) : Option Receiving :=
  let after : Receiving :=
    { receiving with
      proton := (protonReceive receiving.proton recv).1
      taken := receiving.taken + (receiving.proton.taken? recv).toList.length }
  if finalizes receiving.proton recv then
    vmslhRun FinalizeCallback.run (some finalizeReceive) after
  else some after

def receiverMachine (finalizeReceive : HandlerList FinalizeCallback Payload)
    (prefetched : List AmqpMessage) : Machine Receiving ProtonRecv where
  initial := ⟨(protonMachine prefetched).initial, 0, 0⟩
  next := receiveNext finalizeReceive

theorem takeMessage_unsettled (state : ProtonState) (message : AmqpMessage)
    (rest : List AmqpMessage) :
    (state.takeMessage message rest).1.unsettled = 0 ∨
      (state.takeMessage message rest).1.unsettled = state.unsettled + 1 := by
  unfold ProtonState.takeMessage
  dsimp only
  split_ifs
  · exact .inl rfl
  · exact .inl rfl
  · exact .inr rfl
  · exact .inr rfl

/-- A call takes no message, or settles at its end, or leaves one more unsettled. -/
theorem protonReceive_unsettled (state : ProtonState) (recv : ProtonRecv) :
    match state.taken? recv with
    | none => (protonReceive state recv).1.unsettled = state.unsettled
    | some _ => (protonReceive state recv).1.unsettled = 0 ∨
        (protonReceive state recv).1.unsettled = state.unsettled + 1 := by
  have hrefill := ProtonState.refill_unsettled state recv
  simp only [ProtonState.taken?, protonReceive]
  by_cases hgoes : (state.refill recv).2 = true
  · simp only [hgoes, if_true]
    cases hincoming : (state.refill recv).1.incoming with
    | nil => exact hrefill
    | cons message rest =>
      rw [← hrefill]
      exact takeMessage_unsettled _ message rest
  · simp only [hgoes, Bool.false_eq_true, if_false]
    exact hrefill

/-- What has been taken is settled, or waits for the next run of the handlers; without a handler
nothing is settled. -/
def Settles (accepting : Bool) (receiving : Receiving) : Prop :=
  if accepting then receiving.settled + receiving.proton.unsettled = receiving.taken
  else receiving.settled = 0

/-- The handler that accepts, or none. -/
def acceptHandlers (accepting : Bool) : HandlerList FinalizeCallback Payload :=
  if accepting then [some ⟨some .accept, none⟩] else []

theorem receiveNext_settles {accepting : Bool} {receiving after : Receiving} {recv : ProtonRecv}
    (h : Settles accepting receiving)
    (hnext : receiveNext (acceptHandlers accepting) receiving recv = some after) :
    Settles accepting after := by
  have hunsettled := protonReceive_unsettled receiving.proton recv
  unfold receiveNext finalizes at hnext
  cases accepting with
  | false =>
    -- no handler runs, whether they are called or not
    rw [Settles, if_neg Bool.false_ne_true] at h ⊢
    dsimp only at hnext
    split at hnext
    · obtain rfl := Option.some.inj hnext
      exact h
    · obtain rfl := Option.some.inj hnext
      exact h
  | true =>
    rw [Settles, if_pos rfl] at h ⊢
    cases htaken : receiving.proton.taken? recv with
    | none =>
      simp only [htaken, Option.isSome_none, Bool.false_and, Bool.false_eq_true, if_false] at hnext
      rw [htaken] at hunsettled
      obtain rfl := Option.some.inj hnext
      simp only [Option.toList_none, List.length_nil] at hunsettled ⊢
      omega
    | some message =>
      simp only [htaken, Option.isSome_some, Bool.true_and, decide_eq_true_eq] at hnext
      rw [htaken] at hunsettled
      split at hnext
      next hzero =>
        obtain rfl := Option.some.inj hnext
        simp only [FinalizeCallback.run]
        omega
      next hzero =>
        obtain rfl := Option.some.inj hnext
        have hone := hunsettled.resolve_left hzero
        simp only [Option.toList_some, List.length_singleton]
        omega

theorem protonStart_receiver {gru : GruVariants} {direction : MsgDirection}
    {query : List (String × Variant)} {handlers : Handlers}
    (h : Installed gru direction query handlers) (hdirection : direction ≠ .sender) :
    ∃ session, protonStart (.new handlers) = some session ∧
      session.handlers.finalizeReceive = acceptHandlers (AtMostOnce query) ∧
      session.rcvSettleMode =
        if OrderedMap.lastValue "qos-mode" query = some (.text "exactly-once") then .second
        else .first := by
  refine ⟨_, protonStart_eq h, ?_, ?_⟩
  · have hrun : ∀ payload session,
        (protonSetQosModeRecv payload session).handlers.finalizeReceive =
          if payload = none ∨ gruVariantEqualsStr payload "at-most-once" then
            (vmslhAdd session.handlers.finalizeReceive .accept none true true).1
          else session.handlers.finalizeReceive := by
      intro payload session
      unfold protonSetQosModeRecv
      split_ifs <;> rfl
    simp only [Handlers.qosCallback, if_neg hdirection, ConnectCallback.run, hrun, atMostOnce_iff]
    by_cases hmode : AtMostOnce query
    · simp [hmode, acceptHandlers, Session.new, h.finalizeReceive, vmslhAdd, vmslhByAddr]
    · simp [hmode, acceptHandlers, Session.new, h.finalizeReceive]
  · simp only [Handlers.qosCallback, if_neg hdirection, ConnectCallback.run]
    unfold protonSetQosModeRecv
    cases hlast : OrderedMap.lastValue "qos-mode" query with
    | none => simp [gruVariantEqualsStr, Session.new]
    | some value =>
      simp only [gruVariantEqualsStr, Option.map_some, Option.some.injEq, Payload.value.injEq,
        decide_eq_true_eq]
      split_ifs <;> simp_all [Session.new]

/-- A session of a receiver before its first call. -/
def receiverSession (gru : GruVariants) (direction : MsgDirection)
    (query : Option (List (String × Variant))) : Option Session := do
  let handlers ← Handlers.new.protonInit gru direction query
  protonStart (.new handlers)

/-- **What a receiver settles.**  With the mode at most once, or with none, all messages that were
taken are settled but those since the last group; with any other mode nothing is ever accepted or
settled, although the mode is passed on to the messenger. -/
theorem receiverSession_settled (gru : GruVariants) (direction : MsgDirection)
    (hdirection : direction ≠ .sender) (query : Option (List (String × Variant)))
    (hquery : ∀ value, ("application-properties", value) ∈ query.getD [] →
      ∃ text, value = .text text) (prefetched : List AmqpMessage) :
    ∃ session, receiverSession gru direction query = some session ∧
      session.rcvSettleMode =
        (if OrderedMap.lastValue "qos-mode" (query.getD []) = some (.text "exactly-once") then
          .second else .first) ∧
      ∀ receiving,
        (receiverMachine session.handlers.finalizeReceive prefetched).Reachable receiving →
          if AtMostOnce (query.getD []) then
            receiving.settled + receiving.proton.unsettled = receiving.taken
          else receiving.settled = 0 := by
  obtain ⟨handlers, hinit, hinstalled⟩ := protonInit_installed gru direction query hquery
  obtain ⟨session, hstart, hfinalize, hmode⟩ := protonStart_receiver hinstalled hdirection
  refine ⟨session, ?_, hmode, ?_⟩
  · rw [receiverSession, hinit]
    exact hstart
  · intro receiving hreachable
    rw [hfinalize] at hreachable
    have hsettles : Settles (decide (AtMostOnce (query.getD []))) receiving := by
      apply hreachable.invariant
      · rw [Settles]
        split <;> rfl
      · intro before recv after hbefore _ hnext
        exact receiveNext_settles hbefore hnext
    simpa [Settles] using hsettles

/-- A message that a receiver at least once has taken and will never settle. -/
theorem atLeastOnce_settled :
    ∃ session, receiverSession textVariants .receiver
        (some [("qos-mode", .text "at-least-once")]) = some session ∧
      (receiverMachine session.handlers.finalizeReceive []).run
          (receiverMachine session.handlers.finalizeReceive []).initial [⟨[⟨7⟩], true⟩] =
        some ⟨⟨[], 1, 0, 0, 0⟩, 1, 0⟩ ∧
      ∀ receiving, (receiverMachine session.handlers.finalizeReceive []).Reachable receiving →
        receiving.settled = 0 := by
  obtain ⟨session, hsession, -, hsettled⟩ := receiverSession_settled textVariants .receiver
    (by decide) (some [("qos-mode", .text "at-least-once")])
    (by simp) []
  have hfinalize : session.handlers.finalizeReceive = [] := by
    have hlist : (receiverSession textVariants .receiver
        (some [("qos-mode", .text "at-least-once")])).map
          (fun session ↦ session.handlers.finalizeReceive) = some [] := by decide +kernel
    rw [hsession, Option.map_some, Option.some.injEq] at hlist
    exact hlist
  refine ⟨session, hsession, ?_, ?_⟩
  · rw [hfinalize]
    decide
  · intro receiving hreachable
    have hmode : ¬ AtMostOnce [("qos-mode", .text "at-least-once")] := by decide
    have h := hsettled receiving hreachable
    rwa [Option.getD_some, if_neg hmode] at h

end MsgPerf.Api.ProtonParameters
