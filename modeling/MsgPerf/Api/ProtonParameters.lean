import MsgPerf.Api.PahoParameters
import MsgPerf.Library.Decimal

/-!
# Parameters of an AMQP session

`proton_init` installs handlers for the parameters of a URL, first with null payloads and then with
the values of the query.  Those before a connect decide how deliveries are settled and may add a
handler behind each send, or one that accepts what was received; those before a send set the members
of every message.

The payloads are untyped pointers: to a text, to a value of the query, or to the list of application
properties, which is a global that all parameters of that name append to.  A handler that reads its
payload as something else has no result here, nor has one that reads a text from a value that holds
none.  What the handlers are after `proton_init` is described by the additions that the query makes.
-/

namespace MsgPerf.Api.ProtonParameters

open MsgPerf.Library MsgPerf.Common
open MsgPerf.Maestro (Variant)
open PahoParameters (MsgDirection)

/-! ## Handlers -/

/-- What a payload points to. -/
inductive Payload where
  | text (string : Option String)
  | value (variant : Variant)
  | properties
  deriving DecidableEq, Repr

inductive ConnectCallback where
  | setQosModeSend
  | setQosModeRecv
  deriving DecidableEq, Repr

inductive SendCallback where
  | setTtl
  | setDurable
  | setContentType
  | setProperties
  | setPriority
  deriving DecidableEq, Repr

inductive CommitCallback where
  | commit
  deriving DecidableEq, Repr

inductive FinalizeCallback where
  | accept
  deriving DecidableEq, Repr

/-- The functions of the GRU library; `inumber` and `flag` are what the union of a value of another
type holds in these members. -/
structure GruVariants where
  split : String → List String
  keypairParse : String → String × Variant
  inumber : Variant → ℤ
  flag : Variant → Bool

namespace GruVariants

variable (gru : GruVariants)

/-- The member `inumber` of a variant. -/
def number : Variant → ℤ
  | .integer number => number
  | variant => gru.inumber variant

/-- The member `flag` of a variant. -/
def boolean : Variant → Bool
  | .boolean flag => flag
  | variant => gru.flag variant

end GruVariants

/-- The member `string` of a variant, if it is a text. -/
def variantString : Variant → Option String
  | .text text => some text
  | .boolean _ | .integer _ => none

/-- The lists of `vmslh_handlers_t` that the AMQP parameters use, and the global list. -/
structure Handlers where
  beforeConnect : HandlerList ConnectCallback Payload
  beforeSend : HandlerList SendCallback Payload
  afterSend : HandlerList CommitCallback Payload
  finalizeReceive : HandlerList FinalizeCallback Payload
  properties : Option (List (String × Variant))

/-- `vmslh_new`. -/
def Handlers.new : Handlers := ⟨[], [], [], [], none⟩

namespace Handlers

def addConnect (handlers : Handlers) (callback : ConnectCallback) (payload : Option Payload) :
    Handlers :=
  { handlers with beforeConnect := (vmslhAdd handlers.beforeConnect callback payload true true).1 }

def addSend (handlers : Handlers) (callback : SendCallback) (payload : Option Payload) :
    Handlers :=
  { handlers with beforeSend := (vmslhAdd handlers.beforeSend callback payload true true).1 }

/-- The handler of the settlement for a direction. -/
def qosCallback (direction : MsgDirection) : ConnectCallback :=
  if direction = .sender then .setQosModeSend else .setQosModeRecv

def protonSetDefaultParameters (direction : MsgDirection) (handlers : Handlers) : Handlers :=
  (((handlers.addConnect (qosCallback direction) none).addSend .setTtl none).addSend
    .setDurable none).addSend .setContentType none

variable (gru : GruVariants)

/-- The branch of the application properties. -/
def addProperties (handlers : Handlers) (value : Variant) : Option Handlers :=
  (variantString value).map fun text ↦
    let parsed := (gru.split text).map gru.keypairParse
    { handlers with properties := some (handlers.properties.getD [] ++ parsed) }.addSend
      .setProperties (some .properties)

def protonSetParameterByName (direction : MsgDirection) (handlers : Handlers)
    (pair : String × Variant) : Option Handlers := do
  let handlers :=
    if pair.1 = "content-type" then
      handlers.addSend .setContentType (some (.text (variantString pair.2)))
    else handlers
  let handlers ←
    if pair.1 = "application-properties" then handlers.addProperties gru pair.2 else some handlers
  let handlers :=
    if pair.1 = "ttl" then handlers.addSend .setTtl (some (.value pair.2)) else handlers
  let handlers :=
    if pair.1 = "durable" then handlers.addSend .setDurable (some (.value pair.2)) else handlers
  let handlers :=
    if pair.1 = "priority" then handlers.addSend .setPriority (some (.value pair.2)) else handlers
  some (if pair.1 = "qos-mode" then
    handlers.addConnect (qosCallback direction) (some (.value pair.2)) else handlers)

/-- A URL may have no query. -/
def protonSetUserParameters (direction : MsgDirection) (query : Option (List (String × Variant)))
    (handlers : Handlers) : Option Handlers :=
  match query with
  | none => some handlers
  | some pairs => pairs.foldlM (protonSetParameterByName gru direction) handlers

/-- The part of `proton_init` that installs handlers. -/
def protonInit (direction : MsgDirection) (query : Option (List (String × Variant)))
    (handlers : Handlers) : Option Handlers :=
  (handlers.protonSetDefaultParameters direction).protonSetUserParameters gru direction query

end Handlers

/-! ## Messages -/

/-- The members of `pn_message_t` that the handlers set. -/
structure PnMessage where
  ttl : ℕ
  durable : Bool
  contentType : Option String
  priority : ℕ
  properties : List (String × String)
  deriving DecidableEq, Repr

/-- The message of `pn_message`. -/
def pnMessage : PnMessage := ⟨0, false, none, 4, []⟩

section

variable (gru : GruVariants)

def protonSetTtl (payload : Option Payload) (message : PnMessage) : Option PnMessage :=
  match payload with
  | none => some { message with ttl := 5000 }
  | some (.value variant) => some { message with ttl := toUnsigned 32 (gru.number variant) }
  | some _ => none

def protonSetDurable (payload : Option Payload) (message : PnMessage) : Option PnMessage :=
  match payload with
  | none => some { message with durable := false }
  | some (.value variant) => some { message with durable := gru.boolean variant }
  | some _ => none

def protonSetContentType (payload : Option Payload) (message : PnMessage) : Option PnMessage :=
  match payload with
  | none => some { message with contentType := some "text/plain" }
  | some (.text (some text)) => some { message with contentType := some text }
  | some _ => none

/-- Other values than integers give a random priority. -/
def protonSetPriority (random : ℕ) (payload : Option Payload) (message : PnMessage) :
    Option PnMessage :=
  match payload with
  | some (.value (.integer number)) => some { message with priority := toUnsigned 8 number }
  | some (.value _) => some { message with priority := random % 9 }
  | _ => none

/-- A map with the texts of the properties. -/
def protonSetProperties (properties : Option (List (String × Variant))) (payload : Option Payload)
    (message : PnMessage) : Option PnMessage :=
  match payload with
  | some .properties => do
      let list ← properties
      let texts ← list.mapM fun (key, value) ↦ (variantString value).map (key, ·)
      some { message with properties := texts }
  | _ => none

def SendCallback.run (properties : Option (List (String × Variant))) (random : ℕ) :
    SendCallback → Option Payload → PnMessage → Option PnMessage
  | .setTtl => protonSetTtl gru
  | .setDurable => protonSetDurable gru
  | .setContentType => protonSetContentType
  | .setProperties => protonSetProperties properties
  | .setPriority => protonSetPriority random

end

/-! ## The messenger -/

/-- `pn_snd_settle_mode_t`. -/
inductive SndSettleMode where
  | unsettled | settled | mixed
  deriving DecidableEq, Repr

/-- `pn_rcv_settle_mode_t`. -/
inductive RcvSettleMode where
  | first | second
  deriving DecidableEq, Repr

/-- A context: the messages that were put, each with the end of its send, and the deliveries that
were settled one by one. -/
structure Session where
  handlers : Handlers
  sndSettleMode : SndSettleMode
  rcvSettleMode : RcvSettleMode
  outgoingWindow : ℕ
  sent : List (PnMessage × Bool)
  commits : ℕ

/-- The messenger of `pn_messenger`. -/
def Session.new (handlers : Handlers) : Session := ⟨handlers, .mixed, .first, 0, [], 0⟩

/-- `gru_variant_equals_str`, which is also asked about a null pointer. -/
def gruVariantEqualsStr (payload : Option Payload) (text : String) : Bool :=
  payload = some (.value (.text text))

def protonSetQosModeSend (payload : Option Payload) (session : Session) : Session :=
  if payload = none ∨ gruVariantEqualsStr payload "at-most-once" then
    { session with sndSettleMode := .settled }
  else
    { session with
      outgoingWindow := 1
      sndSettleMode := .unsettled
      handlers := { session.handlers with
        afterSend := (vmslhAdd session.handlers.afterSend .commit none true true).1 } }

def protonSetQosModeRecv (payload : Option Payload) (session : Session) : Session :=
  let session :=
    if payload = none ∨ gruVariantEqualsStr payload "at-most-once" then
      { session with
        handlers := { session.handlers with
          finalizeReceive :=
            (vmslhAdd session.handlers.finalizeReceive .accept none true true).1 } }
    else session
  if gruVariantEqualsStr payload "at-least-once" then { session with rcvSettleMode := .first }
  else if gruVariantEqualsStr payload "exactly-once" then { session with rcvSettleMode := .second }
  else session

def ConnectCallback.run : ConnectCallback → Option Payload → Session → Session
  | .setQosModeSend => protonSetQosModeSend
  | .setQosModeRecv => protonSetQosModeRecv

def CommitCallback.run : CommitCallback → Option Payload → Session → Session
  | .commit => fun _ session ↦ { session with commits := session.commits + 1 }

/-- The handlers of `proton_start`; the handlers behind the connect are none. -/
def protonStart (session : Session) : Option Session :=
  vmslhRun ConnectCallback.run (some session.handlers.beforeConnect) session

/-- What the environment decides of a send: the random number, and whether the messenger fails. -/
structure SendOutcome where
  random : ℕ
  ok : Bool
  deriving DecidableEq, Repr

/-- The handlers behind a send run when the messenger has not failed. -/
def protonSend (gru : GruVariants) (session : Session) (outcome : SendOutcome) :
    Option Session := do
  let message ← vmslhRun
    (fun callback payload message ↦ message.bind
      (callback.run gru session.handlers.properties outcome.random payload))
    (some session.handlers.beforeSend) (some pnMessage)
  let message ← message
  let session := { session with sent := session.sent ++ [(message, outcome.ok)] }
  if outcome.ok then vmslhRun CommitCallback.run (some session.handlers.afterSend) session
  else some session

/-- A session of a sender. -/
def senderSession (gru : GruVariants) (query : Option (List (String × Variant)))
    (outcomes : List SendOutcome) : Option Session := do
  let handlers ← Handlers.new.protonInit gru .sender query
  let session ← protonStart (.new handlers)
  outcomes.foldlM (protonSend gru) session

/-! ## What the parameters ask for -/

section Meaning

variable (gru : GruVariants) (query : List (String × Variant))

/-- The texts of the application properties, in the order of the query. -/
def propertyTexts : List String :=
  query.filterMap fun pair ↦
    if pair.1 = "application-properties" then variantString pair.2 else none

/-- The properties of all these texts. -/
def parsedProperties : List (String × Variant) :=
  (propertyTexts query).flatMap fun text ↦ (gru.split text).map gru.keypairParse

/-- The values that are read as texts are texts. -/
structure WellTyped : Prop where
  contentType : ∀ value, OrderedMap.lastValue "content-type" query = some value →
    ∃ text, value = .text text
  properties : ∀ value, ("application-properties", value) ∈ query → ∃ text, value = .text text
  property : ∀ pair ∈ parsedProperties gru query, ∃ text, pair.2 = .text text

/-- The message that the last values ask for; the properties are those of all parameters. -/
def requestedMessage (random : ℕ) : PnMessage where
  ttl := (OrderedMap.lastValue "ttl" query).elim 5000 fun value ↦ toUnsigned 32 (gru.number value)
  durable := (OrderedMap.lastValue "durable" query).elim false gru.boolean
  contentType :=
    some (((OrderedMap.lastValue "content-type" query).bind variantString).getD "text/plain")
  priority := (OrderedMap.lastValue "priority" query).elim 4 fun
    | .integer number => toUnsigned 8 number
    | _ => random % 9
  properties := (parsedProperties gru query).map fun pair ↦
    (pair.1, (variantString pair.2).getD "")

/-- The last value of `qos-mode` is at most once, or there is none. -/
def AtMostOnce : Prop :=
  OrderedMap.lastValue "qos-mode" query = none ∨
    OrderedMap.lastValue "qos-mode" query = some (.text "at-most-once")

instance : Decidable (AtMostOnce query) := instDecidableOr

end Meaning

/-! ## The lists as additions -/

/-- The parameter of a handler before a send. -/
def SendCallback.key : SendCallback → String
  | .setTtl => "ttl"
  | .setDurable => "durable"
  | .setContentType => "content-type"
  | .setProperties => "application-properties"
  | .setPriority => "priority"

/-- The payload that the handler gets for a value. -/
def SendCallback.payload (value : Variant) : SendCallback → Payload
  | .setContentType => .text (variantString value)
  | .setProperties => .properties
  | .setTtl | .setDurable | .setPriority => .value value

/-- The handler before a send that a parameter has. -/
def sendParameter (key : String) : Option SendCallback :=
  [.setContentType, .setProperties, .setTtl, .setDurable, .setPriority].find?
    fun callback : SendCallback ↦ callback.key = key

/-- The addition before a send that a parameter makes. -/
def sendAddition (pair : String × Variant) : Option (SendCallback × Option Payload) :=
  (sendParameter pair.1).map fun callback ↦ (callback, some (callback.payload pair.2))

/-- The addition before a connect that a parameter makes. -/
def connectAddition (direction : MsgDirection) (pair : String × Variant) :
    Option (ConnectCallback × Option Payload) :=
  if pair.1 = "qos-mode" then some (Handlers.qosCallback direction, some (.value pair.2)) else none

def sendDefaults : List (SendCallback × Option Payload) :=
  [(.setTtl, none), (.setDurable, none), (.setContentType, none)]

def sendAdditions (query : List (String × Variant)) : List (SendCallback × Option Payload) :=
  sendDefaults ++ query.filterMap sendAddition

def connectAdditions (direction : MsgDirection) (query : List (String × Variant)) :
    List (ConnectCallback × Option Payload) :=
  [(Handlers.qosCallback direction, none)] ++ query.filterMap (connectAddition direction)

theorem sendParameter_eq_some_iff {key : String} {callback : SendCallback} :
    sendParameter key = some callback ↔ key = callback.key := by
  constructor
  · intro h
    have hfound := List.find?_some h
    simpa [eq_comm] using hfound
  · rintro rfl
    cases callback <;> decide

theorem sendAddition_of_key {pair : String × Variant} {callback : SendCallback}
    (hkey : pair.1 = callback.key) :
    sendAddition pair = some (callback, some (callback.payload pair.2)) := by
  rw [sendAddition, sendParameter_eq_some_iff.mpr hkey, Option.map_some]

theorem sendAddition_eq_none {pair : String × Variant}
    (hkey : ∀ callback : SendCallback, pair.1 ≠ callback.key) : sendAddition pair = none := by
  rw [sendAddition, Option.map_eq_none_iff, Option.eq_none_iff_forall_ne_some]
  intro callback hcallback
  exact hkey callback (sendParameter_eq_some_iff.mp hcallback)

/-- What the sends rely on. -/
structure SendInstalled (gru : GruVariants) (query : List (String × Variant))
    (handlers : Handlers) : Prop where
  beforeSend : handlers.beforeSend = vmslhAdds [] (sendAdditions query)
  properties : handlers.properties =
    if propertyTexts query = [] then none else some (parsedProperties gru query)

/-- What `proton_init` has installed for the pairs of a query. -/
structure Installed (gru : GruVariants) (direction : MsgDirection)
    (query : List (String × Variant)) (handlers : Handlers) : Prop
    extends SendInstalled gru query handlers where
  beforeConnect : handlers.beforeConnect = vmslhAdds [] (connectAdditions direction query)
  afterSend : handlers.afterSend = []
  finalizeReceive : handlers.finalizeReceive = []

theorem vmslhAdd_vmslhAdds {Callback : Type} [DecidableEq Callback]
    (additions : List (Callback × Option Payload)) (callback : Callback)
    (payload : Option Payload) :
    (vmslhAdd (vmslhAdds [] additions) callback payload true true).1 =
      vmslhAdds [] (additions ++ [(callback, payload)]) := by
  rw [vmslhAdds, vmslhAdds, List.foldl_append]
  rfl

theorem propertyTexts_concat_of_ne (query : List (String × Variant)) {pair : String × Variant}
    (hpair : pair.1 ≠ "application-properties") :
    propertyTexts (query ++ [pair]) = propertyTexts query := by
  rw [propertyTexts, List.filterMap_append, List.filterMap_cons, if_neg hpair,
    List.filterMap_nil, List.append_nil]
  rfl

theorem propertyTexts_concat (query : List (String × Variant)) {pair : String × Variant}
    (hpair : pair.1 = "application-properties") {text : String} (htext : pair.2 = .text text) :
    propertyTexts (query ++ [pair]) = propertyTexts query ++ [text] := by
  rw [propertyTexts, List.filterMap_append, List.filterMap_cons, if_pos hpair, htext,
    List.filterMap_nil]
  rfl

section Installation

variable {gru : GruVariants} {direction : MsgDirection} {query : List (String × Variant)}
  {handlers : Handlers}

theorem SendCallback.key_ne_qosMode (callback : SendCallback) : callback.key ≠ "qos-mode" := by
  cases callback <;> decide

/-- A parameter with a handler before a send that is no application property. -/
theorem Installed.addSend (h : Installed gru direction query handlers) {pair : String × Variant}
    {callback : SendCallback} (hkey : pair.1 = callback.key)
    (hproperties : pair.1 ≠ "application-properties") :
    Installed gru direction (query ++ [pair])
      (handlers.addSend callback (some (callback.payload pair.2))) where
  beforeConnect := by
    simp [Handlers.addSend, h.beforeConnect, connectAdditions, connectAddition, hkey,
      callback.key_ne_qosMode]
  beforeSend := by
    rw [Handlers.addSend, h.beforeSend, vmslhAdd_vmslhAdds]
    simp [sendAdditions, sendAddition_of_key hkey]
  afterSend := h.afterSend
  finalizeReceive := h.finalizeReceive
  properties := by
    rw [parsedProperties, propertyTexts_concat_of_ne query hproperties]
    exact h.properties

theorem Installed.addConnect (h : Installed gru direction query handlers)
    {pair : String × Variant} (hqosMode : pair.1 = "qos-mode") :
    Installed gru direction (query ++ [pair])
      (handlers.addConnect (Handlers.qosCallback direction) (some (.value pair.2))) where
  beforeConnect := by
    rw [Handlers.addConnect, h.beforeConnect, vmslhAdd_vmslhAdds]
    simp [connectAdditions, connectAddition, hqosMode]
  beforeSend := by
    have hnone : sendAddition pair = none := sendAddition_eq_none fun callback ↦
      hqosMode ▸ callback.key_ne_qosMode.symm
    simp [Handlers.addConnect, h.beforeSend, sendAdditions, hnone]
  afterSend := h.afterSend
  finalizeReceive := h.finalizeReceive
  properties := by
    rw [parsedProperties, propertyTexts_concat_of_ne query (by simp [hqosMode])]
    exact h.properties

theorem Installed.addProperties (h : Installed gru direction query handlers)
    {pair : String × Variant} (hkey : pair.1 = "application-properties") {text : String}
    (htext : pair.2 = .text text) :
    ∃ after, handlers.addProperties gru pair.2 = some after ∧
      Installed gru direction (query ++ [pair]) after := by
  rw [htext]
  refine ⟨_, rfl, ⟨?_, ?_⟩, ?_, h.afterSend, h.finalizeReceive⟩
  · simp only [Handlers.addSend]
    rw [h.beforeSend, vmslhAdd_vmslhAdds]
    have hsend : sendAddition pair = some (.setProperties, some .properties) :=
      sendAddition_of_key hkey
    simp [sendAdditions, hsend]
  · have hbefore : handlers.properties.getD [] = parsedProperties gru query := by
      rw [h.properties]
      split
      next hnone => rw [parsedProperties, hnone, Option.getD_none, List.flatMap_nil]
      · rfl
    simp only [Handlers.addSend, hbefore]
    rw [parsedProperties, parsedProperties, propertyTexts_concat query hkey htext,
      if_neg (List.append_ne_nil_of_right_ne_nil _ (List.cons_ne_nil _ _)), List.flatMap_append,
      List.flatMap_singleton]
  · simp [Handlers.addSend, h.beforeConnect, connectAdditions, connectAddition, hkey]

theorem Installed.protonSetParameterByName (h : Installed gru direction query handlers)
    {pair : String × Variant}
    (htext : pair.1 = "application-properties" → ∃ text, pair.2 = .text text) :
    ∃ after, handlers.protonSetParameterByName gru direction pair = some after ∧
      Installed gru direction (query ++ [pair]) after := by
  unfold Handlers.protonSetParameterByName
  by_cases hcontentType : pair.1 = SendCallback.key .setContentType
  · exact ⟨_, by simp [hcontentType, SendCallback.key, SendCallback.payload],
      h.addSend hcontentType (by simp [hcontentType, SendCallback.key])⟩
  by_cases hproperties : pair.1 = "application-properties"
  · obtain ⟨text, hvalue⟩ := htext hproperties
    obtain ⟨after, hadded, hafter⟩ := h.addProperties hproperties hvalue
    exact ⟨after, by simp [hproperties, hadded], hafter⟩
  by_cases httl : pair.1 = SendCallback.key .setTtl
  · exact ⟨_, by simp [httl, SendCallback.key, SendCallback.payload], h.addSend httl hproperties⟩
  by_cases hdurable : pair.1 = SendCallback.key .setDurable
  · exact ⟨_, by simp [hdurable, SendCallback.key, SendCallback.payload],
      h.addSend hdurable hproperties⟩
  by_cases hpriority : pair.1 = SendCallback.key .setPriority
  · exact ⟨_, by simp [hpriority, SendCallback.key, SendCallback.payload],
      h.addSend hpriority hproperties⟩
  by_cases hqosMode : pair.1 = "qos-mode"
  · exact ⟨_, by simp [hqosMode], h.addConnect hqosMode⟩
  -- a parameter that is not known installs nothing
  have hnone : sendAddition pair = none := by
    apply sendAddition_eq_none
    intro callback
    cases callback <;> assumption
  simp only [SendCallback.key] at hcontentType httl hdurable hpriority
  refine ⟨handlers, ?_, ⟨?_, ?_⟩, ?_, h.afterSend, h.finalizeReceive⟩
  · simp [hcontentType, hproperties, httl, hdurable, hpriority, hqosMode]
  · simp [h.beforeSend, sendAdditions, hnone]
  · rw [parsedProperties, propertyTexts_concat_of_ne query hproperties]
    exact h.properties
  · simp [h.beforeConnect, connectAdditions, connectAddition, hqosMode]

theorem installed_protonSetDefaultParameters :
    Installed gru direction [] (Handlers.new.protonSetDefaultParameters direction) :=
  ⟨⟨rfl, rfl⟩, rfl, rfl, rfl⟩

/-- A query of a URL, pair by pair. -/
theorem foldlM_installed (hquery : ∀ value,
      ("application-properties", value) ∈ query → ∃ text, value = .text text) :
    ∃ handlers, query.foldlM (Handlers.protonSetParameterByName gru direction)
        (Handlers.new.protonSetDefaultParameters direction) = some handlers ∧
      Installed gru direction query handlers := by
  induction query using List.reverseRecOn with
  | nil => exact ⟨_, rfl, installed_protonSetDefaultParameters⟩
  | append_singleton query pair ih =>
    obtain ⟨handlers, hinit, hinstalled⟩ := ih fun value hvalue ↦
      hquery value (List.mem_append_left _ hvalue)
    have htext : pair.1 = "application-properties" → ∃ text, pair.2 = .text text := by
      intro hkey
      apply hquery
      rw [← hkey]
      exact List.mem_append_right _ (List.mem_singleton_self pair)
    obtain ⟨after, hnext, hafter⟩ := hinstalled.protonSetParameterByName htext
    refine ⟨after, ?_, hafter⟩
    rw [List.foldlM_append, hinit]
    simp [hnext]

variable (gru direction) in
theorem protonInit_installed (query : Option (List (String × Variant))) (hquery : ∀ value,
      ("application-properties", value) ∈ query.getD [] → ∃ text, value = .text text) :
    ∃ handlers, Handlers.new.protonInit gru direction query = some handlers ∧
      Installed gru direction (query.getD []) handlers := by
  cases query with
  | none => exact foldlM_installed hquery
  | some pairs => exact foldlM_installed hquery

end Installation

end MsgPerf.Api.ProtonParameters
