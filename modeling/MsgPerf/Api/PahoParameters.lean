import MsgPerf.Common.Handlers
import MsgPerf.Maestro.Publishing

/-!
# Parameters of an MQTT connection

`paho_init` installs a handler with a null payload for every parameter, and then goes through the
query of the URL and adds the handler of each parameter it knows again, with the value as the
payload.  The handlers interpret their payloads when they are run: those before a connect on the
options of the connect, those before a send on every message.

The caller may have added handlers before; the player adds `maestro_notify_abnormal_disconnect`,
whose payload is not a variant and which sets the will.  No allocation fails.
-/

namespace MsgPerf.Api.PahoParameters

open MsgPerf.Library MsgPerf.Common
open MsgPerf.Maestro (Variant PubMessage)

/-! ## Handlers -/

/-- `msg_direction_t`. -/
inductive MsgDirection where
  | sender | receiver | both
  deriving DecidableEq, Repr

/-- The callbacks that run before a connect. -/
inductive ConnectCallback where
  | notifyAbnormalDisconnect
  | setKeepAliveInterval
  | setCleanSession
  deriving DecidableEq, Repr

/-- The fields of `MQTTClient_connectOptions` that handlers set; `will` says that there is one. -/
structure ConnectOptions where
  keepAliveInterval : ℤ
  cleansession : ℤ
  will : Bool
  deriving DecidableEq, Repr

/-- `inumber` is the number that the union of a variant of another type holds. -/
def pahoSetKeepAliveInterval (inumber : Variant → ℤ) (payload : Option Variant)
    (options : ConnectOptions) : ConnectOptions :=
  match payload with
  | none => { options with keepAliveInterval := 20 }
  -- The type is compared the wrong way round: an integer is not used.
  | some (.integer _) => { options with keepAliveInterval := 20 }
  | some variant => { options with keepAliveInterval := (inumber variant).bmod (2 ^ 32) }

def pahoSetCleanSession (payload : Option Variant) (options : ConnectOptions) : ConnectOptions :=
  match payload with
  | none | some (.boolean true) => { options with cleansession := 1 }
  | some _ => { options with cleansession := 0 }

def ConnectCallback.run (inumber : Variant → ℤ) :
    ConnectCallback → Option Variant → ConnectOptions → ConnectOptions
  | .notifyAbnormalDisconnect => fun _ options ↦ { options with will := true }
  | .setKeepAliveInterval => pahoSetKeepAliveInterval inumber
  | .setCleanSession => pahoSetCleanSession

/-- The lists of `vmslh_handlers_t` that the MQTT parameters use. -/
structure VmslhHandlers where
  beforeConnect : HandlerList ConnectCallback Variant
  beforeSend : HandlerList Maestro.Callback Variant

namespace VmslhHandlers

def addConnect (handlers : VmslhHandlers) (callback : ConnectCallback)
    (payload : Option Variant) : VmslhHandlers :=
  { handlers with beforeConnect := (vmslhAdd handlers.beforeConnect callback payload true true).1 }

def addSend (handlers : VmslhHandlers) (callback : Maestro.Callback)
    (payload : Option Variant) : VmslhHandlers :=
  { handlers with beforeSend := (vmslhAdd handlers.beforeSend callback payload true true).1 }

def pahoSetDefaultParameters (handlers : VmslhHandlers) : VmslhHandlers :=
  (((handlers.addConnect .setKeepAliveInterval none).addConnect .setCleanSession none).addSend
    .setQosMode none).addSend .setRetained none

def pahoSetParameterByName (direction : MsgDirection) (handlers : VmslhHandlers)
    (pair : String × Variant) : VmslhHandlers :=
  let handlers :=
    if pair.1 = "keep-alive" then handlers.addConnect .setKeepAliveInterval (some pair.2)
    else handlers
  let handlers :=
    if pair.1 = "clean-session" then handlers.addConnect .setCleanSession (some pair.2)
    else handlers
  let handlers :=
    if pair.1 = "qos-mode" ∧ direction = .sender then
      handlers.addSend .setQosMode (some pair.2)
    else handlers
  if pair.1 = "retained" then handlers.addSend .setRetained (some pair.2) else handlers

/-- A URL may have no query. -/
def pahoSetUserParameters (direction : MsgDirection) (query : Option (List (String × Variant)))
    (handlers : VmslhHandlers) : VmslhHandlers :=
  match query with
  | none => handlers
  | some pairs => pairs.foldl (pahoSetParameterByName direction) handlers

/-- The part of `paho_init` that installs handlers. -/
def pahoInit (direction : MsgDirection) (query : Option (List (String × Variant)))
    (handlers : VmslhHandlers) : VmslhHandlers :=
  handlers.pahoSetDefaultParameters.pahoSetUserParameters direction query

/-- New lists after the additions of the caller. -/
def ofAdditions (connect : List (ConnectCallback × Option Variant))
    (send : List (Maestro.Callback × Option Variant)) : VmslhHandlers :=
  ⟨vmslhAdds [] connect, vmslhAdds [] send⟩

end VmslhHandlers

/-! ## What the parameters ask for -/

/-- The documented values of `qos-mode`. -/
inductive QosMode where
  | atMostOnce | atLeastOnce | exactlyOnce
  deriving DecidableEq, Repr

def QosMode.name : QosMode → String
  | .atMostOnce => "at-most-once"
  | .atLeastOnce => "at-least-once"
  | .exactlyOnce => "exactly-once"

def QosMode.level : QosMode → ℕ
  | .atMostOnce => 0
  | .atLeastOnce => 1
  | .exactlyOnce => 2

/-- The value of a documented parameter is of the documented kind. -/
structure WellTyped (pair : String × Variant) : Prop where
  keepAlive : pair.1 = "keep-alive" → ∃ number, pair.2 = .integer number
  cleanSession : pair.1 = "clean-session" → ∃ flag, pair.2 = .boolean flag
  qosMode : pair.1 = "qos-mode" → ∃ mode : QosMode, pair.2 = .text mode.name
  retained : pair.1 = "retained" → ∃ flag, pair.2 = .boolean flag

/-- The options have the last values of their parameters, or the defaults. -/
structure ConnectsAs (query : List (String × Variant)) (options : ConnectOptions) : Prop where
  keepAlive : ∀ number, OrderedMap.lastValue "keep-alive" query = some (.integer number) →
    options.keepAliveInterval = number
  keepAliveDefault : OrderedMap.lastValue "keep-alive" query = none →
    options.keepAliveInterval = 20
  cleanSession : ∀ flag, OrderedMap.lastValue "clean-session" query = some (.boolean flag) →
    options.cleansession = if flag then 1 else 0
  cleanSessionDefault : OrderedMap.lastValue "clean-session" query = none →
    options.cleansession = 1

/-- The message has the last values of its parameters, or the defaults. -/
structure SendsAs (query : List (String × Variant)) (message : PubMessage) : Prop where
  qos : ∀ mode : QosMode, OrderedMap.lastValue "qos-mode" query = some (.text mode.name) →
    message.qos = mode.level
  qosDefault : OrderedMap.lastValue "qos-mode" query = none → message.qos = 0
  retained : ∀ flag, OrderedMap.lastValue "retained" query = some (.boolean flag) →
    message.retained = flag
  retainedDefault : OrderedMap.lastValue "retained" query = none → message.retained = false

/-- The handlers make the parameters effective, whatever the options and the message were before. -/
def TakesEffect (inumber : Variant → ℤ) (direction : MsgDirection)
    (query : Option (List (String × Variant))) (handlers : VmslhHandlers) : Prop :=
  (∀ options, ∃ after,
    vmslhRun (ConnectCallback.run inumber) (some handlers.beforeConnect) options = some after ∧
      ConnectsAs (query.getD []) after) ∧
  (direction = .sender → ∀ message, ∃ after,
    vmslhRun Maestro.Callback.run (some handlers.beforeSend) message = some after ∧
      SendsAs (query.getD []) after)

/-! ## The lists as additions -/

/-- The callback before a connect that a parameter has. -/
def connectParameter (key : String) : Option ConnectCallback :=
  if key = "keep-alive" then some .setKeepAliveInterval
  else if key = "clean-session" then some .setCleanSession
  else none

/-- The callback before a send that a parameter has. -/
def sendParameter (direction : MsgDirection) (key : String) : Option Maestro.Callback :=
  if key = "qos-mode" ∧ direction = .sender then some .setQosMode
  else if key = "retained" then some .setRetained
  else none

/-- The additions that the pairs of a query make. -/
def parameterAdditions {Callback : Type} (parameter : String → Option Callback)
    (query : List (String × Variant)) : List (Callback × Option Variant) :=
  query.filterMap fun pair ↦ (parameter pair.1).map fun callback ↦ (callback, some pair.2)

/-- All additions to the list before a connect. -/
def connectAdditions (connect : List (ConnectCallback × Option Variant))
    (query : List (String × Variant)) : List (ConnectCallback × Option Variant) :=
  connect ++ [(.setKeepAliveInterval, none), (.setCleanSession, none)] ++
    parameterAdditions connectParameter query

/-- All additions to the list before a send. -/
def sendAdditions (direction : MsgDirection) (send : List (Maestro.Callback × Option Variant))
    (query : List (String × Variant)) : List (Maestro.Callback × Option Variant) :=
  send ++ [(.setQosMode, none), (.setRetained, none)] ++
    parameterAdditions (sendParameter direction) query

theorem parameterAdditions_cons {Callback : Type} (parameter : String → Option Callback)
    (pair : String × Variant) (query : List (String × Variant)) :
    parameterAdditions parameter (pair :: query) =
      parameterAdditions parameter [pair] ++ parameterAdditions parameter query := by
  rw [parameterAdditions, parameterAdditions, parameterAdditions, ← List.filterMap_append,
    List.singleton_append]

section Additions

open VmslhHandlers

variable (connect : List (ConnectCallback × Option Variant))
  (send : List (Maestro.Callback × Option Variant))

theorem addConnect_ofAdditions (callback : ConnectCallback) (payload : Option Variant) :
    (ofAdditions connect send).addConnect callback payload =
      ofAdditions (connect ++ [(callback, payload)]) send := by
  simp [addConnect, ofAdditions, vmslhAdds, List.foldl_append]

theorem addSend_ofAdditions (callback : Maestro.Callback) (payload : Option Variant) :
    (ofAdditions connect send).addSend callback payload =
      ofAdditions connect (send ++ [(callback, payload)]) := by
  simp [addSend, ofAdditions, vmslhAdds, List.foldl_append]

theorem pahoSetParameterByName_ofAdditions (direction : MsgDirection) (pair : String × Variant) :
    (ofAdditions connect send).pahoSetParameterByName direction pair =
      ofAdditions (connect ++ parameterAdditions connectParameter [pair])
        (send ++ parameterAdditions (sendParameter direction) [pair]) := by
  unfold pahoSetParameterByName parameterAdditions connectParameter sendParameter
  by_cases hkeepAlive : pair.1 = "keep-alive"
  · simp [hkeepAlive, addConnect_ofAdditions]
  · by_cases hcleanSession : pair.1 = "clean-session"
    · simp [hcleanSession, addConnect_ofAdditions]
    · by_cases hqosMode : pair.1 = "qos-mode" ∧ direction = .sender
      · simp [hqosMode, addSend_ofAdditions]
      · by_cases hretained : pair.1 = "retained"
        · simp [hretained, addSend_ofAdditions]
        · simp [hkeepAlive, hcleanSession, hqosMode, hretained]

theorem foldl_pahoSetParameterByName (direction : MsgDirection)
    (pairs : List (String × Variant)) :
    pairs.foldl (pahoSetParameterByName direction) (ofAdditions connect send) =
      ofAdditions (connect ++ parameterAdditions connectParameter pairs)
        (send ++ parameterAdditions (sendParameter direction) pairs) := by
  induction pairs generalizing connect send with
  | nil => simp [parameterAdditions]
  | cons pair pairs ih =>
    rw [List.foldl_cons, pahoSetParameterByName_ofAdditions, ih, List.append_assoc,
      List.append_assoc, ← parameterAdditions_cons, ← parameterAdditions_cons]

theorem pahoInit_ofAdditions (direction : MsgDirection)
    (query : Option (List (String × Variant))) :
    (ofAdditions connect send).pahoInit direction query =
      ofAdditions (connectAdditions connect (query.getD []))
        (sendAdditions direction send (query.getD [])) := by
  have hdefault : (ofAdditions connect send).pahoSetDefaultParameters =
      ofAdditions (connect ++ [(.setKeepAliveInterval, none), (.setCleanSession, none)])
        (send ++ [(.setQosMode, none), (.setRetained, none)]) := by
    simp only [pahoSetDefaultParameters, addConnect_ofAdditions, addSend_ofAdditions,
      List.append_assoc, List.cons_append, List.nil_append]
  rw [pahoInit, hdefault]
  cases query with
  | none => simp [pahoSetUserParameters, connectAdditions, sendAdditions, parameterAdditions]
  | some pairs => exact foldl_pahoSetParameterByName _ _ direction pairs

end Additions

/-! ## The payloads and their effects -/

/-- The last payload of the only callback of a parameter, when its default is a null payload. -/
theorem lastPayload_parameterAdditions {Callback : Type} [DecidableEq Callback]
    {callback : Callback} {key : String} {parameter : String → Option Callback}
    (hkey : ∀ other, parameter other = some callback ↔ other = key)
    {initial : List (Callback × Option Variant)}
    (hinitial : OrderedMap.lastValue callback initial = some none)
    (query : List (String × Variant)) :
    lastPayload callback (initial ++ parameterAdditions parameter query) =
      OrderedMap.lastValue key query := by
  induction query using List.reverseRecOn with
  | nil =>
    rw [lastPayload, parameterAdditions, List.filterMap_nil, List.append_nil, hinitial]
    rfl
  | append_singleton query pair ih =>
    rw [lastPayload] at ih ⊢
    rw [parameterAdditions, List.filterMap_append, ← List.append_assoc,
      OrderedMap.lastValue_concat, ← parameterAdditions, List.filterMap_cons, List.filterMap_nil]
    cases hadded : parameter pair.1 with
    | none =>
      have hpair : pair.1 ≠ key := by
        intro hsame
        simp [(hkey pair.1).mpr hsame] at hadded
      rw [if_neg hpair, ← ih]
      simp
    | some added =>
      by_cases hsame : added = callback
      · rw [if_pos ((hkey pair.1).mp (hsame ▸ hadded)), Option.map_some,
          OrderedMap.lastValue_concat, if_pos hsame]
        rfl
      · have hpair : pair.1 ≠ key := by
          intro hkeySame
          rw [(hkey pair.1).mpr hkeySame] at hadded
          exact hsame (Option.some.inj hadded).symm
        rw [if_neg hpair, ← ih, Option.map_some, OrderedMap.lastValue_concat, if_neg hsame]

/-- A field that one callback sets and no other changes. -/
theorem foldl_field {Callback State Field : Type} {step : State → Callback → State}
    {field : State → Field} (callback : Callback) {value : Field}
    (hset : ∀ state, field (step state callback) = value)
    (hkeep : ∀ state other, other ≠ callback → field (step state other) = field state)
    {callbacks : List Callback} (hmem : callback ∈ callbacks) (state : State) :
    field (callbacks.foldl step state) = value := by
  induction callbacks using List.reverseRecOn with
  | nil => simp at hmem
  | append_singleton callbacks last ih =>
    rw [List.foldl_append, List.foldl_cons, List.foldl_nil]
    by_cases hlast : last = callback
    · rw [hlast]
      exact hset _
    · rw [hkeep _ last hlast]
      rw [List.mem_append, List.mem_singleton] at hmem
      exact ih (hmem.resolve_right (Ne.symm hlast))

section Payloads

variable (connect : List (ConnectCallback × Option Variant))
  (send : List (Maestro.Callback × Option Variant)) (query : List (String × Variant))

theorem lastPayload_keepAlive :
    lastPayload .setKeepAliveInterval (connectAdditions connect query) =
      OrderedMap.lastValue "keep-alive" query := by
  apply lastPayload_parameterAdditions
  · intro other
    unfold connectParameter
    split_ifs <;> simp_all
  · simp [OrderedMap.lastValue]

theorem lastPayload_cleanSession :
    lastPayload .setCleanSession (connectAdditions connect query) =
      OrderedMap.lastValue "clean-session" query := by
  apply lastPayload_parameterAdditions
  · intro other
    unfold connectParameter
    split_ifs <;> simp_all
  · simp [OrderedMap.lastValue]

theorem lastPayload_qosMode :
    lastPayload .setQosMode (sendAdditions .sender send query) =
      OrderedMap.lastValue "qos-mode" query := by
  apply lastPayload_parameterAdditions
  · intro other
    unfold sendParameter
    split_ifs <;> simp_all
  · simp [OrderedMap.lastValue]

theorem lastPayload_retained :
    lastPayload .setRetained (sendAdditions .sender send query) =
      OrderedMap.lastValue "retained" query := by
  apply lastPayload_parameterAdditions
  · intro other
    unfold sendParameter
    split_ifs <;> simp_all
  · simp [OrderedMap.lastValue]

end Payloads

/-- The options after the handlers before a connect. -/
theorem vmslhRun_connect (inumber : Variant → ℤ)
    (connect : List (ConnectCallback × Option Variant)) (query : List (String × Variant))
    (options : ConnectOptions) :
    ∃ after, vmslhRun (ConnectCallback.run inumber)
        (some (vmslhAdds [] (connectAdditions connect query))) options = some after ∧
      after.keepAliveInterval = (pahoSetKeepAliveInterval inumber
        (OrderedMap.lastValue "keep-alive" query) options).keepAliveInterval ∧
      after.cleansession = (pahoSetCleanSession
        (OrderedMap.lastValue "clean-session" query) options).cleansession := by
  have hkeepAlive (payload : Option Variant) (state : ConnectOptions) :
      (pahoSetKeepAliveInterval inumber payload state).cleansession = state.cleansession := by
    unfold pahoSetKeepAliveInterval
    split <;> rfl
  have hcleanSession (payload : Option Variant) (state : ConnectOptions) :
      (pahoSetCleanSession payload state).keepAliveInterval = state.keepAliveInterval := by
    unfold pahoSetCleanSession
    split <;> rfl
  refine ⟨_, vmslhRun_vmslhAdds _ _ _, ?_, ?_⟩
  · apply foldl_field .setKeepAliveInterval
    · intro state
      rw [lastPayload_keepAlive, ConnectCallback.run]
      unfold pahoSetKeepAliveInterval
      split <;> rfl
    · intro state other hother
      cases other with
      | notifyAbnormalDisconnect => rfl
      | setKeepAliveInterval => exact absurd rfl hother
      | setCleanSession => exact hcleanSession _ state
    · simp [firstAdded, OrderedMap.firstKeys, connectAdditions, List.mem_eraseDups]
  · apply foldl_field .setCleanSession
    · intro state
      rw [lastPayload_cleanSession, ConnectCallback.run]
      unfold pahoSetCleanSession
      split <;> rfl
    · intro state other hother
      cases other with
      | notifyAbnormalDisconnect => rfl
      | setKeepAliveInterval => exact hkeepAlive _ state
      | setCleanSession => exact absurd rfl hother
    · simp [firstAdded, OrderedMap.firstKeys, connectAdditions, List.mem_eraseDups]

theorem WellTyped.qosMode_level {query : List (String × Variant)}
    (hquery : ∀ pair ∈ query, WellTyped pair) :
    ∃ level, (∀ message, (Maestro.pahoSetQosMode (OrderedMap.lastValue "qos-mode" query)
        message).qos = level) ∧
      (∀ mode : QosMode, OrderedMap.lastValue "qos-mode" query = some (.text mode.name) →
        level = mode.level) ∧
      (OrderedMap.lastValue "qos-mode" query = none → level = 0) := by
  cases hlast : OrderedMap.lastValue "qos-mode" query with
  | none => exact ⟨0, fun message ↦ rfl, by simp, fun _ ↦ rfl⟩
  | some value =>
    obtain ⟨mode, hmode⟩ := (hquery _ (OrderedMap.mem_of_lastValue hlast)).qosMode rfl
    have hvalue : value = .text mode.name := hmode
    refine ⟨mode.level, fun message ↦ ?_, fun other hother ↦ ?_, by simp⟩
    · rw [hvalue]
      cases mode <;> simp [Maestro.pahoSetQosMode, QosMode.name, QosMode.level]
    · rw [hvalue] at hother
      cases mode <;> cases other <;> simp_all [QosMode.name, QosMode.level]

/-- The message after the handlers before a send. -/
theorem vmslhRun_send (send : List (Maestro.Callback × Option Variant))
    (query : List (String × Variant)) {level : ℕ}
    (hlevel : ∀ message, (Maestro.pahoSetQosMode (OrderedMap.lastValue "qos-mode" query)
      message).qos = level) (message : PubMessage) :
    ∃ after, vmslhRun Maestro.Callback.run
        (some (vmslhAdds [] (sendAdditions .sender send query))) message = some after ∧
      after.qos = level ∧
      after.retained =
        decide (OrderedMap.lastValue "retained" query = some (.boolean true)) := by
  have hqosMode (payload : Option Variant) (state : PubMessage) :
      (Maestro.pahoSetQosMode payload state).retained = state.retained := by
    unfold Maestro.pahoSetQosMode
    split_ifs <;> rfl
  refine ⟨_, vmslhRun_vmslhAdds _ _ _, ?_, ?_⟩
  · apply foldl_field .setQosMode
    · intro state
      rw [lastPayload_qosMode]
      exact hlevel state
    · intro state other hother
      cases other with
      | setQosMode => exact absurd rfl hother
      | setRetained => rfl
    · simp [firstAdded, OrderedMap.firstKeys, sendAdditions, List.mem_eraseDups]
  · apply foldl_field .setRetained
    · intro state
      rw [lastPayload_retained]
      rfl
    · intro state other hother
      cases other with
      | setQosMode => exact hqosMode _ state
      | setRetained => exact absurd rfl hother
    · simp [firstAdded, OrderedMap.firstKeys, sendAdditions, List.mem_eraseDups]

theorem sendsAs_of_fields {query : List (String × Variant)} {after : PubMessage} {level : ℕ}
    (hmode : ∀ mode : QosMode, OrderedMap.lastValue "qos-mode" query = some (.text mode.name) →
      level = mode.level)
    (hdefault : OrderedMap.lastValue "qos-mode" query = none → level = 0)
    (hqos : after.qos = level)
    (hretained : after.retained =
      decide (OrderedMap.lastValue "retained" query = some (.boolean true))) :
    SendsAs query after where
  qos mode hlast := hqos.trans (hmode mode hlast)
  qosDefault hlast := hqos.trans (hdefault hlast)
  retained flag hlast := by
    rw [hretained, hlast]
    cases flag <;> rfl
  retainedDefault hlast := by
    rw [hretained, hlast]
    rfl

/-! ## The handlers of the player -/

/-- The nodes of the wrappers that the player shares between its threads. -/
def wrapperNodes (list : List Maestro.VmslhCallback) : HandlerList Maestro.Callback Variant :=
  nodes (list.map fun wrapper ↦ (wrapper.call, wrapper.payload))

theorem assign_wrappers (callback : Maestro.Callback) (payload : Option Variant)
    (list : List Maestro.VmslhCallback) :
    OrderedMap.assign callback payload (list.map fun wrapper ↦ (wrapper.call, wrapper.payload)) =
      (Maestro.vmslhAdd callback payload list).map
        fun wrapper ↦ (wrapper.call, wrapper.payload) := by
  induction list with
  | nil => rfl
  | cons wrapper rest ih =>
    rw [List.map_cons, OrderedMap.assign, Maestro.vmslhAdd]
    by_cases hsame : wrapper.call = callback
    · rw [if_pos hsame, if_pos hsame]
      rfl
    · rw [if_neg hsame, if_neg hsame, List.map_cons, ih]

theorem addSend_wrapperNodes {handlers : VmslhHandlers} {list : List Maestro.VmslhCallback}
    (h : handlers.beforeSend = wrapperNodes list) (callback : Maestro.Callback)
    (payload : Option Variant) :
    (handlers.addSend callback payload).beforeSend =
      wrapperNodes (Maestro.vmslhAdd callback payload list) := by
  rw [VmslhHandlers.addSend, h, wrapperNodes, vmslhAdd_nodes, assign_wrappers]
  rfl

theorem pahoSetParameterByName_wrapperNodes {handlers : VmslhHandlers}
    {list : List Maestro.VmslhCallback} (h : handlers.beforeSend = wrapperNodes list)
    (pair : String × Variant) :
    (handlers.pahoSetParameterByName .sender pair).beforeSend =
      wrapperNodes (Maestro.pahoSetParameterByName list pair) := by
  unfold VmslhHandlers.pahoSetParameterByName Maestro.pahoSetParameterByName
  by_cases hqosMode : pair.1 = "qos-mode"
  · simp [hqosMode, addSend_wrapperNodes h]
  · by_cases hretained : pair.1 = "retained"
    · simp [hretained, addSend_wrapperNodes h]
    · simp only [hqosMode, hretained, false_and, if_false]
      split_ifs <;> exact h

/-- The handlers before a send are those of the player in `MsgPerf.Maestro.Publishing`. -/
theorem beforeSend_pahoInit (query : List (String × Variant)) :
    ((VmslhHandlers.ofAdditions [] []).pahoInit .sender (some query)).beforeSend =
      wrapperNodes (Maestro.pahoSetUserParameters query) := by
  have hfold : ∀ (handlers : VmslhHandlers) (list : List Maestro.VmslhCallback),
      handlers.beforeSend = wrapperNodes list →
        (query.foldl (VmslhHandlers.pahoSetParameterByName .sender) handlers).beforeSend =
          wrapperNodes (query.foldl Maestro.pahoSetParameterByName list) := by
    induction query with
    | nil => exact fun _ _ h ↦ h
    | cons pair query ih =>
      intro handlers list h
      exact ih _ _ (pahoSetParameterByName_wrapperNodes h pair)
  exact hfold _ _ (addSend_wrapperNodes (addSend_wrapperNodes rfl _ _) _ _)

theorem vmslhRun_beforeSend (query : List (String × Variant)) (message : PubMessage) :
    vmslhRun Maestro.Callback.run
        (some ((VmslhHandlers.ofAdditions [] []).pahoInit .sender (some query)).beforeSend) message =
      some (Maestro.vmslhRun (Maestro.pahoSetUserParameters query) message) := by
  rw [beforeSend_pahoInit, vmslhRun, wrapperNodes, runNodes_nodes, List.foldl_map,
    Maestro.vmslhRun]

/-! ## When the parameters take effect -/

/-- On a query with values of the documented kinds, the parameters take effect exactly when the last
value of `keep-alive`, if there is one, is the default. -/
theorem takesEffect_iff (inumber : Variant → ℤ) (direction : MsgDirection)
    {query : Option (List (String × Variant))}
    (hquery : ∀ pair ∈ query.getD [], WellTyped pair)
    (connect : List (ConnectCallback × Option Variant))
    (send : List (Maestro.Callback × Option Variant)) :
    TakesEffect inumber direction query
        ((VmslhHandlers.ofAdditions connect send).pahoInit direction query) ↔
      ∀ number, OrderedMap.lastValue "keep-alive" (query.getD []) = some (.integer number) →
        number = 20 := by
  rw [pahoInit_ofAdditions, TakesEffect, VmslhHandlers.ofAdditions]
  constructor
  · intro heffect number hnumber
    obtain ⟨after, hrun, hconnects⟩ := heffect.1 ⟨0, 0, false⟩
    obtain ⟨other, hother, hkeepAlive, -⟩ :=
      vmslhRun_connect inumber connect (query.getD []) ⟨0, 0, false⟩
    rw [hother, Option.some.injEq] at hrun
    rw [hnumber] at hkeepAlive
    calc
      number = after.keepAliveInterval := (hconnects.keepAlive number hnumber).symm
      _ = other.keepAliveInterval := by rw [hrun]
      _ = 20 := hkeepAlive
  · intro hdefault
    constructor
    · intro options
      obtain ⟨after, hrun, hkeepAlive, hcleanSession⟩ :=
        vmslhRun_connect inumber connect (query.getD []) options
      refine ⟨after, hrun, ?_, ?_, ?_, ?_⟩
      · intro number hnumber
        rw [hkeepAlive, hnumber, hdefault number hnumber]
        rfl
      · intro hnone
        rw [hkeepAlive, hnone]
        rfl
      · intro flag hflag
        rw [hcleanSession, hflag]
        cases flag <;> rfl
      · intro hnone
        rw [hcleanSession, hnone]
        rfl
    · intro hsender message
      obtain ⟨level, hlevel, hmode, hnone⟩ := WellTyped.qosMode_level hquery
      obtain ⟨after, hrun, hqos, hretained⟩ := vmslhRun_send send (query.getD []) hlevel message
      rw [hsender]
      exact ⟨after, hrun, sendsAs_of_fields hmode hnone hqos hretained⟩

/-- Three parameters, one of them twice. -/
def playerQuery : List (String × Variant) :=
  [("retained", .boolean false), ("qos-mode", .text "exactly-once"), ("retained", .boolean true),
    ("keep-alive", .integer 20)]

theorem playerQuery_takesEffect :
    TakesEffect (fun _ ↦ 0) .sender (some playerQuery)
      ((VmslhHandlers.ofAdditions [(.notifyAbnormalDisconnect, none)] []).pahoInit .sender
        (some playerQuery)) := by
  have hquery : ∀ pair ∈ (some playerQuery).getD [], WellTyped pair := by
    intro pair hpair
    simp only [playerQuery, Option.getD_some, List.mem_cons, List.not_mem_nil, or_false] at hpair
    rcases hpair with rfl | rfl | rfl | rfl
    · exact ⟨by simp, by simp, by simp, fun _ ↦ ⟨false, rfl⟩⟩
    · exact ⟨by simp, by simp, fun _ ↦ ⟨.exactlyOnce, rfl⟩, by simp⟩
    · exact ⟨by simp, by simp, by simp, fun _ ↦ ⟨true, rfl⟩⟩
    · exact ⟨fun _ ↦ ⟨20, rfl⟩, by simp, by simp, by simp⟩
  apply (takesEffect_iff (fun _ ↦ 0) .sender hquery [(.notifyAbnormalDisconnect, none)] []).mpr
  intro number hnumber
  have hlast : OrderedMap.lastValue "keep-alive" playerQuery = some (.integer 20) := by decide
  rw [Option.getD_some, hlast] at hnumber
  simpa using hnumber.symm

/-- A URL that asks for a keep-alive interval of a minute. -/
theorem keepAlive_not_takesEffect :
    ¬ TakesEffect (fun _ ↦ 0) .sender (some [("keep-alive", .integer 60)])
      ((VmslhHandlers.ofAdditions [] []).pahoInit .sender
        (some [("keep-alive", .integer 60)])) := by
  intro heffect
  obtain ⟨after, hrun, hconnects⟩ := heffect.1 ⟨0, 0, false⟩
  have hafter : after = ⟨20, 1, false⟩ := by
    have hevaluated : vmslhRun (ConnectCallback.run fun _ ↦ 0)
        (some ((VmslhHandlers.ofAdditions [] []).pahoInit .sender
          (some [("keep-alive", .integer 60)])).beforeConnect) ⟨0, 0, false⟩ =
        some ⟨20, 1, false⟩ := by decide
    exact Option.some.inj (hrun.symm.trans hevaluated)
  have hkeepAlive := hconnects.keepAlive 60 (by decide)
  rw [hafter] at hkeepAlive
  exact absurd hkeepAlive (by decide)

end MsgPerf.Api.PahoParameters
