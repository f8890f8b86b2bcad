import MsgPerf.Library.Machine
import MsgPerf.Maestro.Player

/-!
# Replies and notifications on one connection

The player thread publishes replies and the main thread publishes notifications through the same
context.  The topic of a message is the path of the URI in the context at the moment of the send,
and whether the message is retained is decided by the handlers that run before each send.  Both are
set by the thread that is about to send, in steps of their own and without a lock; the machine
interleaves these steps in any order.
-/

namespace MsgPerf.Maestro

open MsgPerf.Library

/-- `MAESTRO_NOTIFICATIONS`. -/
def maestroNotifications : String := "/mpt/notifications"

/-! ## Handlers -/

/-- `gru_variant_t`. -/
inductive Variant where
  | boolean (flag : Bool)
  | integer (number : ℤ)
  | text (text : String)
  deriving DecidableEq, Repr

/-- The callbacks that run before a send, `paho_set_qos_mode` and `paho_set_retained`. -/
inductive Callback where
  | setQosMode
  | setRetained
  deriving DecidableEq, Repr

/-- `vmslh_callback_t`. -/
structure VmslhCallback where
  call : Callback
  payload : Option Variant
  deriving DecidableEq, Repr

/-- `vmslh_add`: the payload of a callback that is in the list is replaced. -/
def vmslhAdd (call : Callback) (payload : Option Variant) :
    List VmslhCallback → List VmslhCallback
  | [] => [⟨call, payload⟩]
  | wrapper :: rest =>
      if wrapper.call = call then ⟨call, payload⟩ :: rest
      else wrapper :: vmslhAdd call payload rest

/-- The fields of `MQTTClient_message` that handlers set. -/
structure PubMessage where
  qos : ℕ
  retained : Bool
  deriving DecidableEq, Repr

/-- `MQTTClient_message_initializer`. -/
def PubMessage.initial : PubMessage := ⟨0, false⟩

def pahoSetQosMode (payload : Option Variant) (message : PubMessage) : PubMessage :=
  if payload = none ∨ payload = some (.text "at-most-once") then { message with qos := 0 }
  else if payload = some (.text "at-least-once") then { message with qos := 1 }
  else if payload = some (.text "exactly-once") then { message with qos := 2 }
  else message

def pahoSetRetained (payload : Option Variant) (message : PubMessage) : PubMessage :=
  { message with retained := payload = some (.boolean true) }

def Callback.run : Callback → Option Variant → PubMessage → PubMessage
  | .setQosMode => pahoSetQosMode
  | .setRetained => pahoSetRetained

def vmslhRun (list : List VmslhCallback) (message : PubMessage) : PubMessage :=
  list.foldl (fun message wrapper ↦ wrapper.call.run wrapper.payload message) message

/-- The handlers before a send that `paho_set_default_parameters` installs. -/
def pahoSetDefaultParameters : List VmslhCallback :=
  vmslhAdd .setRetained none (vmslhAdd .setQosMode none [])

/-- The part of `paho_set_parameter_by_name` for the handlers before a send; the player connects as
a sender. -/
def pahoSetParameterByName (list : List VmslhCallback) (pair : String × Variant) :
    List VmslhCallback :=
  if pair.1 = "qos-mode" then vmslhAdd .setQosMode (some pair.2) list
  else if pair.1 = "retained" then vmslhAdd .setRetained (some pair.2) list
  else list

/-- The handlers of a connection to a URL with the given query. -/
def pahoSetUserParameters (query : List (String × Variant)) : List VmslhCallback :=
  query.foldl pahoSetParameterByName pahoSetDefaultParameters

/-! ## The two threads -/

/-- Where `maestro_notify_test_failed` and `maestro_notify_test_successful` are: not called, behind
the change of the path, behind the installation of the retained flag, behind the send. -/
inductive NotifyPhase where
  | idle
  | addressed (content : List UInt8)
  | overridden (content : List UInt8)
  | sent
  deriving DecidableEq, Repr

/-- Where `maestro_player_handle_note` is: not at a reply, or behind the change of the path. -/
inductive ReplyPhase where
  | idle
  | addressed (content : List UInt8)
  deriving DecidableEq, Repr

inductive MessageKind where
  | notification | reply
  deriving DecidableEq, Repr

/-- A message as the broker gets it. -/
structure PublishedMessage where
  kind : MessageKind
  topic : String
  message : PubMessage
  content : List UInt8
  deriving DecidableEq, Repr

/-- The path and the handlers of the shared context, the two threads and what has been published. -/
structure PublishState where
  path : String
  beforeSend : List VmslhCallback
  notify : NotifyPhase
  reply : ReplyPhase
  published : List PublishedMessage
  deriving DecidableEq, Repr

/-- The steps of the two threads.  A send may fail before the message is published. -/
inductive PublishStep where
  | notifySetPath (content : List UInt8)
  | notifyRetain
  | notifySend (accepted : Bool)
  | notifyRestore
  | replySetPath (content : List UInt8)
  | replySend (accepted : Bool)
  deriving DecidableEq, Repr

/-- `paho_send`: the handlers run on the message, which is published under the path. -/
def PublishState.pahoSend (state : PublishState) (kind : MessageKind) (content : List UInt8)
    (accepted : Bool) : PublishState :=
  if accepted then
    { state with
      published := state.published ++
        [⟨kind, state.path, vmslhRun state.beforeSend .initial, content⟩] }
  else state

def publishNext (state : PublishState) : PublishStep → Option PublishState
  | .notifySetPath content =>
      match state.notify with
      | .idle => some { state with path := maestroNotifications, notify := .addressed content }
      | _ => none
  | .notifyRetain =>
      match state.notify with
      | .addressed content =>
          some { state with
            beforeSend := vmslhAdd .setRetained (some (.boolean true)) state.beforeSend
            notify := .overridden content }
      | _ => none
  | .notifySend accepted =>
      match state.notify with
      | .overridden content =>
          some { state.pahoSend .notification content accepted with notify := .sent }
      | _ => none
  | .notifyRestore =>
      match state.notify with
      | .sent =>
          some { state with
            beforeSend := vmslhAdd .setRetained none state.beforeSend
            notify := .idle }
      | _ => none
  | .replySetPath content =>
      match state.reply with
      | .idle => some { state with path := maestroTopic, reply := .addressed content }
      | _ => none
  | .replySend accepted =>
      match state.reply with
      | .addressed content => some { state.pahoSend .reply content accepted with reply := .idle }
      | _ => none

/-- The context of a player that connects with the given path and query. -/
def publishMachine (path : String) (query : List (String × Variant)) :
    Machine PublishState PublishStep where
  initial := ⟨path, pahoSetUserParameters query, .idle, .idle, []⟩
  next := publishNext

/-- A notification belongs on its topic with the retained flag, a reply on its own without it. -/
def PublishedMessage.Proper (message : PublishedMessage) : Prop :=
  match message.kind with
  | .notification => message.topic = maestroNotifications ∧ message.message.retained = true
  | .reply => message.topic = maestroTopic ∧ message.message.retained = false

def Unmixed (state : PublishState) : Prop := ∀ message ∈ state.published, message.Proper

/-- The notification is behind the change of the path and before its send. -/
def NotifyPhase.addresses : NotifyPhase → Bool
  | .addressed _ | .overridden _ => true
  | .idle | .sent => false

/-- The retained flag is installed. -/
def NotifyPhase.overrides : NotifyPhase → Bool
  | .overridden _ | .sent => true
  | .idle | .addressed _ => false

/-- A thread sets the path only while the other is not between its own change of the path and its
send, and a reply is sent only while the retained flag is not installed. -/
def TakesTurns (state : PublishState) : PublishStep → Prop
  | .notifySetPath _ => state.reply = .idle
  | .replySetPath _ => state.notify.addresses = false
  | .replySend _ => state.notify.overrides = false
  | _ => True

/-- The last value that a query gives for the retained flag. -/
def retainedParameter (query : List (String × Variant)) : Option Variant :=
  (query.filter fun pair ↦ pair.1 = "retained").getLast?.map Prod.snd

/-! ## The invariant -/

/-- The list of handlers keeps its two callbacks. -/
def HandlersOf (payload : Option Variant) (list : List VmslhCallback) : Prop :=
  ∃ qos, list = [⟨.setQosMode, qos⟩, ⟨.setRetained, payload⟩]

theorem HandlersOf.addRetained {payload : Option Variant} {list : List VmslhCallback}
    (h : HandlersOf payload list) (other : Option Variant) :
    HandlersOf other (vmslhAdd .setRetained other list) := by
  rcases h with ⟨qos, rfl⟩
  exact ⟨qos, rfl⟩

theorem HandlersOf.run {payload : Option Variant} {list : List VmslhCallback}
    (h : HandlersOf payload list) (message : PubMessage) :
    (vmslhRun list message).retained = decide (payload = some (.boolean true)) := by
  rcases h with ⟨qos, rfl⟩
  simp [vmslhRun, Callback.run, pahoSetRetained]

theorem HandlersOf.parameter {payload : Option Variant} {list : List VmslhCallback}
    (h : HandlersOf payload list) (pair : String × Variant) :
    HandlersOf (if pair.1 = "retained" then some pair.2 else payload)
      (pahoSetParameterByName list pair) := by
  rcases h with ⟨qos, rfl⟩
  by_cases hqos : pair.1 = "qos-mode"
  · refine ⟨some pair.2, ?_⟩
    simp [pahoSetParameterByName, hqos, vmslhAdd]
  · by_cases hretained : pair.1 = "retained"
    · refine ⟨qos, ?_⟩
      simp [pahoSetParameterByName, hretained, vmslhAdd]
    · refine ⟨qos, ?_⟩
      simp [pahoSetParameterByName, hqos, hretained]

theorem handlersOf_userParameters (query : List (String × Variant)) :
    HandlersOf (retainedParameter query) (pahoSetUserParameters query) := by
  induction query using List.reverseRecOn with
  | nil => exact ⟨none, rfl⟩
  | append_singleton query pair ih =>
    have hparameter : retainedParameter (query ++ [pair]) =
        if pair.1 = "retained" then some pair.2 else retainedParameter query := by
      by_cases hretained : pair.1 = "retained"
      · simp [retainedParameter, List.filter_append, hretained]
      · simp [retainedParameter, List.filter_append, hretained]
    have hhandlers : pahoSetUserParameters (query ++ [pair]) =
        pahoSetParameterByName (pahoSetUserParameters query) pair := by
      rw [pahoSetUserParameters, List.foldl_append]
      rfl
    rw [hparameter, hhandlers]
    exact ih.parameter pair

/-- While the threads take turns, the path belongs to the thread that is about to send and the
retained flag to the notification. -/
structure TurnsKept (state : PublishState) : Prop where
  handlers : ∃ payload, HandlersOf payload state.beforeSend ∧
    decide (payload = some (.boolean true)) = state.notify.overrides
  notifyPath : state.notify.addresses = true → state.path = maestroNotifications
  replyPath : state.reply ≠ .idle → state.path = maestroTopic
  published : Unmixed state

namespace TurnsKept

variable {state : PublishState}

theorem retained (h : TurnsKept state) :
    (vmslhRun state.beforeSend .initial).retained = state.notify.overrides := by
  rcases h.handlers with ⟨payload, hhandlers, hpayload⟩
  rw [hhandlers.run, hpayload]

/-- The handlers at a phase that overrides the flag as the present one does. -/
theorem handlersAt (h : TurnsKept state) {phase : NotifyPhase}
    (hphase : state.notify.overrides = phase.overrides) :
    ∃ payload, HandlersOf payload state.beforeSend ∧
      decide (payload = some (.boolean true)) = phase.overrides :=
  hphase ▸ h.handlers

/-- A send of a message that is proper under the present path and handlers. -/
theorem send (h : TurnsKept state) (kind : MessageKind) (content : List UInt8) (accepted : Bool)
    (hproper : PublishedMessage.Proper
      ⟨kind, state.path, vmslhRun state.beforeSend .initial, content⟩) :
    Unmixed (state.pahoSend kind content accepted) := by
  cases accepted with
  | false => exact h.published
  | true =>
    intro message hmessage
    rcases List.mem_append.mp hmessage with hold | hnew
    · exact h.published message hold
    · rw [List.mem_singleton.mp hnew]
      exact hproper

theorem next {after : PublishState} {step : PublishStep} (h : TurnsKept state)
    (hguard : TakesTurns state step) (hnext : publishNext state step = some after) :
    TurnsKept after := by
  have hretained := h.retained
  cases step with
  | notifySetPath content =>
    simp only [publishNext] at hnext
    split at hnext
    · next hnotify =>
      rw [← Option.some.inj hnext]
      refine ⟨h.handlersAt ?_, fun _ ↦ rfl, fun hreply ↦ absurd hguard hreply, h.published⟩
      rw [hnotify]
      rfl
    · cases hnext
  | notifyRetain =>
    simp only [publishNext] at hnext
    split at hnext
    · next content hnotify =>
      rw [← Option.some.inj hnext]
      rcases h.handlers with ⟨payload, hhandlers, -⟩
      refine ⟨⟨_, hhandlers.addRetained _, rfl⟩, fun _ ↦ h.notifyPath ?_, h.replyPath, h.published⟩
      rw [hnotify]
      rfl
    · cases hnext
  | notifySend accepted =>
    simp only [publishNext] at hnext
    split at hnext
    · next content hnotify =>
      rw [← Option.some.inj hnext]
      have hproper : PublishedMessage.Proper
          ⟨.notification, state.path, vmslhRun state.beforeSend .initial, content⟩ := by
        constructor
        · exact h.notifyPath (by rw [hnotify]; rfl)
        · rw [hretained, hnotify]
          rfl
      have hhandlers := h.handlersAt (show _ = NotifyPhase.sent.overrides by rw [hnotify]; rfl)
      have hsent := h.send _ _ accepted hproper
      cases accepted with
      | true => exact ⟨hhandlers, fun haddresses ↦ (by cases haddresses), h.replyPath, hsent⟩
      | false => exact ⟨hhandlers, fun haddresses ↦ (by cases haddresses), h.replyPath, hsent⟩
    · cases hnext
  | notifyRestore =>
    simp only [publishNext] at hnext
    split at hnext
    · rw [← Option.some.inj hnext]
      rcases h.handlers with ⟨payload, hhandlers, -⟩
      exact ⟨⟨_, hhandlers.addRetained _, rfl⟩, fun haddresses ↦ (by cases haddresses), h.replyPath,
        h.published⟩
    · cases hnext
  | replySetPath content =>
    simp only [publishNext] at hnext
    split at hnext
    · rw [← Option.some.inj hnext]
      refine ⟨h.handlers, fun haddresses ↦ ?_, fun _ ↦ rfl, h.published⟩
      simp [show state.notify.addresses = false from hguard] at haddresses
    · cases hnext
  | replySend accepted =>
    simp only [publishNext] at hnext
    split at hnext
    · next content hreply =>
      rw [← Option.some.inj hnext]
      have hproper : PublishedMessage.Proper
          ⟨.reply, state.path, vmslhRun state.beforeSend .initial, content⟩ := by
        constructor
        · exact h.replyPath (by simp [hreply])
        · exact hretained.trans hguard
      have hsent := h.send _ _ accepted hproper
      cases accepted with
      | true => exact ⟨h.handlers, h.notifyPath, fun hidle ↦ absurd rfl hidle, hsent⟩
      | false => exact ⟨h.handlers, h.notifyPath, fun hidle ↦ absurd rfl hidle, hsent⟩
    · cases hnext

end TurnsKept

/-- In every run in which the threads take turns, on a connection that was not asked to retain its
messages, replies and notifications do not mix. -/
theorem reachable_unmixed {path : String} {query : List (String × Variant)} {state : PublishState}
    (hquery : retainedParameter query ≠ some (.boolean true))
    (h : (publishMachine path query).ReachableUnder TakesTurns state) : Unmixed state := by
  have hkept : TurnsKept state := by
    apply h.invariant
    · refine ⟨⟨_, handlersOf_userParameters query, ?_⟩, fun haddresses ↦ ?_, fun hreply ↦ ?_, ?_⟩
      · simp [hquery, publishMachine, NotifyPhase.overrides]
      · cases haddresses
      · exact absurd rfl hreply
      · simp [Unmixed, publishMachine]
    · intro before step after hbefore hguard hnext
      exact hbefore.next hguard hnext
  exact hkept.published

/-- A notification followed by a reply. -/
theorem turns_unmixed :
    ∃ state, (publishMachine "" []).ReachableUnder TakesTurns state ∧
      state.published.length = 2 ∧ Unmixed state := by
  have hinitial : (publishMachine "" []).ReachableUnder TakesTurns (publishMachine "" []).initial :=
    .initial
  have hpath := hinitial.step (show TakesTurns _ (.notifySetPath [1]) from rfl) rfl
  have hretain := hpath.step (show TakesTurns _ .notifyRetain from trivial) rfl
  have hsend := hretain.step (show TakesTurns _ (.notifySend true) from trivial) rfl
  have hrestore := hsend.step (show TakesTurns _ .notifyRestore from trivial) rfl
  have hreply := hrestore.step (show TakesTurns _ (.replySetPath [2]) from rfl) rfl
  have hanswer := hreply.step (show TakesTurns _ (.replySend true) from rfl) rfl
  exact ⟨_, hanswer, rfl, reachable_unmixed (by decide) hanswer⟩

/-- The player sets the path for a reply between the change of the path and the send of a
notification, and sends the reply before the retained flag is restored. -/
def replyWithinNotification : List PublishStep :=
  [.notifySetPath [1], .replySetPath [2], .notifyRetain, .notifySend true, .replySend true,
    .notifyRestore]

theorem replyWithinNotification_not_unmixed :
    ¬ ∀ state, (publishMachine "" []).Reachable state → Unmixed state := by
  intro hevery
  have hrun : ∃ state, (publishMachine "" []).run (publishMachine "" []).initial
      replyWithinNotification = some state ∧
      ⟨.notification, maestroTopic, ⟨0, true⟩, [1]⟩ ∈ state.published :=
    ⟨_, rfl, List.mem_cons_self⟩
  rcases hrun with ⟨state, hrun, hmessage⟩
  have hproper := hevery state (Machine.reachable_of_run _ hrun) _ hmessage
  exact absurd hproper.1 (by decide)

end MsgPerf.Maestro
