import MsgPerf.Daemon.Remote
import MsgPerf.Daemon.Traffic

/-!
# What reaches the handlers

A handler reads the arm of the payload that its command stands for, and the collector of the tool
the arm that the type selects.  Every note that goes to a daemon or to the forward daemon is read
correctly as long as no thread sends under the path of the other one: requests stay on the topics
of the daemons, responses on the topic of the tool, and the notifications are the only notes that
both sides take.

When the main thread changes the path between the two steps of the player, the reply of a PING goes
to the notifications, and every daemon takes it for a request.
-/

namespace MsgPerf.Daemon

open MsgPerf.Library MsgPerf.Maestro

/-! ## Bytes of compatible notes -/

/-- A consumer that is compatible with a note reads filled arms of its bytes. -/
theorem readsFilledArms_pieces {mp : Msgpack} (hlawful : mp.Lawful) {value : NoteValue}
    {consumer : Consumer}
    (hcompatible : consumer.Compatible value.type.code value.command.code) :
    ReadsFilledArms mp (value.pieces mp).flatten consumer := by
  intro state type command hdecode htype hcommand arm hread
  rcases maestroDeserializeNote_pieces hlawful value Status.new with
    ⟨after, hafter, _, hrepresents⟩
  obtain rfl : state = after := (Prod.mk.inj (Option.some.inj (hdecode.symm.trans hafter))).2
  obtain rfl := Option.some.inj (htype.symm.trans hrepresents.type)
  obtain rfl := Option.some.inj (hcommand.symm.trans hrepresents.command)
  rcases maestroDeserializeNote_delivered mp _ hdecode with
    ⟨wireType, wireCommand, hhead, hstored, hdelivered⟩
  obtain rfl := Option.some.inj (hdelivered.type.symm.trans htype)
  obtain rfl := Option.some.inj (hdelivered.command.symm.trans hcommand)
  have hfits := (compatible_iff consumer _ _).mp hcompatible arm hread
  exact ⟨hfits, hfits.decoded hstored, hdelivered.payload hfits.wireLayout_ne_nil⟩

/-! ## Whole runs -/

/-- What the daemons may take: a request of the tool, or a notification. -/
def NoteMessage.ForDaemons (message : NoteMessage) : Prop :=
  message.type = .request ∧ isVerdict message.command = false ∨
    message.type = .notification ∧ message.command ≠ .set ∧ message.command ≠ .ping

/-- What the forward daemon may take. -/
def NoteMessage.ForTool (message : NoteMessage) : Prop :=
  message.type = .response ∨ message.type = .notification

theorem NoteMessage.ForDaemons.compatible {message : NoteMessage} (h : message.ForDaemons)
    (kind : Kind) (running : Bool) :
    (Consumer.daemon kind running).Compatible message.type.code message.command.code := by
  rcases message with ⟨type, command⟩
  rcases h with ⟨rfl, hcommand⟩ | ⟨rfl, hset, hping⟩
  · refine ⟨fun _ ↦ rfl, ?_⟩
    rintro ⟨hfail, -⟩
    cases command <;> simp_all [isVerdict, Command.code]
  · refine ⟨?_, fun _ ↦ rfl⟩
    rintro (hcode | hcode)
    · cases command <;> simp_all [Command.code]
    · cases command <;> simp_all [Command.code]

theorem NoteMessage.ForTool.compatible {message : NoteMessage} (h : message.ForTool) :
    Consumer.collector.Compatible message.type.code message.command.code :=
  h.imp (congrArg RequestType.code) (congrArg RequestType.code)

namespace Network

variable {Daemon : Type} {models : Daemon → DaemonModel}

/-- A reply is sent under the path that the player has set. -/
def KeepsPath (network : Network models) : NetworkStep models → Prop
  | .replySend daemon _ => (network.party daemon).path = .maestro
  | _ => True

/-- Every note is on its way to those who can read it. -/
structure Proper (network : Network models) : Prop where
  orderly : network.Orderly
  requests : ∀ request ∈ network.requests,
    request.1 ∉ cliTopics ∧ isVerdict request.2 = false
  inbox : ∀ daemon, ∀ message ∈ network.inbox daemon, message.ForDaemons
  forward : ∀ message ∈ network.forward, message.ForTool

/-- Requests go to the daemons. -/
theorem maestroCmd_proper (command : Script.Command) :
    ∀ request ∈ maestroCmd command, request.1 ∉ cliTopics ∧ isVerdict request.2 = false := by
  cases command <;> decide

variable {network after : Network models}

/-- A message that is published under a topic whose subscribers can read it. -/
theorem Proper.publish (h : network.Proper) (topic : Topic) (message : NoteMessage)
    (hdaemons : topic = .maestro ∨ message.ForDaemons)
    (htool : topic ∉ cliTopics ∨ message.ForTool) (delivery : Delivery Daemon) :
    (network.publish topic message delivery).Proper where
  orderly := h.orderly
  requests := h.requests
  inbox := by
    intro daemon other hother
    rcases Inboxes.mem_deliver hother with hold | ⟨hrecipient, rfl⟩
    · exact h.inbox daemon other hold
    · rcases hdaemons with rfl | hmessage
      · rw [recipient_maestro] at hrecipient
        cases hrecipient
      · exact hmessage
  forward := by
    intro other hother
    simp only [Network.publish] at hother
    split at hother
    next hforward =>
      rcases List.mem_append.mp hother with hold | hnew
      · exact h.forward other hold
      · obtain rfl := List.mem_singleton.mp hnew
        exact htool.resolve_left fun hnot ↦ hnot hforward.2.1
    · exact h.forward other hother

variable [DecidableEq Daemon]

theorem Proper.next {step : NetworkStep models} (h : network.Proper)
    (hkeeps : network.KeepsPath step) (hnext : network.next step = some after) :
    after.Proper := by
  have horderly := h.orderly.next hnext
  cases next_cases hnext with
  | command command hrequests =>
    exact ⟨horderly, maestroCmd_proper command, h.inbox, h.forward⟩
  | request delivery topic command rest hrequests =>
    have hrequest := h.requests (topic, command) (by rw [hrequests]; exact List.mem_cons_self)
    have hpublish := h.publish topic ⟨.request, command⟩
      (.inr (.inl ⟨rfl, hrequest.2⟩)) (.inl hrequest.1) delivery
    refine ⟨horderly, ?_, hpublish.inbox, hpublish.forward⟩
    intro request hmem
    exact h.requests request (by rw [hrequests]; exact List.mem_cons_of_mem _ hmem)
  | ignored daemon choice message rest hreply hinbox hhandler =>
    exact ⟨horderly, h.requests, fun other message hmem ↦
      h.inbox other message (Inboxes.mem_take hmem), h.forward⟩
  | played daemon choice message rest handler state command hreply hinbox hhandler hhandle =>
    exact ⟨horderly, h.requests, fun other message hmem ↦
      h.inbox other message (Inboxes.mem_take hmem), h.forward⟩
  | replySetPath | main | notifySetPath => exact ⟨horderly, h.requests, h.inbox, h.forward⟩
  | replySend daemon delivery message hreply =>
    have hmessage := (h.orderly daemon).reply message (by rw [hreply]; rfl)
    have hpublish := h.publish _ message (.inl hkeeps) (.inr (.inl hmessage.1)) delivery
    exact ⟨horderly, hpublish.requests, hpublish.inbox, hpublish.forward⟩
  | notifySend daemon delivery message hnotify =>
    have hmessage := (h.orderly daemon).notify message (by rw [hnotify]; rfl)
    have hdaemons : message.ForDaemons := by
      refine .inr ⟨hmessage.1, ?_, ?_⟩
      · rintro hset
        rw [hset] at hmessage
        exact absurd hmessage.2 (by decide)
      · rintro hping
        rw [hping] at hmessage
        exact absurd hmessage.2 (by decide)
    have hpublish := h.publish (network.party daemon).path message (.inr hdaemons)
      (.inr (.inr hmessage.1)) delivery
    exact ⟨horderly, hpublish.requests, hpublish.inbox, hpublish.forward⟩
  | disconnect daemon delivery =>
    have hpublish := h.publish .notifications ⟨.notification, .abnormalDisconnect⟩
      (.inr (.inr ⟨rfl, by decide, by decide⟩)) (.inr (.inr rfl)) delivery
    exact ⟨horderly, hpublish.requests, hpublish.inbox, hpublish.forward⟩
  | collect =>
    exact ⟨horderly, h.requests, h.inbox, fun message hmem ↦
      h.forward message (List.mem_of_mem_tail hmem)⟩

variable {path : Daemon → Topic} {retained : Option Bool}

theorem proper_initial : (machine models path retained).initial.Proper where
  orderly := orderly_initial
  requests := by simp [machine]
  inbox := by
    intro daemon message hmessage
    obtain ⟨successful, -, rfl⟩ := List.mem_map.mp hmessage
    cases successful
    · exact .inr ⟨rfl, by decide, by decide⟩
    · exact .inr ⟨rfl, by decide, by decide⟩
  forward := by simp [machine]

/-- **Exchange.**  While every reply is sent under the path that the player has set, each note that
waits for a daemon or for the forward daemon is one whose bytes that consumer reads correctly: it
reads only arms of the payload that the deserializer has filled. -/
theorem reachable_readsFilledArms {mp : Msgpack} (hlawful : mp.Lawful)
    (h : (machine models path retained).ReachableUnder KeepsPath network) (value : NoteValue) :
    (∀ daemon running, ⟨value.type, value.command⟩ ∈ network.inbox daemon →
      ReadsFilledArms mp (value.pieces mp).flatten (.daemon (models daemon).kind running)) ∧
    (⟨value.type, value.command⟩ ∈ network.forward →
      ReadsFilledArms mp (value.pieces mp).flatten .collector) := by
  have hproper : network.Proper := by
    apply Machine.ReachableUnder.invariant h
    · exact proper_initial
    · intro before step reached hbefore hkeeps hnext
      exact hbefore.next hkeeps hnext
  constructor
  · intro daemon running hmessage
    apply readsFilledArms_pieces hlawful
    exact (hproper.inbox daemon _ hmessage).compatible (models daemon).kind running
  · intro hmessage
    apply readsFilledArms_pieces hlawful
    exact (hproper.forward _ hmessage).compatible

theorem five_isText : 0 ∉ ([0x35] : List UInt8) ∧ ([0x35] : List UInt8).length < 2 ^ 31 := by
  decide

/-- A request for a rate of five messages. -/
def rateNote : NoteValue := setNote 6 ⟨[0x35], five_isText⟩

/-- The request that the tool has published waits for the daemon. -/
theorem rateNote_readsFilledArms :
    ∃ network, senderdNetwork.ReachableUnder KeepsPath network ∧
      ⟨rateNote.type, rateNote.command⟩ ∈ network.inbox () ∧
      ReadsFilledArms msgpackFormat (rateNote.pieces msgpackFormat).flatten
        (.daemon .senderd false) := by
  have hrun : ∃ network, senderdNetwork.run senderdNetwork.initial
      [.command .set, .request toAll] = some network ∧
        ⟨rateNote.type, rateNote.command⟩ ∈ network.inbox () := ⟨_, rfl, List.mem_cons_self⟩
  obtain ⟨network, hrun, hmessage⟩ := hrun
  have hreachable : senderdNetwork.ReachableUnder KeepsPath network := by
    apply Machine.ReachableUnder.run .initial _ hrun
    intro step hstep state
    fin_cases hstep <;> trivial
  have hreads := reachable_readsFilledArms msgpackFormat_lawful hreachable rateNote
  exact ⟨network, hreachable, hmessage, hreads.1 () false hmessage⟩

/-! ## The bytes behind a step -/

/-- The message that a note is followed by. -/
def messageOf (value : NoteValue) : NoteMessage := ⟨value.type, value.command⟩

/-- When a daemon takes a note, the player publishes for the bytes of that note exactly the reply
that the daemon then has to send, if its handlers answer as the model of the daemon does. -/
theorem handle_bytes {mp : Msgpack} (hlawful : mp.Lawful) (pinfo : PlayerInfo)
    (play : Handler → MsgPerf.Library.ByteMemory.Heap → NoteValue) {daemon : Daemon}
    {choice : (models daemon).Choice} {value : NoteValue} {rest : List NoteMessage}
    (hinbox : network.inbox daemon = messageOf value :: rest)
    (hplay : ∀ handler state command,
      (models daemon).handle handler choice (network.party daemon).state = some (state, command) →
        ∀ heap, (play handler heap).command = command)
    (hnext : network.next (.handle daemon choice) = some after) :
    ∃ replies : List NoteValue,
      maestroPlayerHandleNote pinfo mp (instruments (models daemon).kind.newSheet play)
          (value.pieces mp).flatten Status.new =
        some (replies.map (answerBytes pinfo mp)) ∧
      replies.map (fun reply ↦ messageOf (reply.reply pinfo)) =
        (after.party daemon).reply.message?.toList := by
  obtain ⟨state, -, -, hpublished⟩ := maestroPlayerHandleNote_pieces pinfo hlawful
    (models daemon).kind.newSheet play value
  refine ⟨((models daemon).kind.newSheet.handler? value.command.code).toList.map fun handler ↦
    play handler state.heap, ?_, ?_⟩
  · rw [hpublished, List.map_map]
    rfl
  · cases next_cases hnext with
    | ignored _ _ message _ hreply hfirst hhandler =>
      rw [hinbox] at hfirst
      obtain rfl := (List.cons.inj hfirst).1
      simp only [messageOf] at hhandler
      simp [hhandler, hreply, SendPhase.message?]
    | played _ _ message _ handler played command hreply hfirst hhandler hhandle =>
      rw [hinbox] at hfirst
      obtain rfl := (List.cons.inj hfirst).1
      have hcommand := hplay handler played command hhandle state.heap
      simp only [messageOf] at hhandler
      simp [hhandler, setParty, SendPhase.message?, messageOf, NoteValue.reply, hcommand]

/-! ## Replies under the path of the main thread -/

/-- The player answers a PING while the main thread announces its verdict. -/
def pingRace : List (NetworkStep fun _ : Unit ↦ MainState.model .senderd) :=
  testRun ++ [.command .ping, .request toAll, .handle () SetChoice.other, .replySetPath (),
    .notifySetPath (), .replySend () toAll]

/-- The daemon then finds the reply among its own requests. -/
theorem pingRace_not_compatible :
    ∃ network, senderdNetwork.run senderdNetwork.initial pingRace = some network ∧
      ∃ message ∈ network.inbox (), ∀ running,
        ¬ (Consumer.daemon .senderd running).Compatible message.type.code message.command.code := by
  refine ⟨_, rfl, ⟨.response, .ping⟩, List.mem_cons_self, ?_⟩
  intro running hcompatible
  exact absurd (hcompatible.1 (.inr rfl)) (by decide)

end Network

end MsgPerf.Daemon
