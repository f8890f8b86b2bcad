import MsgPerf.Daemon.Announcing
import MsgPerf.Library.PubSub
import MsgPerf.Maestro.Script

/-!
# The daemons, the command line tool and the broker between them

The command line tool publishes requests.  A daemon takes the notes of the three topics that it has
subscribed to, its handlers answer on the topic of the tool, and its main thread announces the end
of a test on the topic of the notifications, to which every daemon has subscribed as well, itself
included.  The forward daemon of the tool takes what comes on its two topics.

A note is followed by its type and its command.  The broker hands a message to any of the
subscribers that it reaches and loses it for the others; it keeps the order of each inbox, and may
have a retained verdict for the daemons when they subscribe.  When the connection of a daemon breaks
the broker publishes its will.  The two threads of a daemon share the path of the context: a thread
sets it and sends in two steps, and the other thread may come between them.

Everything that a step can do is listed by `Network.Case`.
-/

namespace MsgPerf.Daemon

open MsgPerf.Library MsgPerf.Maestro

/-! ## Topics -/

/-- The topics of `maestro_topics.h`. -/
inductive Topic where
  | allDaemons | notifications | maestro | senderDaemons | receiverDaemons | inspectorDaemons
  deriving DecidableEq, Repr

def Topic.path : Topic → String
  | .allDaemons => "/mpt/daemon"
  | .notifications => "/mpt/notifications"
  | .maestro => "/mpt/maestro"
  | .senderDaemons => "/mpt/daemon/sender"
  | .receiverDaemons => "/mpt/daemon/receiver"
  | .inspectorDaemons => "/mpt/daemon/brokerd"

/-- The locations of the sheets of the daemons. -/
def Kind.locations : Kind → List Topic
  | .senderd => [.allDaemons, .notifications, .senderDaemons]
  | .receiverd => [.allDaemons, .notifications, .receiverDaemons]
  | .brokerd => [.allDaemons, .notifications, .inspectorDaemons]

/-- `MAESTRO_CLI_TOPICS`. -/
def cliTopics : List Topic := [.maestro, .notifications]

/-- The requests that the function of a command publishes, in order. -/
def maestroCmd : Script.Command → List (Topic × Command)
  | .startReceiver => [(.receiverDaemons, .startReceiver)]
  | .stopReceiver => [(.receiverDaemons, .stopReceiver)]
  | .startSender => [(.senderDaemons, .startSender)]
  | .stopSender => [(.senderDaemons, .stopSender)]
  | .startInspector => [(.inspectorDaemons, .startInspector)]
  | .stopInspector => [(.inspectorDaemons, .stopInspector)]
  | .startAll => [(.inspectorDaemons, .startInspector), (.receiverDaemons, .startReceiver),
      (.senderDaemons, .startSender)]
  | .stopAll => [(.senderDaemons, .stopSender), (.receiverDaemons, .stopReceiver),
      (.inspectorDaemons, .stopInspector)]
  | .collect => []
  | .flush => [(.allDaemons, .flush)]
  | .set => [(.allDaemons, .set)]
  | .ping => [(.allDaemons, .ping)]
  | .stats => [(.allDaemons, .stats)]
  | .halt => [(.allDaemons, .halt)]

/-! ## The network -/

/-- A note on its way, by its type and its command. -/
structure NoteMessage where
  type : RequestType
  command : Command
  deriving DecidableEq, Repr

/-- A message that a thread has to send: not yet, behind its decision, behind the change of the
path. -/
inductive SendPhase where
  | idle
  | due (message : NoteMessage)
  | addressed (message : NoteMessage)
  deriving DecidableEq, Repr

/-- A daemon with the path of its context and the phases of its two threads.  The counters are ghost
fields: the STARTs that were answered with OK and the verdicts that were announced. -/
structure Party (model : DaemonModel) where
  state : model.State
  connected : Bool
  path : Topic
  reply : SendPhase
  notify : SendPhase
  accepted : ℕ
  announced : ℕ

/-- The fate of a message: whether it is sent at all, and whom it reaches. -/
structure Delivery (Daemon : Type) where
  sent : Bool
  reaches : Daemon → Bool
  forwarded : Bool

variable {Daemon : Type}

/-- The daemons, what the broker holds for them and for the forward daemon, and what the current
command of the tool has still to publish.  The counters are ghost fields: the requests that the tool
has made and the messages that daemons have published. -/
structure Network (models : Daemon → DaemonModel) where
  party : (daemon : Daemon) → Party (models daemon)
  inbox : Inboxes Daemon NoteMessage
  forward : List NoteMessage
  requests : List (Topic × Command)
  requested : ℕ
  published : ℕ

inductive NetworkStep (models : Daemon → DaemonModel) where
  | command (command : Script.Command)
  | request (delivery : Delivery Daemon)
  | handle (daemon : Daemon) (choice : (models daemon).Choice)
  | replySetPath (daemon : Daemon)
  | replySend (daemon : Daemon) (delivery : Delivery Daemon)
  | main (daemon : Daemon) (label : (models daemon).MainLabel)
  | notifySetPath (daemon : Daemon)
  | notifySend (daemon : Daemon) (delivery : Delivery Daemon)
  | disconnect (daemon : Daemon) (delivery : Delivery Daemon)
  | collect

namespace Network

variable {models : Daemon → DaemonModel}

/-- Those whom a message under the topic reaches. -/
def recipient (models : Daemon → DaemonModel) (topic : Topic) (delivery : Delivery Daemon)
    (daemon : Daemon) : Bool :=
  delivery.sent && decide (topic ∈ (models daemon).kind.locations) && delivery.reaches daemon

def publish (network : Network models) (topic : Topic) (message : NoteMessage)
    (delivery : Delivery Daemon) : Network models :=
  { network with
    inbox := network.inbox.deliver message (recipient models topic delivery)
    forward :=
      if delivery.sent = true ∧ topic ∈ cliTopics ∧ delivery.forwarded = true then
        network.forward ++ [message]
      else network.forward }

/-- A message published by a daemon. -/
def publishCounted (network : Network models) (topic : Topic) (message : NoteMessage)
    (delivery : Delivery Daemon) : Network models :=
  { network.publish topic message delivery with
    published := network.published + if delivery.sent then 1 else 0 }

variable [DecidableEq Daemon]

def setParty (network : Network models) (daemon : Daemon) (party : Party (models daemon)) :
    Network models :=
  { network with party := Function.update network.party daemon party }

/-- The player takes the oldest note.  A note whose command no instrument plays is ignored. -/
def handled (network : Network models) (daemon : Daemon) (message : NoteMessage)
    (choice : (models daemon).Choice) : Option (Network models) :=
  let party := network.party daemon
  let taken := { network with inbox := network.inbox.take daemon }
  match (models daemon).kind.newSheet.handler? message.command.code with
  | none => some taken
  | some handler =>
      ((models daemon).handle handler choice party.state).map fun (state, command) ↦
        taken.setParty daemon { party with
          state := state
          reply := .due ⟨.response, command⟩
          accepted := party.accepted + accepts handler command }

/-- The phase of the main thread behind a step. -/
def notifyPhase (announced : Option Command) : SendPhase :=
  announced.elim .idle fun command ↦ .due ⟨.notification, command⟩

def next (network : Network models) : NetworkStep models → Option (Network models)
  | .command command =>
      match network.requests with
      | [] => some { network with requests := maestroCmd command }
      | _ => none
  | .request delivery =>
      match network.requests with
      | [] => none
      | (topic, command) :: rest =>
          some { network.publish topic ⟨.request, command⟩ delivery with
            requests := rest
            requested := network.requested + 1 }
  | .handle daemon choice =>
      match (network.party daemon).reply, network.inbox daemon with
      | .idle, message :: _ => network.handled daemon message choice
      | _, _ => none
  | .replySetPath daemon =>
      match (network.party daemon).reply with
      | .due message =>
          some (network.setParty daemon
            { network.party daemon with path := .maestro, reply := .addressed message })
      | _ => none
  | .replySend daemon delivery =>
      match (network.party daemon).reply with
      | .addressed message =>
          some ((network.publishCounted (network.party daemon).path message delivery).setParty
            daemon { network.party daemon with reply := .idle })
      | _ => none
  | .main daemon label =>
      match (network.party daemon).notify with
      | .idle =>
          ((models daemon).main label (network.party daemon).state).map fun (state, announced) ↦
            network.setParty daemon { network.party daemon with
              state := state
              notify := notifyPhase announced
              announced := (network.party daemon).announced + announced.toList.length }
      | _ => none
  | .notifySetPath daemon =>
      match (network.party daemon).notify with
      | .due message =>
          some (network.setParty daemon
            { network.party daemon with path := .notifications, notify := .addressed message })
      | _ => none
  | .notifySend daemon delivery =>
      match (network.party daemon).notify with
      | .addressed message =>
          some ((network.publishCounted (network.party daemon).path message delivery).setParty
            daemon { network.party daemon with notify := .idle })
      | _ => none
  | .disconnect daemon delivery =>
      if (network.party daemon).connected then
        some ((network.publish .notifications ⟨.notification, .abnormalDisconnect⟩
          delivery).setParty daemon { network.party daemon with connected := false })
      else none
  | .collect => some { network with forward := network.forward.tail }

/-- The inboxes when the daemons have subscribed: the verdict that the broker has retained. -/
def retainedInbox (retained : Option Bool) : List NoteMessage :=
  retained.toList.map fun successful ↦
    ⟨.notification, if successful then .notifySuccess else .notifyFail⟩

/-- Daemons that have connected, with any path in the URL of the broker. -/
def machine (models : Daemon → DaemonModel) (path : Daemon → Topic) (retained : Option Bool) :
    Machine (Network models) (NetworkStep models) where
  initial :=
    { party := fun daemon ↦ ⟨(models daemon).initial, true, path daemon, .idle, .idle, 0, 0⟩
      inbox := fun _ ↦ retainedInbox retained
      forward := []
      requests := []
      requested := 0
      published := 0 }
  next := next

/-! ## What a step does -/

/-- Everything that a step can do. -/
inductive Case (network : Network models) : NetworkStep models → Network models → Prop where
  | command (command : Script.Command) : network.requests = [] →
      Case network (.command command) { network with requests := maestroCmd command }
  | request (delivery : Delivery Daemon) (topic : Topic) (command : Command)
      (rest : List (Topic × Command)) : network.requests = (topic, command) :: rest →
      Case network (.request delivery)
        { network.publish topic ⟨.request, command⟩ delivery with
          requests := rest
          requested := network.requested + 1 }
  | ignored (daemon : Daemon) (choice : (models daemon).Choice) (message : NoteMessage)
      (rest : List NoteMessage) : (network.party daemon).reply = .idle →
      network.inbox daemon = message :: rest →
      (models daemon).kind.newSheet.handler? message.command.code = none →
      Case network (.handle daemon choice) { network with inbox := network.inbox.take daemon }
  | played (daemon : Daemon) (choice : (models daemon).Choice) (message : NoteMessage)
      (rest : List NoteMessage) (handler : Handler) (state : (models daemon).State)
      (command : Command) : (network.party daemon).reply = .idle →
      network.inbox daemon = message :: rest →
      (models daemon).kind.newSheet.handler? message.command.code = some handler →
      (models daemon).handle handler choice (network.party daemon).state = some (state, command) →
      Case network (.handle daemon choice)
        ({ network with inbox := network.inbox.take daemon }.setParty daemon
          { network.party daemon with
            state := state
            reply := .due ⟨.response, command⟩
            accepted := (network.party daemon).accepted + accepts handler command })
  | replySetPath (daemon : Daemon) (message : NoteMessage) :
      (network.party daemon).reply = .due message →
      Case network (.replySetPath daemon) (network.setParty daemon
        { network.party daemon with path := .maestro, reply := .addressed message })
  | replySend (daemon : Daemon) (delivery : Delivery Daemon) (message : NoteMessage) :
      (network.party daemon).reply = .addressed message →
      Case network (.replySend daemon delivery)
        ((network.publishCounted (network.party daemon).path message delivery).setParty daemon
          { network.party daemon with reply := .idle })
  | main (daemon : Daemon) (label : (models daemon).MainLabel) (state : (models daemon).State)
      (announced : Option Command) : (network.party daemon).notify = .idle →
      (models daemon).main label (network.party daemon).state = some (state, announced) →
      Case network (.main daemon label) (network.setParty daemon { network.party daemon with
        state := state
        notify := notifyPhase announced
        announced := (network.party daemon).announced + announced.toList.length })
  | notifySetPath (daemon : Daemon) (message : NoteMessage) :
      (network.party daemon).notify = .due message →
      Case network (.notifySetPath daemon) (network.setParty daemon
        { network.party daemon with path := .notifications, notify := .addressed message })
  | notifySend (daemon : Daemon) (delivery : Delivery Daemon) (message : NoteMessage) :
      (network.party daemon).notify = .addressed message →
      Case network (.notifySend daemon delivery)
        ((network.publishCounted (network.party daemon).path message delivery).setParty daemon
          { network.party daemon with notify := .idle })
  | disconnect (daemon : Daemon) (delivery : Delivery Daemon) :
      Case network (.disconnect daemon delivery)
        ((network.publish .notifications ⟨.notification, .abnormalDisconnect⟩ delivery).setParty
          daemon { network.party daemon with connected := false })
  | collect : Case network .collect { network with forward := network.forward.tail }

variable {network after : Network models}

theorem next_cases {step : NetworkStep models} (hnext : network.next step = some after) :
    Case network step after := by
  cases step with
  | command command =>
    simp only [next] at hnext
    split at hnext
    next hrequests =>
      obtain rfl := Option.some.inj hnext
      exact .command command hrequests
    · cases hnext
  | request delivery =>
    simp only [next] at hnext
    split at hnext
    · cases hnext
    next topic command rest hrequests =>
      obtain rfl := Option.some.inj hnext
      exact .request delivery topic command rest hrequests
  | handle daemon choice =>
    simp only [next] at hnext
    split at hnext
    next message rest hreply hinbox =>
      rw [handled] at hnext
      split at hnext
      next hhandler =>
        obtain rfl := Option.some.inj hnext
        exact .ignored daemon choice message rest hreply hinbox hhandler
      next handler hhandler =>
        obtain ⟨⟨state, command⟩, hhandle, rfl⟩ := Option.map_eq_some_iff.mp hnext
        exact .played daemon choice message rest handler state command hreply hinbox hhandler
          hhandle
    · cases hnext
  | replySetPath daemon =>
    simp only [next] at hnext
    split at hnext
    next message hreply =>
      obtain rfl := Option.some.inj hnext
      exact .replySetPath daemon message hreply
    · cases hnext
  | replySend daemon delivery =>
    simp only [next] at hnext
    split at hnext
    next message hreply =>
      obtain rfl := Option.some.inj hnext
      exact .replySend daemon delivery message hreply
    · cases hnext
  | main daemon label =>
    simp only [next] at hnext
    split at hnext
    next hnotify =>
      obtain ⟨⟨state, announced⟩, hmain, rfl⟩ := Option.map_eq_some_iff.mp hnext
      exact .main daemon label state announced hnotify hmain
    · cases hnext
  | notifySetPath daemon =>
    simp only [next] at hnext
    split at hnext
    next message hnotify =>
      obtain rfl := Option.some.inj hnext
      exact .notifySetPath daemon message hnotify
    · cases hnext
  | notifySend daemon delivery =>
    simp only [next] at hnext
    split at hnext
    next message hnotify =>
      obtain rfl := Option.some.inj hnext
      exact .notifySend daemon delivery message hnotify
    · cases hnext
  | disconnect daemon delivery =>
    simp only [next, Option.ite_none_right_eq_some, Option.some.injEq] at hnext
    rw [← hnext.2]
    exact .disconnect daemon delivery
  | collect =>
    obtain rfl := Option.some.inj hnext
    exact .collect

/-! ## One sender daemon -/

/-- A message that reaches everybody. -/
def toAll : Delivery Daemon := ⟨true, fun _ ↦ true, true⟩

/-- A tool and one sender daemon, whose broker retains nothing. -/
def senderdNetwork : Machine (Network fun _ : Unit ↦ MainState.model .senderd)
    (NetworkStep fun _ : Unit ↦ MainState.model .senderd) :=
  machine _ (fun _ ↦ .senderDaemons) none

/-- A test that is accepted and runs to its end without workers. -/
def testRun : List (NetworkStep fun _ : Unit ↦ MainState.model .senderd) :=
  [.command .startSender, .request toAll, .handle () SetChoice.other, .replySetPath (),
    .replySend () toAll, .main () MainStep.testHalt, .main () MainStep.testStarted,
    .main () (MainStep.vmslAssignByUrl .assigned), .main () (MainStep.workerLogInit true),
    .main () (MainStep.workerListInit true), .main () (MainStep.workerDump true),
    .main () (MainStep.namingInitializeWriter true), .main () MainStep.cloned,
    .main () MainStep.watchdogEnd, .main () MainStep.windUp]

end Network

end MsgPerf.Daemon
