import MsgPerf.Daemon.Network

/-!
# How much the daemons publish

Each daemon has subscribed to the notifications that the daemons publish, so that what one of them
publishes can make the others publish.  The traffic nevertheless ends by itself: every request of
the tool pays in advance for the messages it can lead to.  A START pays for its reply, for the
verdict of the test, for the replies of the daemons that take the verdict for a failure of their
own, and for the answers to a reply that went to the notifications because the main thread had
changed the path in between.
-/

namespace MsgPerf.Daemon

open MsgPerf.Library MsgPerf.Maestro

/-! ## The messages that threads have to send -/

/-- The message that a thread has still to send. -/
def SendPhase.message? : SendPhase → Option NoteMessage
  | .idle => none
  | .due message | .addressed message => some message

/-- The player answers with responses and the main thread announces with notifications. -/
structure Party.Orderly {model : DaemonModel} (party : Party model) : Prop where
  reply : ∀ message ∈ party.reply.message?,
    message.type = .response ∧ isReply message.command = true
  notify : ∀ message ∈ party.notify.message?,
    message.type = .notification ∧ isVerdict message.command = true

/-- The verdicts of a daemon, those that are still to come included, are at most the STARTs that it
has answered with OK. -/
def Party.Covered {model : DaemonModel} (party : Party model) : Prop :=
  party.announced + model.due party.state ≤ party.accepted

namespace Network

variable {Daemon : Type} {models : Daemon → DaemonModel}

/-! ## What is paid in advance -/

/-- The messages that a daemon can publish because of a note, when `count` daemons listen. -/
def weight (models : Daemon → DaemonModel) (count : ℕ) (daemon : Daemon) (message : NoteMessage) :
    ℕ :=
  match (models daemon).kind.newSheet.handler? message.command.code with
  | none => 0
  | some .start => 2 + 2 * count
  | some _ => 1

/-- No handler answers a reply or a notification with a START. -/
theorem weight_le_one (models : Daemon → DaemonModel) (count : ℕ) (daemon : Daemon)
    {message : NoteMessage}
    (h : isReply message.command = true ∨ isVerdict message.command = true) :
    weight models count daemon message ≤ 1 := by
  unfold weight
  split
  · exact Nat.zero_le 1
  next hhandler =>
    exfalso
    revert h hhandler
    cases (models daemon).kind <;> cases message.command <;> decide
  · exact le_rfl

theorem weight_le (models : Daemon → DaemonModel) (count : ℕ) (daemon : Daemon)
    (message : NoteMessage) : weight models count daemon message ≤ 2 + 2 * count := by
  unfold weight
  split <;> omega

/-- Nobody plays the will of a daemon. -/
theorem weight_will (models : Daemon → DaemonModel) (count : ℕ) (daemon : Daemon) :
    weight models count daemon ⟨.notification, .abnormalDisconnect⟩ = 0 := by
  unfold weight
  cases (models daemon).kind <;> rfl

/-- The weight of a note pays for its reply and for the verdict that it makes due. -/
theorem played_le_weight {daemon : Daemon} {message : NoteMessage} {handler : Handler}
    {choice : (models daemon).Choice} {before state : (models daemon).State} {command : Command}
    (count : ℕ)
    (hhandler : (models daemon).kind.newSheet.handler? message.command.code = some handler)
    (hhandle : (models daemon).handle handler choice before = some (state, command)) :
    (1 + 2 * count) * (models daemon).due state + 1 ≤
      (1 + 2 * count) * (models daemon).due before + weight models count daemon message := by
  have hdue := (models daemon).handle_due hhandle
  have hpaid := Nat.mul_le_mul_left (1 + 2 * count) hdue
  rw [Nat.mul_add] at hpaid
  unfold weight
  rw [hhandler]
  by_cases hstart : handler = .start
  · subst hstart
    have haccepts : accepts .start command ≤ 1 := by
      unfold accepts
      split <;> omega
    have hlast := Nat.mul_le_mul_left (1 + 2 * count) haccepts
    simp only
    omega
  · have haccepts : accepts handler command = 0 := if_neg fun hboth ↦ hstart hboth.1
    rw [haccepts, Nat.mul_zero] at hpaid
    cases handler with
    | start => exact absurd rfl hstart
    | stop | flush | set | ping | stats | halt | testFailed => simpa using hpaid

/-- A reply on the topic of the tool is taken by no daemon. -/
def replyCost (count : ℕ) (path : Topic) : SendPhase → ℕ
  | .idle => 0
  | .due _ => 1
  | .addressed _ => 1 + if path = .maestro then 0 else count

/-- Until the main thread has changed the path it also pays for a reply that follows the change. -/
def notifyCost (count : ℕ) : SendPhase → ℕ
  | .idle => 0
  | .due _ => 1 + 2 * count
  | .addressed _ => 1 + count

theorem replyCost_idle (count : ℕ) (path : Topic) : replyCost count path .idle = 0 := rfl

theorem notifyCost_idle (count : ℕ) : notifyCost count .idle = 0 := rfl

def partyCost (count : ℕ) {model : DaemonModel} (party : Party model) : ℕ :=
  (1 + 2 * count) * model.due party.state + replyCost count party.path party.reply +
    notifyCost count party.notify

theorem replyCost_le (count : ℕ) (path other : Topic) (phase : SendPhase) :
    replyCost count path phase ≤ replyCost count other phase + count := by
  cases phase with
  | idle | due => simp [replyCost]
  | addressed =>
    simp only [replyCost]
    split <;> split <;> omega

/-- No daemon has subscribed to the topic of the tool. -/
theorem recipient_maestro (models : Daemon → DaemonModel) (delivery : Delivery Daemon)
    (daemon : Daemon) : recipient models .maestro delivery daemon = false := by
  have hlocations : Topic.maestro ∉ (models daemon).kind.locations := by
    cases (models daemon).kind <;> decide
  simp [recipient, hlocations]

section Potential

variable [Fintype Daemon]

/-- The messages that the daemons can still publish without a request. -/
def potential (network : Network models) : ℕ :=
  network.inbox.load (weight models (Fintype.card Daemon)) +
    ∑ daemon, partyCost (Fintype.card Daemon) (network.party daemon)

theorem potential_publish_le (network : Network models) (topic : Topic) {message : NoteMessage}
    (delivery : Delivery Daemon) {bound : ℕ}
    (h : ∀ daemon, weight models (Fintype.card Daemon) daemon message ≤ bound) :
    (network.publish topic message delivery).potential ≤
      network.potential + Fintype.card Daemon * bound := by
  have hload := network.inbox.load_deliver_le (recipient models topic delivery) h
  unfold potential publish
  simp only
  omega

/-- A reply costs what its path makes it cost. -/
theorem potential_publish_reply (network : Network models) (path : Topic) {message : NoteMessage}
    (delivery : Delivery Daemon) (h : isReply message.command = true) :
    (network.publish path message delivery).potential + 1 ≤
      network.potential + replyCost (Fintype.card Daemon) path (.addressed message) := by
  by_cases hpath : path = .maestro
  · subst hpath
    unfold potential publish
    rw [network.inbox.deliver_of_no_recipient message (recipient_maestro models delivery)]
    rfl
  · have hpublish := network.potential_publish_le path delivery
      (fun daemon ↦ weight_le_one models (Fintype.card Daemon) daemon (.inl h))
    rw [replyCost, if_neg hpath]
    omega

end Potential

variable [DecidableEq Daemon] {network after : Network models}

/-! ## Whole runs -/

def Orderly (network : Network models) : Prop :=
  ∀ daemon, (network.party daemon).Orderly

/-- What holds of each daemon and of the one that changes. -/
theorem forall_setParty {holds : (daemon : Daemon) → Party (models daemon) → Prop}
    (h : ∀ daemon, holds daemon (network.party daemon)) {daemon : Daemon}
    {party : Party (models daemon)} (hparty : holds daemon party) :
    ∀ other, holds other ((network.setParty daemon party).party other) :=
  (Function.forall_update_iff network.party holds).mpr ⟨hparty, fun other _ ↦ h other⟩

theorem Orderly.next {step : NetworkStep models} (h : network.Orderly)
    (hnext : network.next step = some after) : after.Orderly := by
  cases next_cases hnext with
  | command | request | ignored | collect => exact h
  | played daemon choice message rest handler state command hreply hinbox hhandler hhandle =>
    apply forall_setParty h
    refine ⟨?_, (h daemon).notify⟩
    intro message hmessage
    obtain rfl := Option.some.inj hmessage
    exact ⟨rfl, (models daemon).handle_isReply hhandle⟩
  | replySetPath daemon message hreply =>
    apply forall_setParty h
    refine ⟨?_, (h daemon).notify⟩
    have horderly := (h daemon).reply
    rwa [hreply] at horderly
  | replySend daemon delivery message hreply =>
    apply forall_setParty h
    exact ⟨fun _ hmessage ↦ (Option.not_mem_none _ hmessage).elim, (h daemon).notify⟩
  | main daemon label state announced hnotify hmain =>
    apply forall_setParty h
    refine ⟨(h daemon).reply, ?_⟩
    intro message hmessage
    cases announced with
    | none => exact (Option.not_mem_none _ hmessage).elim
    | some command =>
      obtain rfl := Option.some.inj hmessage
      exact ⟨rfl, (models daemon).main_isVerdict hmain⟩
  | notifySetPath daemon message hnotify =>
    apply forall_setParty h
    refine ⟨(h daemon).reply, ?_⟩
    have horderly := (h daemon).notify
    rwa [hnotify] at horderly
  | notifySend daemon delivery message hnotify =>
    apply forall_setParty h
    exact ⟨(h daemon).reply, fun _ hmessage ↦ (Option.not_mem_none _ hmessage).elim⟩
  | disconnect daemon delivery =>
    apply forall_setParty h
    exact ⟨(h daemon).reply, (h daemon).notify⟩

variable {path : Daemon → Topic} {retained : Option Bool}

theorem orderly_initial : (machine models path retained).initial.Orderly := by
  intro daemon
  exact ⟨fun _ hmessage ↦ (Option.not_mem_none _ hmessage).elim,
    fun _ hmessage ↦ (Option.not_mem_none _ hmessage).elim⟩

/-! ## Announcements -/

def Covered (network : Network models) : Prop :=
  ∀ daemon, (network.party daemon).Covered

theorem Covered.next {step : NetworkStep models} (h : network.Covered)
    (hnext : network.next step = some after) : after.Covered := by
  cases next_cases hnext with
  | command | request | ignored | collect => exact h
  | played daemon choice message rest handler state command hreply hinbox hhandler hhandle =>
    apply forall_setParty h
    have hdue := (models daemon).handle_due hhandle
    have hdaemon := h daemon
    unfold Party.Covered at hdaemon ⊢
    simp only
    omega
  | main daemon label state announced hnotify hmain =>
    apply forall_setParty h
    have hdue := (models daemon).main_due hmain
    have hdaemon := h daemon
    unfold Party.Covered at hdaemon ⊢
    simp only
    omega
  | replySetPath daemon | replySend daemon | notifySetPath daemon | notifySend daemon
  | disconnect daemon =>
    apply forall_setParty h
    exact h daemon

/-- **Verdicts.**  However the daemons, the tool and the broker are interleaved, a daemon announces
at most one verdict for each START that it has answered with OK. -/
theorem reachable_announced_le (h : (machine models path retained).Reachable network)
    (daemon : Daemon) : (network.party daemon).announced ≤ (network.party daemon).accepted := by
  have hcovered : network.Covered := by
    apply Machine.ReachableUnder.invariant h
    · intro daemon
      exact (Nat.zero_add _).trans_le ((models daemon).due_initial).le
    · intro before step reached hbefore _ hnext
      exact hbefore.next hnext
  exact (Nat.le_add_right _ _).trans (hcovered daemon)

theorem testRun_announced_le :
    ∃ network, senderdNetwork.run senderdNetwork.initial testRun = some network ∧
      (network.party ()).announced = 1 ∧
      (network.party ()).announced ≤ (network.party ()).accepted := by
  have hrun : ∃ network, senderdNetwork.run senderdNetwork.initial testRun = some network ∧
      (network.party ()).announced = 1 := ⟨_, rfl, rfl⟩
  obtain ⟨network, hrun, hannounced⟩ := hrun
  have hreachable := Machine.reachable_of_run testRun hrun
  exact ⟨network, hrun, hannounced, reachable_announced_le hreachable ()⟩

section Bound

variable [Fintype Daemon]

theorem potential_setParty (network : Network models) (daemon : Daemon)
    (party : Party (models daemon)) :
    (network.setParty daemon party).potential +
        partyCost (Fintype.card Daemon) (network.party daemon) =
      network.potential + partyCost (Fintype.card Daemon) party := by
  have hsum := sum_update_add 
    (fun daemon (party : Party (models daemon)) ↦ partyCost (Fintype.card Daemon) party)
    network.party daemon party
  unfold potential setParty
  simp only
  omega

/-- What has been published and what can still be published grow with requests only. -/
theorem next_published_le {step : NetworkStep models} (horderly : network.Orderly)
    (hnext : network.next step = some after) :
    after.published + after.potential + network.requested *
        (Fintype.card Daemon * (2 + 2 * Fintype.card Daemon)) ≤
      network.published + network.potential + after.requested *
        (Fintype.card Daemon * (2 + 2 * Fintype.card Daemon)) := by
  cases next_cases hnext with
  | command | collect => exact le_rfl
  | request delivery topic command rest hrequests =>
    have hpublish := network.potential_publish_le topic delivery
      (fun daemon ↦ weight_le models (Fintype.card Daemon) daemon ⟨.request, command⟩)
    simp only [potential, publish, Nat.add_mul, Nat.one_mul] at hpublish ⊢
    omega
  | ignored daemon choice message rest hreply hinbox hhandler =>
    have htake := Inboxes.load_take (weight models (Fintype.card Daemon)) hinbox
    simp only [potential]
    omega
  | played daemon choice message rest handler state command hreply hinbox hhandler hhandle =>
    have htake := Inboxes.load_take (weight models (Fintype.card Daemon)) hinbox
    have hparty := potential_setParty { network with inbox := network.inbox.take daemon } daemon
      { network.party daemon with
        state := state
        reply := .due ⟨.response, command⟩
        accepted := (network.party daemon).accepted + accepts handler command }
    have hpaid := played_le_weight (Fintype.card Daemon) hhandler hhandle
    simp only [partyCost, hreply, replyCost] at hparty
    simp only [setParty, potential] at hparty ⊢
    omega
  | replySetPath daemon message hreply =>
    have hparty := network.potential_setParty daemon
      { network.party daemon with path := .maestro, reply := .addressed message }
    simp only [partyCost, hreply, replyCost, if_pos] at hparty
    simp only [setParty] at hparty ⊢
    omega
  | replySend daemon delivery message hreply =>
    have hmessage := (horderly daemon).reply message (by rw [hreply]; rfl)
    have hpublish := network.potential_publish_reply (network.party daemon).path delivery
      hmessage.2
    have hparty := (network.publishCounted (network.party daemon).path message
      delivery).potential_setParty daemon { network.party daemon with reply := .idle }
    have hsent : (if delivery.sent = true then 1 else 0) ≤ 1 := by split <;> omega
    simp only [partyCost, publishCounted, publish, hreply, replyCost_idle] at hparty
    simp only [publishCounted, publish, setParty, potential] at hparty hpublish ⊢
    omega
  | main daemon label state announced hnotify hmain =>
    have hparty := network.potential_setParty daemon
      { network.party daemon with
        state := state
        notify := notifyPhase announced
        announced := (network.party daemon).announced + announced.toList.length }
    have hpaid := Nat.mul_le_mul_left (1 + 2 * Fintype.card Daemon)
      ((models daemon).main_due hmain)
    have hphase : notifyCost (Fintype.card Daemon) (notifyPhase announced) =
        (1 + 2 * Fintype.card Daemon) * announced.toList.length := by
      cases announced <;> simp [notifyPhase, notifyCost]
    rw [Nat.mul_add] at hpaid
    simp only [partyCost, hnotify, hphase, notifyCost_idle] at hparty
    simp only [setParty] at hparty ⊢
    omega
  | notifySetPath daemon message hnotify =>
    have hparty := network.potential_setParty daemon
      { network.party daemon with path := .notifications, notify := .addressed message }
    have hreply := replyCost_le (Fintype.card Daemon) .notifications (network.party daemon).path
      (network.party daemon).reply
    simp only [partyCost, hnotify, notifyCost] at hparty
    simp only [setParty] at hparty ⊢
    omega
  | notifySend daemon delivery message hnotify =>
    have hmessage := (horderly daemon).notify message (by rw [hnotify]; rfl)
    have hpublish := network.potential_publish_le (network.party daemon).path delivery
      (fun other ↦ weight_le_one models (Fintype.card Daemon) other (.inr hmessage.2))
    have hparty := (network.publishCounted (network.party daemon).path message
      delivery).potential_setParty daemon { network.party daemon with notify := .idle }
    have hsent : (if delivery.sent = true then 1 else 0) ≤ 1 := by split <;> omega
    simp only [partyCost, publishCounted, publish, hnotify, notifyCost] at hparty
    simp only [publishCounted, publish, setParty, potential] at hparty hpublish ⊢
    omega
  | disconnect daemon delivery =>
    have hpublish := network.potential_publish_le .notifications delivery
      (fun other ↦ (weight_will models (Fintype.card Daemon) other).le)
    have hparty := (network.publish .notifications ⟨.notification, .abnormalDisconnect⟩
      delivery).potential_setParty daemon { network.party daemon with connected := false }
    simp only [partyCost, publish] at hparty
    simp only [publish, setParty, potential] at hparty hpublish ⊢
    omega

/-- The daemons are idle, and a retained verdict gets at most one reply from each. -/
theorem potential_initial_le :
    (machine models path retained).initial.potential ≤ Fintype.card Daemon := by
  have hretained (daemon : Daemon) :
      ((retainedInbox retained).map (weight models (Fintype.card Daemon) daemon)).sum ≤ 1 := by
    cases retained with
    | none => exact Nat.zero_le 1
    | some successful =>
      simp only [retainedInbox, Option.toList_some, List.map_cons, List.map_nil, List.sum_singleton]
      apply weight_le_one
      cases successful <;> simp [isVerdict]
  have hcost (daemon : Daemon) : partyCost (Fintype.card Daemon)
      ((machine models path retained).initial.party daemon) = 0 := by
    simp [machine, partyCost, (models daemon).due_initial, replyCost, notifyCost]
  calc
    (machine models path retained).initial.potential
      = ∑ daemon,
          ((retainedInbox retained).map (weight models (Fintype.card Daemon) daemon)).sum := by
        simp only [potential, hcost, Finset.sum_const_zero, Nat.add_zero]
        rfl
    _ ≤ ∑ _daemon : Daemon, 1 := Finset.sum_le_sum fun daemon _ ↦ hretained daemon
    _ = Fintype.card Daemon := by simp

/-- **Traffic.**  However the daemons, the tool and the broker are interleaved, and also when a
message is sent under the path of the other thread, the messages that `n` daemons have published are
at most `2 n (n + 1)` for each request of the tool, and `n` more because of a retained verdict. -/
theorem reachable_published_le (h : (machine models path retained).Reachable network) :
    network.published ≤ network.requested *
      (Fintype.card Daemon * (2 + 2 * Fintype.card Daemon)) + Fintype.card Daemon := by
  have hinvariant : network.Orderly ∧ network.published + network.potential ≤ network.requested *
      (Fintype.card Daemon * (2 + 2 * Fintype.card Daemon)) + Fintype.card Daemon := by
    apply Machine.ReachableUnder.invariant h
    · refine ⟨orderly_initial, ?_⟩
      simpa [machine] using potential_initial_le
    · intro before step reached hbefore _ hnext
      have hstep := next_published_le hbefore.1 hnext
      exact ⟨hbefore.1.next hnext, by omega⟩
  exact (Nat.le_add_right _ _).trans hinvariant.2

/-- One reply to the START has been sent. -/
theorem testRun_published_le :
    ∃ network, senderdNetwork.run senderdNetwork.initial testRun = some network ∧
      network.published = 1 ∧
      network.published ≤ network.requested * (Fintype.card Unit * (2 + 2 * Fintype.card Unit)) +
        Fintype.card Unit := by
  have hrun : ∃ network, senderdNetwork.run senderdNetwork.initial testRun = some network ∧
      network.published = 1 := ⟨_, rfl, rfl⟩
  obtain ⟨network, hrun, hpublished⟩ := hrun
  have hreachable := Machine.reachable_of_run testRun hrun
  exact ⟨network, hrun, hpublished, reachable_published_le hreachable⟩

end Bound

end Network

end MsgPerf.Daemon
