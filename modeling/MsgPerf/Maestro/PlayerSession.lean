import MsgPerf.Maestro.ToolSession

/-!
# The player of a daemon

A daemon starts its player, which connects to the broker of the orchestration and answers notes in a
thread of its own, and stops it when it is halted.  The main thread sends its notifications over the
same connection.  A start that fails is followed by a stop, too.

`maestro_player_destroy` calls the functions of the protocol and passes the context on without a
look, so that the stop behind a failed start goes wrong when there is no context yet.  Whatever else
fails, nothing is used that is gone, and what is lost can be counted: the id of the player, the note
of its will with the texts in it, each message that is received with the name of its topic, the
texts of each notification, and each response that could not be sent because of an error.

The broker speaks MQTT.  The structures of the player, of its handlers and of responses and
notifications are taken to be allocated.  What the deserializer allocates is followed by
`MsgPerf.Maestro.Cleanup`; here it is a payload with up to five texts.
-/

namespace MsgPerf.Maestro.PlayerSession

open MsgPerf.Api.Session
open MsgPerf.Library
open MsgPerf.Library.HandleProgram
open Tool (pahoSendPlain)

/-! ## Starting and stopping -/

/-- `maestro_player_t`; a protocol is assigned to it or not. -/
structure Player where
  self : Handle
  assigned : Bool
  uri : Option Handle
  id : Option Handle
  handlers : Option Handle
  context : Option Context

/-- The handler that makes the will of a connection; the note in it is not cleaned up. -/
def maestroNotifyAbnormalDisconnect : Program Unit := do
  let _ ← create .notePayload
  let _ ← create .noteText
  let _ ← create .noteText
  let _ ← create .noteText
  let _ ← create .content

/-- The end of `maestro_player_connect`: whether the player could subscribe is not looked at. -/
def subscribeIf (started : Bool) (context : Context) : Program Bool := do
  if started then
    let _ ← pahoSubscribe context
    pure true
  else pure false

/-- `maestro_player_connect` behind the initialization.  The handlers before the connect run as soon
as there is a client. -/
def startConnection (player : Player) (context : Context) : Program (Bool × Player) := do
  let (started, context) ← pahoStart context
  if context.messenger.isSome then
    maestroNotifyAbnormalDisconnect
    let connected ← subscribeIf started context
    pure (connected, { player with context := some context })
  else pure (false, { player with context := some context })

def maestroPlayerConnect (player : Player) : Program (Bool × Player) := do
  let handlers ← create .handlers
  match ← pahoInit handlers with
  | none => pure (false, { player with handlers := some handlers })
  | some context => startConnection { player with handlers := some handlers } context

/-- `err_exit` of `maestro_player_start`. -/
def errExit (player : Player) : Program (Bool × Player) := do
  release player.uri
  pure (false, { player with uri := none })

def maestroPlayerStart : Program (Bool × Player) := do
  let self ← create .player
  match ← gruAlloc .uri with
  | none => pure (false, ⟨self, false, none, none, none, none⟩)
  | some uri =>
    -- `vmsl_assign_by_url`
    if ← choose then
      match ← acquire .connectionId with
      | none => errExit ⟨self, true, some uri, none, none, none⟩
      | some id =>
        let (connected, player) ←
          maestroPlayerConnect ⟨self, true, some uri, some id, none, none⟩
        if connected then
          -- `pthread_create`
          if ← choose then pure (true, player) else errExit player
        else errExit player
    else
      gruStatusSet
      pure (false, ⟨self, false, some uri, none, none, none⟩)

/-- `maestro_player_stop` with `maestro_player_destroy`: a function that is not assigned cannot be
called, and its context must not be null. -/
def maestroPlayerStop (player : Player) : Program Unit := do
  use (some player.self)
  match player.assigned, player.context with
  | true, some context => do
    pahoStop context
    pahoDestroy context
    release player.uri
    release player.handlers
    release (some player.self)
  | _, _ => fun _ ↦ none

/-! ## Notes -/

/-- Up to so many texts. -/
def decodeTexts : ℕ → Program (List Handle)
  | 0 => pure []
  | most + 1 => do
      if ← choose then
        let text ← create .noteText
        let texts ← decodeTexts most
        pure (text :: texts)
      else pure []

def releaseAll : List Handle → Program Unit
  | [] => pure ()
  | handle :: handles => do
      release (some handle)
      releaseAll handles

/-- A request in memory. -/
structure Request where
  payload : Option Handle
  texts : List Handle
  notification : Bool

/-- An error can be recorded also when the note is accepted. -/
def recordOrNot : Program Unit := do
  if ← choose then pure () else gruStatusSet

def maestroDeserializeNote : Program Request := do
  recordOrNot
  if ← choose then
    let payload ← create .notePayload
    let texts ← decodeTexts 5
    let notification ← choose
    pure ⟨some payload, texts, notification⟩
  else pure ⟨none, [], false⟩

/-- The texts that are not freed: those of a notification. -/
def Request.lostTexts (request : Request) : List Handle :=
  if request.notification then request.texts else []

def maestroNotePayloadCleanup (request : Request) : Program Unit := do
  if request.notification then release request.payload
  else
    releaseAll request.texts
    release request.payload

/-- The serialized response.  There is none when the note is accepted and no instrument plays it. -/
def serializeResponse : Program (Option Handle) := do
  if ← choose then acquire .content
  else
    gruStatusSet
    let response ← create .content
    pure (some response)

/-- The serialized response, and the number of texts that are lost. -/
def maestroSheetPlay (content : Handle) : Program (Option Handle × ℕ) := do
  let response ← create .notePayload
  let id ← create .noteText
  let name ← create .noteText
  use (some content)
  let request ← maestroDeserializeNote
  let serialized ← serializeResponse
  releaseAll [id, name, response]
  maestroNotePayloadCleanup request
  pure (serialized, request.lostTexts.length)

/-- What happens in a turn of the player or of the main thread. -/
inductive Turn where
  | idle
  | ended
  | received (texts : ℕ) (unsent : Bool)
  | notified
  deriving DecidableEq, Repr

/-- A response is not sent and not released when an error is recorded. -/
def maestroPlayerHandleNote (context : Context) (content : Handle) : Program Turn := do
  let (serialized, texts) ← maestroSheetPlay content
  if (← readShared).failed then pure (.received texts serialized.isSome)
  else
    match serialized with
    | none => pure (.received texts false)
    | some response =>
      let _ ← pahoSendPlain context (some response)
      release (some response)
      pure (.received texts false)

/-- `maestro_notify_test_failed` and `maestro_notify_test_successful`. -/
def maestroNotify (context : Context) : Program Turn := do
  let payload ← create .notePayload
  let _ ← create .noteText
  let _ ← create .noteText
  let _ ← create .noteText
  let content ← create .content
  let _ ← pahoSendPlain context (some content)
  release (some content)
  release (some payload)
  pure .notified

/-- A turn of either thread; the player has a buffer until it ends. -/
def sessionTurn (context : Context) (content : Option Handle) :
    List Turn × Bool → Program ((List Turn × Bool) × Bool)
  | (turns, listening) => do
      if ← choose then
        let turn ← maestroNotify context
        pure ((turns ++ [turn], listening), true)
      else
        match content, listening with
        | some content, true =>
          gruStatusReset
          match ← pahoReceive context (some content) with
          | .data =>
            let turn ← maestroPlayerHandleNote context content
            pure ((turns ++ [turn], true), true)
          | .noData => pure ((turns ++ [.idle], true), true)
          | .error | .noTimestamp => pure ((turns ++ [.ended], false), true)
        | _, _ => pure ((turns ++ [.idle], false), true)

/-- The threads of a daemon with its player, up to the end of the player. -/
def maestroPlayerRun (context : Context) (rounds : ℕ) : Program (List Turn) := do
  let content ← gruAlloc .content
  let (turns, _) ← repeatWhile (sessionTurn context content) rounds ([], content.isSome)
  release content
  pure turns

/-- A daemon whose player has been started. -/
def session (player : Player) (rounds : ℕ) : Program (List Turn) :=
  match player.context with
  | none => fun _ ↦ none
  | some context => do
    let turns ← maestroPlayerRun context rounds
    maestroPlayerStop player
    pure turns

/-! ## What the functions leave -/

section

variable {context : Context} {content : Handle} {live rest : Multiset Handle} {globals : Globals}

theorem decodeTexts_spec (most : ℕ) :
    Spec (decodeTexts most) live globals fun texts after _ ↦
      after = ↑texts + live ∧ kinds ↑texts = texts.length • {.noteText} := by
  induction most generalizing live globals with
  | zero => exact .pure ⟨(zero_add _).symm, rfl⟩
  | succ most ih =>
    refine .branch ?_ (.pure ⟨(zero_add _).symm, rfl⟩)
    refine .create fun text ↦ .call ih ?_
    rintro texts _ - ⟨rfl, hkinds⟩
    refine .pure ⟨?_, ?_⟩
    · rw [← Multiset.cons_coe, ← Multiset.singleton_add]
      abel
    · rw [← Multiset.cons_coe, ← Multiset.singleton_add, kinds_add, kinds_singleton, hkinds,
        List.length_cons, succ_nsmul, add_comm]

theorem releaseAll_spec (handles : List Handle) :
    Spec (releaseAll handles) (↑handles + live) globals fun _ after _ ↦ after = live := by
  induction handles generalizing globals with
  | nil => exact .pure (zero_add _)
  | cons handle handles ih =>
    refine .release (↑handles + live) ?_ ih
    rw [← Multiset.cons_coe, ← Multiset.singleton_add, held_some, add_assoc]

/-- What a request has allocated. -/
def Request.owned (request : Request) : Multiset Handle := held request.payload + ↑request.texts

theorem maestroDeserializeNote_spec :
    Spec maestroDeserializeNote live globals fun request after _ ↦
      after = request.owned + live ∧
        kinds ↑request.texts = request.texts.length • {.noteText} := by
  have hrecord : Spec recordOrNot live globals fun _ after _ ↦ after = live :=
    .branch (.pure rfl) (.last (.modifyShared (.pure rfl)))
  refine .call hrecord ?_
  rintro - _ shared rfl
  refine .branch ?_ (.pure ⟨(zero_add _).symm, rfl⟩)
  refine .create fun payload ↦ .call (decodeTexts_spec 5) ?_
  rintro texts _ - ⟨rfl, hkinds⟩
  refine .choose fun notification ↦ .pure ⟨?_, hkinds⟩
  rw [Request.owned, held_some]
  abel

theorem maestroNotePayloadCleanup_spec (request : Request) :
    Spec (maestroNotePayloadCleanup request) (request.owned + live) globals fun _ after _ ↦
      after = ↑request.lostTexts + live := by
  obtain ⟨payload, texts, notification⟩ := request
  cases notification with
  | true =>
    refine .last (.release (↑texts + live) ?_ (.pure rfl))
    rw [Request.owned, add_assoc]
  | false =>
    have howned : Request.owned ⟨payload, texts, false⟩ + live =
        ↑texts + (held payload + live) := by
      rw [Request.owned]
      abel
    rw [howned]
    refine .call (releaseAll_spec texts) ?_
    rintro - _ - rfl
    exact .last (.release live rfl (.pure (zero_add _).symm))

theorem serializeResponse_spec :
    Spec serializeResponse live globals fun serialized after _ ↦
      after = held serialized + live ∧
        kinds (held serialized) = if serialized.isSome then {.content} else 0 := by
  refine .branch (.last (.acquire (.pure ⟨(zero_add _).symm, rfl⟩) ?_)) ?_
  · intro response
    exact .pure ⟨rfl, rfl⟩
  · refine .modifyShared (.create fun response ↦ ?_)
    exact .pure ⟨rfl, rfl⟩

theorem maestroSheetPlay_spec (hcontent : content ∈ live) :
    Spec (maestroSheetPlay content) live globals fun result after _ ↦
      kinds (held result.1) = (if result.1.isSome then {.content} else 0) ∧
        ∃ lost, after = held result.1 + (lost + live) ∧ kinds lost = result.2 • {.noteText} := by
  refine .create fun response ↦ .create fun id ↦ .create fun name ↦ ?_
  refine .use rfl (by simp [hcontent]) (.call maestroDeserializeNote_spec ?_)
  rintro request _ - ⟨rfl, htexts⟩
  refine .call serializeResponse_spec ?_
  rintro serialized _ - ⟨rfl, hserialized⟩
  have hlive : held serialized + (request.owned + ({(.noteText, name)} + ({(.noteText, id)} +
      ({(.notePayload, response)} + live)))) =
        ↑[(Kind.noteText, id), (.noteText, name), (.notePayload, response)] +
          (request.owned + (held serialized + live)) := by
    simp only [← Multiset.cons_coe, ← Multiset.singleton_add, Multiset.coe_nil]
    abel
  rw [hlive]
  refine .call (releaseAll_spec _) ?_
  rintro - _ - rfl
  refine .call (maestroNotePayloadCleanup_spec request) ?_
  rintro - _ - rfl
  refine .pure ⟨hserialized, ↑request.lostTexts, by abel, ?_⟩
  unfold Request.lostTexts
  split
  · exact htexts
  · rfl

/-- What a turn does not give back. -/
def Turn.losses : Turn → Multiset Kind
  | .idle | .ended => 0
  | .received texts unsent =>
      {.topicName} + {.message} + (texts • {.noteText} + if unsent then {.content} else 0)
  | .notified => 3 • {.noteText}

/-- A connection that can be used. -/
structure Usable (context : Context) (live : Multiset Handle) : Prop where
  owned : pahoOwned context ≤ live
  messenger : context.messenger.isSome
  handlers : context.handlers ∈ live

theorem Usable.add (h : Usable context live) (more : Multiset Handle) :
    Usable context (more + live) :=
  ⟨h.owned.trans (Multiset.le_add_left _ _), h.messenger, by simp [h.handlers]⟩

theorem Usable.send (h : Usable context live) (hcontent : content ∈ live) :
    Spec (pahoSendPlain context (some content)) live globals fun _ after _ ↦ after = live :=
  Tool.pahoSendPlain_spec h.owned h.messenger h.handlers hcontent

theorem maestroPlayerHandleNote_spec (h : Usable context live) (hcontent : content ∈ live) :
    Spec (maestroPlayerHandleNote context content) live globals fun turn after _ ↦
      ∃ lost, after = lost + live ∧ {.topicName} + {.message} + kinds lost = turn.losses := by
  refine .call (maestroSheetPlay_spec hcontent) ?_
  rintro ⟨serialized, texts⟩ _ shared ⟨hserialized, lost, rfl, hlost⟩
  refine .readShared ?_
  by_cases hfailed : shared.failed = true
  · rw [if_pos hfailed]
    refine .pure ⟨held serialized + lost, by abel, ?_⟩
    rw [kinds_add, hserialized, hlost, Turn.losses, add_comm (texts • _)]
  · rw [if_neg hfailed]
    have hsent : {.topicName} + {.message} + kinds lost = (Turn.received texts false).losses := by
      rw [hlost, Turn.losses, if_neg Bool.false_ne_true, add_zero]
    cases serialized with
    | none => exact .pure ⟨lost, by simp, hsent⟩
    | some response =>
      refine .call ((h.add lost).add _ |>.send (by simp)) ?_
      rintro - _ - rfl
      exact .release (lost + live) rfl (.pure ⟨lost, rfl, hsent⟩)

theorem maestroNotify_spec (h : Usable context live) :
    Spec (maestroNotify context) live globals fun turn after _ ↦
      ∃ lost, after = lost + live ∧ kinds lost = turn.losses := by
  refine .create fun payload ↦ .create fun id ↦ .create fun name ↦ .create fun message ↦
    .create fun content ↦ ?_
  refine .call (((((h.add _).add _).add _).add _).add _ |>.send (by simp)) ?_
  rintro - _ - rfl
  refine .release _ rfl (.release ({(.noteText, message)} + ({(.noteText, name)} +
    ({(.noteText, id)} + live))) (by simp only [held_some]; abel) ?_)
  refine .pure ⟨{(.noteText, message)} + ({(.noteText, name)} + {(.noteText, id)}), by abel, ?_⟩
  rfl

/-- What the threads have at a turn. -/
def TurnsLost (context : Context) (content : Option Handle) (rest : Multiset Handle)
    (value : List Turn × Bool) (live : Multiset Handle) (_ : Globals) : Prop :=
  ∃ lost, live = lost + (held content + (pahoOwned context + rest)) ∧
    kinds lost = (value.1.map Turn.losses).sum

theorem sessionTurn_spec {content : Option Handle} (hhandlers : context.handlers ∈ rest)
    (hmessenger : context.messenger.isSome) (value : List Turn × Bool)
    (h : TurnsLost context content rest value live globals) :
    Spec (sessionTurn context content value) live globals fun result after shared ↦
      TurnsLost context content rest result.1 after shared := by
  obtain ⟨turns, listening⟩ := value
  obtain ⟨lost, rfl, hlost⟩ := h
  have husable : Usable context (lost + (held content + (pahoOwned context + rest))) := by
    refine ((Usable.mk ?_ hmessenger ?_).add _).add _
    · exact Multiset.le_add_right _ _
    · simp [hhandlers]
  -- One more turn, with its own losses.
  have hnext : ∀ {turn : Turn} {more : Multiset Handle} {going : Bool} {shared : Globals},
      kinds more = turn.losses →
        TurnsLost context content rest (turns ++ [turn], going)
          (more + (lost + (held content + (pahoOwned context + rest)))) shared := by
    intro turn more going shared hmore
    refine ⟨more + lost, (add_assoc _ _ _).symm, ?_⟩
    rw [kinds_add, hmore, hlost, List.map_append, List.sum_append, List.map_singleton,
      List.sum_singleton, add_comm]
  have hquiet : ∀ {turn : Turn} {going : Bool} {shared : Globals}, turn.losses = 0 →
      TurnsLost context content rest (turns ++ [turn], going)
        (lost + (held content + (pahoOwned context + rest))) shared := by
    intro turn going shared hzero
    have hnone := @hnext turn 0 going shared hzero.symm
    rwa [zero_add] at hnone
  refine .branch ?_ ?_
  · refine .call (maestroNotify_spec husable) ?_
    rintro turn _ _ ⟨more, rfl, hmore⟩
    exact .pure (hnext hmore)
  · cases content with
    | none => exact .pure (hquiet rfl)
    | some content =>
      cases listening with
      | false => exact .pure (hquiet rfl)
      | true =>
        have hlive : lost + (held (some content) + (pahoOwned context + rest)) =
            pahoOwned context + (lost + ({content} + rest)) := by
          rw [held_some]
          abel
        refine .modifyShared ?_
        rw [hlive]
        refine .call (pahoReceive_spec (by simp [hhandlers]) (by simp) hmessenger) ?_
        rintro received _ shared ⟨-, taken, rfl, htaken⟩
        rw [← hlive]
        cases received with
        | data =>
          refine .call (maestroPlayerHandleNote_spec (husable.add taken) (by simp)) ?_
          rintro turn _ _ ⟨more, rfl, hmore⟩
          refine .pure ?_
          rw [← add_assoc more]
          refine hnext ?_
          rw [kinds_add, htaken, if_pos rfl, add_comm, ← hmore]
          rfl
        | noData =>
          have hnone : kinds taken = Turn.idle.losses := htaken
          exact .pure (hnext hnone)
        | error | noTimestamp =>
          have hnone : kinds taken = Turn.ended.losses := htaken
          exact .pure (hnext hnone)

theorem maestroPlayerRun_spec (hhandlers : context.handlers ∈ rest)
    (hmessenger : context.messenger.isSome) (rounds : ℕ) :
    Spec (maestroPlayerRun context rounds) (pahoOwned context + rest) globals fun turns after _ ↦
      ∃ lost, after = lost + (pahoOwned context + rest) ∧
        kinds lost = (turns.map Turn.losses).sum := by
  have hturns : ∀ (content : Option Handle) {live : Multiset Handle} {globals : Globals},
      live = held content + (pahoOwned context + rest) →
      Spec (repeatWhile (sessionTurn context content) rounds ([], content.isSome)) live globals
        (TurnsLost context content rest) := by
    rintro content _ shared rfl
    refine Spec.repeatWhile _ ?_ rounds ⟨0, (zero_add _).symm, rfl⟩
    intro value live shared h
    exact sessionTurn_spec hhandlers hmessenger value h
  refine spec_gruAlloc ?_ ?_
  · refine .call (hturns none (zero_add _).symm) ?_
    rintro ⟨turns, going⟩ _ _ ⟨lost, rfl, hlost⟩
    refine .release _ (zero_add _).symm (.pure ⟨lost, ?_, hlost⟩)
    rw [held_none, zero_add]
  · intro content
    refine .call (hturns (some (.content, content)) rfl) ?_
    rintro ⟨turns, going⟩ _ _ ⟨lost, rfl, hlost⟩
    refine .release (lost + (pahoOwned context + rest)) ?_ (.pure ⟨lost, rfl, hlost⟩)
    rw [held_some]
    abel

end

/-! ## The whole session -/

/-- The note of a will with its texts, and its bytes. -/
def willLosses : Multiset Kind := {.notePayload} + 3 • {.noteText} + {.content}

/-- A player with a client, and all that it has. -/
def HasClient (player : Player) (frame live : Multiset Handle) : Prop :=
  player.assigned = true ∧ ∃ context lost, player.context = some context ∧
    player.handlers = some context.handlers ∧ context.messenger.isSome ∧
    live = pahoOwned context +
      ({context.handlers} + (held player.uri + ({player.self} + (lost + frame)))) ∧
    kinds lost = {.connectionId} + willLosses

/-- A player that has not come so far. -/
def NoClient (player : Player) : Prop :=
  ∀ context, player.context = some context → context.messenger = none

section

variable {player : Player} {frame live : Multiset Handle} {globals : Globals}

theorem maestroNotifyAbnormalDisconnect_spec :
    Spec maestroNotifyAbnormalDisconnect live globals fun _ after _ ↦
      ∃ will, after = will + live ∧ kinds will = willLosses := by
  refine .create fun payload ↦ .create fun id ↦ .create fun name ↦ .create fun message ↦
    .create fun content ↦ ?_
  refine .pure ⟨{(.content, content)} + ({(.noteText, message)} + ({(.noteText, name)} +
    ({(.noteText, id)} + {(.notePayload, payload)}))), by abel, ?_⟩
  simp only [kinds_add, kinds_singleton, willLosses]
  abel

theorem subscribeIf_spec {context : Context} {rest : Multiset Handle} (started : Bool)
    (hmessenger : context.messenger.isSome) :
    Spec (subscribeIf started context) (pahoOwned context + rest) globals fun _ after _ ↦
      after = pahoOwned context + rest := by
  cases started with
  | false => exact .pure rfl
  | true =>
    refine .call (pahoSubscribe_spec hmessenger) ?_
    rintro - _ _ ⟨-, rfl⟩
    exact .pure rfl

/-- What a player holds besides its connection. -/
def Player.base (player : Player) (context : Context) (rest : Multiset Handle) : Multiset Handle :=
  {context.handlers} + (held player.uri + ({player.self} + rest))

theorem startConnection_spec {context : Context} {id : Handle} (hassigned : player.assigned = true)
    (hhandlers : player.handlers = some context.handlers) (hmessenger : context.messenger = none)
    (hid : id.1 = .connectionId) :
    Spec (startConnection player context)
      (pahoOwned context + player.base context ({id} + frame)) globals fun result live _ ↦
        (∃ rest, live = held result.2.uri + rest) ∧
        (HasClient result.2 frame live ∨ result.1 = false ∧ NoClient result.2) := by
  refine .call (pahoStart_spec (by simp [Player.base]) hmessenger) ?_
  rintro ⟨started, after⟩ _ _ ⟨hsame, rfl, -⟩
  have hsame : after.handlers = context.handlers := hsame
  dsimp only
  by_cases hclient : after.messenger.isSome = true
  · rw [if_pos hclient]
    refine .call maestroNotifyAbnormalDisconnect_spec ?_
    rintro - _ _ ⟨will, rfl, hwill⟩
    have hlive : will + (pahoOwned after + player.base context ({id} + frame)) =
        pahoOwned after + player.base context ({id} + will + frame) := by
      unfold Player.base
      abel
    rw [hlive]
    refine .call (subscribeIf_spec started hclient) ?_
    rintro connected _ _ rfl
    refine .pure ⟨⟨pahoOwned after + ({context.handlers} + ({player.self} + ({id} + will + frame))),
      ?_⟩, .inl ⟨hassigned, after, {id} + will, rfl, ?_, hclient, ?_, ?_⟩⟩
    · unfold Player.base
      abel
    · rw [hsame]
      exact hhandlers
    · rw [hsame]
      rfl
    · rw [kinds_add, kinds_singleton, hwill, hid]
  · rw [if_neg hclient]
    refine .pure ⟨⟨pahoOwned after + ({context.handlers} + ({player.self} + ({id} + frame))), ?_⟩,
      .inr ⟨rfl, ?_⟩⟩
    · unfold Player.base
      abel
    · intro other hother
      obtain rfl := Option.some.inj hother
      simpa using hclient

theorem maestroPlayerConnect_spec {self uri id : Handle} (hid : id.1 = .connectionId) :
    Spec (maestroPlayerConnect ⟨self, true, some uri, some id, none, none⟩)
      ({id} + ({uri} + ({self} + frame))) globals fun result live _ ↦
        (∃ rest, live = held result.2.uri + rest) ∧
        (HasClient result.2 frame live ∨ result.1 = false ∧ NoClient result.2) := by
  refine .create fun handlers ↦ .call (pahoInit_spec (by simp)) ?_
  rintro (_ | context) live shared hinit
  · obtain ⟨lost, rfl, -⟩ := hinit
    refine .pure ⟨⟨lost + ({(.handlers, handlers)} + ({id} + ({self} + frame))), ?_⟩,
      .inr ⟨rfl, ?_⟩⟩
    · rw [held_some]
      abel
    · intro context hcontext
      cases hcontext
  · obtain ⟨hhandlers, hmessenger, rfl⟩ := hinit
    have hlive : pahoOwned context + ({(.handlers, handlers)} + ({id} + ({uri} + ({self} +
        frame)))) = pahoOwned context + Player.base ⟨self, true, some uri, some id,
          some (.handlers, handlers), none⟩ context ({id} + frame) := by
      simp only [Player.base, hhandlers, held_some]
      abel
    rw [hlive]
    exact startConnection_spec rfl (congrArg some hhandlers.symm) hmessenger hid

/-- The URL is given back. -/
theorem errExit_spec {rest : Multiset Handle} (hlive : live = held player.uri + rest)
    (hclient : HasClient player frame live ∨ NoClient player) :
    Spec (errExit player) live globals fun result after _ ↦
      result.1 = false ∧ (HasClient result.2 frame after ∨ NoClient result.2) := by
  refine .release rest hlive (.pure ⟨rfl, ?_⟩)
  rcases hclient with ⟨hassigned, context, lost, hcontext, hhandlers, hmessenger, howned, hlost⟩ |
    hnone
  · refine .inl ⟨hassigned, context, lost, hcontext, hhandlers, hmessenger, ?_, hlost⟩
    have hsplit : held player.uri + rest = held player.uri + (pahoOwned context +
        ({context.handlers} + ({player.self} + (lost + frame)))) := by
      rw [← hlive, howned]
      abel
    rw [Multiset.add_right_inj.mp hsplit, held_none, zero_add]
  · exact .inr hnone

theorem maestroPlayerStart_spec :
    Spec maestroPlayerStart frame globals fun result live _ ↦
      (result.1 = true → HasClient result.2 frame live) ∧
        (HasClient result.2 frame live ∨ NoClient result.2) := by
  have hnone : ∀ {player : Player}, player.context = none → NoClient player := by
    intro player hcontext context hsome
    rw [hcontext] at hsome
    cases hsome
  -- A start that goes to `err_exit`.
  have hfailed : ∀ {result : Bool × Player} {live : Multiset Handle},
      result.1 = false ∧ (HasClient result.2 frame live ∨ NoClient result.2) →
        (result.1 = true → HasClient result.2 frame live) ∧
          (HasClient result.2 frame live ∨ NoClient result.2) := by
    rintro result live ⟨hresult, hclient⟩
    exact ⟨fun htrue ↦ absurd htrue (by simp [hresult]), hclient⟩
  refine .create fun self ↦ spec_gruAlloc ?_ ?_
  · exact .pure ⟨nofun, .inr (hnone rfl)⟩
  intro uri
  refine .branch (.acquire ?_ ?_) ?_
  · have herror : ∀ shared,
        Spec (errExit ⟨(.player, self), true, some (.uri, uri), none, none, none⟩)
          ({(.uri, uri)} + ({(.player, self)} + frame)) shared fun result after _ ↦
            result.1 = false ∧ (HasClient result.2 frame after ∨ NoClient result.2) :=
      fun shared ↦ errExit_spec rfl (.inr (hnone rfl))
    exact (herror _).mono fun result live _ h ↦ hfailed h
  · intro id
    refine .call (maestroPlayerConnect_spec rfl) ?_
    rintro ⟨connected, player⟩ live shared ⟨⟨rest, hrest⟩, hclient⟩
    have herror : Spec (errExit player) live shared fun result after _ ↦
        (result.1 = true → HasClient result.2 frame after) ∧
          (HasClient result.2 frame after ∨ NoClient result.2) :=
      (errExit_spec hrest (hclient.imp_right And.right)).mono fun result live _ h ↦ hfailed h
    cases connected with
    | false => exact herror
    | true =>
      refine .branch (.pure ?_) herror
      have hhas := hclient.resolve_right (by simp)
      exact ⟨fun _ ↦ hhas, .inl hhas⟩
  · exact .modifyShared (.pure ⟨nofun, .inr (hnone rfl)⟩)

theorem maestroPlayerStop_spec (h : HasClient player frame live) :
    Spec (maestroPlayerStop player) live globals fun _ after _ ↦
      ∃ lost, after = lost + frame ∧ kinds lost = {.connectionId} + willLosses := by
  obtain ⟨hassigned, context, lost, hcontext, hhandlers, hmessenger, rfl, hlost⟩ := h
  refine .use rfl (by simp) ?_
  rw [hassigned, hcontext]
  refine .call (pahoStop_spec hmessenger) ?_
  rintro - _ _ ⟨-, rfl⟩
  refine .call pahoDestroy_spec ?_
  rintro - _ _ rfl
  refine .release ({context.handlers} + ({player.self} + (lost + frame))) (by abel) ?_
  refine .release ({player.self} + (lost + frame)) (by rw [hhandlers, held_some]) ?_
  exact .last (.release (lost + frame) rfl (.pure ⟨lost, rfl, hlost⟩))

/-- A player without a context cannot be stopped. -/
theorem maestroPlayerStop_eq_none (h : player.context = none) (store : HandleStore Kind Globals) :
    maestroPlayerStop player store = none := by
  unfold maestroPlayerStop
  rw [h]
  have hfault : ∀ first : Program Unit, (first >>= fun _ _ ↦ none : Program Unit) store = none := by
    intro first
    exact Option.bind_fun_none (first store)
  cases player.assigned with
  | false => exact hfault _
  | true => exact hfault _

theorem session_spec (h : HasClient player frame live) (rounds : ℕ) :
    Spec (session player rounds) live globals fun turns after _ ↦
      ∃ lost, after = lost + frame ∧
        kinds lost = {.connectionId} + willLosses + (turns.map Turn.losses).sum := by
  obtain ⟨hassigned, context, lost, hcontext, hhandlers, hmessenger, rfl, hlost⟩ := h
  unfold session
  rw [hcontext]
  refine .call (maestroPlayerRun_spec (by simp) hmessenger rounds) ?_
  rintro turns _ _ ⟨more, rfl, hmore⟩
  -- what the turns have lost belongs to the rest of the process from here on
  have hclient : HasClient player (more + frame) (more + (pahoOwned context +
      ({context.handlers} + (held player.uri + ({player.self} + (lost + frame)))))) := by
    refine ⟨hassigned, context, lost, hcontext, hhandlers, hmessenger, ?_, hlost⟩
    abel
  refine .call (maestroPlayerStop_spec hclient) ?_
  rintro - _ _ ⟨last, rfl, hlast⟩
  refine .pure ⟨last + more, (add_assoc _ _ _).symm, ?_⟩
  rw [kinds_add, hlast, hmore]

end

end MsgPerf.Maestro.PlayerSession
