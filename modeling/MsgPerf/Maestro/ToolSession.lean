import MsgPerf.Api.Protocols

/-!
# Connections of the command line tool

The tool connects to the broker for every command and disconnects behind it.  The context of the
commands keeps the connection, with the id and the URL of its options, and the handlers, which are
shared by all connections.

A command that could not connect leaves the connection in the context, where the next one overwrites
it; a PING whose request could not be prepared leaves it connected.  A SET prepares its payload
twice and frees one.  Whatever fails, nothing is used that is gone, and what is lost is bounded by
these three.  At the end of the tool a connection that is left is given back, and the library is
then asked to disconnect a client that may never have been created.

The broker of the tool speaks MQTT.  The texts and the content of a request are taken to be
allocated, and so is the second payload of a SET; the code does not look at these pointers.
-/

namespace MsgPerf.Maestro.Tool

open MsgPerf.Api.Session
open MsgPerf.Library
open MsgPerf.Library.HandleProgram

/-! ## The context -/

/-- `msg_ctxt` of the tool, with the id and the URL of its options. -/
structure Connection where
  context : Context
  id : Handle
  uri : Handle

/-- `maestro_cmd_ctxt_t`. -/
structure CommandContext where
  self : Handle
  handlers : Handle
  connection : Option Connection

/-- How a command ends. -/
inductive CommandEnd where
  | sent | refused | unconnected | abandoned
  deriving DecidableEq, Repr

/-- The connection of the context, which must not be null. -/
def currentConnection (cmd : CommandContext) : Program Connection := do
  use (some cmd.self)
  match cmd.connection with
  | none => fun _ ↦ none
  | some connection => pure connection

/-- The connection of an earlier command is overwritten. -/
def maestroCmdCtxtStart (cmd : CommandContext) (id uri : Handle) :
    Program (Bool × CommandContext) := do
  use (some cmd.self)
  match ← pahoInit cmd.handlers with
  | none => pure (false, { cmd with connection := none })
  | some context =>
    let (started, context) ← pahoStart context
    pure (started, { cmd with connection := some ⟨context, id, uri⟩ })

def maestroCmdCtxtStop (cmd : CommandContext) : Program CommandContext := do
  let connection ← currentConnection cmd
  pahoStop connection.context
  release (some connection.uri)
  release (some connection.id)
  pahoDestroy connection.context
  pure { cmd with connection := none }

/-- `paho_send` for a connection without statistics. -/
def pahoSendPlain (ctxt : Context) (content : Option Handle) : Program Bool := do
  ctxtCast ctxt
  use content
  if ← choose then
    Api.Session.vmslhRun ctxt
    use ctxt.messenger
    Api.Session.vmslhRun ctxt
    if ← choose then pure true
    else
      gruStatusSet
      pure false
  else
    gruStatusSet
    pure false

def maestroCmdCtxtSend (cmd : CommandContext) (content : Option Handle) : Program Bool := do
  let connection ← currentConnection cmd
  pahoSendPlain connection.context content

/-- The URL of the connection is left to the process, as are the queue and the context of a tool
that could not be initialized. -/
def maestroCmdCtxtDestroy (cmd : CommandContext) : Program Unit := do
  match cmd.connection with
  | none =>
    release (some cmd.handlers)
    release (some cmd.self)
  | some connection =>
    release (some connection.id)
    pahoStop connection.context
    pahoDestroy connection.context
    release (some cmd.handlers)
    release (some cmd.self)

/-! ## The commands -/

def maestroCmdConnect (cmd : CommandContext) : Program (Bool × CommandContext) := do
  let id ← create .connectionId
  gruStatusReset
  match ← gruAlloc .uri with
  | none => pure (false, cmd)
  | some uri => maestroCmdCtxtStart cmd id uri

/-- `gru_uri_set_path` on the URL of the connection. -/
def setPath (cmd : CommandContext) : Program Unit := do
  let connection ← currentConnection cmd
  use (some connection.context.messageContext)
  use (some connection.uri)

/-- The end of every command that has a request. -/
def sendAndStop (cmd : CommandContext) (content : Option Handle) :
    Program (CommandEnd × CommandContext) := do
  let sent ← maestroCmdCtxtSend cmd content
  release content
  let cmd ← maestroCmdCtxtStop cmd
  pure (if sent then .sent else .refused, cmd)

/-- The beginning of every command: nothing else happens without a connection. -/
def withConnection (cmd : CommandContext)
    (body : CommandContext → Program (CommandEnd × CommandContext)) :
    Program (CommandEnd × CommandContext) := do
  let (connected, cmd) ← maestroCmdConnect cmd
  if connected then
    setPath cmd
    body cmd
  else pure (.unconnected, cmd)

def maestroCmdWithoutPayload (cmd : CommandContext) : Program (CommandEnd × CommandContext) :=
  withConnection cmd fun cmd ↦ do
    let content ← create .content
    sendAndStop cmd (some content)

def maestroCmdRequestPing : Program (Option Handle) := do
  match ← gruAlloc .notePayload with
  | none => pure none
  | some payload =>
    use (some payload)
    let content ← create .content
    release (some payload)
    pure (some content)

/-- A failure that the status tells, also one from before, ends the command here. -/
def maestroCmdPing (cmd : CommandContext) : Program (CommandEnd × CommandContext) :=
  withConnection cmd fun cmd ↦ do
    let content ← maestroCmdRequestPing
    if (← readShared).failed then pure (.abandoned, cmd) else sendAndStop cmd content

/-- The option may be unknown; the first payload is lost. -/
def maestroCmdSetOptByName : Program (Option Handle) := do
  match ← gruAlloc .notePayload with
  | none => pure none
  | some _ =>
    if ← choose then
      let payload ← create .notePayload
      let value ← create .noteText
      let content ← create .content
      release (some value)
      release (some payload)
      pure (some content)
    else pure none

/-- The option or its value may be missing. -/
def maestroCmdSetOpt (cmd : CommandContext) : Program (CommandEnd × CommandContext) := do
  if ← choose then
    withConnection cmd fun cmd ↦ do
      match ← maestroCmdSetOptByName with
      | none =>
        let cmd ← maestroCmdCtxtStop cmd
        pure (.refused, cmd)
      | some content => sendAndStop cmd (some content)
  else pure (.refused, cmd)

inductive ToolCommand where
  | plain | ping | set
  deriving DecidableEq, Repr

def ToolCommand.run : ToolCommand → CommandContext → Program (CommandEnd × CommandContext)
  | .plain => maestroCmdWithoutPayload
  | .ping => maestroCmdPing
  | .set => maestroCmdSetOpt

/-- The commands of a script or of the prompt, with their ends. -/
def maestroLoopCmds (cmd : CommandContext) :
    List ToolCommand → Program (List CommandEnd × CommandContext)
  | [] => pure ([], cmd)
  | command :: commands => do
      let (ended, cmd) ← command.run cmd
      let (ends, cmd) ← maestroLoopCmds cmd commands
      pure (ended :: ends, cmd)

/-- The tool up to the end of its commands. -/
def maestroLoop (commands : List ToolCommand) : Program (List CommandEnd × CommandContext) := do
  let self ← create .commandContext
  let handlers ← create .handlers
  maestroLoopCmds ⟨self, handlers, none⟩ commands

/-! ## What the context holds -/

def Connection.owned (connection : Connection) : Multiset Handle :=
  {connection.id} + ({connection.uri} + pahoOwned connection.context)

def ownedConnection : Option Connection → Multiset Handle
  | none => 0
  | some connection => connection.owned

/-- The context itself, the handlers and the rest of the process. -/
def CommandContext.base (cmd : CommandContext) (frame : Multiset Handle) : Multiset Handle :=
  {cmd.self} + ({cmd.handlers} + frame)

/-- A connection that can be used and stopped. -/
structure Connection.Ready (connection : Connection) (cmd : CommandContext) : Prop where
  handlers : connection.context.handlers = cmd.handlers
  messenger : connection.context.messenger.isSome

theorem card_pahoOwned_le (ctxt : Context) : (pahoOwned ctxt).card ≤ 4 := by
  obtain ⟨messageContext, apiContext, uri, messenger, handlers⟩ := ctxt
  cases uri <;> cases messenger <;> simp [pahoOwned]

theorem Connection.card_owned_le (connection : Connection) : connection.owned.card ≤ 6 := by
  have hcard := card_pahoOwned_le connection.context
  rw [owned, Multiset.card_add, Multiset.card_add, Multiset.card_singleton,
    Multiset.card_singleton]
  omega

theorem card_le_of_mem_init {lost : Multiset Handle} (h : kinds lost ∈ pahoLosses.init) :
    lost.card ≤ 2 := by
  have hcard : (kinds lost).card = lost.card := Multiset.card_map _ _
  rw [← hcard]
  rcases h with h | h | h
  · simp [h]
  · simp [h]
  · have h : kinds lost = {.apiContext} + {.uri} := h
    simp [h]

/-! ## The functions of the context -/

section

variable {Result : Type} {cmd : CommandContext} {connection : Connection}
  {rest frame : Multiset Handle} {globals : Globals}
  {post : Result → Multiset Handle → Globals → Prop}

theorem spec_currentConnection {live : Multiset Handle} {next : Connection → Program Result}
    (hconnection : cmd.connection = some connection) (hself : cmd.self ∈ live)
    (h : Spec (next connection) live globals post) :
    Spec (currentConnection cmd >>= next) live globals post := by
  refine .bind (.use rfl hself ?_)
  rw [hconnection]
  exact .pure h

theorem spec_setPath {live : Multiset Handle} {next : Unit → Program Result}
    (hconnection : cmd.connection = some connection) (hself : cmd.self ∈ live)
    (hlive : connection.owned ≤ live) (h : Spec (next ()) live globals post) :
    Spec (setPath cmd >>= next) live globals post := by
  have hmem : ∀ handle ∈ connection.owned, handle ∈ live := fun handle ↦ Multiset.mem_of_le hlive
  refine .bind (spec_currentConnection hconnection hself ?_)
  refine .use rfl (hmem _ (by simp [Connection.owned, pahoOwned])) ?_
  exact .last (.use rfl (hmem _ (by simp [Connection.owned])) (.pure h))

theorem maestroCmdCtxtStop_spec (hconnection : cmd.connection = some connection)
    (hready : connection.Ready cmd) (hself : cmd.self ∈ rest) :
    Spec (maestroCmdCtxtStop cmd) (connection.owned + rest) globals fun after live _ ↦
      after = { cmd with connection := none } ∧ live = rest := by
  refine spec_currentConnection hconnection (by simp [hself]) ?_
  have hlive : connection.owned + rest =
      pahoOwned connection.context + ({connection.uri} + ({connection.id} + rest)) := by
    rw [Connection.owned]
    abel
  rw [hlive]
  refine .call (pahoStop_spec hready.messenger) ?_
  rintro - _ after ⟨-, rfl⟩
  refine .release (pahoOwned connection.context + ({connection.id} + rest))
    (by simp only [held_some]; abel) ?_
  refine .release (pahoOwned connection.context + rest) (by simp only [held_some]; abel) ?_
  refine .call pahoDestroy_spec ?_
  rintro - _ last rfl
  exact .pure ⟨rfl, rfl⟩

/-- A send without statistics allocates nothing. -/
theorem pahoSendPlain_spec {ctxt : Context} {content : Handle} {live : Multiset Handle}
    (howned : pahoOwned ctxt ≤ live) (hmessenger : ctxt.messenger.isSome)
    (hhandlers : ctxt.handlers ∈ live) (hcontent : content ∈ live) :
    Spec (pahoSendPlain ctxt (some content)) live globals fun _ after _ ↦ after = live := by
  obtain ⟨messenger, hmessenger⟩ := Option.isSome_iff_exists.mp hmessenger
  have hmem : ∀ handle ∈ pahoOwned ctxt, handle ∈ live := fun handle ↦ Multiset.mem_of_le howned
  refine spec_ctxtCast (hmem _ (by simp [pahoOwned])) (hmem _ (by simp [pahoOwned]))
    (.use rfl hcontent (.branch ?_ ?_))
  · refine .use rfl hhandlers (.use hmessenger (hmem _ (by simp [pahoOwned, hmessenger])) ?_)
    refine .use rfl hhandlers (.branch (.pure rfl) ?_)
    exact .modifyShared (.pure rfl)
  · exact .modifyShared (.pure rfl)

theorem sendAndStop_spec (content : Handle) (hconnection : cmd.connection = some connection)
    (hready : connection.Ready cmd) (hself : cmd.self ∈ rest) (hhandlers : cmd.handlers ∈ rest) :
    Spec (sendAndStop cmd (some content)) ({content} + (connection.owned + rest)) globals
      fun result live _ ↦ result.2 = { cmd with connection := none } ∧ live = rest := by
  have howned : pahoOwned connection.context ≤ {content} + (connection.owned + rest) := by
    rw [Connection.owned]
    refine Multiset.le_iff_exists_add.mpr
      ⟨{content} + ({connection.id} + ({connection.uri} + rest)), ?_⟩
    abel
  have hsend : Spec (maestroCmdCtxtSend cmd (some content))
      ({content} + (connection.owned + rest)) globals fun _ live _ ↦
        live = {content} + (connection.owned + rest) := by
    refine spec_currentConnection hconnection (by simp [hself]) ?_
    exact pahoSendPlain_spec howned hready.messenger (by simp [hready.handlers, hhandlers])
      (by simp)
  refine .call hsend ?_
  rintro sent _ after rfl
  refine .release _ rfl (.call (maestroCmdCtxtStop_spec hconnection hready hself) ?_)
  rintro _ _ last ⟨rfl, rfl⟩
  exact .pure ⟨rfl, rfl⟩

/-- What a command has after it has tried to connect. -/
structure Connected (cmd : CommandContext) (frame : Multiset Handle) (connected : Bool)
    (after : CommandContext) (live : Multiset Handle) : Prop where
  same : after.self = cmd.self ∧ after.handlers = cmd.handlers
  ready : connected = true → ∃ connection, after.connection = some connection ∧
    connection.Ready after ∧ live = connection.owned + (ownedConnection cmd.connection +
      cmd.base frame)
  lost : ∃ lost, live = lost + (ownedConnection after.connection + cmd.base frame) ∧
    lost.card + (ownedConnection after.connection).card ≤
      (ownedConnection cmd.connection).card + 6

theorem maestroCmdConnect_spec :
    Spec (maestroCmdConnect cmd) (ownedConnection cmd.connection + cmd.base frame) globals
      fun result live _ ↦ Connected cmd frame result.1 result.2 live := by
  refine .create fun id ↦ .modifyShared (spec_gruAlloc ?_ ?_)
  · refine .pure ⟨⟨rfl, rfl⟩, nofun, {(.connectionId, id)}, rfl, ?_⟩
    rw [Multiset.card_singleton, add_comm]
    exact Nat.add_le_add_left (by decide) _
  intro uri
  refine .use rfl (by simp [CommandContext.base]) ?_
  refine .call (pahoInit_spec (by simp [CommandContext.base])) ?_
  rintro (_ | context) live after hinit
  · obtain ⟨lost, rfl, hlost⟩ := hinit
    have hcard := card_le_of_mem_init hlost
    refine .pure ⟨⟨rfl, rfl⟩, nofun, lost + {(.uri, uri)} + {(.connectionId, id)} +
      ownedConnection cmd.connection, ?_, ?_⟩
    · simp only [ownedConnection, zero_add]
      abel
    · simp only [Multiset.card_add, Multiset.card_singleton, ownedConnection, Multiset.card_zero]
      omega
  · obtain ⟨hhandlers, hmessenger, rfl⟩ := hinit
    refine .call (pahoStart_spec (by simp [CommandContext.base, hhandlers]) hmessenger) ?_
    rintro ⟨started, context'⟩ live last ⟨hsame, rfl, hready⟩
    have hcard := Connection.card_owned_le ⟨context', (.connectionId, id), (.uri, uri)⟩
    refine .pure ⟨⟨rfl, rfl⟩, ?_, ownedConnection cmd.connection, ?_, ?_⟩
    · intro hstarted
      refine ⟨_, rfl, ⟨hsame.trans hhandlers, hready hstarted⟩, ?_⟩
      simp only [Connection.owned]
      abel
    · simp only [ownedConnection, Connection.owned]
      abel
    · simp only [ownedConnection]
      omega

/-! ## The commands -/

/-- A connection that could not be made or was abandoned. -/
def CommandEnd.fails : CommandEnd → Bool
  | .unconnected | .abandoned => true
  | .sent | .refused => false

/-- What a command may lose. -/
def ToolCommand.cost (command : ToolCommand) (ended : CommandEnd) : ℕ :=
  (if ended.fails then 7 else 0) + if command = .set then 1 else 0

/-- What a command leaves. -/
def Leaves (cmd : CommandContext) (frame : Multiset Handle) (cost : ℕ) (after : CommandContext)
    (live : Multiset Handle) : Prop :=
  (after.self = cmd.self ∧ after.handlers = cmd.handlers) ∧
    ∃ lost, live = lost + (ownedConnection after.connection + cmd.base frame) ∧
      lost.card + (ownedConnection after.connection).card ≤
        (ownedConnection cmd.connection).card + cost

/-- The connection was given back, and the one before has been overwritten. -/
theorem leaves_of_stopped {after : CommandContext} {cost : ℕ} (lost : Multiset Handle)
    (hlost : lost.card ≤ cost) (hsame : after.self = cmd.self ∧ after.handlers = cmd.handlers) :
    Leaves cmd frame cost { after with connection := none }
      (lost + (ownedConnection cmd.connection + cmd.base frame)) := by
  refine ⟨hsame, lost + ownedConnection cmd.connection, ?_, ?_⟩
  · simp only [ownedConnection, zero_add, add_assoc]
  · simp only [ownedConnection, Multiset.card_add, Multiset.card_zero]
    omega

theorem Connected.leaves {connected : Bool} {after : CommandContext} {live : Multiset Handle}
    (h : Connected cmd frame connected after live) (command : ToolCommand) :
    Leaves cmd frame (command.cost .unconnected) after live := by
  obtain ⟨lost, hlive, hcard⟩ := h.lost
  refine ⟨h.same, lost, hlive, hcard.trans ?_⟩
  rw [ToolCommand.cost, CommandEnd.fails, if_pos rfl]
  omega

/-- The end of a command with what it has lost before. -/
theorem sendAndStop_leaves (command : ToolCommand) {after : CommandContext} {content : Handle}
    {live : Multiset Handle} (lost : Multiset Handle)
    (hlost : lost.card ≤ if command = .set then 1 else 0)
    (hsame : after.self = cmd.self ∧ after.handlers = cmd.handlers)
    (hconnection : after.connection = some connection) (hready : connection.Ready after)
    (hlive : live = {content} + (connection.owned + (lost + (ownedConnection cmd.connection +
      cmd.base frame)))) :
    Spec (sendAndStop after (some content)) live globals
      fun result live _ ↦ Leaves cmd frame (command.cost result.1) result.2 live := by
  subst hlive
  have hself : after.self ∈ lost + (ownedConnection cmd.connection + cmd.base frame) := by
    simp [CommandContext.base, hsame.1]
  have hhandlers : after.handlers ∈ lost + (ownedConnection cmd.connection + cmd.base frame) := by
    simp [CommandContext.base, hsame.2]
  refine (sendAndStop_spec content hconnection hready hself hhandlers).mono ?_
  rintro ⟨ended, _⟩ _ _ ⟨rfl, rfl⟩
  exact leaves_of_stopped lost (hlost.trans (Nat.le_add_left _ _)) hsame

theorem withConnection_spec (command : ToolCommand)
    {body : CommandContext → Program (CommandEnd × CommandContext)}
    (hbody : ∀ (after : CommandContext) (connection : Connection) (globals : Globals),
      (after.self = cmd.self ∧ after.handlers = cmd.handlers) →
      after.connection = some connection → connection.Ready after →
      Spec (body after) (connection.owned + (ownedConnection cmd.connection + cmd.base frame))
        globals fun result live _ ↦ Leaves cmd frame (command.cost result.1) result.2 live) :
    Spec (withConnection cmd body) (ownedConnection cmd.connection + cmd.base frame) globals
      fun result live _ ↦ Leaves cmd frame (command.cost result.1) result.2 live := by
  refine .call maestroCmdConnect_spec ?_
  rintro ⟨connected, after⟩ live last hconnected
  cases connected with
  | false => exact .pure (hconnected.leaves command)
  | true =>
    obtain ⟨connection, hconnection, hready, rfl⟩ := hconnected.ready rfl
    have hsame : after.self = cmd.self ∧ after.handlers = cmd.handlers := hconnected.same
    refine spec_setPath hconnection ?_ (Multiset.le_add_right _ _) ?_
    · simp [CommandContext.base, hsame.1]
    · exact hbody after connection last hsame hconnection hready

theorem maestroCmdWithoutPayload_spec :
    Spec (maestroCmdWithoutPayload cmd) (ownedConnection cmd.connection + cmd.base frame) globals
      fun result live _ ↦ Leaves cmd frame (ToolCommand.plain.cost result.1) result.2 live := by
  refine withConnection_spec .plain ?_
  intro after connection last hsame hconnection hready
  refine .create fun content ↦ ?_
  exact sendAndStop_leaves .plain 0 Multiset.card_zero.le hsame hconnection hready
    (by rw [zero_add])

theorem maestroCmdPing_spec :
    Spec (maestroCmdPing cmd) (ownedConnection cmd.connection + cmd.base frame) globals
      fun result live _ ↦ Leaves cmd frame (ToolCommand.ping.cost result.1) result.2 live := by
  refine withConnection_spec .ping ?_
  intro after connection last hsame hconnection hready
  -- an abandoned command leaves the connection, and perhaps the content of its request
  have habandoned (content : Multiset Handle) (hcontent : content.card ≤ 1) :
      Leaves cmd frame (ToolCommand.ping.cost .abandoned) after
        (content + (connection.owned + (ownedConnection cmd.connection + cmd.base frame))) := by
    have hcard := connection.card_owned_le
    refine ⟨hsame, content + ownedConnection cmd.connection, ?_, ?_⟩
    · rw [hconnection, ownedConnection]
      abel
    · rw [hconnection, ownedConnection, Multiset.card_add, ToolCommand.cost, CommandEnd.fails,
        if_pos rfl]
      omega
  refine .bind (spec_gruAlloc (.pure (.readShared ?_)) ?_)
  · have hleaves := habandoned 0 (Nat.zero_le 1)
    rw [zero_add] at hleaves
    exact .pure hleaves
  intro payload
  refine .use rfl (by simp) (.create fun content ↦ ?_)
  refine .release ({(.content, content)} + (connection.owned +
    (ownedConnection cmd.connection + cmd.base frame))) (by simp only [held_some]; abel) ?_
  refine .pure (.readShared ?_)
  split
  · exact .pure (habandoned _ (Multiset.card_singleton _).le)
  · exact sendAndStop_leaves .ping 0 Multiset.card_zero.le hsame hconnection hready
      (by rw [zero_add])

theorem maestroCmdSetOpt_spec :
    Spec (maestroCmdSetOpt cmd) (ownedConnection cmd.connection + cmd.base frame) globals
      fun result live _ ↦ Leaves cmd frame (ToolCommand.set.cost result.1) result.2 live := by
  refine .branch (withConnection_spec .set ?_) ?_
  · intro after connection last hsame hconnection hready
    -- the connection is stopped behind an option that is not known
    have hrefused (lost : Multiset Handle) (hlost : lost.card ≤ 1) (globals : Globals) :
        Spec (do
            let cmd ← maestroCmdCtxtStop after
            pure (CommandEnd.refused, cmd))
          (connection.owned + (lost + (ownedConnection cmd.connection + cmd.base frame))) globals
          fun result live _ ↦
            Leaves cmd frame (ToolCommand.set.cost result.1) result.2 live := by
      have hself : after.self ∈ lost + (ownedConnection cmd.connection + cmd.base frame) := by
        simp [CommandContext.base, hsame.1]
      refine .call (maestroCmdCtxtStop_spec hconnection hready hself) ?_
      rintro _ _ _ ⟨rfl, rfl⟩
      exact .pure (leaves_of_stopped lost hlost hsame)
    refine .bind (spec_gruAlloc (.pure ?_) ?_)
    · have hspec := hrefused 0 (Nat.zero_le 1)
      simp only [zero_add] at hspec
      exact hspec _
    intro first
    have hfirst : ({(Kind.notePayload, first)} : Multiset Handle).card ≤ 1 :=
      (Multiset.card_singleton _).le
    refine .branch ?_ (.pure ?_)
    · refine .create fun payload ↦ .create fun value ↦ .create fun content ↦ ?_
      refine .release ({(.content, content)} + ({(.notePayload, payload)} +
        ({(.notePayload, first)} + (connection.owned +
          (ownedConnection cmd.connection + cmd.base frame))))) (by simp only [held_some]; abel) ?_
      refine .release ({(.content, content)} + (connection.owned + ({(.notePayload, first)} +
        (ownedConnection cmd.connection + cmd.base frame)))) (by simp only [held_some]; abel) ?_
      exact .pure (sendAndStop_leaves .set _ hfirst hsame hconnection hready rfl)
    · rw [add_left_comm]
      exact hrefused _ hfirst _
  · refine .pure ⟨⟨rfl, rfl⟩, 0, (zero_add _).symm, ?_⟩
    simp

theorem ToolCommand.run_spec (command : ToolCommand) :
    Spec (command.run cmd) (ownedConnection cmd.connection + cmd.base frame) globals
      fun result live _ ↦ Leaves cmd frame (command.cost result.1) result.2 live := by
  cases command with
  | plain => exact maestroCmdWithoutPayload_spec
  | ping => exact maestroCmdPing_spec
  | set => exact maestroCmdSetOpt_spec

/-- What a sequence of commands may lose. -/
def lossBound (commands : List ToolCommand) (ends : List CommandEnd) : ℕ :=
  7 * ends.countP CommandEnd.fails + commands.count .set

theorem lossBound_cons (command : ToolCommand) (commands : List ToolCommand) (ended : CommandEnd)
    (ends : List CommandEnd) :
    lossBound (command :: commands) (ended :: ends) =
      command.cost ended + lossBound commands ends := by
  rw [lossBound, lossBound, ToolCommand.cost, List.countP_cons, List.count_cons]
  simp only [beq_iff_eq]
  split_ifs <;> omega

theorem maestroLoopCmds_spec (commands : List ToolCommand) :
    Spec (maestroLoopCmds cmd commands) (ownedConnection cmd.connection + cmd.base frame) globals
      fun result live _ ↦ result.1.length = commands.length ∧
        Leaves cmd frame (lossBound commands result.1) result.2 live := by
  induction commands generalizing cmd frame globals with
  | nil => exact .pure ⟨rfl, ⟨rfl, rfl⟩, 0, (zero_add _).symm, by simp⟩
  | cons command commands ih =>
    refine .call command.run_spec ?_
    rintro ⟨ended, after⟩ _ last ⟨hsame, lost, rfl, hcard⟩
    -- what the command has lost belongs to the rest of the process from here on
    have hframe : lost + (ownedConnection after.connection + cmd.base frame) =
        ownedConnection after.connection + after.base (lost + frame) := by
      rw [CommandContext.base, CommandContext.base, hsame.1, hsame.2]
      abel
    rw [hframe]
    refine .call ih ?_
    rintro ⟨ends, final⟩ _ _ ⟨hlength, hfinal, more, rfl, hmore⟩
    refine .pure ⟨congrArg Nat.succ hlength,
      ⟨hfinal.1.trans hsame.1, hfinal.2.trans hsame.2⟩, more + lost, ?_, ?_⟩
    · rw [CommandContext.base, CommandContext.base, hsame.1, hsame.2]
      abel
    · rw [lossBound_cons, Multiset.card_add]
      dsimp only at hmore hcard ⊢
      omega

theorem maestroCmdCtxtDestroy_spec (hclient : ∀ connection, cmd.connection = some connection →
      connection.context.messenger.isSome) :
    Spec (maestroCmdCtxtDestroy cmd) (ownedConnection cmd.connection + cmd.base frame) globals
      fun _ live _ ↦ ∃ lost, live = lost + frame ∧
        lost.card ≤ (ownedConnection cmd.connection).card := by
  unfold maestroCmdCtxtDestroy
  cases hconnection : cmd.connection with
  | none =>
    rw [ownedConnection, zero_add]
    refine .release ({cmd.self} + frame) ?_ (.last (.release frame rfl (.pure ⟨0, ?_, ?_⟩)))
    · rw [CommandContext.base, held_some, add_left_comm]
    · rw [zero_add]
    · exact Nat.zero_le _
  | some connection =>
    refine .release (pahoOwned connection.context + ({connection.uri} + cmd.base frame)) ?_ ?_
    · rw [ownedConnection, Connection.owned, held_some]
      abel
    refine .call (pahoStop_spec (hclient connection hconnection)) ?_
    rintro - _ after ⟨-, rfl⟩
    refine .call pahoDestroy_spec ?_
    rintro - _ last rfl
    refine .release ({cmd.self} + ({connection.uri} + frame)) ?_ (.last (.release _ rfl
      (.pure ⟨{connection.uri}, rfl, ?_⟩)))
    · rw [CommandContext.base, held_some]
      abel
    · rw [ownedConnection, Connection.owned, Multiset.card_singleton, Multiset.card_add,
        Multiset.card_singleton]
      exact Nat.le_add_right 1 _

end

end MsgPerf.Maestro.Tool
