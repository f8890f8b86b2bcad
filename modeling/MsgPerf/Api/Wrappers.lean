import MsgPerf.Library.Handles

/-!
# The messaging layer and what it allocates

A worker speaks to the broker through the functions of `vmsl_t`; there are three sets of them, for
AMQP (`proton-wrapper.c`), MQTT (`paho-wrapper.c`) and STOMP (`stomp-wrapper.c`).  Here they are
read for what they allocate, use and free: the contexts, the client of the library, the URLs, the
message objects, and the pointers that are kept in globals.  Every call of a library may fail.

The connection id, the lists of handlers and the message objects of AMQP are taken to be allocated;
the code does not look at these pointers.
-/

namespace MsgPerf.Api.Session

open MsgPerf.Library
open MsgPerf.Library.HandleProgram

/-! ## What is allocated -/

/-- What a session can hold: of the messaging layer, of the workers, and of the tool and the
player. -/
inductive Kind where
  | messageContext | apiContext | uri | url | connectUrl | messenger | properties | message
  | topicName | serialized | timestamp
  | connectionId | handlers | queueName | queue | sysvQueue | posixQueue | posixName
  | posixDescriptor | content
  | commandContext | player | notePayload | noteText
  deriving DecidableEq, Repr

abbrev Handle := Kind × ℕ

/-- The globals of the wrappers. -/
structure Pointers where
  url : Option Handle
  properties : Option Handle

/-- With the status that a worker passes on. -/
structure Globals extends Pointers where
  failed : Bool

abbrev Program := HandleProgram Kind Globals

def gruStatusSet : Program Unit := modifyShared fun globals ↦ { globals with failed := true }

def gruStatusReset : Program Unit := modifyShared fun globals ↦ { globals with failed := false }

def setUrl (url : Option Handle) : Program Unit :=
  modifyShared fun globals ↦ { globals with url := url }

def setProperties (properties : Option Handle) : Program Unit :=
  modifyShared fun globals ↦ { globals with properties := properties }

/-- An allocation that tells the status when there is no memory. -/
def gruAlloc (kind : Kind) : Program (Option Handle) := do
  match ← acquire kind with
  | none =>
    gruStatusSet
    pure none
  | some handle => pure (some handle)

/-- `msg_ctxt_t` with the context of the protocol in it, and the handlers of the worker. -/
structure Context where
  messageContext : Handle
  apiContext : Handle
  uri : Option Handle
  messenger : Option Handle
  handlers : Handle

/-- `vmsl_stat_t` of a receive. -/
inductive Received where
  | error | noTimestamp | noData | data
  deriving DecidableEq, Repr

/-- `vmsl_t`.  A start may store the client in the context. -/
structure Vmsl where
  init : Handle → Program (Option Context)
  start : Context → Program (Bool × Context)
  subscribe : Context → Program Bool
  send : Context → Option Handle → Program Bool
  receive : Context → Option Handle → Program Received
  stop : Context → Program Unit
  destroy : Context → Program Unit

/-- The casts of the wrappers. -/
def ctxtCast (ctxt : Context) : Program Unit := do
  use (some ctxt.messageContext)
  use (some ctxt.apiContext)

def vmslhRun (ctxt : Context) : Program Unit := use (some ctxt.handlers)

/-- The parameters become handlers; that one could not be added is only told by the status. -/
def setParameters (handlers : Handle) : Program Unit := do
  use (some handlers)
  if ← choose then pure () else gruStatusSet

/-! ## AMQP -/

/-- The application properties are kept in a global list. -/
def protonSetParameters (handlers : Handle) : Program Unit := do
  setParameters handlers
  if ← choose then
    match (← readShared).properties with
    | some _ => pure ()
    | none =>
      let properties ← create .properties
      setProperties (some properties)
  else pure ()

def protonInit (handlers : Handle) : Program (Option Context) := do
  match ← gruAlloc .messageContext with
  | none => pure none
  | some messageContext =>
    match ← gruAlloc .apiContext with
    | none =>
      release (some messageContext)
      pure none
    | some apiContext =>
      protonSetParameters handlers
      let messenger ← acquire .messenger
      use (some apiContext)
      use (some messageContext)
      pure (some ⟨messageContext, apiContext, none, messenger, handlers⟩)

/-- Without a messenger the library reports an error. -/
def protonStart (ctxt : Context) : Program (Bool × Context) := do
  ctxtCast ctxt
  vmslhRun ctxt
  let started ← choose
  if ctxt.messenger.isSome && started then
    let url ← gruAlloc .url
    setUrl url
    if (← readShared).failed then pure (false, ctxt)
    else
      vmslhRun ctxt
      pure (true, ctxt)
  else
    gruStatusSet
    pure (false, ctxt)

def protonSubscribe (ctxt : Context) : Program Bool := do
  ctxtCast ctxt
  use (← readShared).url
  use ctxt.messenger
  if ← choose then pure true
  else
    gruStatusSet
    pure false

/-- The handler of the properties reads the list. -/
def protonBeforeSend (ctxt : Context) : Program Unit := do
  vmslhRun ctxt
  match (← readShared).properties with
  | some properties => use (some properties)
  | none => pure ()

def protonSend (ctxt : Context) (content : Option Handle) : Program Bool := do
  let message ← create .message
  use (← readShared).url
  use content
  ctxtCast ctxt
  protonBeforeSend ctxt
  use (some message)
  use ctxt.messenger
  if ← choose then
    vmslhRun ctxt
    release (some message)
    pure true
  else
    gruStatusSet
    release (some message)
    pure false

def protonReceive (ctxt : Context) (content : Option Handle) : Program Received := do
  ctxtCast ctxt
  use ctxt.messenger
  if ← choose then
    let message ← create .message
    vmslhRun ctxt
    use (some message)
    if ← choose then
      use content
      if ← choose then
        vmslhRun ctxt
        release (some message)
        pure .data
      else
        gruStatusSet
        release (some message)
        pure .noTimestamp
    else
      gruStatusSet
      release (some message)
      pure .error
  else if ← choose then pure .noData
  else
    gruStatusSet
    pure .error

def protonStop (ctxt : Context) : Program Unit := do
  ctxtCast ctxt
  use ctxt.messenger

def protonDestroy (ctxt : Context) : Program Unit := do
  ctxtCast ctxt
  release ctxt.messenger
  release (some ctxt.apiContext)
  release (← readShared).url
  setUrl none
  release (some ctxt.messageContext)
  release (← readShared).properties
  setProperties none

def protonVmsl : Vmsl :=
  ⟨protonInit, protonStart, protonSubscribe, protonSend, protonReceive, protonStop, protonDestroy⟩

/-! ## MQTT -/

def pahoInit (handlers : Handle) : Program (Option Context) := do
  match ← gruAlloc .messageContext with
  | none => pure none
  | some messageContext =>
    match ← gruAlloc .apiContext with
    | none =>
      release (some messageContext)
      pure none
    | some apiContext =>
      let uri ← gruAlloc .uri
      if ← choose then
        setParameters handlers
        use (some messageContext)
        pure (some ⟨messageContext, apiContext, uri, none, handlers⟩)
      else
        release (some messageContext)
        pure none

/-- The library gives no client for an address that could not be formatted. -/
def mqttClientCreate (connectUrl : Option Handle) : Program (Option Handle) :=
  match connectUrl with
  | none => pure none
  | some _ => acquire .messenger

/-- The connection of a client that was created. -/
def pahoConnect (ctxt : Context) (client : Option Handle) : Program (Bool × Context) :=
  match client with
  | none => do
    gruStatusSet
    pure (false, ctxt)
  | some client => do
    vmslhRun ctxt
    if ← choose then
      vmslhRun ctxt
      pure (true, { ctxt with messenger := some client })
    else
      gruStatusSet
      pure (false, { ctxt with messenger := some client })

def pahoStart (ctxt : Context) : Program (Bool × Context) := do
  ctxtCast ctxt
  let connectUrl ← gruAlloc .connectUrl
  let client ← mqttClientCreate connectUrl
  release connectUrl
  pahoConnect ctxt client

def pahoSubscribe (ctxt : Context) : Program Bool := do
  ctxtCast ctxt
  use ctxt.messenger
  if ← choose then pure true
  else
    gruStatusSet
    pure false

/-- The text before the content; the time is only freed behind it. -/
def pahoSerializeLatencyInfo (content : Option Handle) : Program (Option Handle) := do
  let formatted ← acquire .timestamp
  use content
  match ← acquire .serialized with
  | none => pure none
  | some data =>
    release formatted
    pure (some data)

/-- A worker always asks for the latency; the size of the content may be too large. -/
def pahoSend (ctxt : Context) (content : Option Handle) : Program Bool := do
  ctxtCast ctxt
  if ← choose then
    let data ← pahoSerializeLatencyInfo content
    vmslhRun ctxt
    use ctxt.messenger
    release data
    vmslhRun ctxt
    if ← choose then pure true
    else
      gruStatusSet
      pure false
  else
    gruStatusSet
    pure false

/-- Nobody frees the message and the name. -/
def pahoReceive (ctxt : Context) (content : Option Handle) : Program Received := do
  ctxtCast ctxt
  vmslhRun ctxt
  use ctxt.messenger
  if ← choose then
    let _ ← create .topicName
    let message ← create .message
    vmslhRun ctxt
    use (some message)
    use content
    pure .data
  else if ← choose then pure .noData
  else
    gruStatusSet
    pure .error

def pahoStop (ctxt : Context) : Program Unit := do
  ctxtCast ctxt
  use ctxt.messenger

def pahoDestroy (ctxt : Context) : Program Unit := do
  ctxtCast ctxt
  release ctxt.messenger
  release ctxt.uri
  release (some ctxt.apiContext)
  release (some ctxt.messageContext)

def pahoVmsl : Vmsl :=
  ⟨pahoInit, pahoStart, pahoSubscribe, pahoSend, pahoReceive, pahoStop, pahoDestroy⟩

/-! ## STOMP -/

def litestompInit (handlers : Handle) : Program (Option Context) := do
  match ← gruAlloc .messageContext with
  | none => pure none
  | some messageContext =>
    match ← gruAlloc .apiContext with
    | none =>
      release (some messageContext)
      pure none
    | some apiContext =>
      let url ← gruAlloc .url
      setUrl url
      match url with
      | none =>
        release (some messageContext)
        pure none
      | some _ =>
        match ← acquire .messenger with
        | none =>
          release (some messageContext)
          pure none
        | some messenger =>
          if ← choose then
            use (some apiContext)
            use (some messageContext)
            pure (some ⟨messageContext, apiContext, none, some messenger, handlers⟩)
          else
            release (some messenger)
            release (some messageContext)
            pure none

def litestompStart (ctxt : Context) : Program (Bool × Context) := do
  ctxtCast ctxt
  vmslhRun ctxt
  use ctxt.messenger
  if ← choose then
    vmslhRun ctxt
    pure (true, ctxt)
  else
    gruStatusSet
    pure (false, ctxt)

def litestompSubscribe (ctxt : Context) : Program Bool := do
  ctxtCast ctxt
  use ctxt.messenger
  if ← choose then pure true
  else
    gruStatusSet
    pure false

/-- The errors are logged and do not reach the status. -/
def litestompSend (ctxt : Context) (content : Option Handle) : Program Bool := do
  ctxtCast ctxt
  use ctxt.messenger
  match ← acquire .message with
  | none => pure false
  | some message =>
    if ← choose then
      use content
      vmslhRun ctxt
      if ← choose then
        vmslhRun ctxt
        release (some message)
        pure true
      else
        release (some message)
        pure false
    else
      release (some message)
      pure false

/-- The content is not filled. -/
def litestompReceive (ctxt : Context) (_content : Option Handle) : Program Received := do
  ctxtCast ctxt
  match ← acquire .message with
  | none =>
    use ctxt.messenger
    pure .error
  | some message =>
    vmslhRun ctxt
    use ctxt.messenger
    if ← choose then
      vmslhRun ctxt
      release (some message)
      pure .data
    else if ← choose then
      release (some message)
      pure .noData
    else
      release (some message)
      pure .error

def litestompStop (_ctxt : Context) : Program Unit := pure ()

def litestompDestroy (ctxt : Context) : Program Unit := do
  ctxtCast ctxt
  release ctxt.messenger
  release (some ctxt.apiContext)
  release (some ctxt.messageContext)
  release (← readShared).url
  setUrl none

def litestompVmsl : Vmsl :=
  ⟨litestompInit, litestompStart, litestompSubscribe, litestompSend, litestompReceive,
    litestompStop, litestompDestroy⟩

end MsgPerf.Api.Session
