import Mathlib.Algebra.Group.Submonoid.Membership
import MsgPerf.Api.Wrappers

/-!
# The wrappers keep the discipline

What the workers rely on in the functions of `vmsl_t`, and that the three sets of them provide it:
no function uses or frees what is gone, whatever fails, and a context that is destroyed has given
back all that was allocated for it.

Some of the functions lose what they have allocated.  `paho_receive` leaves each message and the
name of its topic with nobody, `paho_init` and `litestomp_init` forget their own context when they
fail behind it, and `paho_serialize_latency_info` forgets a time when there is no memory for the
text.  `Losses` says what may be lost, and nothing else is.
-/

namespace MsgPerf.Api.Session

open MsgPerf.Library
open MsgPerf.Library.HandleProgram

/-! ## What the workers rely on -/

def kinds (handles : Multiset Handle) : Multiset Kind := handles.map Prod.fst

@[simp] theorem kinds_zero : kinds 0 = 0 := rfl

@[simp] theorem kinds_add (first second : Multiset Handle) :
    kinds (first + second) = kinds first + kinds second := Multiset.map_add _ _ _

@[simp] theorem kinds_singleton (handle : Handle) : kinds {handle} = {handle.1} := rfl

/-- What may be lost when a session cannot be initialized, with a message that is sent and with one
that is received. -/
structure Losses where
  init : Set (Multiset Kind)
  send : AddSubmonoid (Multiset Kind)
  receive : Multiset Kind

/-- The functions never fault, give back what they have allocated when the context is destroyed,
and lose no more than they may. -/
structure Protocol (vmsl : Vmsl) (losses : Losses) where
  owned : Context → Pointers → Multiset Handle
  Initialized : Context → Pointers → Prop
  Ready : Context → Pointers → Prop
  init_spec : ∀ {handlers : Handle} {frame : Multiset Handle} {globals : Globals},
    handlers ∈ frame → globals.toPointers = ⟨none, none⟩ →
    Spec (vmsl.init handlers) frame globals fun result live after ↦
      match result with
      | none => ∃ lost, live = lost + frame ∧ kinds lost ∈ losses.init
      | some ctxt => ctxt.handlers = handlers ∧ Initialized ctxt after.toPointers ∧
          live = owned ctxt after.toPointers + frame
  start_spec : ∀ {ctxt : Context} {frame : Multiset Handle} {globals : Globals},
    ctxt.handlers ∈ frame → Initialized ctxt globals.toPointers →
    Spec (vmsl.start ctxt) (owned ctxt globals.toPointers + frame) globals
      fun result live after ↦ result.2.handlers = ctxt.handlers ∧
        live = owned result.2 after.toPointers + frame ∧
        (result.1 = true → Ready result.2 after.toPointers)
  subscribe_spec : ∀ {ctxt : Context} {frame : Multiset Handle} {globals : Globals},
    Ready ctxt globals.toPointers →
    Spec (vmsl.subscribe ctxt) (owned ctxt globals.toPointers + frame) globals
      fun _ live after ↦ after.toPointers = globals.toPointers ∧
        live = owned ctxt globals.toPointers + frame
  send_spec : ∀ {ctxt : Context} {content : Handle} {frame : Multiset Handle} {globals : Globals},
    ctxt.handlers ∈ frame → content ∈ frame → Ready ctxt globals.toPointers →
    Spec (vmsl.send ctxt (some content)) (owned ctxt globals.toPointers + frame) globals
      fun _ live after ↦ after.toPointers = globals.toPointers ∧
        ∃ lost, live = lost + (owned ctxt globals.toPointers + frame) ∧ kinds lost ∈ losses.send
  receive_spec : ∀ {ctxt : Context} {content : Handle} {frame : Multiset Handle}
    {globals : Globals}, ctxt.handlers ∈ frame → content ∈ frame →
    Ready ctxt globals.toPointers →
    Spec (vmsl.receive ctxt (some content)) (owned ctxt globals.toPointers + frame) globals
      fun received live after ↦ after.toPointers = globals.toPointers ∧
        ∃ lost, live = lost + (owned ctxt globals.toPointers + frame) ∧
          kinds lost = if received = .data then losses.receive else 0
  stop_spec : ∀ {ctxt : Context} {frame : Multiset Handle} {globals : Globals},
    Ready ctxt globals.toPointers →
    Spec (vmsl.stop ctxt) (owned ctxt globals.toPointers + frame) globals
      fun _ live after ↦ after.toPointers = globals.toPointers ∧
        live = owned ctxt globals.toPointers + frame
  destroy_spec : ∀ {ctxt : Context} {frame : Multiset Handle} {globals : Globals},
    Spec (vmsl.destroy ctxt) (owned ctxt globals.toPointers + frame) globals
      fun _ live _ ↦ live = frame

/-! ## Rules for the common parts -/

section

variable {Result : Type} {live : Multiset Handle} {globals : Globals}
  {post : Result → Multiset Handle → Globals → Prop}

theorem spec_gruAlloc {kind : Kind} {next : Option Handle → Program Result}
    (hnone : Spec (next none) live { globals with failed := true } post)
    (hsome : ∀ number, Spec (next (some (kind, number))) ({(kind, number)} + live) globals post) :
    Spec (gruAlloc kind >>= next) live globals post := by
  refine .bind (.acquire ?_ ?_)
  · exact .modifyShared (.pure hnone)
  · intro number
    exact .pure (hsome number)

theorem spec_ctxtCast {ctxt : Context} {next : Unit → Program Result}
    (hmessage : ctxt.messageContext ∈ live) (hapi : ctxt.apiContext ∈ live)
    (h : Spec (next ()) live globals post) : Spec (ctxtCast ctxt >>= next) live globals post :=
  .bind (.use rfl hmessage (.last (.use rfl hapi (.pure h))))

/-- Only the status may change. -/
theorem spec_setParameters {handlers : Handle} {next : Unit → Program Result}
    (hhandlers : handlers ∈ live) (h : ∀ failed, Spec (next ()) live { globals with failed } post) :
    Spec (setParameters handlers >>= next) live globals post := by
  refine .bind (.use rfl hhandlers (.branch ?_ ?_))
  · exact .pure (h globals.failed)
  · exact .last (.modifyShared (.pure (h true)))

end

/-! ## AMQP keeps the discipline -/

def protonOwned (ctxt : Context) (pointers : Pointers) : Multiset Handle :=
  {ctxt.messageContext} + {ctxt.apiContext} + held ctxt.messenger + held pointers.url +
    held pointers.properties

/-- The properties are the only new handle. -/
theorem spec_protonSetParameters {Result : Type} {live : Multiset Handle} {globals : Globals}
    {post : Result → Multiset Handle → Globals → Prop} {handlers : Handle}
    {next : Unit → Program Result} (hhandlers : handlers ∈ live)
    (hproperties : globals.properties = none)
    (h : ∀ failed properties, Spec (next ()) (held properties + live)
      { globals with failed, properties } post) :
    Spec (protonSetParameters handlers >>= next) live globals post := by
  have hnone (failed : Bool) : Spec (next ()) live { globals with failed } post := by
    have h := h failed none
    rw [held_none, zero_add] at h
    rwa [← hproperties] at h
  refine .bind (spec_setParameters hhandlers ?_)
  intro failed
  refine .branch (.readShared ?_) (.pure (hnone failed))
  simp only [hproperties]
  refine .create ?_
  intro number
  exact .last (.modifyShared (.pure (h failed (some (.properties, number)))))

theorem protonInit_spec {handlers : Handle} {frame : Multiset Handle} {globals : Globals}
    (hhandlers : handlers ∈ frame) (hclear : globals.toPointers = ⟨none, none⟩) :
    Spec (protonInit handlers) frame globals fun result live after ↦
      match result with
      | none => ∃ lost, live = lost + frame ∧ kinds lost ∈ ({0} : Set (Multiset Kind))
      | some ctxt => ctxt.handlers = handlers ∧ after.url = none ∧
          live = protonOwned ctxt after.toPointers + frame := by
  refine spec_gruAlloc ?_ ?_
  · exact .pure ⟨0, by simp⟩
  · intro message
    refine spec_gruAlloc ?_ ?_
    · exact .release frame rfl (.pure ⟨0, by simp⟩)
    · intro api
      refine spec_protonSetParameters (by simp [hhandlers]) (by rw [hclear]) ?_
      intro failed properties
      refine .acquire ?_ ?_
      · refine .use rfl (by simp) (.use rfl (by simp) (.pure ⟨rfl, by rw [hclear], ?_⟩))
        simp only [protonOwned, held_none, hclear]
        abel
      · intro messenger
        refine .use rfl (by simp) (.use rfl (by simp) (.pure ⟨rfl, by rw [hclear], ?_⟩))
        simp only [protonOwned, held_none, held_some, hclear]
        abel

theorem spec_protonBeforeSend {Result : Type} {live : Multiset Handle} {globals : Globals}
    {post : Result → Multiset Handle → Globals → Prop} {ctxt : Context}
    {next : Unit → Program Result} (hhandlers : ctxt.handlers ∈ live)
    (hproperties : ∀ properties, globals.properties = some properties → properties ∈ live)
    (h : Spec (next ()) live globals post) :
    Spec (protonBeforeSend ctxt >>= next) live globals post := by
  refine .bind (.use rfl hhandlers (.readShared ?_))
  split
  next properties hsome => exact .last (.use rfl (hproperties properties hsome) (.pure h))
  next => exact .pure h

theorem protonStart_spec {ctxt : Context} {frame : Multiset Handle} {globals : Globals}
    (hhandlers : ctxt.handlers ∈ frame) (hurl : globals.url = none) :
    Spec (protonStart ctxt) (protonOwned ctxt globals.toPointers + frame) globals
      fun result live after ↦ result.2.handlers = ctxt.handlers ∧
        live = protonOwned result.2 after.toPointers + frame ∧
        (result.1 = true → result.2.messenger.isSome ∧ after.url.isSome) := by
  refine spec_ctxtCast (by simp [protonOwned]) (by simp [protonOwned])
    (.use rfl (by simp [hhandlers]) (.choose ?_))
  intro started
  split
  next hstarted =>
    have hmessenger : ctxt.messenger.isSome := (Bool.and_eq_true_iff.mp hstarted).1
    refine spec_gruAlloc ?_ ?_
    · -- no memory for the URL, which the status tells
      refine .modifyShared (.readShared (.pure ⟨rfl, ?_, nofun⟩))
      simp [protonOwned, hurl]
    · intro url
      have howned : {(Kind.url, url)} + (protonOwned ctxt globals.toPointers + frame) =
          protonOwned ctxt ⟨some (.url, url), globals.properties⟩ + frame := by
        simp only [protonOwned, hurl, held_none, held_some]
        abel
      refine .modifyShared (.readShared ?_)
      split
      · exact .pure ⟨rfl, howned, nofun⟩
      · exact .use rfl (by simp [hhandlers]) (.pure ⟨rfl, howned, fun _ ↦ ⟨hmessenger, rfl⟩⟩)
  next => exact .modifyShared (.pure ⟨rfl, rfl, nofun⟩)

section

variable {ctxt : Context} {content : Handle} {frame : Multiset Handle} {globals : Globals}

theorem protonSubscribe_spec (hmessenger : ctxt.messenger.isSome) (hurl : globals.url.isSome) :
    Spec (protonSubscribe ctxt) (protonOwned ctxt globals.toPointers + frame) globals
      fun _ live after ↦ after.toPointers = globals.toPointers ∧
        live = protonOwned ctxt globals.toPointers + frame := by
  obtain ⟨messenger, hmessenger⟩ := Option.isSome_iff_exists.mp hmessenger
  obtain ⟨url, hurl⟩ := Option.isSome_iff_exists.mp hurl
  refine spec_ctxtCast (by simp [protonOwned]) (by simp [protonOwned]) (.readShared ?_)
  refine .use hurl (by simp [protonOwned, hurl])
    (.use hmessenger (by simp [protonOwned, hmessenger]) (.branch ?_ ?_))
  · exact .pure ⟨rfl, rfl⟩
  · exact .modifyShared (.pure ⟨rfl, rfl⟩)

theorem protonSend_spec (hhandlers : ctxt.handlers ∈ frame) (hcontent : content ∈ frame)
    (hmessenger : ctxt.messenger.isSome) (hurl : globals.url.isSome) :
    Spec (protonSend ctxt (some content)) (protonOwned ctxt globals.toPointers + frame) globals
      fun _ live after ↦ after.toPointers = globals.toPointers ∧
        ∃ lost, live = lost + (protonOwned ctxt globals.toPointers + frame) ∧
          kinds lost ∈ (⊥ : AddSubmonoid (Multiset Kind)) := by
  obtain ⟨messenger, hmessenger⟩ := Option.isSome_iff_exists.mp hmessenger
  obtain ⟨url, hurl⟩ := Option.isSome_iff_exists.mp hurl
  refine .create ?_
  intro message
  refine .readShared (.use hurl (by simp [protonOwned, hurl]) (.use rfl (by simp [hcontent]) ?_))
  refine spec_ctxtCast (by simp [protonOwned]) (by simp [protonOwned]) ?_
  refine spec_protonBeforeSend (by simp [hhandlers]) ?_ ?_
  · intro properties hproperties
    simp [protonOwned, hproperties]
  · refine .use rfl (by simp) (.use hmessenger (by simp [protonOwned, hmessenger])
      (.branch ?_ ?_))
    · exact .use rfl (by simp [hhandlers]) (.release _ rfl (.pure ⟨rfl, 0, by simp⟩))
    · exact .modifyShared (.release _ rfl (.pure ⟨rfl, 0, by simp⟩))

theorem protonReceive_spec (hhandlers : ctxt.handlers ∈ frame) (hcontent : content ∈ frame)
    (hmessenger : ctxt.messenger.isSome) :
    Spec (protonReceive ctxt (some content)) (protonOwned ctxt globals.toPointers + frame) globals
      fun received live after ↦ after.toPointers = globals.toPointers ∧
        ∃ lost, live = lost + (protonOwned ctxt globals.toPointers + frame) ∧
          kinds lost = if received = .data then 0 else 0 := by
  obtain ⟨messenger, hmessenger⟩ := Option.isSome_iff_exists.mp hmessenger
  refine spec_ctxtCast (by simp [protonOwned]) (by simp [protonOwned])
    (.use hmessenger (by simp [protonOwned, hmessenger]) (.branch ?_ (.branch ?_ ?_)))
  · refine .create ?_
    intro message
    refine .use rfl (by simp [hhandlers]) (.use rfl (by simp) (.branch ?_ ?_))
    · refine .use rfl (by simp [hcontent]) (.branch ?_ ?_)
      · exact .use rfl (by simp [hhandlers]) (.release _ rfl (.pure ⟨rfl, 0, by simp⟩))
      · exact .modifyShared (.release _ rfl (.pure ⟨rfl, 0, by simp⟩))
    · exact .modifyShared (.release _ rfl (.pure ⟨rfl, 0, by simp⟩))
  · exact .pure ⟨rfl, 0, by simp⟩
  · exact .modifyShared (.pure ⟨rfl, 0, by simp⟩)

theorem protonStop_spec (hmessenger : ctxt.messenger.isSome) :
    Spec (protonStop ctxt) (protonOwned ctxt globals.toPointers + frame) globals
      fun _ live after ↦ after.toPointers = globals.toPointers ∧
        live = protonOwned ctxt globals.toPointers + frame := by
  obtain ⟨messenger, hmessenger⟩ := Option.isSome_iff_exists.mp hmessenger
  exact spec_ctxtCast (by simp [protonOwned]) (by simp [protonOwned])
    (.last (.use hmessenger (by simp [protonOwned, hmessenger]) (.pure ⟨rfl, rfl⟩)))

theorem protonDestroy_spec :
    Spec (protonDestroy ctxt) (protonOwned ctxt globals.toPointers + frame) globals
      fun _ live _ ↦ live = frame := by
  refine spec_ctxtCast (by simp [protonOwned]) (by simp [protonOwned]) ?_
  refine .release ({ctxt.messageContext} + {ctxt.apiContext} + held globals.url +
    held globals.properties + frame) (by simp only [protonOwned]; abel) ?_
  refine .release ({ctxt.messageContext} + held globals.url + held globals.properties + frame)
    (by simp only [held_some]; abel) (.readShared ?_)
  refine .release ({ctxt.messageContext} + held globals.properties + frame) (by abel)
    (.modifyShared ?_)
  refine .release (held globals.properties + frame) (by simp only [held_some]; abel)
    (.readShared ?_)
  exact .release frame rfl (.last (.modifyShared (.pure rfl)))

end

/-- Nothing is lost with AMQP. -/
def protonLosses : Losses := ⟨{0}, ⊥, 0⟩

def protonProtocol : Protocol protonVmsl protonLosses where
  owned := protonOwned
  Initialized _ pointers := pointers.url = none
  Ready ctxt pointers := ctxt.messenger.isSome ∧ pointers.url.isSome
  init_spec := protonInit_spec
  start_spec := protonStart_spec
  subscribe_spec hready := protonSubscribe_spec hready.1 hready.2
  send_spec hhandlers hcontent hready := protonSend_spec hhandlers hcontent hready.1 hready.2
  receive_spec hhandlers hcontent hready := protonReceive_spec hhandlers hcontent hready.1
  stop_spec hready := protonStop_spec hready.1
  destroy_spec := protonDestroy_spec

/-! ## MQTT -/

def pahoOwned (ctxt : Context) : Multiset Handle :=
  {ctxt.messageContext} + {ctxt.apiContext} + held ctxt.uri + held ctxt.messenger

/-- The context is lost, with the address in it, when its scheme cannot be set; a message that is
received is lost with the name of its topic. -/
def pahoLosses : Losses where
  init := {0, {.apiContext}, {.apiContext} + {.uri}}
  send := .multiples {.timestamp}
  receive := {.topicName} + {.message}

section

variable {ctxt : Context} {content handlers : Handle} {frame : Multiset Handle} {globals : Globals}

theorem pahoInit_spec (hhandlers : handlers ∈ frame) :
    Spec (pahoInit handlers) frame globals fun result live _ ↦
      match result with
      | none => ∃ lost, live = lost + frame ∧ kinds lost ∈ pahoLosses.init
      | some ctxt => ctxt.handlers = handlers ∧ ctxt.messenger = none ∧
          live = pahoOwned ctxt + frame := by
  refine spec_gruAlloc ?_ ?_
  · exact .pure ⟨0, by simp [pahoLosses]⟩
  intro message
  refine spec_gruAlloc ?_ ?_
  · exact .release frame rfl (.pure ⟨0, by simp [pahoLosses]⟩)
  intro api
  refine spec_gruAlloc ?_ ?_
  · refine .branch ?_ ?_
    · refine spec_setParameters (by simp [hhandlers]) ?_
      intro failed
      refine .use rfl (by simp) (.pure ⟨rfl, rfl, ?_⟩)
      simp only [pahoOwned, held_none]
      abel
    · refine .release ({(.apiContext, api)} + frame) (by simp only [held_some]; abel) ?_
      exact .pure ⟨{(.apiContext, api)}, rfl, by simp [pahoLosses]⟩
  · intro uri
    refine .branch ?_ ?_
    · refine spec_setParameters (by simp [hhandlers]) ?_
      intro failed
      refine .use rfl (by simp) (.pure ⟨rfl, rfl, ?_⟩)
      simp only [pahoOwned, held_none, held_some]
      abel
    · refine .release ({(.apiContext, api)} + {(.uri, uri)} + frame)
        (by simp only [held_some]; abel) ?_
      refine .pure ⟨{(.apiContext, api)} + {(.uri, uri)}, rfl, ?_⟩
      exact .inr (.inr rfl)

theorem pahoConnect_spec (client : Option Handle) (hhandlers : ctxt.handlers ∈ frame)
    (hmessenger : ctxt.messenger = none) :
    Spec (pahoConnect ctxt client) (held client + (pahoOwned ctxt + frame)) globals
      fun result live _ ↦ result.2.handlers = ctxt.handlers ∧
        live = pahoOwned result.2 + frame ∧ (result.1 = true → result.2.messenger.isSome) := by
  cases client with
  | none => exact .modifyShared (.pure ⟨rfl, zero_add _, nofun⟩)
  | some client =>
    have howned : held (some client) + (pahoOwned ctxt + frame) =
        pahoOwned { ctxt with messenger := some client } + frame := by
      simp only [pahoOwned, hmessenger, held_none, held_some]
      abel
    refine .use rfl (by simp [hhandlers]) (.branch ?_ ?_)
    · exact .use rfl (by simp [hhandlers]) (.pure ⟨rfl, howned, fun _ ↦ rfl⟩)
    · exact .modifyShared (.pure ⟨rfl, howned, nofun⟩)

theorem pahoStart_spec (hhandlers : ctxt.handlers ∈ frame) (hmessenger : ctxt.messenger = none) :
    Spec (pahoStart ctxt) (pahoOwned ctxt + frame) globals
      fun result live _ ↦ result.2.handlers = ctxt.handlers ∧
        live = pahoOwned result.2 + frame ∧ (result.1 = true → result.2.messenger.isSome) := by
  refine spec_ctxtCast (by simp [pahoOwned]) (by simp [pahoOwned]) (spec_gruAlloc ?_ ?_)
  · refine .bind (.pure (.release _ (zero_add _).symm ?_))
    simpa only [held_none, zero_add] using pahoConnect_spec none hhandlers hmessenger
  · intro url
    refine .acquire (.release _ rfl ?_) ?_
    · simpa only [held_none, zero_add] using pahoConnect_spec none hhandlers hmessenger
    · intro client
      refine .release ({(.messenger, client)} + (pahoOwned ctxt + frame))
        (by simp only [held_some]; abel) ?_
      exact pahoConnect_spec (some (.messenger, client)) hhandlers hmessenger

theorem pahoSubscribe_spec (hmessenger : ctxt.messenger.isSome) :
    Spec (pahoSubscribe ctxt) (pahoOwned ctxt + frame) globals
      fun _ live after ↦ after.toPointers = globals.toPointers ∧ live = pahoOwned ctxt + frame := by
  obtain ⟨messenger, hmessenger⟩ := Option.isSome_iff_exists.mp hmessenger
  refine spec_ctxtCast (by simp [pahoOwned]) (by simp [pahoOwned])
    (.use hmessenger (by simp [pahoOwned, hmessenger]) (.branch ?_ ?_))
  · exact .pure ⟨rfl, rfl⟩
  · exact .modifyShared (.pure ⟨rfl, rfl⟩)

/-- The time is lost when there is no memory for the text. -/
theorem spec_pahoSerializeLatencyInfo {Result : Type} {live : Multiset Handle}
    {post : Result → Multiset Handle → Globals → Prop} {next : Option Handle → Program Result}
    (hcontent : content ∈ live)
    (h : ∀ data lost, kinds lost ∈ pahoLosses.send →
      Spec (next data) (held data + (lost + live)) globals post) :
    Spec (pahoSerializeLatencyInfo (some content) >>= next) live globals post := by
  have hzero : kinds 0 ∈ pahoLosses.send := zero_mem _
  have hlost (time : ℕ) : kinds {(.timestamp, time)} ∈ pahoLosses.send :=
    AddSubmonoid.mem_multiples _
  refine .bind (.acquire ?_ ?_)
  · refine .use rfl hcontent (.acquire ?_ ?_)
    · have h := h none 0 hzero
      rw [held_none, zero_add, zero_add] at h
      exact .pure h
    · intro data
      have h := h (some (.serialized, data)) 0 hzero
      rw [zero_add] at h
      exact .release _ (zero_add _).symm (.pure h)
  · intro time
    refine .use rfl (by simp [hcontent]) (.acquire ?_ ?_)
    · have h := h none _ (hlost time)
      rw [held_none, zero_add] at h
      exact .pure h
    · intro data
      have h := h (some (.serialized, data)) 0 hzero
      rw [zero_add] at h
      refine .release ({(.serialized, data)} + live) (by simp only [held_some]; abel) (.pure h)

theorem pahoSend_spec (hhandlers : ctxt.handlers ∈ frame) (hcontent : content ∈ frame)
    (hmessenger : ctxt.messenger.isSome) :
    Spec (pahoSend ctxt (some content)) (pahoOwned ctxt + frame) globals
      fun _ live after ↦ after.toPointers = globals.toPointers ∧
        ∃ lost, live = lost + (pahoOwned ctxt + frame) ∧ kinds lost ∈ pahoLosses.send := by
  obtain ⟨messenger, hmessenger⟩ := Option.isSome_iff_exists.mp hmessenger
  refine spec_ctxtCast (by simp [pahoOwned]) (by simp [pahoOwned]) (.branch ?_ ?_)
  · refine spec_pahoSerializeLatencyInfo (by simp [hcontent]) ?_
    intro data lost hlost
    refine .use rfl (by simp [hhandlers]) (.use hmessenger (by simp [pahoOwned, hmessenger]) ?_)
    refine .release _ rfl (.use rfl (by simp [hhandlers]) (.branch ?_ ?_))
    · exact .pure ⟨rfl, lost, rfl, hlost⟩
    · exact .modifyShared (.pure ⟨rfl, lost, rfl, hlost⟩)
  · exact .modifyShared (.pure ⟨rfl, 0, (zero_add _).symm, zero_mem _⟩)

theorem pahoReceive_spec (hhandlers : ctxt.handlers ∈ frame) (hcontent : content ∈ frame)
    (hmessenger : ctxt.messenger.isSome) :
    Spec (pahoReceive ctxt (some content)) (pahoOwned ctxt + frame) globals
      fun received live after ↦ after.toPointers = globals.toPointers ∧
        ∃ lost, live = lost + (pahoOwned ctxt + frame) ∧
          kinds lost = if received = .data then pahoLosses.receive else 0 := by
  obtain ⟨messenger, hmessenger⟩ := Option.isSome_iff_exists.mp hmessenger
  refine spec_ctxtCast (by simp [pahoOwned]) (by simp [pahoOwned]) (.use rfl (by simp [hhandlers])
    (.use hmessenger (by simp [pahoOwned, hmessenger]) (.branch ?_ (.branch ?_ ?_))))
  · refine .create fun topic ↦ .create fun message ↦ ?_
    refine .use rfl (by simp [hhandlers]) (.use rfl (by simp) (.use rfl (by simp [hcontent]) ?_))
    refine .pure ⟨rfl, {(.topicName, topic)} + {(.message, message)}, by abel, ?_⟩
    exact kinds_add _ _
  · exact .pure ⟨rfl, 0, by simp⟩
  · exact .modifyShared (.pure ⟨rfl, 0, by simp⟩)

theorem pahoStop_spec (hmessenger : ctxt.messenger.isSome) :
    Spec (pahoStop ctxt) (pahoOwned ctxt + frame) globals
      fun _ live after ↦ after.toPointers = globals.toPointers ∧ live = pahoOwned ctxt + frame := by
  obtain ⟨messenger, hmessenger⟩ := Option.isSome_iff_exists.mp hmessenger
  exact spec_ctxtCast (by simp [pahoOwned]) (by simp [pahoOwned])
    (.last (.use hmessenger (by simp [pahoOwned, hmessenger]) (.pure ⟨rfl, rfl⟩)))

theorem pahoDestroy_spec :
    Spec (pahoDestroy ctxt) (pahoOwned ctxt + frame) globals fun _ live _ ↦ live = frame := by
  refine spec_ctxtCast (by simp [pahoOwned]) (by simp [pahoOwned]) ?_
  refine .release ({ctxt.messageContext} + {ctxt.apiContext} + held ctxt.uri + frame)
    (by simp only [pahoOwned]; abel) ?_
  refine .release ({ctxt.messageContext} + {ctxt.apiContext} + frame) (by abel) ?_
  refine .release ({ctxt.messageContext} + frame) (by simp only [held_some]; abel) ?_
  exact .last (.release frame rfl (.pure rfl))

end

def pahoProtocol : Protocol pahoVmsl pahoLosses where
  owned ctxt _ := pahoOwned ctxt
  Initialized ctxt _ := ctxt.messenger = none
  Ready ctxt _ := ctxt.messenger.isSome
  init_spec hhandlers _ := pahoInit_spec hhandlers
  start_spec := pahoStart_spec
  subscribe_spec := pahoSubscribe_spec
  send_spec := pahoSend_spec
  receive_spec := pahoReceive_spec
  stop_spec := pahoStop_spec
  destroy_spec := pahoDestroy_spec

/-! ## STOMP -/

def litestompOwned (ctxt : Context) (pointers : Pointers) : Multiset Handle :=
  {ctxt.messageContext} + {ctxt.apiContext} + held ctxt.messenger + held pointers.url

/-- The context is lost when there is no messenger, and the URL stays in its global. -/
def litestompLosses : Losses where
  init := {0, {.apiContext}, {.apiContext} + {.url}}
  send := ⊥
  receive := 0

section

variable {ctxt : Context} {content handlers : Handle} {frame : Multiset Handle} {globals : Globals}

theorem litestompInit_spec :
    Spec (litestompInit handlers) frame globals fun result live after ↦
      match result with
      | none => ∃ lost, live = lost + frame ∧ kinds lost ∈ litestompLosses.init
      | some ctxt => ctxt.handlers = handlers ∧ ctxt.messenger.isSome ∧
          live = litestompOwned ctxt after.toPointers + frame := by
  refine spec_gruAlloc ?_ ?_
  · exact .pure ⟨0, by simp [litestompLosses]⟩
  intro message
  refine spec_gruAlloc ?_ ?_
  · exact .release frame rfl (.pure ⟨0, by simp [litestompLosses]⟩)
  intro api
  refine spec_gruAlloc (.modifyShared ?_) ?_
  · refine .release ({(.apiContext, api)} + frame) (by simp only [held_some]; abel) ?_
    exact .pure ⟨{(.apiContext, api)}, rfl, .inr (.inl rfl)⟩
  intro url
  refine .modifyShared (.acquire ?_ ?_)
  · refine .release ({(.apiContext, api)} + {(.url, url)} + frame)
      (by simp only [held_some]; abel) ?_
    refine .pure ⟨{(.apiContext, api)} + {(.url, url)}, rfl, ?_⟩
    exact .inr (.inr rfl)
  intro messenger
  refine .branch ?_ ?_
  · refine .use rfl (by simp) (.use rfl (by simp) (.pure ⟨rfl, rfl, ?_⟩))
    simp only [litestompOwned, held_some]
    abel
  · refine .release ({(.messageContext, message)} + {(.apiContext, api)} + {(.url, url)} + frame)
      (by simp only [held_some]; abel) ?_
    refine .release ({(.apiContext, api)} + {(.url, url)} + frame)
      (by simp only [held_some]; abel) ?_
    refine .pure ⟨{(.apiContext, api)} + {(.url, url)}, rfl, ?_⟩
    exact .inr (.inr rfl)

theorem litestompStart_spec (hhandlers : ctxt.handlers ∈ frame)
    (hmessenger : ctxt.messenger.isSome) :
    Spec (litestompStart ctxt) (litestompOwned ctxt globals.toPointers + frame) globals
      fun result live after ↦ result.2.handlers = ctxt.handlers ∧
        live = litestompOwned result.2 after.toPointers + frame ∧
        (result.1 = true → result.2.messenger.isSome) := by
  obtain ⟨messenger, hsome⟩ := Option.isSome_iff_exists.mp hmessenger
  refine spec_ctxtCast (by simp [litestompOwned]) (by simp [litestompOwned])
    (.use rfl (by simp [hhandlers]) (.use hsome (by simp [litestompOwned, hsome])
      (.branch ?_ ?_)))
  · exact .use rfl (by simp [hhandlers]) (.pure ⟨rfl, rfl, fun _ ↦ hmessenger⟩)
  · exact .modifyShared (.pure ⟨rfl, rfl, nofun⟩)

theorem litestompSubscribe_spec (hmessenger : ctxt.messenger.isSome) :
    Spec (litestompSubscribe ctxt) (litestompOwned ctxt globals.toPointers + frame) globals
      fun _ live after ↦ after.toPointers = globals.toPointers ∧
        live = litestompOwned ctxt globals.toPointers + frame := by
  obtain ⟨messenger, hmessenger⟩ := Option.isSome_iff_exists.mp hmessenger
  refine spec_ctxtCast (by simp [litestompOwned]) (by simp [litestompOwned])
    (.use hmessenger (by simp [litestompOwned, hmessenger]) (.branch ?_ ?_))
  · exact .pure ⟨rfl, rfl⟩
  · exact .modifyShared (.pure ⟨rfl, rfl⟩)

theorem litestompSend_spec (hhandlers : ctxt.handlers ∈ frame) (hcontent : content ∈ frame)
    (hmessenger : ctxt.messenger.isSome) :
    Spec (litestompSend ctxt (some content)) (litestompOwned ctxt globals.toPointers + frame)
      globals fun _ live after ↦ after.toPointers = globals.toPointers ∧
        ∃ lost, live = lost + (litestompOwned ctxt globals.toPointers + frame) ∧
          kinds lost ∈ litestompLosses.send := by
  obtain ⟨messenger, hmessenger⟩ := Option.isSome_iff_exists.mp hmessenger
  have hnone : ∃ lost, litestompOwned ctxt globals.toPointers + frame =
      lost + (litestompOwned ctxt globals.toPointers + frame) ∧ kinds lost ∈ litestompLosses.send :=
    ⟨0, (zero_add _).symm, zero_mem _⟩
  refine spec_ctxtCast (by simp [litestompOwned]) (by simp [litestompOwned])
    (.use hmessenger (by simp [litestompOwned, hmessenger]) (.acquire ?_ ?_))
  · exact .pure ⟨rfl, hnone⟩
  intro message
  refine .branch ?_ ?_
  · refine .use rfl (by simp [hcontent]) (.use rfl (by simp [hhandlers]) (.branch ?_ ?_))
    · exact .use rfl (by simp [hhandlers]) (.release _ rfl (.pure ⟨rfl, hnone⟩))
    · exact .release _ rfl (.pure ⟨rfl, hnone⟩)
  · exact .release _ rfl (.pure ⟨rfl, hnone⟩)

theorem litestompReceive_spec (pointer : Option Handle) (hhandlers : ctxt.handlers ∈ frame)
    (hmessenger : ctxt.messenger.isSome) :
    Spec (litestompReceive ctxt pointer) (litestompOwned ctxt globals.toPointers + frame) globals
      fun received live after ↦ after.toPointers = globals.toPointers ∧
        ∃ lost, live = lost + (litestompOwned ctxt globals.toPointers + frame) ∧
          kinds lost = if received = .data then litestompLosses.receive else 0 := by
  obtain ⟨messenger, hmessenger⟩ := Option.isSome_iff_exists.mp hmessenger
  have hnone (received : Received) : ∃ lost, litestompOwned ctxt globals.toPointers + frame =
      lost + (litestompOwned ctxt globals.toPointers + frame) ∧
        kinds lost = if received = .data then litestompLosses.receive else 0 :=
    ⟨0, (zero_add _).symm, by simp [litestompLosses]⟩
  refine spec_ctxtCast (by simp [litestompOwned]) (by simp [litestompOwned]) (.acquire ?_ ?_)
  · exact .use hmessenger (by simp [litestompOwned, hmessenger]) (.pure ⟨rfl, hnone _⟩)
  intro message
  refine .use rfl (by simp [hhandlers]) (.use hmessenger (by simp [litestompOwned, hmessenger])
    (.branch ?_ (.branch ?_ ?_)))
  · exact .use rfl (by simp [hhandlers]) (.release _ rfl (.pure ⟨rfl, hnone _⟩))
  · exact .release _ rfl (.pure ⟨rfl, hnone _⟩)
  · exact .release _ rfl (.pure ⟨rfl, hnone _⟩)

theorem litestompDestroy_spec :
    Spec (litestompDestroy ctxt) (litestompOwned ctxt globals.toPointers + frame) globals
      fun _ live _ ↦ live = frame := by
  refine spec_ctxtCast (by simp [litestompOwned]) (by simp [litestompOwned]) ?_
  refine .release ({ctxt.messageContext} + {ctxt.apiContext} + held globals.url + frame)
    (by simp only [litestompOwned]; abel) ?_
  refine .release ({ctxt.messageContext} + held globals.url + frame)
    (by simp only [held_some]; abel) ?_
  refine .release (held globals.url + frame) (by simp only [held_some]; abel) (.readShared ?_)
  exact .release frame rfl (.last (.modifyShared (.pure rfl)))

end

def litestompProtocol : Protocol litestompVmsl litestompLosses where
  owned := litestompOwned
  Initialized ctxt _ := ctxt.messenger.isSome
  Ready ctxt _ := ctxt.messenger.isSome
  init_spec _ _ := litestompInit_spec
  start_spec := litestompStart_spec
  subscribe_spec := litestompSubscribe_spec
  send_spec := litestompSend_spec
  receive_spec := @fun _ content _ _ hhandlers _ hready ↦
    litestompReceive_spec (some content) hhandlers hready
  stop_spec _ := .pure ⟨rfl, rfl⟩
  destroy_spec := litestompDestroy_spec

end MsgPerf.Api.Session
