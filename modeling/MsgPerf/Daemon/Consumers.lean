import MsgPerf.Maestro.Acceptance
import MsgPerf.Maestro.MsgpackFormat

/-!
# The consumers of decoded notes

Three daemons dispatch an accepted note by its command alone; the collector of the command line
tool decides by its type.  The deserializer fills the arm of the payload that type and command
select together, or none.  A consumer is compatible with a type and a command when every arm it
reads is the one that was filled.

Both headers of the payload start with id and name, so that the collector finds the header of a
notification through the response arm as well.
-/

namespace MsgPerf.Daemon

open MsgPerf.Library.ByteMemory MsgPerf.Maestro

/-! ## Sheets and handlers -/

/-- The handlers of the daemons, by what they are called for. -/
inductive Handler where
  | start | stop | flush | set | ping | stats | halt | testFailed
  deriving DecidableEq, Repr

/-- A sheet: tessituras with their handlers, in the order in which they are added. -/
abbrev Sheet := List (Command × Handler)

def senderdNewSheet : Sheet :=
  [(.startSender, .start), (.stopSender, .stop), (.flush, .flush), (.set, .set), (.ping, .ping),
    (.stats, .stats), (.halt, .halt), (.notifyFail, .testFailed)]

def receiverdNewSheet : Sheet :=
  [(.startReceiver, .start), (.stopReceiver, .stop), (.flush, .flush), (.set, .set), (.ping, .ping),
    (.stats, .stats), (.halt, .halt), (.notifyFail, .testFailed)]

def brokerdNewSheet : Sheet :=
  [(.startInspector, .start), (.stopInspector, .stop), (.flush, .flush), (.set, .set),
    (.ping, .ping), (.stats, .stats), (.halt, .halt)]

inductive Kind where
  | senderd | receiverd | brokerd
  deriving DecidableEq, Repr

def Kind.newSheet : Kind → Sheet
  | .senderd => senderdNewSheet
  | .receiverd => receiverdNewSheet
  | .brokerd => brokerdNewSheet

/-- The handler that `maestro_sheet_do_play` calls: the first one whose tessitura has the
command. -/
def Sheet.handler? (sheet : Sheet) (command : ℕ) : Option Handler :=
  (sheet.find? fun entry ↦ entry.1.code = command).map Prod.snd

/-- The parts of the payload that consumers read. -/
inductive Arm where
  | requestSet | requestPing | notificationMessage | response | notification
  deriving DecidableEq, Repr

/-- `commond_handle_set` and `commond_handle_ping` read the request unconditionally; the handler of
a failed test reads the message only while workers are running. -/
def Handler.reads (running : Bool) : Handler → List Arm
  | .set => [.requestSet]
  | .ping => [.requestPing]
  | .testFailed => if running then [.notificationMessage] else []
  | _ => []

inductive Consumer where
  | daemon (kind : Kind) (running : Bool)
  | collector
  deriving DecidableEq, Repr

/-- The arms read for an accepted note.  `maestro_cmd_do_collect` takes every note that is not a
response for a notification. -/
def Consumer.reads : Consumer → ℕ → ℕ → List Arm
  | .daemon kind running, _, command =>
      match kind.newSheet.handler? command with
      | some handler => handler.reads running
      | none => []
  | .collector, type, _ =>
      if type = RequestType.response.code then [.response] else [.notification]

/-! ## Filled arms -/

/-- The note is of the type, and for a request of the command, that the arm belongs to. -/
def Arm.Fits (type command : ℕ) : Arm → Prop
  | .requestSet => type = RequestType.request.code ∧ command = Command.set.code
  | .requestPing => type = RequestType.request.code ∧ command = Command.ping.code
  | .notificationMessage | .notification => type = RequestType.notification.code
  | .response => type = RequestType.response.code

/-- The members of the arm that have to be decoded before it is read. -/
def Arm.members : Arm → List Field
  | .requestSet => [.setOpt, .setValue]
  | .requestPing => [.pingSec, .pingUsec]
  | .notificationMessage => [.notificationId, .notificationName, .notificationMessage]
  | .response | .notification => []

/-- The arm may be read: it is the one of the note, its members have been decoded and the payload
is not null. -/
structure Arm.Filled (arm : Arm) (results : ℕ → UnpackReturn) (heap : Heap) (type command : ℕ) :
    Prop where
  fits : arm.Fits type command
  decoded : (fieldsOutcome results arm.members 2).1 = .stored
  payload : ∃ payload, payload ≠ 0 ∧ notePayload heap noteAddress = some payload

/-- Whenever the bytes are accepted, the consumer reads filled arms only. -/
def ReadsFilledArms (mp : Msgpack) (input : List UInt8) (consumer : Consumer) : Prop :=
  ∀ state type command,
    maestroDeserializeNote mp input noteAddress zeroNote Status.new = some (true, state) →
    noteType state.heap noteAddress = some type →
    noteCommand state.heap noteAddress = some command →
    ∀ arm ∈ consumer.reads type command, arm.Filled (mp.result input) state.heap type command

/-- What a consumer relies on. -/
def Consumer.Compatible : Consumer → ℕ → ℕ → Prop
  | .daemon kind running, type, command =>
      (command = Command.set.code ∨ command = Command.ping.code →
        type = RequestType.request.code) ∧
      (command = Command.notifyFail.code ∧ kind ≠ .brokerd ∧ running = true →
        type = RequestType.notification.code)
  | .collector, type, _ =>
      type = RequestType.response.code ∨ type = RequestType.notification.code

/-! ## Dispatch -/

/-- With one instrument per command, the handler of a command is the one it was added with. -/
theorem Sheet.handler?_eq_some_iff {sheet : Sheet} (h : (sheet.map fun entry ↦ entry.1.code).Nodup)
    (command : ℕ) (handler : Handler) :
    sheet.handler? command = some handler ↔
      ∃ tessitura, (tessitura, handler) ∈ sheet ∧ tessitura.code = command := by
  induction sheet with
  | nil => simp [Sheet.handler?]
  | cons entry sheet ih =>
    rcases entry with ⟨tessitura, played⟩
    rw [List.map_cons, List.nodup_cons] at h
    by_cases hsame : tessitura.code = command
    · have hother : ∀ later, (later, handler) ∈ sheet → later.code ≠ command := by
        intro later hlater hcode
        apply h.1
        rw [hsame, ← hcode]
        exact List.mem_map_of_mem hlater
      have hfound : Sheet.handler? ((tessitura, played) :: sheet) command = some played := by
        simp [Sheet.handler?, hsame]
      rw [hfound, Option.some.injEq]
      constructor
      · intro hplayed
        exact ⟨tessitura, by rw [hplayed]; exact List.mem_cons_self, hsame⟩
      · intro hmem
        rcases hmem with ⟨later, hlater, hcode⟩
        rcases List.mem_cons.mp hlater with heq | hrest
        · exact (Prod.mk.inj heq).2.symm
        · exact absurd hcode (hother later hrest)
    · have hskip : Sheet.handler? ((tessitura, played) :: sheet) command =
          Sheet.handler? sheet command := by
        simp [Sheet.handler?, hsame]
      rw [hskip, ih h.2]
      constructor
      · intro hmem
        rcases hmem with ⟨later, hlater, hcode⟩
        exact ⟨later, List.mem_cons_of_mem _ hlater, hcode⟩
      · intro hmem
        rcases hmem with ⟨later, hlater, hcode⟩
        rcases List.mem_cons.mp hlater with heq | hrest
        · rw [(Prod.mk.inj heq).1] at hcode
          exact absurd hcode hsame
        · exact ⟨later, hrest, hcode⟩

theorem newSheet_nodup (kind : Kind) : (kind.newSheet.map fun entry ↦ entry.1.code).Nodup := by
  cases kind <;> decide

/-- The instruments whose handlers read the request. -/
theorem mem_newSheet_iff (kind : Kind) (tessitura : Command) :
    ((tessitura, Handler.set) ∈ kind.newSheet ↔ tessitura = .set) ∧
      ((tessitura, Handler.ping) ∈ kind.newSheet ↔ tessitura = .ping) ∧
      ((tessitura, Handler.testFailed) ∈ kind.newSheet ↔
        tessitura = .notifyFail ∧ kind ≠ .brokerd) := by
  cases kind <;> simp [Kind.newSheet, senderdNewSheet, receiverdNewSheet, brokerdNewSheet]

theorem Handler.mem_reads_iff (handler : Handler) (running : Bool) (arm : Arm) :
    arm ∈ handler.reads running ↔
      (handler = .set ∧ arm = .requestSet) ∨ (handler = .ping ∧ arm = .requestPing) ∨
      (handler = .testFailed ∧ running = true ∧ arm = .notificationMessage) := by
  cases handler <;> cases running <;> simp [Handler.reads]

/-- The arms a daemon reads, in terms of the command. -/
theorem mem_daemon_reads_iff (kind : Kind) (running : Bool) (type command : ℕ) (arm : Arm) :
    arm ∈ (Consumer.daemon kind running).reads type command ↔
      (arm = .requestSet ∧ command = Command.set.code) ∨
      (arm = .requestPing ∧ command = Command.ping.code) ∨
      (arm = .notificationMessage ∧ command = Command.notifyFail.code ∧ kind ≠ .brokerd ∧
        running = true) := by
  have hplayed : ∀ handler, kind.newSheet.handler? command = some handler ↔
      ∃ tessitura, (tessitura, handler) ∈ kind.newSheet ∧ tessitura.code = command :=
    Sheet.handler?_eq_some_iff (newSheet_nodup kind) command
  have hset : kind.newSheet.handler? command = some .set ↔ command = Command.set.code := by
    simp [hplayed, (mem_newSheet_iff kind _).1, eq_comm]
  have hping : kind.newSheet.handler? command = some .ping ↔ command = Command.ping.code := by
    simp [hplayed, (mem_newSheet_iff kind _).2.1, eq_comm]
  have hfailed : kind.newSheet.handler? command = some .testFailed ↔
      command = Command.notifyFail.code ∧ kind ≠ .brokerd := by
    simp [hplayed, (mem_newSheet_iff kind _).2.2, eq_comm, and_comm]
  have hreads : arm ∈ (Consumer.daemon kind running).reads type command ↔
      ∃ handler, kind.newSheet.handler? command = some handler ∧ arm ∈ handler.reads running := by
    cases hhandler : kind.newSheet.handler? command with
    | none => simp [Consumer.reads, hhandler]
    | some handler => simp [Consumer.reads, hhandler]
  rw [hreads]
  constructor
  · intro hread
    rcases hread with ⟨handler, hhandler, harm⟩
    rw [Handler.mem_reads_iff] at harm
    rcases harm with ⟨rfl, harm⟩ | ⟨rfl, harm⟩ | ⟨rfl, hrunning, harm⟩
    · exact Or.inl ⟨harm, hset.mp hhandler⟩
    · exact Or.inr (Or.inl ⟨harm, hping.mp hhandler⟩)
    · have hcommand := hfailed.mp hhandler
      exact Or.inr (Or.inr ⟨harm, hcommand.1, hcommand.2, hrunning⟩)
  · intro hread
    rcases hread with ⟨harm, hcommand⟩ | ⟨harm, hcommand⟩ | ⟨harm, hcommand, hkind, hrunning⟩
    · exact ⟨.set, hset.mpr hcommand, by simp [Handler.reads, harm]⟩
    · exact ⟨.ping, hping.mpr hcommand, by simp [Handler.reads, harm]⟩
    · exact ⟨.testFailed, hfailed.mpr ⟨hcommand, hkind⟩, by simp [Handler.reads, harm, hrunning]⟩

/-! ## Compatible notes -/

/-- A consumer is compatible when each arm it reads fits the note. -/
theorem compatible_iff (consumer : Consumer) (type command : ℕ) :
    consumer.Compatible type command ↔
      ∀ arm ∈ consumer.reads type command, arm.Fits type command := by
  cases consumer with
  | daemon kind running =>
    simp only [mem_daemon_reads_iff]
    constructor
    · intro hcompatible arm hread
      rcases hread with ⟨rfl, hcommand⟩ | ⟨rfl, hcommand⟩ | ⟨rfl, hfailed⟩
      · exact ⟨hcompatible.1 (Or.inl hcommand), hcommand⟩
      · exact ⟨hcompatible.1 (Or.inr hcommand), hcommand⟩
      · exact hcompatible.2 hfailed
    · intro hfits
      constructor
      · intro hcommand
        rcases hcommand with hset | hping
        · exact (hfits .requestSet (Or.inl ⟨rfl, hset⟩)).1
        · exact (hfits .requestPing (Or.inr (Or.inl ⟨rfl, hping⟩))).1
      · intro hfailed
        exact hfits .notificationMessage (Or.inr (Or.inr ⟨rfl, hfailed⟩))
  | collector =>
    unfold Consumer.Compatible Consumer.reads
    by_cases hresponse : type = RequestType.response.code
    · simp [hresponse, Arm.Fits]
    · simp [hresponse, Arm.Fits]

/-- In an accepted note an arm that fits has been decoded. -/
theorem Arm.Fits.decoded {results : ℕ → UnpackReturn} {type command : ℕ} {arm : Arm}
    (hfits : arm.Fits type command)
    (haccepted : (fieldsOutcome results (wireLayout type command) 2).1 = .stored ∨
      MaskedAt results type command) :
    (fieldsOutcome results arm.members 2).1 = .stored := by
  have hclean : type ≠ RequestType.response.code →
      (fieldsOutcome results (wireLayout type command) 2).1 = .stored := by
    intro hother
    exact haccepted.resolve_right fun hmasked ↦ hother hmasked.1
  cases arm with
  | requestSet =>
    rcases hfits with ⟨rfl, rfl⟩
    exact hclean (by decide)
  | requestPing =>
    rcases hfits with ⟨rfl, rfl⟩
    exact hclean (by decide)
  | notificationMessage =>
    change type = _ at hfits
    subst hfits
    exact hclean (by decide)
  | response => rfl
  | notification => rfl

theorem Arm.Fits.wireLayout_ne_nil {type command : ℕ} {arm : Arm} (h : arm.Fits type command) :
    wireLayout type command ≠ [] := by
  cases arm with
  | requestSet | requestPing =>
    rcases h with ⟨rfl, rfl⟩
    decide
  | notificationMessage | notification =>
    change type = _ at h
    subst h
    simp [wireLayout, RequestType.code, notificationFields]
  | response =>
    change type = _ at h
    subst h
    simp [wireLayout, responseHeader]

/-- A response with the command of a set request. -/
def setResponse : List UInt8 := [0x01, 0x07, 0xa1, 0x69, 0xa1, 0x6e]

end MsgPerf.Daemon
