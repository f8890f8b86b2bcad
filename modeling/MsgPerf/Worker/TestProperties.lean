import MsgPerf.Daemon.Settings
import MsgPerf.Maestro.Publishing

/-!
# The properties of a test

`worker_dump` writes the settings of a test to `test.properties`, together with the protocol and the
messaging API.  A URI with the scheme `tcp` belongs to the JMS backend, whose protocol is a
parameter of the URI; for the other schemes the protocol is the scheme, and the API is described by
the VMSL. The branch is selected by the result of `strcmp`.

The formats of URIs and durations are parameters.  A parameter of the URI is a variant, and reading
the string of a variant that holds no string has no result.
-/

namespace MsgPerf.Worker.TestProperties

open MsgPerf.Daemon.Settings
open MsgPerf.Maestro (Variant)

/-! ## The file -/

inductive PropertyKey where
  | brokerUri | durationType | duration | parallelCount | messageSize | variableSize | rate | fcl
  | protocol | apiName | apiVersion
  deriving DecidableEq, Repr

/-- The names under which the properties are written. -/
def PropertyKey.name : PropertyKey → String
  | .brokerUri => "brokerUri"
  | .durationType => "durationType"
  | .duration => "duration"
  | .parallelCount => "parallelCount"
  | .messageSize => "messageSize"
  | .variableSize => "variableSize"
  | .rate => "rate"
  | .fcl => "fcl"
  | .protocol => "protocol"
  | .apiName => "apiName"
  | .apiVersion => "apiVersion"

/-- The value of a call of `gru_config_write_string`, `_ulong`, `_short`, `_uint` or `_long`. -/
inductive ConfigValue where
  | string (text : String)
  | ulong (number : ℕ)
  | short (number : ℕ)
  | uint (number : ℕ)
  | long (number : ℤ)
  deriving DecidableEq, Repr

abbrev Properties := List (PropertyKey × ConfigValue)

/-- `gru_uri_t`, with the parts that only its formats use as one field. -/
structure GruUri (Address : Type*) where
  scheme : String
  address : Address
  query : Option (List (String × Variant))
  deriving DecidableEq, Repr

/-- `vmsl_info_t`. -/
structure VmslInfo where
  apiName : String
  apiVersion : String
  deriving DecidableEq, Repr

/-- `gru_uri_simple_format` and `gru_duration_seconds`. -/
structure GruFormats (Address Duration : Type*) where
  uriSimpleFormat : GruUri Address → String
  durationSeconds : Duration → ℕ

variable {Address Duration LogLevel : Type*} (gru : GruFormats Address Duration)

/-- The part of `worker_dump_data` for the duration. -/
def durationEntries : TestDuration Duration → Properties
  | .count messages => [(.durationType, .string "count"), (.duration, .ulong messages)]
  | .time duration =>
      [(.durationType, .string "time"), (.duration, .ulong (gru.durationSeconds duration))]

/-- The part of `worker_dump_data` for the settings. -/
def settingsEntries (options : WorkerOptions (GruUri Address) Duration LogLevel) : Properties :=
  let sizes : Properties :=
    [(.parallelCount, .short options.parallelCount), (.messageSize, .ulong options.messageSize),
      (.variableSize, .short (if options.variableSize then 1 else 0)), (.rate, .uint options.rate)]
  let condition : Properties :=
    if options.conditionType = .latency then [(.fcl, .long options.latency)] else []
  (.brokerUri, .string (gru.uriSimpleFormat options.uri)) ::
    (durationEntries gru options.duration ++ (sizes ++ condition))

/-- The API of the JMS backend. -/
def jmsInfo : VmslInfo := ⟨"JMS", "1.1 (best guess)"⟩

def apiEntries (info : VmslInfo) : Properties :=
  [(.apiName, .string info.apiName), (.apiVersion, .string info.apiVersion)]

/-- The loop over the query: the first parameter with the name `protocol`. -/
def protocolEntries : List (String × Variant) → Option Properties
  | [] => some []
  | pair :: rest =>
      if pair.1 = "protocol" then
        match pair.2 with
        | .text text => some [(.protocol, .string text)]
        | .boolean _ | .integer _ => none
      else protocolEntries rest

/-- The part of `worker_dump_data` for the protocol and the API. -/
def identityEntries (uri : GruUri Address) (info : Option VmslInfo) : Option Properties :=
  -- `strcmp` is not zero when the scheme is another one.
  if uri.scheme ≠ "tcp" then
    match uri.query with
    | none => some []
    | some pairs => (protocolEntries pairs).map fun entries ↦ entries ++ apiEntries jmsInfo
  else
    some ((.protocol, .string uri.scheme) ::
      match info with
      | none => []
      | some given => apiEntries given)

def workerDumpData (options : WorkerOptions (GruUri Address) Duration LogLevel)
    (info : Option VmslInfo) : Option Properties :=
  (identityEntries options.uri info).map fun entries ↦ settingsEntries gru options ++ entries

inductive DumpOutcome where
  | failed
  | undefined
  | written (properties : Properties)
  deriving DecidableEq, Repr

/-- `worker_dump`; the configuration, the payload and the file are there or not. -/
def workerDump (configured payload opened : Bool)
    (options : WorkerOptions (GruUri Address) Duration LogLevel) (info : Option VmslInfo) :
    DumpOutcome :=
  if configured && payload && opened then
    match workerDumpData gru options info with
    | some properties => .written properties
    | none => .undefined
  else .failed

/-! ## What the file should say -/

/-- The value of the first `protocol` parameter of a URI. -/
def protocolParameter (uri : GruUri Address) : Option Variant :=
  ((uri.query.getD []).find? fun pair ↦ pair.1 = "protocol").map Prod.snd

/-- The text of a value in a query. -/
def valueText : Variant → String
  | .boolean flag => toString flag
  | .integer number => toString number
  | .text text => text

/-- The settings are recorded. -/
structure RecordsSettings (options : WorkerOptions (GruUri Address) Duration LogLevel)
    (properties : Properties) : Prop where
  brokerUri : properties.lookup .brokerUri = some (.string (gru.uriSimpleFormat options.uri))
  count : ∀ messages, options.duration = .count messages →
    properties.lookup .durationType = some (.string "count") ∧
      properties.lookup .duration = some (.ulong messages)
  time : ∀ duration, options.duration = .time duration →
    properties.lookup .durationType = some (.string "time") ∧
      properties.lookup .duration = some (.ulong (gru.durationSeconds duration))
  parallelCount : properties.lookup .parallelCount = some (.short options.parallelCount)
  messageSize : properties.lookup .messageSize = some (.ulong options.messageSize)
  variableSize : properties.lookup .variableSize =
    some (.short (if options.variableSize then 1 else 0))
  rate : properties.lookup .rate = some (.uint options.rate)
  fcl : options.conditionType = .latency → properties.lookup .fcl = some (.long options.latency)

def RecordsApi (info : VmslInfo) (properties : Properties) : Prop :=
  properties.lookup .apiName = some (.string info.apiName) ∧
    properties.lookup .apiVersion = some (.string info.apiVersion)

/-- The protocol and the API are recorded: for a scheme other than `tcp` the scheme and the API that
is given, for `tcp` the parameter and JMS. -/
structure RecordsIdentity (uri : GruUri Address) (info : Option VmslInfo)
    (properties : Properties) : Prop where
  other : uri.scheme ≠ "tcp" → properties.lookup .protocol = some (.string uri.scheme) ∧
    ∀ given, info = some given → RecordsApi given properties
  jms : uri.scheme = "tcp" → (∀ value, protocolParameter uri = some value →
    properties.lookup .protocol = some (.string (valueText value))) ∧ RecordsApi jmsInfo properties

/-- A dump that does not fail records the settings, the protocol and the API. -/
def Identifies (options : WorkerOptions (GruUri Address) Duration LogLevel)
    (info : Option VmslInfo) : DumpOutcome → Prop
  | .failed => True
  | .undefined => False
  | .written properties =>
      RecordsSettings gru options properties ∧ RecordsIdentity options.uri info properties

/-- The labels that the code writes for the wrong kind of scheme are right by chance: a scheme other
than `tcp` is the first `protocol` parameter as well, and the API that is given is JMS; or the
scheme is `tcp`, JMS is given, and the first `protocol` parameter, if there is one, is `tcp`. -/
def LabelledByChance (uri : GruUri Address) (info : Option VmslInfo) : Prop :=
  if uri.scheme = "tcp" then
    (∀ value, protocolParameter uri = some value → valueText value = "tcp") ∧ info = some jmsInfo
  else
    protocolParameter uri = some (.text uri.scheme) ∧ ∀ given, info = some given → given = jmsInfo

/-! ## The settings -/

theorem lookup_settingsEntries (options : WorkerOptions (GruUri Address) Duration LogLevel)
    (entries : Properties) {key : PropertyKey}
    (hkey : key = .protocol ∨ key = .apiName ∨ key = .apiVersion) :
    (settingsEntries gru options ++ entries).lookup key = entries.lookup key := by
  have hnone : (settingsEntries gru options).lookup key = none := by
    unfold settingsEntries
    by_cases hcondition : options.conditionType = .latency
    · rw [if_pos hcondition]
      rcases hkey with rfl | rfl | rfl <;> cases options.duration <;> rfl
    · rw [if_neg hcondition]
      rcases hkey with rfl | rfl | rfl <;> cases options.duration <;> rfl
  rw [List.lookup_append, hnone, Option.none_or]

theorem recordsSettings (options : WorkerOptions (GruUri Address) Duration LogLevel)
    (entries : Properties) :
    RecordsSettings gru options (settingsEntries gru options ++ entries) := by
  unfold settingsEntries
  constructor
  · rfl
  · intro messages hduration
    rw [hduration]
    exact ⟨rfl, rfl⟩
  · intro duration hduration
    rw [hduration]
    exact ⟨rfl, rfl⟩
  · cases options.duration <;> rfl
  · cases options.duration <;> rfl
  · cases options.duration <;> rfl
  · cases options.duration <;> rfl
  · intro hcondition
    rw [if_pos hcondition]
    cases options.duration <;> rfl

/-! ## The protocol and the API -/

theorem protocolEntries_eq (pairs : List (String × Variant)) :
    protocolEntries pairs =
      match (pairs.find? fun pair ↦ pair.1 = "protocol").map Prod.snd with
      | none => some []
      | some (.text text) => some [(.protocol, .string text)]
      | some _ => none := by
  induction pairs with
  | nil => rfl
  | cons pair rest ih =>
    by_cases hkey : pair.1 = "protocol"
    · rw [protocolEntries, if_pos hkey, List.find?_cons_of_pos (by simpa using hkey),
        Option.map_some]
      cases pair.2 <;> rfl
    · rw [protocolEntries, if_neg hkey, List.find?_cons_of_neg (by simpa using hkey), ih]

theorem recordsApi_apiEntries_iff (info given : VmslInfo) :
    RecordsApi info (apiEntries given) ↔ given = info := by
  obtain ⟨name, version⟩ := info
  obtain ⟨givenName, givenVersion⟩ := given
  have hname : (apiEntries ⟨givenName, givenVersion⟩).lookup .apiName =
      some (.string givenName) := rfl
  have hversion : (apiEntries ⟨givenName, givenVersion⟩).lookup .apiVersion =
      some (.string givenVersion) := rfl
  rw [RecordsApi, hname, hversion]
  simp

theorem not_recordsApi_nil (info : VmslInfo) : ¬ RecordsApi info [] := by
  intro hrecords
  cases hrecords.1

theorem recordsApi_cons_protocol (info : VmslInfo) (value : ConfigValue) (entries : Properties) :
    RecordsApi info ((.protocol, value) :: entries) ↔ RecordsApi info entries :=
  Iff.rfl

theorem recordsIdentity_other_iff {uri : GruUri Address} (hscheme : uri.scheme ≠ "tcp")
    (info : Option VmslInfo) (properties : Properties) :
    RecordsIdentity uri info properties ↔
      properties.lookup .protocol = some (.string uri.scheme) ∧
        ∀ given, info = some given → RecordsApi given properties :=
  ⟨fun hrecords ↦ hrecords.other hscheme, fun hother ↦ ⟨fun _ ↦ hother, fun htcp ↦
    absurd htcp hscheme⟩⟩

theorem recordsIdentity_jms_iff {uri : GruUri Address} (hscheme : uri.scheme = "tcp")
    (info : Option VmslInfo) (properties : Properties) :
    RecordsIdentity uri info properties ↔
      (∀ value, protocolParameter uri = some value →
        properties.lookup .protocol = some (.string (valueText value))) ∧
          RecordsApi jmsInfo properties :=
  ⟨fun hrecords ↦ hrecords.jms hscheme, fun hjms ↦ ⟨fun hother ↦ absurd hscheme hother,
    fun _ ↦ hjms⟩⟩

/-- The settings do not hide what is written after them. -/
theorem recordsIdentity_append (options : WorkerOptions (GruUri Address) Duration LogLevel)
    (info : Option VmslInfo) (entries : Properties) :
    RecordsIdentity options.uri info (settingsEntries gru options ++ entries) ↔
      RecordsIdentity options.uri info entries := by
  have hprotocol := lookup_settingsEntries gru options entries (.inl rfl)
  have hapi : ∀ given, RecordsApi given (settingsEntries gru options ++ entries) ↔
      RecordsApi given entries := by
    intro given
    rw [RecordsApi, RecordsApi, lookup_settingsEntries gru options entries (.inr (.inl rfl)),
      lookup_settingsEntries gru options entries (.inr (.inr rfl))]
  by_cases hscheme : options.uri.scheme = "tcp"
  · simp only [recordsIdentity_jms_iff hscheme, hprotocol, hapi]
  · simp only [recordsIdentity_other_iff hscheme, hprotocol, hapi]

theorem recordsIdentity_tcp {uri : GruUri Address} (hscheme : uri.scheme = "tcp")
    (info : Option VmslInfo) :
    (∃ entries, identityEntries uri info = some entries ∧ RecordsIdentity uri info entries) ↔
      LabelledByChance uri info := by
  rw [LabelledByChance, if_pos hscheme]
  simp only [identityEntries, if_neg (not_not_intro hscheme)]
  simp only [Option.some.injEq, exists_eq_left', recordsIdentity_jms_iff hscheme,
    recordsApi_cons_protocol, List.lookup_cons_self, ConfigValue.string.injEq, hscheme]
  apply and_congr
  · exact forall₂_congr fun value _ ↦ eq_comm
  · cases info with
    | none => simpa using not_recordsApi_nil jmsInfo
    | some given => rw [recordsApi_apiEntries_iff, Option.some.injEq]

theorem recordsIdentity_other {uri : GruUri Address} (hscheme : uri.scheme ≠ "tcp")
    (info : Option VmslInfo) :
    (∃ entries, identityEntries uri info = some entries ∧ RecordsIdentity uri info entries) ↔
      LabelledByChance uri info := by
  rw [LabelledByChance, if_neg hscheme]
  simp only [identityEntries, if_pos hscheme, recordsIdentity_other_iff hscheme]
  cases hquery : uri.query with
  | none => simp [protocolParameter, hquery]
  | some pairs =>
    have hparameter : protocolParameter uri =
        (pairs.find? fun pair ↦ pair.1 = "protocol").map Prod.snd := by
      rw [protocolParameter, hquery, Option.getD_some]
    simp only [protocolEntries_eq, ← hparameter]
    cases protocolParameter uri with
    | none =>
      have hlookup : (apiEntries jmsInfo).lookup .protocol = none := rfl
      simp [hlookup]
    | some value =>
      cases value with
      | boolean flag => simp
      | integer number => simp
      | text text =>
        simp [recordsApi_cons_protocol, recordsApi_apiEntries_iff, eq_comm]

theorem workerDump_written_iff (options : WorkerOptions (GruUri Address) Duration LogLevel)
    (info : Option VmslInfo) :
    Identifies gru options info (workerDump gru true true true options info) ↔
      ∃ entries, identityEntries options.uri info = some entries ∧
        RecordsIdentity options.uri info entries := by
  simp only [workerDump, Bool.and_self, if_true, workerDumpData]
  cases identityEntries options.uri info with
  | none => simp [Identifies]
  | some entries =>
    simp [Identifies, recordsSettings, recordsIdentity_append]

/-- A file that is written identifies the protocol and the API exactly when the labels for the wrong
kind of scheme are right by chance. -/
theorem identifies_iff_labelledByChance (configured payload opened : Bool)
    (options : WorkerOptions (GruUri Address) Duration LogLevel) (info : Option VmslInfo) :
    Identifies gru options info (workerDump gru configured payload opened options info) ↔
      (configured && payload && opened) = false ∨ LabelledByChance options.uri info := by
  cases hready : configured && payload && opened with
  | false =>
    rw [workerDump, hready]
    simp [Identifies]
  | true =>
    obtain ⟨⟨rfl, rfl⟩, rfl⟩ : (configured = true ∧ payload = true) ∧ opened = true := by
      simpa using hready
    rw [workerDump_written_iff]
    by_cases hscheme : options.uri.scheme = "tcp"
    · simpa using recordsIdentity_tcp hscheme info
    · simpa using recordsIdentity_other hscheme info

/-- A test of an AMQP broker. -/
def amqpOptions : WorkerOptions (GruUri String) ℕ Unit :=
  ⟨⟨"amqp", "hostname/test.performance.queue", none⟩, .time 300, .latency, 1500, (), 2, 25, true, 0,
    9000⟩

/-- Its file has neither the protocol nor the API. -/
theorem amqpOptions_not_identified :
    ¬ Identifies ⟨fun uri ↦ uri.scheme ++ "://" ++ uri.address, id⟩ amqpOptions
      (some ⟨"Qpid Proton C - Messenger API", "0.17.0"⟩)
      (workerDump ⟨fun uri ↦ uri.scheme ++ "://" ++ uri.address, id⟩ true true true amqpOptions
        (some ⟨"Qpid Proton C - Messenger API", "0.17.0"⟩)) := by
  intro hidentifies
  have hprotocol := (hidentifies.2.other (by decide)).1
  cases hprotocol

end MsgPerf.Worker.TestProperties
