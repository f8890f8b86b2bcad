import MsgPerf.Library.Decimal
import MsgPerf.Maestro.Note

/-!
# Test settings

`commond_handle_set` assigns the value of a set request to the worker options, which the daemon
keeps from one test to the next.  The numbers go through `atoi` and `atol`, which report nothing,
into fields of different widths, and the answer is the same whatever was assigned.

The parsers of the GRU library are parameters.  The member of the union for the duration is given
with its tag; the union for the condition is only used through its latency.
-/

namespace MsgPerf.Daemon.Settings

open MsgPerf.Library MsgPerf.Maestro

/-! ## Options -/

inductive TestDuration (Duration : Type*) where
  | count (messages : ℕ)
  | time (duration : Duration)
  deriving DecidableEq, Repr

/-- `test_condition_type_t`. -/
inductive ConditionType where
  | none | rate | latency
  deriving DecidableEq, Repr

/-- `worker_options_t`. -/
structure WorkerOptions (Uri Duration LogLevel : Type*) where
  uri : Uri
  duration : TestDuration Duration
  conditionType : ConditionType
  latency : ℤ
  logLevel : LogLevel
  parallelCount : ℕ
  messageSize : ℕ
  variableSize : Bool
  throttle : ℕ
  rate : ℕ
  deriving DecidableEq, Repr

/-- `set_opts_t`. -/
inductive SetOption where
  | broker | durationType | logLevel | parallelCount | messageSize | throttle | rate | fcl
  deriving DecidableEq, Repr

def SetOption.ofCode? : ℤ → Option SetOption
  | 0 => some .broker
  | 1 => some .durationType
  | 2 => some .logLevel
  | 3 => some .parallelCount
  | 4 => some .messageSize
  | 5 => some .throttle
  | 6 => some .rate
  | 7 => some .fcl
  | _ => none

/-- `maestro_payload_set_t`. -/
structure SetRequest where
  opt : ℤ
  value : List Char
  deriving DecidableEq, Repr

/-- The parsers of the GRU library; the flag says that the status of `gru_uri_parse` is no error. -/
structure GruParsers (Uri Duration LogLevel : Type*) where
  uriParse : List Char → Uri × Bool
  durationParse : List Char → Option Duration
  loggerGetLevel : List Char → LogLevel

def SetOption.code : SetOption → ℤ
  | .broker => 0
  | .durationType => 1
  | .logLevel => 2
  | .parallelCount => 3
  | .messageSize => 4
  | .throttle => 5
  | .rate => 6
  | .fcl => 7

theorem SetOption.code_of_ofCode? {opt : ℤ} {option : SetOption} (h : ofCode? opt = some option) :
    opt = option.code := by
  unfold ofCode? at h
  split at h <;> cases h <;> rfl

variable {Uri Duration LogLevel : Type*} (gru : GruParsers Uri Duration LogLevel)

/-- The branch of one option. -/
def SetOption.assign (options : WorkerOptions Uri Duration LogLevel) (value : List Char) :
    SetOption → WorkerOptions Uri Duration LogLevel
  | .broker => { options with uri := (gru.uriParse value).1 }
  | .durationType =>
    match gru.durationParse value with
    | none => { options with duration := .count (toUnsigned 64 (atol value)) }
    | some duration => { options with duration := .time duration }
  | .logLevel => { options with logLevel := gru.loggerGetLevel value }
  | .parallelCount => { options with parallelCount := toUnsigned 16 (atoi value) }
  | .messageSize =>
    if value.head? = some '~' then
      { options with messageSize := toUnsigned 64 (atoi value.tail), variableSize := true }
    else { options with messageSize := toUnsigned 64 (atoi value) }
  | .throttle => { options with throttle := toUnsigned 32 (atoi value) }
  | .rate => { options with rate := toUnsigned 32 (atoi value) }
  | .fcl => { options with conditionType := .latency, latency := atoi value }

/-- The options after a request and the command of the response. -/
def commondHandleSet (options : WorkerOptions Uri Duration LogLevel) (request : SetRequest) :
    WorkerOptions Uri Duration LogLevel × Command :=
  match SetOption.ofCode? request.opt with
  | some option => (option.assign gru options request.value, .ok)
  | none => (options, .protocolError)

/-- The options after a sequence of requests. -/
def handleSets (options : WorkerOptions Uri Duration LogLevel) (requests : List SetRequest) :
    WorkerOptions Uri Duration LogLevel :=
  requests.foldl (fun options request ↦ (commondHandleSet gru options request).1) options

/-! ## What a text denotes -/

/-- The value that a request asks for. -/
inductive Setting (Uri Duration LogLevel : Type*) where
  | broker (uri : Uri)
  | duration (length : TestDuration Duration)
  | logLevel (level : LogLevel)
  | parallelCount (number : ℕ)
  | messageSize (number : ℕ)
  | throttle (number : ℕ)
  | rate (number : ℕ)
  | fcl (number : ℕ)
  deriving DecidableEq, Repr

def Setting.HeldBy (options : WorkerOptions Uri Duration LogLevel) :
    Setting Uri Duration LogLevel → Prop
  | .broker uri => options.uri = uri
  | .duration length => options.duration = length
  | .logLevel level => options.logLevel = level
  | .parallelCount number => options.parallelCount = number
  | .messageSize number => options.messageSize = number
  | .throttle number => options.throttle = number
  | .rate number => options.rate = number
  | .fcl number => options.conditionType = .latency ∧ options.latency = number

/-- The log levels of the protocol documentation. -/
def logLevelNames : List (List Char) :=
  [['t', 'r', 'a', 'c', 'e'], ['d', 'e', 'b', 'u', 'g'], ['i', 'n', 'f', 'o'],
    ['w', 'a', 'r', 'n', 'i', 'n', 'g'], ['e', 'r', 'r', 'o', 'r'], ['f', 'a', 't', 'a', 'l']]

/-- The text of a message size behind the mark of a variable size. -/
def sizeText (value : List Char) : List Char :=
  if value.head? = some '~' then value.tail else value

/-- The number that a text denotes, if a field with the given bound can hold it. -/
def numberBelow (bound : ℕ) (text : List Char) : Option ℕ :=
  (decimal? text).filter fun number ↦ number < bound

def SetOption.denoted (value : List Char) : SetOption → Option (Setting Uri Duration LogLevel)
  | .broker => if (gru.uriParse value).2 then some (.broker (gru.uriParse value).1) else none
  | .durationType =>
    match gru.durationParse value with
    | some duration => some (.duration (.time duration))
    | none => (numberBelow (2 ^ 64) value).map fun number ↦ .duration (.count number)
  | .logLevel =>
    if value ∈ logLevelNames then some (.logLevel (gru.loggerGetLevel value)) else none
  | .parallelCount => (numberBelow (2 ^ 16) value).map .parallelCount
  | .messageSize => (numberBelow (2 ^ 64) (sizeText value)).map .messageSize
  | .throttle => (numberBelow (2 ^ 32) value).map .throttle
  | .rate => (numberBelow (2 ^ 32) value).map .rate
  | .fcl => (numberBelow (2 ^ 63) value).map .fcl

def SetRequest.denoted (request : SetRequest) : Option (Setting Uri Duration LogLevel) :=
  (SetOption.ofCode? request.opt).bind fun option ↦ option.denoted gru request.value

/-! ## The last writer wins -/

section LastWriter

/-- The value of the last request for an option. -/
def lastValue (option : SetOption) (requests : List SetRequest) : Option (List Char) :=
  ((requests.filter fun request ↦ SetOption.ofCode? request.opt = some option).getLast?).map
    SetRequest.value

/-- A request for a variable message size. -/
def SetRequest.isVariable (request : SetRequest) : Bool :=
  SetOption.ofCode? request.opt = some .messageSize && request.value.head? = some '~'

theorem lastValue_concat (option : SetOption) (requests : List SetRequest) (request : SetRequest) :
    lastValue option (requests ++ [request]) =
      if SetOption.ofCode? request.opt = some option then some request.value
      else lastValue option requests := by
  unfold lastValue
  rw [List.filter_append, List.filter_singleton]
  split
  next h => simp [h]
  next h => simp [h]

theorem handleSets_concat (options : WorkerOptions Uri Duration LogLevel)
    (requests : List SetRequest) (request : SetRequest) :
    handleSets gru options (requests ++ [request]) =
      (commondHandleSet gru (handleSets gru options requests) request).1 := by
  simp [handleSets]

/-- The options that result from the last values and from whether some size was variable. -/
def written (options : WorkerOptions Uri Duration LogLevel)
    (last : SetOption → Option (List Char)) (varied : Bool) :
    WorkerOptions Uri Duration LogLevel where
  uri := (last .broker).elim options.uri fun value ↦ (gru.uriParse value).1
  duration := (last .durationType).elim options.duration fun value ↦
    ((SetOption.durationType).assign gru options value).duration
  conditionType := (last .fcl).elim options.conditionType fun _ ↦ .latency
  latency := (last .fcl).elim options.latency atoi
  logLevel := (last .logLevel).elim options.logLevel gru.loggerGetLevel
  parallelCount := (last .parallelCount).elim options.parallelCount fun value ↦
    toUnsigned 16 (atoi value)
  messageSize := (last .messageSize).elim options.messageSize fun value ↦
    toUnsigned 64 (atoi (sizeText value))
  variableSize := options.variableSize || varied
  throttle := (last .throttle).elim options.throttle fun value ↦ toUnsigned 32 (atoi value)
  rate := (last .rate).elim options.rate fun value ↦ toUnsigned 32 (atoi value)

/-- Every field but `variable_size` is a function of the last values. -/
theorem handleSets_eq_written (options : WorkerOptions Uri Duration LogLevel)
    (requests : List SetRequest) :
    handleSets gru options requests =
      written gru options (fun option ↦ lastValue option requests)
        (requests.any SetRequest.isVariable) := by
  induction requests using List.reverseRecOn with
  | nil => simp [handleSets, written, lastValue]
  | append_singleton requests request ih =>
    rw [handleSets_concat, ih, List.any_append]
    simp only [lastValue_concat, commondHandleSet]
    cases hcode : SetOption.ofCode? request.opt with
    | none => simp [written, SetRequest.isVariable, hcode]
    | some option =>
      cases option with
      | broker | logLevel | parallelCount | throttle | rate | fcl =>
        simp [written, SetOption.assign, SetRequest.isVariable, hcode]
      | durationType =>
        cases hparse : gru.durationParse request.value <;>
          simp [written, SetOption.assign, SetRequest.isVariable, hcode, hparse]
      | messageSize =>
        by_cases hmark : request.value.head? = some '~' <;>
          simp [written, SetOption.assign, SetRequest.isVariable, hcode, hmark, sizeText]

/-- Requests for different options commute. -/
theorem handleSets_swap (options : WorkerOptions Uri Duration LogLevel) {first second : SetRequest}
    (h : first.opt ≠ second.opt) :
    handleSets gru options [first, second] = handleSets gru options [second, first] := by
  have hlast (option : SetOption) :
      lastValue option [first, second] = lastValue option [second, first] := by
    have hpair := lastValue_concat option [first] second
    have hswapped := lastValue_concat option [second] first
    rw [List.singleton_append] at hpair hswapped
    rw [hpair, hswapped, ← List.nil_append [first], ← List.nil_append [second],
      lastValue_concat, lastValue_concat]
    split
    next hsecond =>
      split
      next hfirst =>
        have hopt := (SetOption.code_of_ofCode? hfirst).trans
          (SetOption.code_of_ofCode? hsecond).symm
        exact absurd hopt h
      · rfl
    · rfl
  have hany : [first, second].any SetRequest.isVariable =
      [second, first].any SetRequest.isVariable := by
    simp [Bool.or_comm]
  simp only [handleSets_eq_written, hlast, hany]

/-- Sequences of requests with the same last value for every option give the same options exactly
when both ask for a variable message size or neither does, or the size is variable from the
beginning. -/
theorem handleSets_eq_iff (options : WorkerOptions Uri Duration LogLevel)
    (first second : List SetRequest)
    (hlast : ∀ option, lastValue option first = lastValue option second) :
    handleSets gru options first = handleSets gru options second ↔
      options.variableSize = true ∨
        first.any SetRequest.isVariable = second.any SetRequest.isVariable := by
  simp only [handleSets_eq_written, hlast]
  constructor
  · intro heq
    have hsize := congrArg WorkerOptions.variableSize heq
    simp only [written] at hsize
    cases hvariable : options.variableSize with
    | true => exact .inl rfl
    | false => exact .inr (by simpa [hvariable] using hsize)
  · rintro (hvariable | hany)
    · simp only [written, hvariable, Bool.true_or]
    · rw [hany]

/-- Texts as addresses, where a colon ends the protocol, and durations in seconds. -/
def textParsers : GruParsers (List Char) ℕ (List Char) where
  uriParse value := (value, value.contains ':')
  durationParse value := if value.getLast? = some 's' then decimal? value.dropLast else none
  loggerGetLevel value := value

/-- The options of a daemon before the first request. -/
def noOptions : WorkerOptions (List Char) ℕ (List Char) :=
  ⟨[], .count 0, .none, 0, [], 0, 0, false, 0, 0⟩

theorem handleSets_variable_twice :
    handleSets textParsers noOptions
        [⟨4, ['~', '6']⟩, ⟨6, ['5']⟩, ⟨4, ['~', '8']⟩] =
      handleSets textParsers noOptions [⟨4, ['~', '8']⟩, ⟨6, ['5']⟩] := by
  refine (handleSets_eq_iff textParsers noOptions _ _ ?_).mpr (.inr (by decide))
  intro option
  cases option <;> decide

/-- A fixed size after a variable one is not the fixed size alone: the mark of the variable size
stays. -/
theorem fixed_after_variable_ne :
    ¬ ∀ first second : List SetRequest,
      (∀ request ∈ first ++ second, (request.denoted textParsers).isSome) →
      (∀ option, lastValue option first = lastValue option second) →
      handleSets textParsers noOptions first = handleSets textParsers noOptions second := by
  intro hevery
  have heq := hevery [⟨4, ['~', '8']⟩, ⟨4, ['8']⟩] [⟨4, ['8']⟩] (by decide)
    (by intro option; cases option <;> decide)
  exact absurd (congrArg WorkerOptions.variableSize heq) (by decide)

end LastWriter

/-! ## Applied or refused -/

/-- A request that is answered with success leaves the value that its text denotes in the field, a
text that denotes nothing is not answered with success, and without success nothing changes. -/
structure AppliedOrRefused (options : WorkerOptions Uri Duration LogLevel) (request : SetRequest) :
    Prop where
  applied : (commondHandleSet gru options request).2 = .ok →
    ∃ setting, request.denoted gru = some setting ∧
      setting.HeldBy (commondHandleSet gru options request).1
  refused : request.denoted gru = none →
    (commondHandleSet gru options request).2 ≠ .ok
  unchanged : (commondHandleSet gru options request).2 ≠ .ok →
    (commondHandleSet gru options request).1 = options

/-- The text denotes a number that satisfies the bound. -/
def NumberWith (bound : ℕ → Prop) (text : List Char) : Prop :=
  ∃ number, decimal? text = some number ∧ bound number

/-- The texts of an option that reach the field as they are written. -/
def SetOption.Exact (value : List Char) : SetOption → Prop
  | .broker => (gru.uriParse value).2 = true
  | .durationType =>
    (gru.durationParse value).isSome = true ∨ NumberWith (· < 2 ^ 63) value
  | .logLevel => value ∈ logLevelNames
  | .parallelCount => NumberWith (· < 2 ^ 16) value
  | .messageSize =>
    NumberWith (fun number ↦ number < 2 ^ 31 ∨ number = 2 ^ 64 - 1) (sizeText value)
  | .throttle => NumberWith (· < 2 ^ 32) value
  | .rate => NumberWith (· < 2 ^ 32) value
  | .fcl => NumberWith (· < 2 ^ 31) value

/-- The condition on a request: the option is unknown, or its text is exact. -/
def SetRequest.Exact (request : SetRequest) : Prop :=
  ∀ option, SetOption.ofCode? request.opt = some option → option.Exact gru request.value

section Numbers

variable {setting : ℕ → Setting Uri Duration LogLevel} {text : List Char} {bound : ℕ}
  {options : WorkerOptions Uri Duration LogLevel} {exact : ℕ → Prop}

/-- A numeric option: the field holds the number that is denoted exactly when the number is one that
the assignment keeps. -/
theorem numberBelow_heldBy_iff
    (hexact : ∀ number, decimal? text = some number →
      ((setting number).HeldBy options ↔ exact number))
    (hbound : ∀ number, exact number → number < bound) :
    (∃ value, (numberBelow bound text).map setting = some value ∧ value.HeldBy options) ↔
      NumberWith exact text := by
  constructor
  · rintro ⟨value, hvalue, hheld⟩
    obtain ⟨number, hnumber, rfl⟩ := Option.map_eq_some_iff.mp hvalue
    obtain ⟨hdecimal, -⟩ := Option.filter_eq_some_iff.mp hnumber
    exact ⟨number, hdecimal, (hexact number hdecimal).mp hheld⟩
  · rintro ⟨number, hdecimal, hnumber⟩
    refine ⟨setting number, Option.map_eq_some_iff.mpr ⟨number, ?_, rfl⟩,
      (hexact number hdecimal).mpr hnumber⟩
    exact Option.filter_eq_some_iff.mpr ⟨hdecimal, by simpa using hbound number hnumber⟩

end Numbers

/-- The texts whose denoted value is in the field after the assignment are the exact ones. -/
theorem SetOption.assign_heldBy_iff (options : WorkerOptions Uri Duration LogLevel)
    (value : List Char) (option : SetOption) :
    (∃ setting, option.denoted gru value = some setting ∧
        setting.HeldBy (option.assign gru options value)) ↔ option.Exact gru value := by
  cases option with
  | broker => simp [SetOption.denoted, SetOption.assign, SetOption.Exact, Setting.HeldBy]
  | durationType =>
    cases hparse : gru.durationParse value with
    | some duration =>
      simp [SetOption.denoted, SetOption.assign, SetOption.Exact, Setting.HeldBy, hparse]
    | none =>
      simp only [SetOption.denoted, SetOption.assign, SetOption.Exact, hparse, Option.isSome_none,
        Bool.false_eq_true, false_or]
      apply numberBelow_heldBy_iff
      · intro number hnumber
        rw [← toUnsigned_atol hnumber]
        exact TestDuration.count.injEq _ _ ▸ Iff.rfl
      · omega
  | logLevel => simp [SetOption.denoted, SetOption.assign, SetOption.Exact, Setting.HeldBy]
  | parallelCount =>
    apply numberBelow_heldBy_iff
    · exact fun number hnumber ↦ toUnsigned_atoi_sixteen hnumber
    · exact fun number hnumber ↦ hnumber
  | messageSize =>
    have hsize : (SetOption.messageSize.assign gru options value).messageSize =
        toUnsigned 64 (atoi (sizeText value)) := by
      simp only [SetOption.assign, sizeText]
      split <;> rfl
    apply numberBelow_heldBy_iff
    · intro number hnumber
      rw [Setting.HeldBy, hsize]
      exact toUnsigned_atoi_sixtyFour hnumber
    · omega
  | throttle | rate =>
    apply numberBelow_heldBy_iff
    · exact fun number hnumber ↦ toUnsigned_atoi_thirtyTwo hnumber
    · exact fun number hnumber ↦ hnumber
  | fcl =>
    apply numberBelow_heldBy_iff
    · intro number hnumber
      exact (and_iff_right rfl).trans (atoi_eq_iff hnumber)
    · omega

/-- A request is applied or refused exactly when its option is unknown or its text is exact: the
answer to a known option is a success for every text. -/
theorem appliedOrRefused_iff (options : WorkerOptions Uri Duration LogLevel)
    (request : SetRequest) : AppliedOrRefused gru options request ↔ request.Exact gru := by
  cases hcode : SetOption.ofCode? request.opt with
  | none =>
    have hresult : commondHandleSet gru options request = (options, .protocolError) := by
      simp [commondHandleSet, hcode]
    constructor
    · intro _ option hoption
      rw [hcode] at hoption
      exact absurd hoption (by simp)
    · intro _
      exact ⟨by simp [hresult], by simp [hresult], by simp [hresult]⟩
  | some option =>
    have hresult : commondHandleSet gru options request =
        (option.assign gru options request.value, .ok) := by
      simp [commondHandleSet, hcode]
    have hdenoted : request.denoted gru = option.denoted gru request.value := by
      simp [SetRequest.denoted, hcode]
    have hexact : request.Exact gru ↔ option.Exact gru request.value := by
      simp [SetRequest.Exact, hcode]
    rw [hexact, ← SetOption.assign_heldBy_iff gru options request.value option]
    constructor
    · intro h
      have happlied := h.applied (by rw [hresult])
      rwa [hresult, hdenoted] at happlied
    · rintro ⟨setting, hsetting, hheld⟩
      have hsome : request.denoted gru = some setting := hdenoted.trans hsetting
      refine ⟨fun _ ↦ ⟨setting, hsome, by rwa [hresult]⟩, fun hnone ↦ ?_, fun hother ↦ ?_⟩
      · rw [hsome] at hnone
        exact absurd hnone (by simp)
      · exact absurd (by rw [hresult]) hother

/-- Seventy thousand parallel connections are answered with success, and the field cannot hold
them. -/
theorem seventyThousand_not_appliedOrRefused :
    ¬ ∀ options request, AppliedOrRefused textParsers options request := by
  intro hevery
  have hrefused := (hevery noOptions ⟨3, ['7', '0', '0', '0', '0']⟩).refused (by decide)
  exact absurd rfl hrefused

end MsgPerf.Daemon.Settings
