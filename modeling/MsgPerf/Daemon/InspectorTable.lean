import MsgPerf.Library.Table

/-!
# The table of the broker inspector

`bmic_writer_initialize` writes the names of the columns, and each `brokerd_update` adds a row in
four parts, between which it queries the broker.  The status is shared by all queries and by the
flush of the report: an error that is left in it ends the update at the next test of the status,
behind the parts that are already written.

`gru_unit_mb` of the GRU library is a parameter.  The load average and the current time are given by
the texts that they have in the report.
-/

namespace MsgPerf.Daemon.Bmic

open MsgPerf.Library

/-! ## Statistics -/

/-- `bmic_java_memory_model_t`, as far as it is compared with `BMIC_JAVA_MODERN`. -/
inductive MemoryModel where
  | modern | legacy
  deriving DecidableEq, Repr

/-- `bmic_java_os_info_t`, as far as the writer reads it. -/
structure OsInfo where
  loadAverage : Cell
  openFd : ℤ
  maxFd : ℤ
  memFree : ℤ
  swapFree : ℤ
  swapCommitted : ℤ

/-- `bmic_java_mem_info_t`. -/
structure MemInfo where
  init : ℤ
  committed : ℤ
  max : ℤ
  used : ℤ

/-- `bmic_queue_stat_t`. -/
structure QueueStat where
  queueSize : ℤ
  consumerCount : ℤ
  msgAckCount : ℤ
  msgExpCount : ℤ

/-- What a query returns, and whether it leaves an error in the status. -/
structure Answer (Value : Type) where
  value : Value
  failed : Bool

/-- What an update reads: the formatted time, unless the formatting fails, the answers of the
broker, and the outcome of the flush behind the update. -/
structure Update where
  currentTime : Option Cell
  osInfo : Answer OsInfo
  eden : Answer MemInfo
  survivor : Answer MemInfo
  tenured : Answer MemInfo
  metaspace : Answer MemInfo
  permgen : Answer MemInfo
  queueStats : Answer QueueStat
  flushFailed : Bool

/-- The memory that `mpt_get_mem_info` reads last. -/
def Update.metaperm (update : Update) : MemoryModel → Answer MemInfo
  | .modern => update.metaspace
  | .legacy => update.permgen

/-- The status after `mpt_get_mem_info`. -/
def Update.failedAtMemory (update : Update) (model : MemoryModel) (failed : Bool) : Bool :=
  failed || update.osInfo.failed || update.eden.failed || update.survivor.failed ||
    update.tenured.failed || (update.metaperm model).failed

/-! ## The writer -/

def bmicWriterAddHeaderColumn (name : String) (more : Bool) : List Char :=
  '"' :: name.toList ++ ['"', if more then ',' else '\n']

/-- The names of the columns but the last. -/
def headerNames : List String :=
  ["timestamp", "load", "open fds", "free fds", "free mem", "swap free", "swap committed",
    "eden initial", "eden committed", "eden max", "eden used",
    "survivor initial", "survivor committed", "survivor max", "survivor used",
    "tenured initial", "tenured committed", "tenured max", "tenured used",
    "pm initial", "pm committed", "pm max", "pm used", "queue size", "consumers", "ack"]

def bmicWriterInitialize : List Char :=
  headerNames.flatMap (bmicWriterAddHeaderColumn · true) ++ bmicWriterAddHeaderColumn "exp" false

def bmicWriterCurrentTime (time : Cell) : List Char := linePart [time.quoted]

/-- `bmic_writer_osinfo_free_fd`, an unsigned difference that is printed as a signed number. -/
def bmicWriterOsinfoFreeFd (info : OsInfo) : ℤ := (info.maxFd - info.openFd).bmod (2 ^ 64)

variable (unitMb : ℤ → ℤ)

def osInfoCells (info : OsInfo) : List Cell :=
  [info.loadAverage, .ofInt info.openFd, .ofInt (bmicWriterOsinfoFreeFd info),
    .ofInt (unitMb info.memFree), .ofInt (unitMb info.swapFree),
    .ofInt (unitMb info.swapCommitted)]

def bmicWriterOsinfo (info : OsInfo) : List Char := linePart (osInfoCells unitMb info)

def memCells (info : MemInfo) : List Cell :=
  [.ofInt (unitMb info.init), .ofInt (unitMb info.committed), .ofInt (unitMb info.max),
    .ofInt (unitMb info.used)]

def bmicWriteMem (info : MemInfo) : List Char := linePart (memCells unitMb info)

def bmicWriterJavaMem (update : Update) (model : MemoryModel) : List Char :=
  bmicWriteMem unitMb update.eden.value ++ bmicWriteMem unitMb update.survivor.value ++
    bmicWriteMem unitMb update.tenured.value ++
    if model = .modern then bmicWriteMem unitMb (update.metaperm model).value else []

def queueCells (stat : QueueStat) : List Cell :=
  [.ofInt stat.queueSize, .ofInt stat.consumerCount, .ofInt stat.msgAckCount,
    .ofInt stat.msgExpCount]

def bmicWriterQueueStat (stat : QueueStat) : List Char := tableLine (queueCells stat)

/-! ## Updates -/

/-- The text that an update adds, and whether it succeeds. -/
def brokerdUpdate (model : MemoryModel) (failed : Bool) (update : Update) : List Char × Bool :=
  match update.currentTime with
  | none => ([], false)
  | some time =>
    let started := bmicWriterCurrentTime time ++ bmicWriterOsinfo unitMb update.osInfo.value
    if update.failedAtMemory model failed then (started, false)
    else
      let continued := started ++ bmicWriterJavaMem unitMb update model
      if update.queueStats.failed then (continued, false)
      else (continued ++ bmicWriterQueueStat update.queueStats.value, true)

/-- The loop of `brokerd_collect`, which ends at a failing update or when the list ends, by a STOP
or by the abort check.  The flag is the status, which only the flush can change after a row. -/
def brokerdUpdates (model : MemoryModel) : Bool → List Update → List Char
  | _, [] => []
  | failed, update :: rest =>
    let written := brokerdUpdate unitMb model failed update
    if written.2 then written.1 ++ brokerdUpdates model update.flushFailed rest else written.1

/-- The text between the opening of the report and its closing. -/
def brokerdReport (model : MemoryModel) (failed : Bool) (updates : List Update) : List Char :=
  bmicWriterInitialize ++ brokerdUpdates unitMb model failed updates

/-! ## The table -/

inductive MemColumn where
  | initial | committed | max | used
  deriving DecidableEq, Repr

inductive Column where
  | timestamp | load | openFds | freeFds | freeMem | swapFree | swapCommitted
  | eden (part : MemColumn) | survivor (part : MemColumn) | tenured (part : MemColumn)
  | pm (part : MemColumn)
  | queueSize | consumers | ack | exp
  deriving DecidableEq, Repr

def memColumns : List MemColumn := [.initial, .committed, .max, .used]

def columns : List Column :=
  [Column.timestamp, Column.load, Column.openFds, Column.freeFds, Column.freeMem, Column.swapFree,
    Column.swapCommitted] ++
    memColumns.map Column.eden ++ memColumns.map Column.survivor ++
    memColumns.map Column.tenured ++ memColumns.map Column.pm ++
    [Column.queueSize, Column.consumers, Column.ack, Column.exp]

def MemColumn.name : MemColumn → String
  | .initial => "initial"
  | .committed => "committed"
  | .max => "max"
  | .used => "used"

def Column.name : Column → String
  | .timestamp => "timestamp"
  | .load => "load"
  | .openFds => "open fds"
  | .freeFds => "free fds"
  | .freeMem => "free mem"
  | .swapFree => "swap free"
  | .swapCommitted => "swap committed"
  | .eden part => "eden " ++ part.name
  | .survivor part => "survivor " ++ part.name
  | .tenured part => "tenured " ++ part.name
  | .pm part => "pm " ++ part.name
  | .queueSize => "queue size"
  | .consumers => "consumers"
  | .ack => "ack"
  | .exp => "exp"

theorem Column.name_separators (column : Column) :
    ',' ∉ column.name.toList ∧ '\n' ∉ column.name.toList := by
  cases column with
  | eden part | survivor part | tenured part | pm part => cases part <;> decide
  | _ => decide

/-- The cell of a column in the header. -/
def Column.header (column : Column) : Cell :=
  Cell.quoted ⟨column.name.toList, column.name_separators.1, column.name_separators.2⟩

def MemColumn.value (info : MemInfo) : MemColumn → ℤ
  | .initial => info.init
  | .committed => info.committed
  | .max => info.max
  | .used => info.used

/-- The cell of a column in the row of an update. -/
def Column.cell (model : MemoryModel) (time : Cell) (update : Update) : Column → Cell
  | .timestamp => time.quoted
  | .load => update.osInfo.value.loadAverage
  | .openFds => .ofInt update.osInfo.value.openFd
  | .freeFds => .ofInt (bmicWriterOsinfoFreeFd update.osInfo.value)
  | .freeMem => .ofInt (unitMb update.osInfo.value.memFree)
  | .swapFree => .ofInt (unitMb update.osInfo.value.swapFree)
  | .swapCommitted => .ofInt (unitMb update.osInfo.value.swapCommitted)
  | .eden part => .ofInt (unitMb (part.value update.eden.value))
  | .survivor part => .ofInt (unitMb (part.value update.survivor.value))
  | .tenured part => .ofInt (unitMb (part.value update.tenured.value))
  | .pm part => .ofInt (unitMb (part.value (update.metaperm model).value))
  | .queueSize => .ofInt update.queueStats.value.queueSize
  | .consumers => .ofInt update.queueStats.value.consumerCount
  | .ack => .ofInt update.queueStats.value.msgAckCount
  | .exp => .ofInt update.queueStats.value.msgExpCount

/-- The row of an update, if it has a time. -/
def Update.row (model : MemoryModel) (update : Update) : List Cell :=
  match update.currentTime with
  | none => []
  | some time => columns.map (Column.cell unitMb model time update)

/-- The header and, in the order of its columns, the row of each update with a time among the first
ones. -/
def IsTable (model : MemoryModel) (updates : List Update) (text : List Char) : Prop :=
  ∃ written, written <+: updates ∧ (∀ update ∈ written, update.currentTime.isSome) ∧
    text = tableLines (columns.map Column.header :: written.map (Update.row unitMb model))

/-- No update that writes its time finds an error in the status. -/
def UpdatesComplete (model : MemoryModel) : Bool → List Update → Prop
  | _, [] => True
  | failed, update :: rest =>
    update.currentTime.isSome →
      update.failedAtMemory model failed = false ∧ update.queueStats.failed = false ∧
        UpdatesComplete model update.flushFailed rest

/-- The first update writes its time. -/
def Started (updates : List Update) : Prop :=
  ∃ update, updates.head? = some update ∧ update.currentTime.isSome

/-! ## The text of the report -/

/-- The header is the line of the names of the columns. -/
theorem bmicWriterInitialize_eq :
    bmicWriterInitialize = tableLine (columns.map Column.header) := by
  have hcolumns : columns = columns.dropLast ++ [.exp] := rfl
  have hnames : headerNames = columns.dropLast.map Column.name := by decide
  calc bmicWriterInitialize
      = linePart (columns.dropLast.map Column.header) ++
          ((Column.header .exp).text ++ ['\n']) := by
        rw [bmicWriterInitialize, hnames, linePart, List.flatMap_map, List.flatMap_map]
        simp [bmicWriterAddHeaderColumn, Column.header, Cell.quoted, Column.name]
    _ = tableLine (columns.dropLast.map Column.header ++ [Column.header .exp]) :=
        (tableLine_concat _ _).symm
    _ = tableLine (columns.map Column.header) := by
        conv_rhs => rw [hcolumns, List.map_append, List.map_singleton]

/-- The cells of `bmic_writer_java_mem`. -/
def Update.memoryCells (model : MemoryModel) (update : Update) : List Cell :=
  memCells unitMb update.eden.value ++ memCells unitMb update.survivor.value ++
    memCells unitMb update.tenured.value ++
    if model = .modern then memCells unitMb (update.metaperm model).value else []

theorem bmicWriterJavaMem_eq (model : MemoryModel) (update : Update) :
    bmicWriterJavaMem unitMb update model = linePart (update.memoryCells unitMb model) := by
  simp only [bmicWriterJavaMem, Update.memoryCells, bmicWriteMem, linePart_append]
  split <;> rfl

/-- The cells of an update that succeeds. -/
def Update.writtenCells (model : MemoryModel) (time : Cell) (update : Update) : List Cell :=
  time.quoted :: osInfoCells unitMb update.osInfo.value ++ update.memoryCells unitMb model ++
    queueCells update.queueStats.value

theorem Update.writtenCells_modern (time : Cell) (update : Update) :
    update.writtenCells unitMb .modern time =
      columns.map (Column.cell unitMb .modern time update) := rfl

theorem Update.length_writtenCells_legacy (time : Cell) (update : Update) :
    (update.writtenCells unitMb .legacy time).length = 23 := rfl

/-- An update with a time writes its cells as a line when it finds no error, and a part of them
otherwise. -/
theorem brokerdUpdate_eq (model : MemoryModel) (failed : Bool) {update : Update} {time : Cell}
    (htime : update.currentTime = some time) :
    (update.failedAtMemory model failed = false ∧ update.queueStats.failed = false ∧
        brokerdUpdate unitMb model failed update =
          (tableLine (update.writtenCells unitMb model time), true)) ∨
      ((update.failedAtMemory model failed = true ∨ update.queueStats.failed = true) ∧
        ∃ part, part ≠ [] ∧ brokerdUpdate unitMb model failed update = (linePart part, false)) := by
  have hstarted : bmicWriterCurrentTime time ++ bmicWriterOsinfo unitMb update.osInfo.value =
      linePart (time.quoted :: osInfoCells unitMb update.osInfo.value) := by
    rw [bmicWriterCurrentTime, bmicWriterOsinfo, ← linePart_append, List.singleton_append]
  have hline : linePart (time.quoted :: osInfoCells unitMb update.osInfo.value ++
      update.memoryCells unitMb model) ++ bmicWriterQueueStat update.queueStats.value =
      tableLine (update.writtenCells unitMb model time) :=
    (tableLine_append _ (List.cons_ne_nil _ _)).symm
  unfold brokerdUpdate
  rw [htime]
  simp only [hstarted, bmicWriterJavaMem_eq, ← linePart_append, hline]
  split
  next hfailed => exact .inr ⟨.inl hfailed, _, List.cons_ne_nil _ _, rfl⟩
  next hgood =>
    split
    next hfailed => exact .inr ⟨.inr hfailed, _, List.cons_ne_nil _ _, rfl⟩
    next hqueue =>
      exact .inl ⟨by simpa using hgood, by simpa using hqueue, rfl⟩

/-- The row that is written for an update. -/
def Update.writtenRow (model : MemoryModel) (update : Update) : List Cell :=
  match update.currentTime with
  | none => []
  | some time => update.writtenCells unitMb model time

/-- The loop writes lines and, unless the updates are complete, a part of a line. -/
theorem brokerdUpdates_eq (model : MemoryModel) (failed : Bool) (updates : List Update) :
    ∃ written part, written <+: updates ∧ (∀ update ∈ written, update.currentTime.isSome) ∧
      brokerdUpdates unitMb model failed updates =
        tableLines (written.map (Update.writtenRow unitMb model)) ++ linePart part ∧
      (part = [] ↔ UpdatesComplete model failed updates) ∧
      (written = [] ∧ part = [] ↔ ¬ Started updates) := by
  induction updates generalizing failed with
  | nil => exact ⟨[], [], List.prefix_rfl, by simp, rfl, by simp [UpdatesComplete], by simp [Started]⟩
  | cons update rest ih =>
    cases htime : update.currentTime with
    | none =>
      refine ⟨[], [], List.nil_prefix, by simp, ?_, by simp [UpdatesComplete, htime],
        by simp [Started, htime]⟩
      simp [brokerdUpdates, brokerdUpdate, htime, tableLines, linePart]
    | some time =>
      have hstarted : Started (update :: rest) := ⟨update, rfl, by simp [htime]⟩
      obtain ⟨hmemory, hqueue, hupdate⟩ | ⟨hfailed, part, hpart, hupdate⟩ :=
        brokerdUpdate_eq unitMb model failed htime
      · obtain ⟨written, part, hprefix, htimes, htext, hcomplete, -⟩ := ih update.flushFailed
        refine ⟨update :: written, part, (List.prefix_cons_inj update).mpr hprefix, ?_, ?_, ?_,
          by simp [hstarted]⟩
        · exact List.forall_mem_cons.mpr ⟨by simp [htime], htimes⟩
        · simp only [brokerdUpdates, hupdate, if_true, htext, List.map_cons,
            Update.writtenRow, htime, tableLines_cons, List.append_assoc]
        · simp [UpdatesComplete, htime, hmemory, hqueue, hcomplete]
      · refine ⟨[], part, List.nil_prefix, by simp, ?_, ?_, by simp [hpart, hstarted]⟩
        · simp [brokerdUpdates, hupdate, tableLines]
        · have hincomplete : ¬ UpdatesComplete model failed (update :: rest) := by
            intro hcomplete
            obtain ⟨hmemory, hqueue, -⟩ := hcomplete (by simp [htime])
            rw [hmemory, hqueue] at hfailed
            simp at hfailed
          simp [hpart, hincomplete]

theorem Update.writtenRow_modern (update : Update) :
    update.writtenRow unitMb .modern = update.row unitMb .modern := by
  unfold Update.writtenRow Update.row
  split
  · rfl
  · exact update.writtenCells_modern unitMb _

theorem Update.length_row {model : MemoryModel} {update : Update}
    (h : update.currentTime.isSome) : (update.row unitMb model).length = 27 := by
  obtain ⟨time, htime⟩ := Option.isSome_iff_exists.mp h
  simp only [Update.row, htime, List.length_map]
  decide

theorem Update.length_writtenRow_legacy {update : Update} (h : update.currentTime.isSome) :
    (update.writtenRow unitMb .legacy).length = 23 := by
  obtain ⟨time, htime⟩ := Option.isSome_iff_exists.mp h
  simp only [Update.writtenRow, htime, update.length_writtenCells_legacy]

/-- The lines of a legacy memory model have four cells less than the header. -/
theorem legacy_lines_ne {written rows : List Update}
    (hwritten : ∀ update ∈ written, update.currentTime.isSome)
    (hrows : ∀ update ∈ rows, update.currentTime.isSome) (hnonempty : written ≠ []) :
    tableLines (written.map (Update.writtenRow unitMb .legacy)) ≠
      tableLines (rows.map (Update.row unitMb .legacy)) := by
  intro hequal
  have hshort : ∀ row ∈ written.map (Update.writtenRow unitMb .legacy), row.length = 22 + 1 :=
    List.forall_mem_map.mpr fun update hupdate ↦
      Update.length_writtenRow_legacy unitMb (hwritten update hupdate)
  have hlong : ∀ row ∈ rows.map (Update.row unitMb .legacy), row.length = 26 + 1 :=
    List.forall_mem_map.mpr fun update hupdate ↦
      Update.length_row unitMb (hrows update hupdate)
  have hwidth := tableLines_width_eq hshort hlong (by simpa using hnonempty) hequal
  exact absurd hwidth (by decide)

/-- The report is a table exactly when no update that writes its time finds an error in the status,
and the memory model is the modern one unless no time is written. -/
theorem isTable_brokerdReport_iff (model : MemoryModel) (failed : Bool) (updates : List Update) :
    IsTable unitMb model updates (brokerdReport unitMb model failed updates) ↔
      UpdatesComplete model failed updates ∧ (model = .modern ∨ ¬ Started updates) := by
  obtain ⟨written, part, hprefix, htimes, htext, hcomplete, hstarted⟩ :=
    brokerdUpdates_eq unitMb model failed updates
  rw [brokerdReport, bmicWriterInitialize_eq, htext, ← hcomplete, ← hstarted, IsTable]
  constructor
  · rintro ⟨rows, -, hrows, hequal⟩
    have hpart : part = [] := by
      by_contra hpart
      rw [← List.append_assoc, ← tableLines_cons] at hequal
      exact tableLines_ne_append_linePart _ _ hpart hequal.symm
    refine ⟨hpart, ?_⟩
    cases model with
    | modern => exact .inl rfl
    | legacy =>
      refine .inr ⟨?_, hpart⟩
      by_contra hwritten
      rw [hpart, tableLines_cons, List.append_cancel_left_eq, linePart, List.flatMap_nil,
        List.append_nil] at hequal
      exact legacy_lines_ne unitMb htimes hrows hwritten hequal
  · rintro ⟨rfl, rfl | ⟨rfl, -⟩⟩
    · refine ⟨written, hprefix, htimes, ?_⟩
      have hrows : Update.writtenRow unitMb .modern = Update.row unitMb .modern :=
        funext fun update ↦ update.writtenRow_modern unitMb
      rw [hrows, tableLines_cons, linePart, List.flatMap_nil, List.append_nil]
    · exact ⟨[], List.nil_prefix, by simp, by simp [tableLines, linePart]⟩

/-- A sample with all values zero and no failure. -/
def zeroUpdate : Update :=
  let memory : Answer MemInfo := ⟨⟨0, 0, 0, 0⟩, false⟩
  ⟨some (.ofInt 0), ⟨⟨.ofInt 0, 0, 0, 0, 0, 0⟩, false⟩, memory, memory, memory, memory, memory,
    ⟨⟨0, 0, 0, 0⟩, false⟩, false⟩

/-- One row of a JVM with a permanent generation, without any failure, lacks four columns. -/
theorem legacyRow_not_isTable :
    ¬ ∀ model updates, IsTable id model updates (brokerdReport id model false updates) := by
  intro hevery
  have hupdate : brokerdUpdate id .legacy false zeroUpdate =
      (tableLine (zeroUpdate.writtenRow id .legacy), true) := by
    have htime : zeroUpdate.currentTime = some (.ofInt 0) := rfl
    obtain ⟨-, -, hupdate⟩ | ⟨hfailed, -⟩ := brokerdUpdate_eq id .legacy false htime
    · exact hupdate
    · exact absurd hfailed (by decide)
  obtain ⟨rows, -, hrows, htext⟩ := hevery .legacy [zeroUpdate]
  rw [brokerdReport, bmicWriterInitialize_eq, tableLines_cons, List.append_cancel_left_eq,
    brokerdUpdates, hupdate] at htext
  have htimes : ∀ update ∈ [zeroUpdate], update.currentTime.isSome := by simp [zeroUpdate]
  exact legacy_lines_ne id htimes hrows (List.cons_ne_nil _ _) htext

end MsgPerf.Daemon.Bmic
