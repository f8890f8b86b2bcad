import Mathlib.Data.List.DropRight
import MsgPerf.Library.FormattedText
import MsgPerf.Library.LineReader

/-!
# Scripts

`maestro_loop_file` reads a script through a buffer of 1024 bytes, skips what begins with `#` or
white space and executes everything else that it reads as a command, until a command ends the
script.  The test looks at the first byte of each read, so the tail of a long comment is executed as
a command, and so is the tail of a long command.

`gru_trim` and `gru_split` are parameters, and so are the results of the commands, by the position
in the script at which they were read.
-/

namespace MsgPerf.Maestro.Script

open MsgPerf.Library MsgPerf.Library.LineReader

/-! ## The loop -/

/-- The commands of `maestro_loop_cmd` that do not end the loop by themselves. -/
inductive Command where
  | startReceiver | stopReceiver | startSender | stopSender | startInspector | stopInspector
  | startAll | stopAll | collect | flush | set | ping | stats | halt
  deriving DecidableEq, Repr

def Command.name : Command → String
  | .startReceiver => "start-receiver"
  | .stopReceiver => "stop-receiver"
  | .startSender => "start-sender"
  | .stopSender => "stop-sender"
  | .startInspector => "start-inspector"
  | .stopInspector => "stop-inspector"
  | .startAll => "start-all"
  | .stopAll => "stop-all"
  | .collect => "collect"
  | .flush => "flush"
  | .set => "set"
  | .ping => "ping"
  | .stats => "stats"
  | .halt => "halt"

/-- The commands in the order in which their names are compared. -/
def Command.all : List Command :=
  [.startReceiver, .stopReceiver, .startSender, .stopSender, .startInspector, .stopInspector,
    .startAll, .stopAll, .collect, .flush, .set, .ping, .stats, .halt]

def bytes (text : String) : List UInt8 := text.toUTF8.toList

def Command.ofName? (name : List UInt8) : Option Command :=
  Command.all.find? fun command ↦ bytes command.name = name

/-- The result of a command: zero, a failure, or a failure to take the address of the broker. -/
inductive CommandResult where
  | done | failed | refused
  deriving DecidableEq, Repr

def CommandResult.code : CommandResult → ℤ
  | .done => 0
  | .failed => 1
  | .refused => -1

def maestroLoopCmd (command : List UInt8) (run : Command → CommandResult) : ℤ :=
  if command = bytes "quit" ∨ command = bytes "exit" then -2
  else
    match Command.ofName? command with
    | some command => (run command).code
    | none => -1

/-- `gru_trim` and `gru_split` at the spaces. -/
structure GruText where
  trim : List UInt8 → List UInt8
  split : List UInt8 → Option (List (List UInt8))

/-- A command that is executed, and the position at which it was read. -/
structure Executed where
  offset : ℕ
  line : List UInt8
  deriving DecidableEq, Repr

/-- `maestro_loop_file`, with the number of reads it may make at most: the returned value and the
commands that were executed. -/
def maestroLoopFile (gru : GruText) (results : ℕ → Command → CommandResult) :
    ℕ → ℤ → ℕ → List UInt8 → Option (ℤ × List Executed)
  | 0, _, _, _ => none
  | fuel + 1, ret, offset, script =>
      let read := readChunk 10 1022 script
      let again := fun ret ↦
        if read.ended then some (ret, [])
        else maestroLoopFile gru results fuel ret (offset + read.chunk.length) read.rest
      let rawLine := read.chunk.takeWhile (· ≠ 0)
      match rawLine with
      | [] => again ret
      | first :: _ =>
          if first = 35 || isSpaceByte first then again ret
          else
            let line := gru.trim rawLine
            match gru.split line with
            | none => some (1, [])
            | some [] => none
            | some (command :: _) =>
                let ret := maestroLoopCmd command (results offset)
                if ret = -1 ∨ ret = -2 then some (ret, [⟨offset, line⟩])
                else (again ret).map fun (ret, rest) ↦ (ret, ⟨offset, line⟩ :: rest)

/-- The part of a text up to the first space. -/
def firstWord (text : List UInt8) : List UInt8 := text.takeWhile (· ≠ 32)

/-- `gru_trim` drops the white space at the end of a text that does not begin with any, and
`gru_split` begins with the first word. -/
structure GruText.Documented (gru : GruText) : Prop where
  trim_eq : ∀ first rest, isSpaceByte first = false →
    gru.trim (first :: rest) = (first :: rest).rdropWhile isSpaceByte
  split_eq : ∀ text, text ≠ [] → ∃ words, gru.split text = some (firstWord text :: words)

/-! ## What a script should do -/

/-- The line is neither blank nor begins with `#` or white space. -/
def isCommandLine (line : List UInt8) : Bool :=
  line.head?.any fun first ↦ first ≠ 35 && !isSpaceByte first

/-- A line without the white space at its end. -/
def trimmed (line : List UInt8) : List UInt8 := line.rdropWhile isSpaceByte

/-- The command of a line, unless it is `quit`, `exit` or unknown. -/
def commandOf (line : List UInt8) : Option Command :=
  Command.ofName? (firstWord (trimmed line))

/-- The commands of a script: its command lines, up to the first that is not a command. -/
def scriptCommands : List (ℕ × List UInt8) → List Executed
  | [] => []
  | (offset, line) :: rest =>
      if isCommandLine line then
        ⟨offset, trimmed line⟩ :: if (commandOf line).isSome then scriptCommands rest else []
      else scriptCommands rest

/-- The loop ends, and has executed the commands of the script. -/
def RunsByLine (gru : GruText) (results : ℕ → Command → CommandResult) (script : List UInt8) :
    Prop :=
  ∃ ret, maestroLoopFile gru results (script.length + 1) 0 0 script =
    some (ret, scriptCommands (numbered 0 (lines 10 script)))

/-- A read that begins with the byte is skipped. -/
def skippable (byte : UInt8) : Bool := byte = 0 || byte = 35 || isSpaceByte byte

/-- Up to the line that ends the script, no command line has a NUL, or anything but white space
behind its first 1022 bytes; the other lines are continued, behind each 1022 bytes, by a byte that
is skipped; and no command fails to take the address of the broker if another command line
follows. -/
def Undisturbed (results : ℕ → Command → CommandResult) : List (ℕ × List UInt8) → Prop
  | [] => True
  | (offset, line) :: rest =>
      if isCommandLine line then
        0 ∉ line ∧ (∀ byte ∈ line.drop 1022, isSpaceByte byte = true) ∧
          ∀ command, commandOf line = some command →
            if results offset command = .refused then
              ∀ entry ∈ rest, isCommandLine entry.2 = false
            else Undisturbed results rest
      else
        (∀ index byte, 0 < index → (line.drop (1022 * index)).head? = some byte →
          skippable byte = true) ∧ Undisturbed results rest

/-! ## The loop over the reads -/

/-- The text of a read that is executed. -/
def chunkText (chunk : List UInt8) : List UInt8 := trimmed (chunk.takeWhile (· ≠ 0))

/-- The loop ends with this text. -/
def endsLoop (run : Command → CommandResult) (text : List UInt8) : Bool :=
  (Command.ofName? (firstWord text)).all fun command ↦ run command = .refused

/-- The commands that are executed for successive reads. -/
def runChunks (results : ℕ → Command → CommandResult) : List (ℕ × List UInt8) → List Executed
  | [] => []
  | (offset, chunk) :: rest =>
      if chunk.head?.all skippable then runChunks results rest
      else
        ⟨offset, chunkText chunk⟩ ::
          if endsLoop (results offset) (chunkText chunk) then [] else runChunks results rest

variable {gru : GruText} {results : ℕ → Command → CommandResult}

theorem maestroLoopCmd_ends_iff (text : List UInt8) (run : Command → CommandResult) :
    (maestroLoopCmd (firstWord text) run = -1 ∨ maestroLoopCmd (firstWord text) run = -2) ↔
      endsLoop run text = true := by
  have hquit : Command.ofName? (bytes "quit") = none := by decide +kernel
  have hexit : Command.ofName? (bytes "exit") = none := by decide +kernel
  rw [maestroLoopCmd, endsLoop]
  by_cases hend : firstWord text = bytes "quit" ∨ firstWord text = bytes "exit"
  · rw [if_pos hend]
    rcases hend with hend | hend
    · simp [hend, hquit]
    · simp [hend, hexit]
  · rw [if_neg hend]
    cases Command.ofName? (firstWord text) with
    | none => simp
    | some command => cases hresult : run command <;> simp [hresult, CommandResult.code]

theorem trimmed_ne_nil {first : UInt8} (rest : List UInt8) (h : isSpaceByte first = false) :
    trimmed (first :: rest) ≠ [] := by
  intro hnil
  rw [trimmed, List.rdropWhile_eq_nil_iff] at hnil
  have hspace := hnil first List.mem_cons_self
  rw [h] at hspace
  cases hspace

/-- One round of the loop. -/
theorem maestroLoopFile_step (hgru : gru.Documented) (fuel : ℕ) (ret : ℤ) (offset : ℕ)
    (script : List UInt8) {again : ℤ → Option (ℤ × List Executed)}
    (hagain : again = fun ret ↦
      if (readChunk 10 1022 script).ended then some (ret, [])
      else maestroLoopFile gru results fuel ret
        (offset + (readChunk 10 1022 script).chunk.length) (readChunk 10 1022 script).rest) :
    maestroLoopFile gru results (fuel + 1) ret offset script =
      if (readChunk 10 1022 script).chunk.head?.all skippable then again ret
      else
        let text := chunkText (readChunk 10 1022 script).chunk
        let ret := maestroLoopCmd (firstWord text) (results offset)
        if endsLoop (results offset) text then some (ret, [⟨offset, text⟩])
        else (again ret).map fun (ret, rest) ↦ (ret, ⟨offset, text⟩ :: rest) := by
  subst hagain
  rw [maestroLoopFile]
  generalize readChunk 10 1022 script = read
  cases hchunk : read.chunk with
  | nil => rfl
  | cons first rest =>
    by_cases hnul : first = 0
    · subst hnul
      rfl
    · have hraw : (first :: rest).takeWhile (· ≠ 0) = first :: rest.takeWhile (· ≠ 0) :=
        List.takeWhile_cons_of_pos (by simpa using hnul)
      have hskip : skippable first = (first = 35 || isSpaceByte first) := by
        simp [skippable, hnul]
      simp only [hraw, List.head?_cons, Option.all_some, hskip]
      split
      case isTrue => rfl
      case isFalse hexecuted =>
        have hspace : isSpaceByte first = false := by
          rw [Bool.or_eq_true, not_or] at hexecuted
          exact Bool.eq_false_iff.mpr hexecuted.2
        have htext : chunkText (first :: rest) = trimmed (first :: rest.takeWhile (· ≠ 0)) := by
          rw [chunkText, hraw]
        obtain ⟨words, hwords⟩ := hgru.split_eq _ (trimmed_ne_nil (rest.takeWhile (· ≠ 0)) hspace)
        rw [hgru.trim_eq _ _ hspace, ← trimmed, hwords, ← htext]
        simp only [maestroLoopCmd_ends_iff]

/-- The loop ends after one read more than there are bytes at most, and executes the pieces of the
lines that are not skipped. -/
theorem maestroLoopFile_eq (hgru : gru.Documented) {fuel : ℕ} (ret : ℤ) (offset : ℕ)
    {script : List UInt8} (hfuel : script.length < fuel) :
    ∃ last, maestroLoopFile gru results fuel ret offset script =
      some (last, runChunks results (chunks 1022 offset (lines 10 script))) := by
  induction fuel generalizing ret offset script with
  | zero => cases hfuel
  | succ fuel ih =>
    rw [maestroLoopFile_step hgru fuel ret offset script rfl]
    by_cases hscript : script = []
    · subst hscript
      exact ⟨ret, rfl⟩
    · have hchunks : chunks 1022 offset (lines 10 script) =
          (offset, (readChunk 10 1022 script).chunk) ::
            chunks 1022 (offset + (readChunk 10 1022 script).chunk.length)
              (lines 10 (readChunk 10 1022 script).rest) :=
        chunks_lines 10 1021 offset hscript
      have hlength := readChunk_length (10 : UInt8) 1022 script
      have hchunk : (readChunk (10 : UInt8) 1022 script).chunk ≠ [] :=
        readChunk_chunk_ne_nil 10 1021 hscript
      have hrest : (readChunk (10 : UInt8) 1022 script).rest.length < fuel := by
        have hpositive := List.length_pos_of_ne_nil hchunk
        omega
      -- Whether or not the read has hit the end, what follows is the rest of the reads.
      have hagain : ∀ ret, ∃ last,
          (if (readChunk (10 : UInt8) 1022 script).ended then some (ret, [])
            else maestroLoopFile gru results fuel ret
              (offset + (readChunk 10 1022 script).chunk.length) (readChunk 10 1022 script).rest) =
            some (last, runChunks results
              (chunks 1022 (offset + (readChunk 10 1022 script).chunk.length)
                (lines 10 (readChunk 10 1022 script).rest))) := by
        intro ret
        by_cases hended : (readChunk (10 : UInt8) 1022 script).ended = true
        · rw [if_pos hended, readChunk_ended 10 hended]
          exact ⟨ret, rfl⟩
        · rw [if_neg hended]
          exact ih ret _ hrest
      rw [hchunks, runChunks]
      by_cases hskip : (readChunk (10 : UInt8) 1022 script).chunk.head?.all skippable = true
      · rw [if_pos hskip, if_pos hskip]
        exact hagain ret
      · rw [if_neg hskip, if_neg hskip]
        dsimp only
        by_cases hends : endsLoop (results offset)
            (chunkText (readChunk 10 1022 script).chunk) = true
        · rw [if_pos hends, if_pos hends]
          exact ⟨_, rfl⟩
        · rw [if_neg hends, if_neg hends]
          obtain ⟨last, hlast⟩ := hagain (maestroLoopCmd
            (firstWord (chunkText (readChunk 10 1022 script).chunk)) (results offset))
          rw [hlast]
          exact ⟨last, rfl⟩

/-! ## Texts -/

theorem trimmed_append_space {text spaces : List UInt8}
    (h : ∀ byte ∈ spaces, isSpaceByte byte = true) : trimmed (text ++ spaces) = trimmed text := by
  rw [trimmed, trimmed, List.rdropWhile, List.rdropWhile, List.reverse_append,
    List.dropWhile_append_of_pos]
  intro byte hbyte
  exact h byte (List.mem_reverse.mp hbyte)

/-- The first piece of a line is the whole command exactly when nothing is lost behind it. -/
theorem chunkText_take_iff (limit : ℕ) (line : List UInt8) :
    chunkText (line.take limit) = trimmed line ↔
      0 ∉ line ∧ ∀ byte ∈ line.drop limit, isSpaceByte byte = true := by
  constructor
  · intro htext
    have hbegins : trimmed line <+: (line.take limit).takeWhile (· ≠ 0) := by
      rw [← htext, chunkText]
      exact List.rdropWhile_prefix _ _
    have hline : trimmed line ++ line.rtakeWhile isSpaceByte = line :=
      List.rdropWhile_append_rtakeWhile
    constructor
    · intro hnul
      rw [← hline, List.mem_append] at hnul
      rcases hnul with hnul | hnul
      · have hkept := List.mem_takeWhile_imp (hbegins.subset hnul)
        simp at hkept
      · have hspace := List.mem_rtakeWhile_imp hnul
        cases hspace
    · intro byte hbyte
      have hshort : (trimmed line).length ≤ limit := by
        have hlength := hbegins.length_le
        have htaken := (List.takeWhile_prefix (l := line.take limit) (· ≠ 0)).length_le
        rw [List.length_take] at htaken
        omega
      rw [← hline, List.drop_append, List.drop_of_length_le hshort, List.nil_append] at hbyte
      exact List.mem_rtakeWhile_imp (List.mem_of_mem_drop hbyte)
  · rintro ⟨hnul, hspaces⟩
    have hkept : (line.take limit).takeWhile (· ≠ 0) = line.take limit := by
      rw [List.takeWhile_eq_self_iff]
      intro byte hbyte
      have hne : byte ≠ 0 := fun hzero ↦ hnul (hzero ▸ List.mem_of_mem_take hbyte)
      simpa using hne
    calc chunkText (line.take limit)
        = trimmed (line.take limit) := by rw [chunkText, hkept]
      _ = trimmed (line.take limit ++ line.drop limit) := (trimmed_append_space hspaces).symm
      _ = trimmed line := by rw [List.take_append_drop]

/-! ## The pieces of a script -/

theorem runChunks_append_of_skipped {pieces : List (ℕ × List UInt8)}
    (h : ∀ piece ∈ pieces, piece.2.head?.all skippable = true) (rest : List (ℕ × List UInt8)) :
    runChunks results (pieces ++ rest) = runChunks results rest := by
  induction pieces with
  | nil => rfl
  | cons piece pieces ih =>
    rw [List.forall_mem_cons] at h
    rw [List.cons_append, runChunks, if_pos h.1, ih h.2]

/-- A piece that is not skipped is executed. -/
theorem runChunks_append_of_executed {pieces : List (ℕ × List UInt8)}
    (h : ¬ ∀ piece ∈ pieces, piece.2.head?.all skippable = true) (rest : List (ℕ × List UInt8)) :
    ∃ piece ∈ pieces, ∃ text others,
      runChunks results (pieces ++ rest) = ⟨piece.1, text⟩ :: others := by
  induction pieces with
  | nil => simp at h
  | cons piece pieces ih =>
    rw [List.cons_append, runChunks]
    by_cases hskip : piece.2.head?.all skippable = true
    · rw [if_pos hskip]
      rw [List.forall_mem_cons, not_and] at h
      obtain ⟨other, hother, hrun⟩ := ih (h hskip)
      exact ⟨other, List.mem_cons_of_mem _ hother, hrun⟩
    · rw [if_neg hskip]
      exact ⟨piece, List.mem_cons_self, _, _, rfl⟩

theorem offset_of_mem_runChunks {chunks : List (ℕ × List UInt8)} {entry : Executed}
    (h : entry ∈ runChunks results chunks) : ∃ chunk ∈ chunks, entry.offset = chunk.1 := by
  induction chunks with
  | nil => cases h
  | cons chunk chunks ih =>
    have hlater : entry ∈ runChunks results chunks →
        ∃ other ∈ chunk :: chunks, entry.offset = other.1 := by
      intro hentry
      obtain ⟨other, hother, hoffset⟩ := ih hentry
      exact ⟨other, List.mem_cons_of_mem _ hother, hoffset⟩
    rw [runChunks] at h
    split at h
    · exact hlater h
    · rcases List.mem_cons.mp h with rfl | h
      · exact ⟨chunk, List.mem_cons_self, rfl⟩
      · split at h
        · cases h
        · exact hlater h

theorem offset_le_of_mem_scriptCommands {offset : ℕ} {texts : List (List UInt8)} {entry : Executed}
    (h : entry ∈ scriptCommands (numbered offset texts)) : offset ≤ entry.offset := by
  induction texts generalizing offset with
  | nil => cases h
  | cons text texts ih =>
    have hlater : entry ∈ scriptCommands (numbered (offset + text.length) texts) →
        offset ≤ entry.offset := fun hentry ↦ le_trans (Nat.le_add_right _ _) (ih hentry)
    rw [numbered, scriptCommands] at h
    split at h
    · rcases List.mem_cons.mp h with rfl | h
      · exact le_rfl
      · split at h
        · exact hlater h
        · cases h
    · exact hlater h

theorem scriptCommands_eq_nil_iff (entries : List (ℕ × List UInt8)) :
    scriptCommands entries = [] ↔ ∀ entry ∈ entries, isCommandLine entry.2 = false := by
  induction entries with
  | nil => simp [scriptCommands]
  | cons entry entries ih =>
    rw [List.forall_mem_cons, scriptCommands, ← ih]
    by_cases hcommand : isCommandLine entry.2 = true
    · simp [hcommand]
    · simp [hcommand]

/-- The later pieces of a line. -/
def LaterPieces (offset : ℕ) (line : List UInt8) (later : List (ℕ × List UInt8)) : Prop :=
  ∀ piece, piece ∈ later ↔ ∃ index, 0 < index ∧ 1022 * index < line.length ∧
    piece = (offset + 1022 * index, (line.drop (1022 * index)).take 1022)

variable {offset : ℕ} {line : List UInt8} {later : List (ℕ × List UInt8)}

theorem LaterPieces.skipped_iff (h : LaterPieces offset line later) :
    (∀ piece ∈ later, piece.2.head?.all skippable = true) ↔
      ∀ index byte, 0 < index → (line.drop (1022 * index)).head? = some byte →
        skippable byte = true := by
  constructor
  · intro hskipped index byte hindex hbyte
    have hbegin : 1022 * index < line.length := by
      by_contra hend
      rw [List.drop_of_length_le (Nat.le_of_not_lt hend)] at hbyte
      cases hbyte
    have hpiece := hskipped _ ((h _).mpr ⟨index, hindex, hbegin, rfl⟩)
    rw [List.head?_take, if_neg (by decide), hbyte] at hpiece
    exact hpiece
  · intro hbytes piece hpiece
    obtain ⟨index, hindex, _, rfl⟩ := (h piece).mp hpiece
    rw [List.head?_take, if_neg (by decide)]
    cases hbyte : (line.drop (1022 * index)).head? with
    | none => rfl
    | some byte => exact hbytes index byte hindex hbyte

theorem LaterPieces.offset_lt (h : LaterPieces offset line later) :
    ∀ piece ∈ later, offset < piece.1 ∧ piece.1 < offset + line.length := by
  intro piece hpiece
  obtain ⟨index, hindex, hbegin, rfl⟩ := (h piece).mp hpiece
  constructor
  · dsimp only
    omega
  · dsimp only
    omega

/-- White space behind the first piece is skipped. -/
theorem LaterPieces.skipped_of_space (h : LaterPieces offset line later)
    (hspaces : ∀ byte ∈ line.drop 1022, isSpaceByte byte = true) :
    ∀ piece ∈ later, piece.2.head?.all skippable = true := by
  rw [h.skipped_iff]
  intro index byte hindex hbyte
  have hbehind : byte ∈ line.drop 1022 := by
    apply List.mem_of_mem_drop (i := 1022 * index - 1022)
    rw [List.drop_drop, Nat.add_sub_cancel' (by omega)]
    exact List.mem_of_mem_head? hbyte
  rw [skippable, hspaces byte hbehind, Bool.or_true]

/-! ## The lines of a script -/

/-- A read that skips its line runs the line exactly when the later pieces are skipped as well. -/
theorem runChunks_comment_iff {texts : List (List UInt8)} (hline : line ≠ [])
    (hlater : LaterPieces offset line later) (hcommand : isCommandLine line = false)
    (hrest : runChunks results (chunks 1022 (offset + line.length) texts) =
        scriptCommands (numbered (offset + line.length) texts) ↔
      Undisturbed results (numbered (offset + line.length) texts)) :
    runChunks results ((offset, line.take 1022) :: (later ++
        chunks 1022 (offset + line.length) texts)) =
        scriptCommands (numbered offset (line :: texts)) ↔
      Undisturbed results (numbered offset (line :: texts)) := by
  have hskip : (line.take 1022).head?.all skippable = true := by
    obtain ⟨first, tail, rfl⟩ := List.exists_cons_of_ne_nil hline
    rw [List.take_succ_cons, List.head?_cons, Option.all_some]
    have hfirst : first = 35 ∨ isSpaceByte first = true := by
      by_contra hnot
      rw [not_or] at hnot
      simp [isCommandLine, hnot] at hcommand
    rcases hfirst with rfl | hfirst
    · rfl
    · rw [skippable, hfirst, Bool.or_true]
  rw [runChunks, if_pos hskip, numbered, scriptCommands, Undisturbed, hcommand,
    if_neg Bool.false_ne_true, if_neg Bool.false_ne_true]
  by_cases hsafe : ∀ piece ∈ later, piece.2.head?.all skippable = true
  · rw [runChunks_append_of_skipped hsafe, hrest]
    exact (and_iff_right (hlater.skipped_iff.mp hsafe)).symm
  · apply iff_of_false
    · intro hrun
      obtain ⟨piece, hpiece, text, others, hhead⟩ := runChunks_append_of_executed hsafe _
      rw [hhead] at hrun
      have hmem : (⟨piece.1, text⟩ : Executed) ∈
          scriptCommands (numbered (offset + line.length) texts) := hrun ▸ List.mem_cons_self
      have hafter := offset_le_of_mem_scriptCommands hmem
      exact absurd (hlater.offset_lt piece hpiece).2 (Nat.not_lt.mpr hafter)
    · intro hundisturbed
      exact hsafe (hlater.skipped_iff.mpr hundisturbed.1)

theorem endsLoop_trimmed (run : Command → CommandResult) (line : List UInt8) :
    endsLoop run (trimmed line) = (commandOf line).all fun command ↦ run command = .refused :=
  rfl

/-- A command line is executed as such exactly when nothing is lost of it, and the script goes on
behind it. -/
theorem runChunks_command_iff {texts : List (List UInt8)} (hline : line ≠ [])
    (hlater : LaterPieces offset line later) (hcommand : isCommandLine line = true)
    (hrest : runChunks results (chunks 1022 (offset + line.length) texts) =
        scriptCommands (numbered (offset + line.length) texts) ↔
      Undisturbed results (numbered (offset + line.length) texts)) :
    runChunks results ((offset, line.take 1022) :: (later ++
        chunks 1022 (offset + line.length) texts)) =
        scriptCommands (numbered offset (line :: texts)) ↔
      Undisturbed results (numbered offset (line :: texts)) := by
  rw [numbered, scriptCommands, Undisturbed, if_pos hcommand, if_pos hcommand, runChunks]
  by_cases hskip : (line.take 1022).head?.all skippable = true
  · -- Such a line begins with a NUL, and whatever is executed was read behind it.
    rw [if_pos hskip]
    apply iff_of_false
    · intro hrun
      have hmem : (⟨offset, trimmed line⟩ : Executed) ∈ runChunks results
          (later ++ chunks 1022 (offset + line.length) texts) := hrun ▸ List.mem_cons_self
      obtain ⟨chunk, hchunk, hoffset⟩ := offset_of_mem_runChunks hmem
      have hbehind : offset < chunk.1 := by
        rcases List.mem_append.mp hchunk with hpiece | hnext
        · exact (hlater.offset_lt chunk hpiece).1
        · have hafter := offset_le_of_mem_chunks (by decide) hnext
          have hlength := List.length_pos_of_ne_nil hline
          omega
      exact absurd hoffset (Nat.ne_of_lt hbehind)
    · rintro ⟨hnul, _⟩
      obtain ⟨first, tail, rfl⟩ := List.exists_cons_of_ne_nil hline
      have hfirst : first ≠ 35 ∧ isSpaceByte first = false := by
        simpa [isCommandLine] using hcommand
      have hzero : first = 0 := by
        simpa [skippable, hfirst] using hskip
      exact hnul (hzero ▸ List.mem_cons_self)
  · rw [if_neg hskip, List.cons.injEq, Executed.mk.injEq, and_iff_right rfl,
      ← and_assoc (a := 0 ∉ line), ← chunkText_take_iff]
    apply and_congr_right
    intro htext
    have hspaces := ((chunkText_take_iff 1022 line).mp htext).2
    rw [htext, endsLoop_trimmed, runChunks_append_of_skipped (hlater.skipped_of_space hspaces)]
    cases commandOf line with
    | none => simp
    | some command =>
      simp only [Option.all_some, decide_eq_true_eq, Option.isSome_some, if_true,
        Option.some.injEq, forall_eq']
      by_cases hrefused : results offset command = .refused
      · rw [if_pos hrefused, if_pos hrefused, eq_comm]
        exact scriptCommands_eq_nil_iff _
      · rw [if_neg hrefused, if_neg hrefused]
        exact hrest

/-- What is executed for the reads of a script are its commands exactly when the script is
undisturbed. -/
theorem runChunks_eq_iff {texts : List (List UInt8)} (htexts : ∀ text ∈ texts, text ≠ []) :
    runChunks results (chunks 1022 offset texts) = scriptCommands (numbered offset texts) ↔
      Undisturbed results (numbered offset texts) := by
  induction texts generalizing offset with
  | nil => exact iff_of_true rfl trivial
  | cons line texts ih =>
    rw [List.forall_mem_cons] at htexts
    obtain ⟨later, hpieces, hlater⟩ := pieces_eq_cons (by decide : 0 < 1022) offset line
    have hrest : runChunks results (chunks 1022 (offset + line.length) texts) =
          scriptCommands (numbered (offset + line.length) texts) ↔
        Undisturbed results (numbered (offset + line.length) texts) := ih htexts.2
    rw [chunks, hpieces, List.cons_append]
    cases hcommand : isCommandLine line with
    | false => exact runChunks_comment_iff htexts.1 hlater hcommand hrest
    | true => exact runChunks_command_iff htexts.1 hlater hcommand hrest

theorem runsByLine_iff_runChunks (hgru : gru.Documented) (script : List UInt8) :
    RunsByLine gru results script ↔
      runChunks results (chunks 1022 0 (lines 10 script)) =
        scriptCommands (numbered 0 (lines 10 script)) := by
  obtain ⟨last, hloop⟩ : ∃ last, maestroLoopFile gru results (script.length + 1) 0 0 script =
      some (last, runChunks results (chunks 1022 0 (lines 10 script))) :=
    maestroLoopFile_eq hgru 0 0 (Nat.lt_succ_self script.length)
  rw [RunsByLine, hloop]
  constructor
  · rintro ⟨ret, hret⟩
    exact (Prod.mk.inj (Option.some.inj hret)).2
  · intro hrun
    exact ⟨last, by rw [hrun]⟩

/-- A script runs line by line exactly when it is undisturbed. -/
theorem runsByLine_iff_undisturbed (hgru : gru.Documented)
    (results : ℕ → Command → CommandResult) (script : List UInt8) :
    RunsByLine gru results script ↔ Undisturbed results (numbered 0 (lines 10 script)) := by
  rw [runsByLine_iff_runChunks hgru]
  exact runChunks_eq_iff fun text htext ↦ ne_nil_of_mem_lines 10 htext

/-- A text that is trimmed at its end and split at every space. -/
def plainText : GruText := ⟨trimmed, fun text ↦ some (text.splitOn 32)⟩

theorem splitOn_eq_firstWord (text : List UInt8) :
    ∃ words, text.splitOn 32 = firstWord text :: words := by
  induction text with
  | nil => exact ⟨[], rfl⟩
  | cons byte rest ih =>
    obtain ⟨words, hwords⟩ := ih
    rw [List.splitOn, List.splitOnP_cons_eq_if_modifyHead]
    by_cases hspace : byte = 32
    · exact ⟨rest.splitOn 32, by simp [hspace, firstWord, List.splitOn]⟩
    · rw [List.splitOn] at hwords
      exact ⟨words, by simp [hspace, firstWord, hwords, List.modifyHead]⟩

theorem plainText_documented : plainText.Documented where
  trim_eq _ _ _ := rfl
  split_eq text _ := by
    obtain ⟨words, hwords⟩ := splitOn_eq_firstWord text
    exact ⟨words, congrArg some hwords⟩

/-- A comment and two commands. -/
theorem shortScript_runsByLine :
    RunsByLine plainText (fun _ _ ↦ .done) (bytes "# warm up\nset rate 100\nquit\n") := by
  rw [runsByLine_iff_undisturbed plainText_documented]
  have hlines : numbered 0 (lines 10 (bytes "# warm up\nset rate 100\nquit\n")) =
      [(0, bytes "# warm up\n"), (10, bytes "set rate 100\n"), (23, bytes "quit\n")] := by
    decide +kernel
  rw [hlines, Undisturbed, if_neg (by decide +kernel), Undisturbed, if_pos (by decide +kernel)]
  refine ⟨?_, by decide +kernel, by decide +kernel, ?_⟩
  · intro index byte hindex hbyte
    have hlength : (bytes "# warm up\n").length ≤ 1022 * index :=
      calc (bytes "# warm up\n").length
          = 10 := by decide +kernel
        _ ≤ 1022 * index := by omega
    rw [List.drop_of_length_le hlength] at hbyte
    cases hbyte
  · intro command _
    have hquit : commandOf (bytes "quit\n") = none := by decide +kernel
    rw [if_neg (by decide), Undisturbed, if_pos (by decide +kernel)]
    refine ⟨by decide +kernel, by decide +kernel, ?_⟩
    intro other hother
    rw [hquit] at hother
    cases hother

/-- A comment of 1022 bytes before the name of a command. -/
def longComment : List UInt8 := 35 :: List.replicate 1021 120 ++ bytes "ping\n"

/-- The name is executed as a command. -/
theorem longComment_not_runsByLine : ¬ RunsByLine plainText (fun _ _ ↦ .done) longComment := by
  rw [runsByLine_iff_runChunks plainText_documented]
  rw [runChunks_eq_iff fun text htext ↦ ne_nil_of_mem_lines 10 htext]
  have hlines : numbered 0 (lines 10 longComment) = [(0, longComment)] := by decide +kernel
  rw [hlines, Undisturbed, if_neg (by decide +kernel)]
  rintro ⟨hskipped, _⟩
  have hping : (longComment.drop (1022 * 1)).head? = some 112 := by decide +kernel
  exact absurd (hskipped 1 112 Nat.one_pos hping) (by decide)

end MsgPerf.Maestro.Script
