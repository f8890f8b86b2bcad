import MsgPerf.Library.Decimal

/-!
# Comma-separated tables

A cell is a text without the two separators; a line is its cells with commas between them and a
newline at the end.  A writer may produce a line in parts, each of which is a list of cells with a
comma behind every cell.  Counting the separators shows how many lines a text has and how many cells
they have together, and the last character shows whether the text ends with a complete line.
-/

namespace MsgPerf.Library

/-- A text that stands between separators. -/
structure Cell where
  text : List Char
  comma_notMem : ',' ∉ text
  newline_notMem : '\n' ∉ text

namespace Cell

/-- The cell of an integer. -/
def ofInt (number : ℤ) : Cell where
  text := printDecimal number
  comma_notMem h := absurd (mem_printDecimal h) (by decide)
  newline_notMem h := absurd (mem_printDecimal h) (by decide)

/-- The cell in quotation marks. -/
def quoted (cell : Cell) : Cell where
  text := '"' :: cell.text ++ ['"']
  comma_notMem := by simp [cell.comma_notMem]
  newline_notMem := by simp [cell.newline_notMem]

end Cell

/-- Cells with a comma behind each of them: a part of a line. -/
def linePart (cells : List Cell) : List Char := cells.flatMap fun cell ↦ cell.text ++ [',']

def tableLine : List Cell → List Char
  | [] => ['\n']
  | [cell] => cell.text ++ ['\n']
  | cell :: next :: rest => cell.text ++ ',' :: tableLine (next :: rest)

def tableLines (rows : List (List Cell)) : List Char := rows.flatMap tableLine

/-- A line may be written in parts. -/
theorem tableLine_append (cells : List Cell) {rest : List Cell} (h : rest ≠ []) :
    tableLine (cells ++ rest) = linePart cells ++ tableLine rest := by
  induction cells with
  | nil => rfl
  | cons cell cells ih =>
    obtain ⟨next, others, hothers⟩ := List.exists_cons_of_ne_nil
      (List.append_ne_nil_of_right_ne_nil cells h)
    rw [List.cons_append, hothers, tableLine, ← hothers, ih]
    simp [linePart]

theorem tableLine_concat (cells : List Cell) (last : Cell) :
    tableLine (cells ++ [last]) = linePart cells ++ (last.text ++ ['\n']) :=
  tableLine_append cells (List.cons_ne_nil last [])

@[simp] theorem linePart_append (first second : List Cell) :
    linePart (first ++ second) = linePart first ++ linePart second := by
  simp [linePart]

/-! ## Separators -/

theorem count_comma_linePart (cells : List Cell) : (linePart cells).count ',' = cells.length := by
  induction cells with
  | nil => rfl
  | cons cell cells ih =>
    rw [linePart, List.flatMap_cons, List.count_append, List.count_append,
      List.count_eq_zero_of_not_mem cell.comma_notMem, ← linePart, ih, List.length_cons]
    simp [Nat.add_comm]

theorem count_newline_linePart (cells : List Cell) : (linePart cells).count '\n' = 0 := by
  apply List.count_eq_zero_of_not_mem
  intro hmem
  obtain ⟨cell, -, hcell⟩ := List.mem_flatMap.mp hmem
  simp [cell.newline_notMem] at hcell

theorem count_comma_tableLine {cells : List Cell} (h : cells ≠ []) :
    (tableLine cells).count ',' + 1 = cells.length := by
  obtain ⟨initial, last, rfl⟩ := List.eq_nil_or_concat' cells |>.resolve_left h
  rw [tableLine_concat, List.count_append, List.count_append, count_comma_linePart,
    List.count_eq_zero_of_not_mem last.comma_notMem, List.length_append]
  simp

theorem count_newline_tableLine (cells : List Cell) : (tableLine cells).count '\n' = 1 := by
  obtain rfl | ⟨initial, last, rfl⟩ := List.eq_nil_or_concat' cells
  · rfl
  · rw [tableLine_concat, List.count_append, List.count_append, count_newline_linePart,
      List.count_eq_zero_of_not_mem last.newline_notMem]
    simp

@[simp] theorem tableLines_cons (row : List Cell) (rows : List (List Cell)) :
    tableLines (row :: rows) = tableLine row ++ tableLines rows := List.flatMap_cons

theorem count_newline_tableLines (rows : List (List Cell)) :
    (tableLines rows).count '\n' = rows.length := by
  induction rows with
  | nil => rfl
  | cons row rows ih =>
    rw [tableLines_cons, List.count_append, count_newline_tableLine, ih, List.length_cons,
      Nat.add_comm]

/-- Lines of equally many cells, with one comma less than cells in each. -/
theorem count_comma_tableLines {rows : List (List Cell)} {commas : ℕ}
    (h : ∀ row ∈ rows, row.length = commas + 1) :
    (tableLines rows).count ',' = rows.length * commas := by
  induction rows with
  | nil => simp [tableLines]
  | cons row rows ih =>
    obtain ⟨hrow, hrows⟩ := List.forall_mem_cons.mp h
    have hnonempty : row ≠ [] := by
      rintro rfl
      simp at hrow
    have hcommas := count_comma_tableLine hnonempty
    rw [tableLines_cons, List.count_append, ih hrows, List.length_cons, Nat.succ_mul]
    omega

/-- Tables with the same text have the same number of cells in their lines. -/
theorem tableLines_width_eq {first second : List (List Cell)} {width other : ℕ}
    (hfirst : ∀ row ∈ first, row.length = width + 1)
    (hsecond : ∀ row ∈ second, row.length = other + 1) (hnonempty : first ≠ [])
    (h : tableLines first = tableLines second) : width = other := by
  have hlength : first.length = second.length := by
    rw [← count_newline_tableLines first, h, count_newline_tableLines]
  have hcommas : first.length * width = second.length * other := by
    rw [← count_comma_tableLines hfirst, h, count_comma_tableLines hsecond]
  rw [← hlength] at hcommas
  exact Nat.eq_of_mul_eq_mul_left (List.length_pos_iff.mpr hnonempty) hcommas

/-! ## The end of a text -/

theorem getLast?_tableLine (cells : List Cell) : (tableLine cells).getLast? = some '\n' := by
  obtain rfl | ⟨initial, last, rfl⟩ := List.eq_nil_or_concat' cells
  · rfl
  · rw [tableLine_concat, ← List.append_assoc, List.getLast?_concat]

/-- A text that ends with a part of a line is not a table. -/
theorem tableLines_ne_append_linePart (rows : List (List Cell)) (text : List Char)
    {cells : List Cell} (h : cells ≠ []) : tableLines rows ≠ text ++ linePart cells := by
  intro heq
  have hpart : (text ++ linePart cells).getLast? = some ',' := by
    obtain ⟨initial, last, rfl⟩ := List.eq_nil_or_concat' cells |>.resolve_left h
    simp [linePart]
  obtain rfl | ⟨initial, last, rfl⟩ := List.eq_nil_or_concat' rows
  · have hempty := congrArg List.getLast? heq
    rw [hpart] at hempty
    exact absurd hempty (by simp [tableLines])
  · have hlast : (tableLines (initial ++ [last])).getLast? = some '\n' := by
      rw [tableLines, List.flatMap_append, List.flatMap_singleton, List.getLast?_append,
        getLast?_tableLine, Option.some_or]
    rw [heq, hpart] at hlast
    exact absurd hlast (by decide)

end MsgPerf.Library
