import Mathlib.Tactic

/-!
# Reading lines through a buffer

`fgets` reads up to and including the next end of a line, but no more than the buffer holds, and it
notices the end of a stream only when it tries to read beyond it.  The successive reads of a stream
are therefore the pieces of its lines: a line that is longer than the buffer is read in several
pieces, and none of them shows that it is not a line of its own.
-/

namespace MsgPerf.Library.LineReader

variable {α : Type*} [DecidableEq α] (newline : α)

/-- What a read returns, the rest of the stream, and whether the read has hit its end. -/
structure Read (α : Type*) where
  chunk : List α
  rest : List α
  ended : Bool
  deriving DecidableEq, Repr

/-- `fgets` with room for `limit` characters. -/
def readChunk : ℕ → List α → Read α
  | 0, stream => ⟨[], stream, false⟩
  | _ + 1, [] => ⟨[], [], true⟩
  | limit + 1, char :: stream =>
      if char = newline then ⟨[char], stream, false⟩
      else
        let read := readChunk limit stream
        { read with chunk := char :: read.chunk }

/-- The lines of a stream, each with its end. -/
def lines : List α → List (List α)
  | [] => []
  | char :: stream =>
      if char = newline then [char] :: lines stream
      else
        match lines stream with
        | [] => [[char]]
        | line :: others => (char :: line) :: others

omit [DecidableEq α] in
/-- The pieces of a line, with their positions. -/
def pieces (limit offset : ℕ) (line : List α) : List (ℕ × List α) :=
  if line.length ≤ limit ∨ limit = 0 then [(offset, line)]
  else (offset, line.take limit) :: pieces limit (offset + limit) (line.drop limit)
termination_by line.length
decreasing_by
  rw [List.length_drop]
  omega

/-- The pieces of several lines. -/
def chunks (limit : ℕ) : ℕ → List (List α) → List (ℕ × List α)
  | _, [] => []
  | offset, line :: rest => pieces limit offset line ++ chunks limit (offset + line.length) rest

/-- Lines with their positions. -/
def numbered : ℕ → List (List α) → List (ℕ × List α)
  | _, [] => []
  | offset, line :: rest => (offset, line) :: numbered (offset + line.length) rest

/-! ## One read -/

theorem readChunk_length (limit : ℕ) (stream : List α) :
    (readChunk newline limit stream).chunk.length +
      (readChunk newline limit stream).rest.length = stream.length := by
  fun_induction readChunk newline limit stream with
  | case1 stream => simp
  | case2 => rfl
  | case3 limit stream => simp [Nat.add_comm]
  | case4 limit char stream hchar read ih =>
    rw [List.length_cons, List.length_cons, ← ih]
    exact Nat.succ_add _ _

theorem readChunk_ended {limit : ℕ} {stream : List α}
    (h : (readChunk newline limit stream).ended = true) :
    (readChunk newline limit stream).rest = [] := by
  fun_induction readChunk newline limit stream with
  | case1 stream => cases h
  | case2 => rfl
  | case3 limit stream => cases h
  | case4 limit char stream hchar read ih => exact ih h

theorem readChunk_chunk_ne_nil (limit : ℕ) {stream : List α} (h : stream ≠ []) :
    (readChunk newline (limit + 1) stream).chunk ≠ [] := by
  cases stream with
  | nil => exact absurd rfl h
  | cons char stream =>
    rw [readChunk]
    split <;> exact List.cons_ne_nil _ _

theorem ne_nil_of_mem_lines {stream line : List α} (h : line ∈ lines newline stream) :
    line ≠ [] := by
  fun_induction lines newline stream with
  | case1 => cases h
  | case2 stream ih =>
    rcases List.mem_cons.mp h with rfl | h
    · exact List.cons_ne_nil _ _
    · exact ih h
  | case3 char stream hchar hlines ih =>
    rw [List.mem_singleton.mp h]
    exact List.cons_ne_nil _ _
  | case4 char stream hchar first others hlines ih =>
    rcases List.mem_cons.mp h with rfl | h
    · exact List.cons_ne_nil _ _
    · exact ih (hlines ▸ List.mem_cons_of_mem _ h)

theorem lines_eq_nil {stream : List α} : lines newline stream = [] ↔ stream = [] := by
  constructor
  · intro h
    cases stream with
    | nil => rfl
    | cons char stream =>
      rw [lines] at h
      split at h
      · cases h
      · split at h <;> cases h
  · rintro rfl
    rfl

theorem ne_nil_of_lines_cons {stream line : List α} {others : List (List α)}
    (h : lines newline stream = line :: others) : stream ≠ [] := by
  rintro rfl
  cases h

/-- How the first line of a stream begins. -/
theorem lines_cons {char : α} {tail line : List α} {others : List (List α)}
    (h : lines newline (char :: tail) = line :: others) :
    (char = newline ∧ line = [char] ∧ others = lines newline tail) ∨
    (char ≠ newline ∧ tail = [] ∧ line = [char] ∧ others = []) ∨
    (char ≠ newline ∧ ∃ first, line = char :: first ∧ lines newline tail = first :: others) := by
  rw [lines] at h
  by_cases hchar : char = newline
  · rw [if_pos hchar] at h
    injection h with hline hothers
    exact .inl ⟨hchar, hline.symm, hothers.symm⟩
  · rw [if_neg hchar] at h
    cases hlines : lines newline tail with
    | nil =>
      rw [hlines] at h
      injection h with hline hothers
      exact .inr (.inl ⟨hchar, (lines_eq_nil newline).mp hlines, hline.symm, hothers.symm⟩)
    | cons first rest =>
      rw [hlines] at h
      injection h with hline hothers
      exact .inr (.inr ⟨hchar, first, hline.symm, hothers ▸ rfl⟩)

/-- A read takes the first piece of the first line. -/
theorem readChunk_lines (limit : ℕ) {stream line : List α} {others : List (List α)}
    (h : lines newline stream = line :: others) :
    (readChunk newline (limit + 1) stream).chunk = line.take (limit + 1) ∧
      lines newline (readChunk newline (limit + 1) stream).rest =
        if line.length ≤ limit + 1 then others else line.drop (limit + 1) :: others := by
  induction limit generalizing stream line others with
  | zero =>
    obtain ⟨char, tail, rfl⟩ := List.exists_cons_of_ne_nil (ne_nil_of_lines_cons newline h)
    rcases lines_cons newline h with ⟨rfl, rfl, rfl⟩ | ⟨hchar, rfl, rfl, rfl⟩ |
      ⟨hchar, first, rfl, hlines⟩
    · simp [readChunk]
    · simp [readChunk, hchar, lines]
    · have hfirst : first ≠ [] := ne_nil_of_mem_lines newline (hlines ▸ List.mem_cons_self)
      simp [readChunk, hchar, hlines, hfirst]
  | succ limit ih =>
    obtain ⟨char, tail, rfl⟩ := List.exists_cons_of_ne_nil (ne_nil_of_lines_cons newline h)
    rcases lines_cons newline h with ⟨rfl, rfl, rfl⟩ | ⟨hchar, rfl, rfl, rfl⟩ |
      ⟨hchar, first, rfl, hlines⟩
    · simp [readChunk]
    · simp [readChunk, hchar, lines]
    · obtain ⟨hchunk, hrest⟩ := ih hlines
      rw [readChunk, if_neg hchar]
      refine ⟨?_, ?_⟩
      · rw [List.take_succ_cons, ← hchunk]
      · simp only [List.length_cons, Nat.add_le_add_iff_right, List.drop_succ_cons]
        exact hrest

/-- The successive reads of a stream are the pieces of its lines. -/
theorem chunks_lines (limit offset : ℕ) {stream : List α} (h : stream ≠ []) :
    chunks (limit + 1) offset (lines newline stream) =
      (offset, (readChunk newline (limit + 1) stream).chunk) ::
        chunks (limit + 1) (offset + (readChunk newline (limit + 1) stream).chunk.length)
          (lines newline (readChunk newline (limit + 1) stream).rest) := by
  obtain ⟨line, others, hlines⟩ :=
    List.exists_cons_of_ne_nil fun hnil ↦ h ((lines_eq_nil newline).mp hnil)
  obtain ⟨hchunk, hrest⟩ := readChunk_lines newline limit hlines
  rw [hlines, hchunk, hrest, chunks, pieces]
  by_cases hlength : line.length ≤ limit + 1
  · rw [if_pos (.inl hlength), if_pos hlength, List.take_of_length_le hlength]
    rfl
  · rw [if_neg (by simpa using hlength), if_neg hlength, chunks, List.cons_append]
    have htake : (line.take (limit + 1)).length = limit + 1 := by
      rw [List.length_take]
      omega
    have hoffset : offset + line.length =
        offset + (limit + 1) + (line.drop (limit + 1)).length := by
      rw [List.length_drop]
      omega
    rw [htake, hoffset]

/-! ## The pieces of a line -/

omit [DecidableEq α]

/-- The first piece begins with the line, and the others begin at the multiples of the limit. -/
theorem pieces_eq_cons {limit : ℕ} (hlimit : 0 < limit) (offset : ℕ) (line : List α) :
    ∃ rest, pieces limit offset line = (offset, line.take limit) :: rest ∧
      ∀ piece, piece ∈ rest ↔ ∃ index, 0 < index ∧ limit * index < line.length ∧
        piece = (offset + limit * index, (line.drop (limit * index)).take limit) := by
  fun_induction pieces limit offset line with
  | case1 offset line hlast =>
    have hlength : line.length ≤ limit := hlast.resolve_right (Nat.ne_of_gt hlimit)
    refine ⟨[], by rw [List.take_of_length_le hlength], ?_⟩
    intro piece
    refine ⟨fun hnone ↦ absurd hnone List.not_mem_nil, ?_⟩
    rintro ⟨index, hindex, hbegin, _⟩
    have hle : limit * 1 ≤ limit * index := Nat.mul_le_mul_left limit hindex
    omega
  | case2 offset line hmore ih =>
    have hlength : limit < line.length := by
      rw [not_or] at hmore
      omega
    obtain ⟨rest, hpieces, hrest⟩ := ih
    refine ⟨_, rfl, ?_⟩
    intro piece
    have hshift : ∀ index, (offset + limit + limit * index,
        ((line.drop limit).drop (limit * index)).take limit) =
          (offset + limit * (index + 1), (line.drop (limit * (index + 1))).take limit) := by
      intro index
      rw [List.drop_drop, Nat.mul_add, Nat.mul_one, Nat.add_comm (limit * index) limit,
        Nat.add_assoc]
    rw [hpieces, List.mem_cons, hrest, List.length_drop]
    constructor
    · rintro (rfl | ⟨index, _, hbegin, rfl⟩)
      · exact ⟨1, Nat.one_pos, by rwa [Nat.mul_one], by rw [Nat.mul_one]⟩
      · refine ⟨index + 1, Nat.succ_pos index, ?_, hshift index⟩
        rw [Nat.mul_add, Nat.mul_one]
        omega
    · rintro ⟨index, hindex, hbegin, rfl⟩
      obtain ⟨index, rfl⟩ := Nat.exists_eq_succ_of_ne_zero (Nat.ne_of_gt hindex)
      rw [Nat.succ_eq_add_one, Nat.mul_add, Nat.mul_one] at hbegin
      by_cases hzero : index = 0
      · left
        rw [hzero, Nat.succ_eq_add_one, Nat.zero_add, Nat.mul_one]
      · exact .inr ⟨index, Nat.pos_of_ne_zero hzero, by omega, (hshift index).symm⟩

theorem offset_le_of_mem_chunks {limit : ℕ} (hlimit : 0 < limit) {offset : ℕ}
    {texts : List (List α)} {chunk : ℕ × List α} (h : chunk ∈ chunks limit offset texts) :
    offset ≤ chunk.1 := by
  induction texts generalizing offset with
  | nil => cases h
  | cons line texts ih =>
    obtain ⟨rest, hpieces, hrest⟩ := pieces_eq_cons hlimit offset line
    rw [chunks, hpieces, List.cons_append, List.mem_cons, List.mem_append, hrest] at h
    rcases h with rfl | ⟨index, _, _, rfl⟩ | h
    · exact le_rfl
    · exact Nat.le_add_right _ _
    · exact le_trans (Nat.le_add_right _ _) (ih h)

end MsgPerf.Library.LineReader
