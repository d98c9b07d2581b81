import Mathlib.Logic.Function.Iterate
import PostMarkup.Line.Cursor
import PostMarkup.Proofs.Joining

/-! Reading the lines of a post one by one. Wherever the reading has come to, it is between two
lines of the post, and what it still gives are the lines of the rest of the post. -/

namespace PostMarkup

open Text

/-! ### Where physical lines start -/

namespace Text

/-- The bytes at which physical lines start, the first of them at byte `offset`. -/
def lineStartsFrom (offset : Nat) : List Text → List Nat
  | [] => []
  | raw :: rest => offset :: lineStartsFrom (offset + raw.utf8Size + 1) rest

/-- The bytes at which the physical lines of a text start. -/
def lineStarts (t : Text) : List Nat := lineStartsFrom 0 t.physicalLines

theorem lineStartsFrom_physicalLines_append (offset : Nat) (s t : Text) :
    lineStartsFrom offset (physicalLines (s ++ '\n' :: t)) =
      lineStartsFrom offset s.physicalLines ++
        lineStartsFrom (offset + (s.utf8Size + 1)) t.physicalLines := by
  induction s using lines_induction generalizing offset with
  | last raw hraw =>
    rw [physicalLines_cons hraw, physicalLines_of_not_mem hraw]
    simp [lineStartsFrom, Nat.add_assoc]
  | cons raw rest hraw ih =>
    have hsize : offset + raw.utf8Size + 1 + (rest.utf8Size + 1) =
        offset + (utf8Size (raw ++ '\n' :: rest) + 1) := by
      have hbreak : Char.utf8Size '\n' = 1 := by decide
      rw [utf8Size_append, utf8Size_cons, hbreak]
      omega
    rw [List.append_assoc, List.cons_append, physicalLines_cons hraw, physicalLines_cons hraw,
      lineStartsFrom, lineStartsFrom, ih, hsize, List.cons_append]

theorem length_lineStartsFrom (offset : Nat) (raws : List Text) :
    (lineStartsFrom offset raws).length = raws.length := by
  induction raws generalizing offset with
  | nil => rfl
  | cons raw raws ih => rw [lineStartsFrom, List.length_cons, ih, List.length_cons]

theorem length_physicalLines (t : Text) : t.physicalLines.length = t.count '\n' + 1 := by
  induction t using lines_induction with
  | last raw hraw => rw [physicalLines_of_not_mem hraw, List.count_eq_zero.2 hraw]; rfl
  | cons raw rest hraw ih =>
    rw [physicalLines_cons hraw, List.length_cons, ih, List.count_append,
      List.count_eq_zero.2 hraw, List.count_cons_self]
    omega

theorem le_of_mem_lineStartsFrom {offset start : Nat} {raws : List Text}
    (h : start ∈ lineStartsFrom offset raws) : offset ≤ start := by
  induction raws generalizing offset with
  | nil => cases h
  | cons raw raws ih =>
    rcases List.mem_cons.1 h with rfl | h
    · exact Nat.le_refl _
    · have := ih h
      omega

/-- No line starts behind the end of the text, and one starts at the end only if that is the end of
no line. -/
theorem lt_or_eq_of_mem_lineStartsFrom {offset start : Nat} {t : Text}
    (h : start ∈ lineStartsFrom offset t.physicalLines) :
    start < offset + t.utf8Size ∨
      start = offset + t.utf8Size ∧ (t = [] ∨ t.getLast? = some '\n') := by
  induction t using lines_induction generalizing offset with
  | last raw hraw =>
    rw [physicalLines_of_not_mem hraw, lineStartsFrom, lineStartsFrom, List.mem_singleton] at h
    by_cases hnil : raw = []
    · exact .inr ⟨by simp [h, hnil], .inl hnil⟩
    · have := utf8Size_pos hnil
      omega
  | cons raw rest hraw ih =>
    have hsize : utf8Size (raw ++ '\n' :: rest) = raw.utf8Size + (1 + rest.utf8Size) := by
      rw [utf8Size_append, utf8Size_cons]
      rfl
    rw [physicalLines_cons hraw] at h
    rcases List.mem_cons.1 h with h | h
    · omega
    · rcases ih h with hlt | ⟨heq, hend⟩
      · omega
      · refine .inr ⟨by omega, .inr ?_⟩
        rcases hend with rfl | hend
        · simp
        · simp [hend, List.getLast?_cons]

section Counts

variable (front ahead : Text)

/-- The lines that start before a place behind a line break end with that line break, and are as
many as there are line breaks up to it. -/
theorem countP_lineStarts_append :
    (lineStarts (front ++ '\n' :: ahead)).countP (fun start => start < front.utf8Size + 1) =
      front.count '\n' + 1 := by
  have hfront : ∀ start ∈ lineStartsFrom 0 front.physicalLines, start < front.utf8Size + 1 := by
    intro start hstart
    have := lt_or_eq_of_mem_lineStartsFrom hstart
    omega
  have hahead : ∀ start ∈ lineStartsFrom (0 + (front.utf8Size + 1)) ahead.physicalLines,
      ¬start < front.utf8Size + 1 := by
    intro start hstart
    have := le_of_mem_lineStartsFrom hstart
    omega
  rw [lineStarts, lineStartsFrom_physicalLines_append, List.countP_append,
    List.countP_eq_length.2 (by simpa using hfront), List.countP_eq_zero.2 (by simpa using hahead),
    length_lineStartsFrom, length_physicalLines]

/-- All lines start before the end of a text that does not end with a line break. -/
theorem countP_lineStarts_of_getLast? {t : Text} (hne : t ≠ []) (hlast : t.getLast? ≠ some '\n') :
    t.lineStarts.countP (fun start => start < t.utf8Size) = t.count '\n' + 1 := by
  have hall : ∀ start ∈ lineStartsFrom 0 t.physicalLines, start < t.utf8Size := by
    intro start hstart
    rcases lt_or_eq_of_mem_lineStartsFrom hstart with hlt | ⟨-, hnil | hbreak⟩
    · omega
    · exact absurd hnil hne
    · exact absurd hbreak hlast
  rw [lineStarts, List.countP_eq_length.2 (by simpa using hall), length_lineStartsFrom,
    length_physicalLines]

end Counts

end Text

namespace Cursor

/-! ### One physical line -/

section Steps

variable {cursor : Cursor} {line rest : Text}

theorem raw_of_ahead_eq (h : cursor.ahead = line ++ '\n' :: rest) (hline : '\n' ∉ line) :
    cursor.raw = line := by
  unfold raw
  rw [h]
  exact takeWhile_append_startsOff (by grind) (by simp)

/-- The first physical line, where a line break ends it. -/
theorem skipLine_of_ahead_eq (h : cursor.ahead = line ++ '\n' :: rest) (hline : '\n' ∉ line) :
    cursor.skipLine = ⟨cursor.offset + line.utf8Size + 1, cursor.number + 1, rest⟩ := by
  have hdrop : cursor.ahead.dropWhile (· ≠ '\n') = '\n' :: rest := by
    rw [h]
    exact dropWhile_append_startsOff (by grind) (by simp)
  unfold skipLine
  rw [raw_of_ahead_eq h hline, hdrop]
  rfl

theorem raw_of_not_mem (h : '\n' ∉ cursor.ahead) : cursor.raw = cursor.ahead := by
  unfold raw
  exact List.takeWhile_eq_self_iff.2 (by grind)

/-- The last physical line, where none ends it. -/
theorem skipLine_of_not_mem (h : '\n' ∉ cursor.ahead) :
    cursor.skipLine = ⟨cursor.offset + cursor.ahead.utf8Size, cursor.number + 1, []⟩ := by
  have hdrop : cursor.ahead.dropWhile (· ≠ '\n') = [] :=
    List.dropWhile_eq_nil_iff.2 (by grind)
  unfold skipLine
  rw [raw_of_not_mem h, hdrop]
  rfl

end Steps

/-! ### Where a cursor can be -/

/-- The cursor is at the start of the post, below one of its line breaks, or behind a last line that
no line break ends. -/
inductive StandsIn (post : Text) : Cursor → Prop
  | atStart : StandsIn post (start post)
  | belowBreak {front ahead : Text} : post = front ++ '\n' :: ahead →
      StandsIn post ⟨front.utf8Size + 1, front.count '\n' + 1, ahead⟩
  | atEnd : post ≠ [] → post.getLast? ≠ some '\n' →
      StandsIn post ⟨post.utf8Size, post.count '\n' + 1, []⟩

/-- The cursor is between two characters of the post, at a border of lines, and has counted the
physical lines that start before it. -/
structure IsSound (post : Text) (cursor : Cursor) : Prop where
  offset_le : cursor.offset ≤ post.utf8Size
  ahead : slice? cursor.offset post.utf8Size post = some cursor.ahead
  border : cursor.offset = 0 ∨
    (∃ before, slice? 0 cursor.offset post = some (before ++ ['\n'])) ∨
    cursor.offset = post.utf8Size
  number : cursor.number = post.lineStarts.countP fun start => start < cursor.offset

section Standing

variable {post : Text} {cursor : Cursor}

/-- The cursor after the next physical line is in the post again. -/
theorem StandsIn.skipLine (h : cursor.StandsIn post) (hne : cursor.ahead ≠ []) :
    cursor.skipLine.StandsIn post := by
  by_cases hbreak : '\n' ∈ cursor.ahead
  · obtain ⟨line, rest, hahead, hline⟩ := List.eq_append_cons_of_mem hbreak
    rw [skipLine_of_ahead_eq hahead hline]
    cases h with
    | atStart =>
      have hstands := StandsIn.belowBreak hahead
      simpa [start, List.count_eq_zero.2 hline] using hstands
    | @belowBreak front ahead hpost =>
      obtain rfl : ahead = line ++ '\n' :: rest := hahead
      have hstands := @StandsIn.belowBreak post (front ++ '\n' :: line) rest (by simpa using hpost)
      have hsize : utf8Size (front ++ '\n' :: line) = front.utf8Size + 1 + utf8Size line := by
        rw [utf8Size_append, utf8Size_cons, ← Nat.add_assoc]
        rfl
      simpa [hsize, List.count_eq_zero.2 hline] using hstands
    | atEnd => cases hbreak
  · rw [skipLine_of_not_mem hbreak]
    cases h with
    | atStart =>
      have hnone : post.count '\n' = 0 := List.count_eq_zero.2 hbreak
      have hstands := StandsIn.atEnd hne fun hlast => hbreak (List.mem_of_getLast? hlast)
      simpa [start, hnone] using hstands
    | @belowBreak front ahead hpost =>
      have hlast : post.getLast? = ahead.getLast? := by
        obtain ⟨c, t, rfl⟩ : ∃ c t, ahead = c :: t := List.exists_cons_of_ne_nil hne
        simp [hpost, List.getLast?_cons]
      have hstands : StandsIn post ⟨post.utf8Size, post.count '\n' + 1, []⟩ :=
        .atEnd (by simp [hpost]) fun h => hbreak (List.mem_of_getLast? (hlast ▸ h))
      have hsize : post.utf8Size = front.utf8Size + 1 + ahead.utf8Size := by
        rw [hpost, utf8Size_append, utf8Size_cons, ← Nat.add_assoc]
        rfl
      have hcount : post.count '\n' = front.count '\n' + 1 := by
        simp [hpost, List.count_eq_zero.2 hbreak]
      simpa [hsize, hcount] using hstands
    | atEnd => exact absurd rfl hne

/-- What is read and what is ahead make up the post. -/
theorem StandsIn.offset_add_utf8Size (h : cursor.StandsIn post) :
    cursor.offset + cursor.ahead.utf8Size = post.utf8Size := by
  cases h with
  | atStart => exact Nat.zero_add _
  | belowBreak hpost =>
    rw [hpost, utf8Size_append, utf8Size_cons, ← Nat.add_assoc]
    rfl
  | atEnd => exact Nat.add_zero _

theorem StandsIn.isSound (h : cursor.StandsIn post) : cursor.IsSound post := by
  have hwhole := h.offset_add_utf8Size
  refine ⟨by omega, ?_, ?_, ?_⟩
  · rw [← hwhole]
    cases h with
    | atStart => simpa [start] using slice?_append [] post []
    | @belowBreak front ahead hpost =>
      have hslice := slice?_append (front ++ ['\n']) ahead []
      have hsize : utf8Size (front ++ ['\n']) = front.utf8Size + 1 := utf8Size_append _ _
      rw [hsize] at hslice
      simpa [hpost] using hslice
    | atEnd => simpa using slice?_append post [] []
  · cases h with
    | atStart => exact .inl rfl
    | @belowBreak front ahead hpost =>
      have hslice := slice?_append [] (front ++ ['\n']) ahead
      have hsize : utf8Size (front ++ ['\n']) = front.utf8Size + 1 := utf8Size_append _ _
      exact .inr (.inl ⟨front, by simpa [hpost, hsize] using hslice⟩)
    | atEnd => exact .inr (.inr rfl)
  · cases h with
    | atStart => simp [start]
    | belowBreak hpost =>
      rw [hpost]
      exact (countP_lineStarts_append _ _).symm
    | atEnd hne hlast => exact (countP_lineStarts_of_getLast? hne hlast).symm

theorem StandsIn.offset_lt_iff (h : cursor.StandsIn post) :
    cursor.offset < post.utf8Size ↔ cursor.ahead ≠ [] := by
  have hwhole := h.offset_add_utf8Size
  constructor
  · rintro hlt hnil
    rw [hnil, utf8Size_nil] at hwhole
    omega
  · intro hne
    have := utf8Size_pos hne
    omega

/-- Every physical line moves the cursor on. -/
theorem offset_lt_skipLine (hne : cursor.ahead ≠ []) : cursor.offset < cursor.skipLine.offset := by
  by_cases hbreak : '\n' ∈ cursor.ahead
  · obtain ⟨line, rest, hahead, hline⟩ := List.eq_append_cons_of_mem hbreak
    rw [skipLine_of_ahead_eq hahead hline]
    show cursor.offset < cursor.offset + utf8Size line + 1
    omega
  · rw [skipLine_of_not_mem hbreak]
    exact Nat.lt_add_of_pos_right (utf8Size_pos hne)

end Standing

/-! ### Reading lines -/

/-- How a line is read in a post: physical lines that are blank or comments are skipped, each of
which moves the cursor on, until there is one that is neither, or no more. -/
inductive Reads (post : Text) : Cursor → Option Line → Cursor → Prop
  | found {cursor : Cursor} {line : Line} : cursor.IsSound post →
      cursor.offset < post.utf8Size → cursor.offset < cursor.skipLine.offset →
      cursor.line? = some line → Reads post cursor (some line) cursor.skipLine
  | skipped {cursor after : Cursor} {line? : Option Line} : cursor.IsSound post →
      cursor.offset < post.utf8Size → cursor.offset < cursor.skipLine.offset →
      cursor.line? = none → Reads post cursor.skipLine line? after → Reads post cursor line? after
  | atEnd {cursor : Cursor} : cursor.IsSound post → cursor.offset = post.utf8Size →
      Reads post cursor none cursor

/-- The position after the next line. -/
def advance (cursor : Cursor) : Cursor := cursor.next.2

/-- The lines of the rest of the post, as far down and as far on as the cursor has come. -/
def linesAhead (cursor : Cursor) : List Line :=
  (lines cursor.ahead).map (Line.shift cursor.number cursor.offset)

section Reading

variable {post : Text} {cursor : Cursor}

theorem next_of_ahead_eq_nil (h : cursor.ahead = []) : cursor.next = (none, cursor) := by
  rw [next, if_pos h]

theorem reads_next (h : cursor.StandsIn post) :
    Reads post cursor cursor.next.1 cursor.next.2 := by
  fun_induction next cursor with
  | case1 cursor hnil =>
    have hnot := mt h.offset_lt_iff.1 (not_not.2 hnil)
    exact .atEnd h.isSound (by have := h.isSound.offset_le; omega)
  | case2 cursor hne line hline =>
    exact .found h.isSound (h.offset_lt_iff.2 hne) (offset_lt_skipLine hne) hline
  | case3 cursor hne hnone ih =>
    exact .skipped h.isSound (h.offset_lt_iff.2 hne) (offset_lt_skipLine hne) hnone
      (ih (h.skipLine hne))

theorem StandsIn.advance (h : cursor.StandsIn post) : cursor.advance.StandsIn post := by
  unfold Cursor.advance
  fun_induction next cursor with
  | case1 => exact h
  | case2 cursor hne => exact h.skipLine hne
  | case3 cursor hne _ ih => exact ih (h.skipLine hne)

theorem standsIn_iterate (post : Text) (k : Nat) :
    (Cursor.advance^[k] (start post)).StandsIn post := by
  induction k with
  | zero => exact .atStart
  | succ k ih =>
    rw [Function.iterate_succ_apply']
    exact ih.advance

theorem linesAhead_eq (cursor : Cursor) :
    cursor.linesAhead = linesFrom cursor.offset cursor.number cursor.ahead.physicalLines := by
  have hshift := linesFrom_shift 0 0 cursor.ahead.physicalLines cursor.number cursor.offset
  rw [Nat.zero_add, Nat.zero_add] at hshift
  exact hshift.symm

theorem linesAhead_of_ahead_eq_nil (h : cursor.ahead = []) : cursor.linesAhead = [] := by
  unfold linesAhead
  rw [h]
  rfl

/-- A line that is read is the first one ahead, and the others stay ahead. -/
theorem linesAhead_skipLine (cursor : Cursor) :
    cursor.linesAhead = cursor.line?.toList ++ cursor.skipLine.linesAhead := by
  by_cases hbreak : '\n' ∈ cursor.ahead
  · obtain ⟨line, rest, hahead, hline⟩ := List.eq_append_cons_of_mem hbreak
    rw [linesAhead_eq, linesAhead_eq, skipLine_of_ahead_eq hahead hline, line?,
      raw_of_ahead_eq hahead hline, hahead, physicalLines_cons hline, linesFrom]
  · rw [linesAhead_eq, linesAhead_of_ahead_eq_nil (by rw [skipLine_of_not_mem hbreak]), line?,
      raw_of_not_mem hbreak, physicalLines_of_not_mem hbreak, linesFrom, linesFrom]

theorem linesAhead_next (cursor : Cursor) :
    cursor.linesAhead = cursor.next.1.toList ++ cursor.advance.linesAhead := by
  unfold Cursor.advance
  fun_induction next cursor with
  | case1 cursor hnil => rfl
  | case2 cursor _ line hline => rw [linesAhead_skipLine, hline]
  | case3 cursor hne hnone ih =>
    rw [linesAhead_skipLine, hnone, ih]
    rfl

theorem ahead_advance_of_next_eq_none (h : cursor.next.1 = none) : cursor.advance.ahead = [] := by
  unfold Cursor.advance
  fun_induction next cursor with
  | case1 cursor hnil => exact hnil
  | case2 => cases h
  | case3 cursor hne hnone ih => exact ih h

/-- The lines that are read one by one are those ahead, and then none. -/
theorem next_iterate (cursor : Cursor) (j : Nat) :
    (Cursor.advance^[j] cursor).next.1 = cursor.linesAhead[j]? := by
  induction j generalizing cursor with
  | zero =>
    rw [Function.iterate_zero_apply, linesAhead_next]
    cases hnext : cursor.next.1 with
    | some line => rfl
    | none => rw [linesAhead_of_ahead_eq_nil (ahead_advance_of_next_eq_none hnext)]; rfl
  | succ j ih =>
    rw [Function.iterate_succ_apply, ih, linesAhead_next cursor]
    cases hnext : cursor.next.1 with
    | some line => rfl
    | none => rw [linesAhead_of_ahead_eq_nil (ahead_advance_of_next_eq_none hnext)]; rfl

theorem drain_fst (cursor : Cursor) : cursor.drain.1 = cursor.linesAhead := by
  fun_induction drain cursor with
  | case1 cursor hnil => exact (linesAhead_of_ahead_eq_nil hnil).symm
  | case2 cursor hne rest final hdrain ih =>
    rw [linesAhead_skipLine, ← ih, hdrain]

end Reading

/-- However many lines are read of a post, the reading is between two of its lines then, and has
counted those before. Reading on skips what is blank or a comment, every physical line moves it on,
and what it gives are the lines of the rest of the post, one by one and all at once. After it has
found none it stays where it is and finds none again. -/
theorem invariant_iterate_advance (post : Text) (k : Nat) :
    let cursor := advance^[k] (start post)
    cursor.IsSound post ∧
      Reads post cursor cursor.next.1 cursor.next.2 ∧
      (∀ j, (advance^[j] cursor).next.1 = cursor.linesAhead[j]?) ∧
      cursor.drain.1 = cursor.linesAhead ∧
      (cursor.next.1 = none → ∀ j, (advance^[j] cursor.next.2).next = (none, cursor.next.2)) := by
  intro cursor
  have hstands : cursor.StandsIn post := standsIn_iterate post k
  refine ⟨hstands.isSound, reads_next hstands, next_iterate cursor, drain_fst cursor, ?_⟩
  intro hnone j
  have hstays := next_of_ahead_eq_nil (ahead_advance_of_next_eq_none hnone)
  have hfixed : advance^[j] cursor.advance = cursor.advance :=
    Function.iterate_fixed (congrArg Prod.snd hstays) j
  show (advance^[j] cursor.advance).next = (none, cursor.advance)
  rw [hfixed, hstays]

/-- A post whose second line comes after a blank line and a comment, and is its last. -/
def gapped : Text := "é\r\n \n// a\n# x".toList

theorem invariant_iterate_advance_gapped :
    let cursor := advance^[2] (start gapped)
    cursor.next.1 = none ∧ (advance^[3] cursor.next.2).next = (none, cursor.next.2) ∧
      (advance^[1] (start gapped)).next.1 =
        some ⟨4, "# x".toList, ⟨11, 14⟩, .directive .title⟩ := by
  intro cursor
  obtain ⟨-, -, hlines, -, -⟩ := invariant_iterate_advance gapped 0
  have hnone : cursor.next.1 = none := (hlines 2).trans (by decide +kernel)
  obtain ⟨-, -, -, -, hstays⟩ := invariant_iterate_advance gapped 2
  exact ⟨hnone, hstays hnone 3, (hlines 1).trans (by decide +kernel)⟩

end Cursor

end PostMarkup
