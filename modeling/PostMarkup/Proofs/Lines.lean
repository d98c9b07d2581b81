import PostMarkup.Proofs.Parsed

/-! The lines of a post against its text: which physical lines become lines, and where in the post
each of them stands. -/

namespace PostMarkup

open Text

/-! ### One physical line -/

theorem isContent_ofText_iff {raw : Text} :
    (LineKind.ofText raw).isContent = true ↔ raw.trim ≠ [] ∧ ¬['/', '/'] <+: raw.trim := by
  rw [LineKind.ofText]
  split
  next h => simp [h, LineKind.isContent]
  next h => simp [h, LineKind.isContent]
  next c rest hcomment h =>
    have hstart : ¬['/', '/'] <+: c :: rest := by
      rintro ⟨tail, htail⟩
      simp only [List.cons_append, List.nil_append, List.cons.injEq] at htail
      exact hcomment tail htail.1.symm htail.2.symm
    rw [h]
    cases Mark.ofChar? c <;> simp [LineKind.isContent, hstart]

theorem ofPhysical?_eq_some_iff {offset number : Nat} {raw : Text} {line : Line} :
    Line.ofPhysical? offset number raw = some line ↔
      (raw.trim ≠ [] ∧ ¬['/', '/'] <+: raw.trim) ∧
        line = ⟨number, raw.trim,
          ⟨offset + utf8Size (raw.takeWhile isBlank),
            offset + utf8Size (raw.takeWhile isBlank) + raw.trim.utf8Size⟩, .ofText raw⟩ := by
  rw [← isContent_ofText_iff, Line.ofPhysical?, LineKind.ofText_trim]
  split
  next h => simp [h, eq_comm]
  next h => simp [h]

/-- The kind of a line is read off its first character. -/
theorem kind_of_ofPhysical? {offset number : Nat} {raw : Text} {line : Line}
    (h : Line.ofPhysical? offset number raw = some line) :
    ∃ c rest, line.text = c :: rest ∧
      line.kind = (Mark.ofChar? c).elim (.unrecognized c) .directive := by
  obtain ⟨⟨hne, hcomment⟩, rfl⟩ := ofPhysical?_eq_some_iff.1 h
  obtain ⟨c, rest, htrim⟩ := List.exists_cons_of_ne_nil hne
  refine ⟨c, rest, htrim, ?_⟩
  simp only [LineKind.ofText, htrim]
  split
  next heq => cases heq
  next heq => exact absurd ⟨_, (htrim.trans heq).symm⟩ hcomment
  next heq =>
    cases heq
    cases Mark.ofChar? c <;> rfl

/-! ### Places -/

/-- The line stands in the post at its span, and its number counts the line breaks before it. -/
def Line.StandsIn (line : Line) (post : Text) : Prop :=
  ∃ before after, post = before ++ (line.text ++ after) ∧
    line.span = ⟨before.utf8Size, before.utf8Size + line.text.utf8Size⟩ ∧
    line.number = before.count '\n' + 1

theorem standsIn_of_ofPhysical? {front raw : Text} {line : Line} (hraw : '\n' ∉ raw)
    (h : Line.ofPhysical? front.utf8Size (front.count '\n' + 1) raw = some line) (back : Text) :
    line.StandsIn (front ++ (raw ++ back)) := by
  obtain ⟨-, rfl⟩ := ofPhysical?_eq_some_iff.1 h
  obtain ⟨tail, hsplit⟩ := exists_append_trim raw
  have hgap : '\n' ∉ raw.takeWhile isBlank := fun hmem =>
    hraw ((List.takeWhile_sublist _).subset hmem)
  refine ⟨front ++ raw.takeWhile isBlank, tail ++ back, ?_, ?_, ?_⟩
  · conv_lhs => rw [hsplit]
    simp
  · simp
  · rw [List.count_append, List.count_eq_zero.2 hgap, Nat.add_zero]

/-- What is read as the rest of a post stands in the whole post. -/
theorem standsIn_of_mem_linesFrom (front : Text) {t : Text} {line : Line}
    (h : line ∈ linesFrom front.utf8Size (front.count '\n') t.physicalLines) :
    line.StandsIn (front ++ t) := by
  induction t using lines_induction generalizing front with
  | last raw hraw =>
    rw [physicalLines_of_not_mem hraw, linesFrom, linesFrom, List.append_nil,
      Option.mem_toList] at h
    simpa using standsIn_of_ofPhysical? hraw h []
  | cons raw rest hraw ih =>
    rw [physicalLines_cons hraw, linesFrom, List.mem_append, Option.mem_toList] at h
    rcases h with h | h
    · exact standsIn_of_ofPhysical? hraw h _
    -- The rest is read with the line and its line break as part of what is in front.
    · have hsize : utf8Size (front ++ (raw ++ ['\n'])) = front.utf8Size + raw.utf8Size + 1 := by
        simp [Nat.add_assoc]
        decide
      have hcount : (front ++ (raw ++ ['\n'])).count '\n' = front.count '\n' + 1 := by
        simp [List.count_eq_zero.2 hraw]
      rw [← hsize, ← hcount] at h
      simpa using ih _ h

theorem standsIn_of_mem_lines {post : Text} {line : Line} (h : line ∈ lines post) :
    line.StandsIn post :=
  standsIn_of_mem_linesFrom [] h

namespace Line.StandsIn

variable {line : Line} {post : Text} (h : line.StandsIn post)
include h

theorem slice?_span : line.span.slice? post = some line.text := by
  obtain ⟨before, after, rfl, hspan, -⟩ := h
  rw [hspan]
  exact slice?_append before line.text after

theorem stop_le : line.span.stop ≤ post.utf8Size := by
  obtain ⟨before, after, rfl, hspan, -⟩ := h
  rw [hspan]
  simp

theorem number_eq : ∃ before, Text.slice? 0 line.span.start post = some before ∧
    line.number = before.count '\n' + 1 := by
  obtain ⟨before, after, rfl, hspan, hnumber⟩ := h
  refine ⟨before, ?_, hnumber⟩
  rw [hspan]
  simpa using slice?_append [] before (line.text ++ after)

end Line.StandsIn

/-! ### All lines -/

/-- The lines are the trimmed physical lines that carry something, with their numbers. -/
theorem map_text_number_linesFrom (offset number : Nat) (raws : List Text) :
    (linesFrom offset number raws).map (fun line => (line.text, line.number)) =
      ((raws.map trim).zipIdx (number + 1)).filter
        fun entry => entry.1 ≠ [] ∧ ¬['/', '/'] <+: entry.1 := by
  induction raws generalizing offset number with
  | nil => rfl
  | cons raw raws ih =>
    rw [linesFrom, List.map_append, ih, List.map_cons, List.zipIdx_cons, List.filter_cons]
    cases hline : Line.ofPhysical? offset (number + 1) raw with
    | some line =>
      obtain ⟨hcontent, rfl⟩ := ofPhysical?_eq_some_iff.1 hline
      rw [if_pos (decide_eq_true hcontent)]
      rfl
    | none =>
      have hcontent : ¬(raw.trim ≠ [] ∧ ¬['/', '/'] <+: raw.trim) := by
        rw [← isContent_ofText_iff, ofPhysical?_eq_none_iff.1 hline]
        exact Bool.false_ne_true
      rw [if_neg (by simpa using hcontent)]
      rfl

/-- A line is one of the trimmed physical lines, the one that its number names. -/
theorem mem_zipIdx_of_mem_lines {post : Text} {line : Line} (h : line ∈ lines post) :
    (line.text, line.number) ∈ (post.physicalLines.map trim).zipIdx 1 := by
  have hmem := List.mem_map_of_mem (f := fun line : Line => (line.text, line.number)) h
  rw [lines, map_text_number_linesFrom] at hmem
  exact (List.mem_filter.1 hmem).1

theorem bounds_of_ofPhysical? {offset number : Nat} {raw : Text} {line : Line}
    (h : Line.ofPhysical? offset number raw = some line) :
    offset ≤ line.span.start ∧ line.span.start < line.span.stop ∧
      line.span.stop ≤ offset + raw.utf8Size ∧ line.number = number := by
  obtain ⟨⟨hne, -⟩, rfl⟩ := ofPhysical?_eq_some_iff.1 h
  obtain ⟨tail, hsplit⟩ := exists_append_trim raw
  have hpos := utf8Size_pos hne
  have hsize := congrArg utf8Size hsplit
  rw [utf8Size_append, utf8Size_append] at hsize
  refine ⟨Nat.le_add_right _ _, ?_, ?_, rfl⟩
  · dsimp only
    omega
  · dsimp only
    omega

theorem bounds_of_mem_linesFrom {offset number : Nat} {raws : List Text} {line : Line}
    (h : line ∈ linesFrom offset number raws) :
    offset ≤ line.span.start ∧ line.span.start < line.span.stop ∧ number < line.number := by
  induction raws generalizing offset number with
  | nil => cases h
  | cons raw raws ih =>
    rw [linesFrom, List.mem_append, Option.mem_toList] at h
    rcases h with h | h
    · have hbounds := bounds_of_ofPhysical? h
      omega
    · have hrest := ih h
      omega

/-- Between two lines stands at least a line break. -/
theorem pairwise_linesFrom (offset number : Nat) (raws : List Text) :
    (linesFrom offset number raws).Pairwise fun line later =>
      line.span.stop < later.span.start ∧ line.number < later.number := by
  induction raws generalizing offset number with
  | nil => exact .nil
  | cons raw raws ih =>
    rw [linesFrom, List.pairwise_append]
    refine ⟨?_, ih _ _, fun line hline later hlater => ?_⟩
    · cases Line.ofPhysical? offset (number + 1) raw <;> simp
    · have hfirst := bounds_of_ofPhysical? (Option.mem_toList.1 hline)
      have hrest := bounds_of_mem_linesFrom hlater
      omega

/-- All that a line says of itself is true of the post: its span covers its text, its number counts
the line breaks before its span, and its kind is that of its first character. -/
structure Line.IsExact (post : Text) (line : Line) : Prop where
  start_lt_stop : line.span.start < line.span.stop
  stop_le : line.span.stop ≤ post.utf8Size
  slice : line.span.slice? post = some line.text
  number : ∃ before, Text.slice? 0 line.span.start post = some before ∧
    line.number = before.count '\n' + 1
  kind : ∃ c rest, line.text = c :: rest ∧
    line.kind = (Mark.ofChar? c).elim (.unrecognized c) .directive

theorem isExact_of_mem_lines {post : Text} {line : Line} (h : line ∈ lines post) :
    line.IsExact post := by
  have hstands := standsIn_of_mem_lines h
  obtain ⟨-, hlt, -⟩ := bounds_of_mem_linesFrom h
  obtain ⟨raw, -, offset, number, hline⟩ := mem_linesFrom h
  exact ⟨hlt, hstands.stop_le, hstands.slice?_span, hstands.number_eq, kind_of_ofPhysical? hline⟩

/-- The lines of a post are its trimmed physical lines, without blank lines and comments. Each says
of itself what is true of the post, and the spans and the numbers go up from line to line. -/
theorem lines_exact (post : Text) :
    (lines post).map (fun line => (line.text, line.number)) =
        ((post.physicalLines.map trim).zipIdx 1).filter
          (fun entry => entry.1 ≠ [] ∧ ¬['/', '/'] <+: entry.1) ∧
      (∀ line ∈ lines post, line.IsExact post) ∧
      (lines post).Pairwise fun line later =>
        line.span.stop < later.span.start ∧ line.number < later.number :=
  ⟨map_text_number_linesFrom 0 0 _, fun _ => isExact_of_mem_lines, pairwise_linesFrom 0 0 _⟩

/-- A post with both kinds of line breaks, a comment, and characters of two bytes around a title. -/
def scattered : Text := "é\r\n// note\n\n\u00a0# \"Ä\"\u00a0".toList

theorem lines_exact_scattered :
    let heading : Line := ⟨4, "# \"Ä\"".toList, ⟨15, 21⟩, .directive .title⟩
    heading ∈ lines scattered ∧ heading.IsExact scattered := by
  intro heading
  have h : heading ∈ lines scattered := by decide +kernel
  exact ⟨h, (lines_exact scattered).2.1 heading h⟩

end PostMarkup
