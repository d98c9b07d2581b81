import PostMarkup.Proofs.Errors
import PostMarkup.Proofs.Overrides
import PostMarkup.Proofs.RoundTrip

/-! Two posts put together with a line break between them: what comes of the whole is what comes of
the first, changed by what comes of the second. -/

namespace PostMarkup

open Text

/-! ### Documents -/

/-- The post after all that `later` says. What it leaves open stays as it is. -/
def Document.merge (earlier later : Document) : Document where
  title := later.title.or earlier.title
  claim := later.claim.or earlier.claim
  evidence := earlier.evidence ++ later.evidence
  insight := later.insight.or earlier.insight
  context := later.context.or earlier.context
  credential := later.credential.or earlier.credential
  source := later.source.or earlier.source
  overrides := earlier.overrides.extend later.overrides

namespace Document

theorem merge_empty (post : Document) : post.merge {} = post := by
  simp [merge]

theorem nodup_overrides_apply {post : Document} (h : (post.overrides.map Prod.fst).Nodup)
    (d : Directive) : ((post.apply d).overrides.map Prod.fst).Nodup := by
  cases d with
  | limit name value =>
    rw [apply]
    split
    · exact Overrides.nodup_record _ _ h
    · exact h
  | _ => exact h

/-- A directive at the end changes the whole as it changes its last part. -/
theorem merge_apply (earlier : Document) {later : Document}
    (h : (later.overrides.map Prod.fst).Nodup) (d : Directive) :
    (earlier.merge later).apply d = earlier.merge (later.apply d) := by
  cases d with
  | limit name value =>
    rw [apply, apply]
    split
    next name _ => simp only [merge, setLimit, Overrides.extend_record name value _ h]
    next => rfl
  | evidence item => simp [apply, merge]
  | title | claim | insight | context | credential | source => rfl

theorem merge_foldl_apply (earlier : Document) {later : Document}
    (h : (later.overrides.map Prod.fst).Nodup) (directives : List Directive) :
    directives.foldl apply (earlier.merge later) =
      earlier.merge (directives.foldl apply later) := by
  induction directives generalizing later with
  | nil => rfl
  | cons d rest ih =>
    rw [List.foldl_cons, merge_apply earlier h, ih (nodup_overrides_apply h d), List.foldl_cons]

theorem ofDirectives_append (directives rest : List Directive) :
    ofDirectives (directives ++ rest) = (ofDirectives directives).merge (ofDirectives rest) := by
  have h : rest.foldl apply ((ofDirectives directives).merge {}) =
      (ofDirectives directives).merge (ofDirectives rest) :=
    merge_foldl_apply _ (by simp) rest
  rw [merge_empty] at h
  rw [← h, ofDirectives, ofDirectives, List.foldl_append]

end Document

/-! ### Lines and errors -/

/-- The line as it stands after `number` more lines, which have `bytes` bytes. -/
def Line.shift (number bytes : Nat) (line : Line) : Line :=
  { line with number := line.number + number, span := line.span.shift bytes }

def SyntaxError.shift (number bytes : Nat) (e : SyntaxError) : SyntaxError :=
  { e with line := e.line.shift number bytes }

theorem ofPhysical?_shift (offset number : Nat) (raw : Text) (lines bytes : Nat) :
    Line.ofPhysical? (offset + bytes) (number + lines) raw =
      (Line.ofPhysical? offset number raw).map (Line.shift lines bytes) := by
  simp only [Line.ofPhysical?]
  split
  next => simp [Line.shift, Span.shift]; omega
  next => rfl

theorem linesFrom_shift (offset number : Nat) (raws : List Text) (lines bytes : Nat) :
    linesFrom (offset + bytes) (number + lines) raws =
      (linesFrom offset number raws).map (Line.shift lines bytes) := by
  induction raws generalizing offset number with
  | nil => rfl
  | cons raw raws ih =>
    have hoffset : offset + bytes + raw.utf8Size + 1 = offset + raw.utf8Size + 1 + bytes := by omega
    have hnumber : number + lines + 1 = number + 1 + lines := by omega
    rw [linesFrom, linesFrom, hoffset, hnumber, ih, ofPhysical?_shift, List.map_append]
    cases Line.ofPhysical? offset (number + 1) raw <;> rfl

theorem linesFrom_physicalLines_append (offset number : Nat) (s t : Text) :
    linesFrom offset number (physicalLines (s ++ '\n' :: t)) =
      linesFrom offset number s.physicalLines ++
        linesFrom (offset + (s.utf8Size + 1)) (number + (s.count '\n' + 1)) t.physicalLines := by
  induction s using lines_induction generalizing offset number with
  | last raw hraw =>
    rw [physicalLines_cons hraw, physicalLines_of_not_mem hraw, List.count_eq_zero.2 hraw]
    simp [linesFrom, Nat.add_assoc]
  | cons raw rest hraw ih =>
    have hsize : offset + raw.utf8Size + 1 + (rest.utf8Size + 1) =
        offset + (utf8Size (raw ++ '\n' :: rest) + 1) := by
      have hbreak : Char.utf8Size '\n' = 1 := by decide
      rw [utf8Size_append, utf8Size_cons, hbreak]
      omega
    have hcount : number + 1 + (rest.count '\n' + 1) =
        number + ((raw ++ '\n' :: rest).count '\n' + 1) := by
      rw [List.count_append, List.count_eq_zero.2 hraw, List.count_cons_self]
      omega
    rw [List.append_assoc, List.cons_append, physicalLines_cons hraw, physicalLines_cons hraw,
      linesFrom, linesFrom, ih, hsize, hcount, List.append_assoc]

/-- The lines of a post after a line break come further down by the lines, and further on by the
bytes, of the text in front. -/
theorem lines_append (s t : Text) :
    lines (s ++ '\n' :: t) =
      lines s ++ (lines t).map (Line.shift (s.count '\n' + 1) (s.utf8Size + 1)) := by
  rw [lines, linesFrom_physicalLines_append, linesFrom_shift, lines, lines]

theorem syntaxError?_shift (line : Line) (number bytes : Nat) :
    (line.shift number bytes).syntaxError? =
      line.syntaxError?.map (SyntaxError.shift number bytes) := by
  have hreading : (line.shift number bytes).reading = line.reading := rfl
  rw [Line.syntaxError?, Line.syntaxError?, hreading]
  cases line.reading <;> rfl

theorem errors_parse_append (s t : Text) :
    (parse (s ++ '\n' :: t)).errors =
      (parse s).errors ++
        (parse t).errors.map (SyntaxError.shift (s.count '\n' + 1) (s.utf8Size + 1)) := by
  simp only [parse, lines_append, List.filterMap_append, List.filterMap_map, List.map_filterMap,
    Function.comp_def, syntaxError?_shift]

theorem document_parse_append (s t : Text) :
    (parse (s ++ '\n' :: t)).document = (parse s).document.merge (parse t).document := by
  rw [document_parse, physicalLines_append, List.filterMap_append, Document.ofDirectives_append,
    document_parse, document_parse]

/-! ### Diagnostics -/

/-- `moved` says what `d` says, of a line that stands `lines` further down and `bytes` further
on. -/
structure Diagnostic.Moved (lines bytes : Nat) (d moved : Diagnostic) : Prop where
  severity : moved.severity = d.severity
  code : moved.code = d.code
  message : ∃ number complaint, d.message = s!"Line {number}: " ++ complaint ∧
    moved.message = s!"Line {number + lines}: " ++ complaint
  label : moved.label = d.label.map fun label => { label with span := label.span.shift bytes }
  help : moved.help = d.help

theorem moved_diagnostic_shift (lines bytes : Nat) (e : SyntaxError) :
    Diagnostic.Moved lines bytes e.diagnostic (e.shift lines bytes).diagnostic where
  severity := rfl
  code := rfl
  message :=
    ⟨e.line.number, e.complaint, e.message_diagnostic, (e.shift lines bytes).message_diagnostic⟩
  label := rfl
  help := rfl

/-- A post put together of two has the document that the second makes of the first's, where
overrides keep their first places and take their last values. It has the errors of the first as they
are, and then those of the second, moved by the lines and bytes in front of it. -/
theorem parse_append (s t : Text) :
    let first := parse s
    let second := parse t
    let whole := parse (s ++ '\n' :: t)
    whole.document = first.document.merge second.document ∧
      whole.document.overrides.map Prod.fst =
        first.document.overrides.map Prod.fst ++
          (second.document.overrides.map Prod.fst).filter
            (· ∉ first.document.overrides.map Prod.fst) ∧
      (∀ name, whole.document.overrides.lookup name =
        (second.document.overrides.lookup name).or (first.document.overrides.lookup name)) ∧
      ∃ moved, whole.errors.map SyntaxError.diagnostic =
          first.errors.map SyntaxError.diagnostic ++ moved ∧
        List.Forall₂ (Diagnostic.Moved (s.count '\n' + 1) (s.utf8Size + 1))
          (second.errors.map SyntaxError.diagnostic) moved := by
  intro first second whole
  have hdocument : whole.document = first.document.merge second.document :=
    document_parse_append s t
  have hnodup := (Document.wellFormed_parse t).overrides_nodup
  refine ⟨hdocument, ?_, fun name => ?_, ?_⟩
  · rw [hdocument]
    exact Overrides.map_fst_extend _ hnodup
  · rw [hdocument]
    exact Overrides.lookup_extend name _ hnodup
  · refine ⟨(second.errors.map (SyntaxError.shift (s.count '\n' + 1) (s.utf8Size + 1))).map
      SyntaxError.diagnostic, ?_, ?_⟩
    · rw [← List.map_append, ← errors_parse_append]
    · simp only [List.map_map, List.forall₂_map_left_iff, List.forall₂_map_right_iff,
        List.forall₂_same]
      exact fun e _ => moved_diagnostic_shift _ _ e

end PostMarkup
