import Mathlib.Data.List.Basic
import PostMarkup.Parsed
import PostMarkup.Proofs.Grammar

/-! What a post amounts to, told from its physical lines alone: which of them become lines, what
each line says, and the document and errors that come of it. -/

namespace PostMarkup

open Text

/-! ### Lines -/

theorem Layout.mark_of_directive? {layout : Layout} {d : Directive}
    (h : layout.directive? = some d) : d.mark = layout.mark := by
  cases layout with
  | quoting mark _ _ => cases mark <;> cases h <;> rfl
  | limit | evidence | source => cases h; rfl

/-- A line that says something starts with the mark of what it says. -/
theorem kind_of_ofText? {raw : Text} {d : Directive} (h : Directive.ofText? raw.trim = some d) :
    LineKind.ofText raw = .directive d.mark := by
  obtain ⟨layout, -, hline, hd⟩ := Directive.ofText?_eq_some_iff.1 h
  rw [LineKind.ofText, ← hline, Layout.mark_of_directive? hd, Layout.line]
  cases layout.mark <;> rfl

@[simp] theorem LineKind.ofText_trim (raw : Text) : ofText raw.trim = ofText raw := by
  rw [ofText, trim_trim, ofText]

/-- A physical line becomes a line if it carries something, and keeps its trimmed text. -/
theorem ofPhysical?_eq_some {offset number : Nat} {raw : Text} {line : Line}
    (h : Line.ofPhysical? offset number raw = some line) :
    line.text = raw.trim ∧ line.kind = LineKind.ofText raw := by
  simp only [Line.ofPhysical?] at h
  split at h
  next =>
    cases h
    exact ⟨rfl, LineKind.ofText_trim raw⟩
  next => cases h

theorem ofPhysical?_eq_none_iff {offset number : Nat} {raw : Text} :
    Line.ofPhysical? offset number raw = none ↔ (LineKind.ofText raw).isContent = false := by
  simp [Line.ofPhysical?]

/-- What a line says depends on its text alone. -/
theorem directive?_of_ofPhysical? {offset number : Nat} {raw : Text} {line : Line}
    (h : Line.ofPhysical? offset number raw = some line) :
    line.directive? = Directive.ofText? raw.trim := by
  obtain ⟨htext, hkind⟩ := ofPhysical?_eq_some h
  rw [Line.directive?, Line.reading, htext, hkind]
  cases hread : Directive.ofText? raw.trim with
  | some d => rw [kind_of_ofText? hread]
  | none =>
    cases LineKind.ofText raw with
    | directive mark => cases mark <;> rfl
    | blank | comment | unrecognized => rfl

theorem mem_linesFrom {offset number : Nat} {raws : List Text} {line : Line}
    (h : line ∈ linesFrom offset number raws) :
    ∃ raw ∈ raws, ∃ offset number, Line.ofPhysical? offset number raw = some line := by
  induction raws generalizing offset number with
  | nil => cases h
  | cons raw raws ih =>
    rcases List.mem_append.1 h with h | h
    · exact ⟨raw, List.mem_cons_self, _, _, Option.mem_toList.1 h⟩
    · obtain ⟨raw', hmem, hline⟩ := ih h
      exact ⟨raw', List.mem_cons_of_mem _ hmem, hline⟩

theorem filterMap_directive?_linesFrom (offset number : Nat) (raws : List Text) :
    (linesFrom offset number raws).filterMap Line.directive? =
      raws.filterMap fun raw => Directive.ofText? raw.trim := by
  induction raws generalizing offset number with
  | nil => rfl
  | cons raw raws ih =>
    rw [linesFrom, List.filterMap_append, ih, List.filterMap_cons]
    cases hline : Line.ofPhysical? offset (number + 1) raw with
    | some line =>
      simp only [Option.toList_some, List.filterMap_cons, List.filterMap_nil,
        directive?_of_ofPhysical? hline]
      cases Directive.ofText? raw.trim <;> rfl
    | none =>
      have hkind := ofPhysical?_eq_none_iff.1 hline
      cases hread : Directive.ofText? raw.trim with
      | none => rfl
      | some d =>
        rw [kind_of_ofText? hread] at hkind
        cases hkind

/-! ### Posts -/

/-- The document of a post is made by the directives among its physical lines, in order. -/
theorem document_parse (post : Text) :
    (parse post).document =
      .ofDirectives (post.physicalLines.filterMap fun raw => Directive.ofText? raw.trim) := by
  rw [parse, lines, filterMap_directive?_linesFrom]

/-- The document of a post is what its lines make of an empty one, each changing what the lines
before have made. -/
theorem document_parse_eq_foldl (post : Text) :
    (parse post).document =
      (lines post).foldl (fun document line => (document.applyText line.text).1) {} := by
  rw [parse, Document.ofDirectives, List.foldl_filterMap]
  refine List.foldl_ext _ _ _ fun document line hline => ?_
  obtain ⟨raw, -, offset, number, hline⟩ := mem_linesFrom hline
  rw [directive?_of_ofPhysical? hline, ← (ofPhysical?_eq_some hline).1, Document.applyText]
  cases Directive.ofText? line.text <;> rfl

/-- A post has no errors if each of its physical lines is blank or says something. -/
theorem errors_parse_eq_nil {post : Text}
    (h : ∀ raw ∈ post.physicalLines, raw.trim = [] ∨ (Directive.ofText? raw.trim).isSome = true) :
    (parse post).errors = [] := by
  rw [parse, List.filterMap_eq_nil_iff]
  intro line hline
  obtain ⟨raw, hraw, offset, number, hline⟩ := mem_linesFrom hline
  obtain ⟨htext, hkind⟩ := ofPhysical?_eq_some hline
  rcases h raw hraw with hblank | hread
  · have hnone : Line.ofPhysical? offset number raw = none := by
      rw [ofPhysical?_eq_none_iff, LineKind.ofText, hblank]
      rfl
    rw [hnone] at hline
    cases hline
  · obtain ⟨d, hd⟩ := Option.isSome_iff_exists.1 hread
    rw [Line.syntaxError?, Line.reading, htext, hkind, kind_of_ofText? hd, hd]

end PostMarkup
