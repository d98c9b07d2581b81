import PostMarkup.Compilation
import PostMarkup.Proofs.Validation

/-! A compilation told from its stages, and what one that ends well has made sure of: the document
of the post has every part that a post must have, and its prose is free of what the rules of style
find. -/

namespace PostMarkup

section Stages

variable {limits : Limits} {post : Text} {document : Document}

theorem parseStrict_eq_ok_iff :
    parseStrict post = .ok document ↔
      (parse post).errors = [] ∧ (parse post).document = document := by
  rw [parseStrict]
  split
  next h => simp [h]
  next h => simp [h]

theorem parseStrict_eq_error_iff {errors : List Diagnostic} :
    parseStrict post = .error errors ↔
      (parse post).errors ≠ [] ∧ (parse post).errors.map SyntaxError.diagnostic = errors := by
  rw [parseStrict]
  split
  next h => simp [h]
  next h => simp [h]

theorem Mark.code_mem_syntax (mark : Mark) :
    mark.code ∈ [Code.e100, .e101, .e102, .e103, .e104] := by
  cases mark <;> decide

theorem code_of_mem_parseStrict {errors : List Diagnostic} (h : parseStrict post = .error errors)
    {d : Diagnostic} (hd : d ∈ errors) :
    ∃ code ∈ [Code.e100, .e101, .e102, .e103, .e104], d.code = some code := by
  obtain ⟨-, rfl⟩ := parseStrict_eq_error_iff.1 h
  obtain ⟨e, -, rfl⟩ := List.mem_map.1 hd
  exact ⟨e.mark.code, e.mark.code_mem_syntax, rfl⟩

theorem compile_of_malformed {errors : List Diagnostic} (h : parseStrict post = .error errors) :
    compile limits post = .malformed (parse post).errors := by
  obtain ⟨hne, -⟩ := parseStrict_eq_error_iff.1 h
  rw [compile, if_pos hne]

section Read

variable (hread : parseStrict post = .ok document)
include hread

theorem compile_of_invalid (h : (document.validate limits .standard).errors ≠ []) :
    compile limits post = .invalid (document.validate limits .standard) := by
  obtain ⟨hnil, rfl⟩ := parseStrict_eq_ok_iff.1 hread
  rw [compile, if_neg (not_not_intro hnil), if_pos h]

theorem compile_of_checkOutput_eq_some {error : Violation}
    (h : (document.validate limits .standard).errors = [])
    (hlong : document.checkOutput limits document.render = some error) :
    compile limits post = .tooLong error (document.validate limits .standard).warnings := by
  obtain ⟨hnil, rfl⟩ := parseStrict_eq_ok_iff.1 hread
  rw [compile, if_neg (not_not_intro hnil), if_neg (not_not_intro h)]
  simp only [hlong]

theorem compile_of_checkOutput_eq_none (h : (document.validate limits .standard).errors = [])
    (hshort : document.checkOutput limits document.render = none) :
    compile limits post =
      .done document.render (document.validate limits .standard).warnings := by
  obtain ⟨hnil, rfl⟩ := parseStrict_eq_ok_iff.1 hread
  rw [compile, if_neg (not_not_intro hnil), if_neg (not_not_intro h)]
  simp only [hshort]

end Read

theorem Document.checkOutput_eq_some_iff {output : Text} {error : Violation} :
    document.checkOutput limits output = some error ↔
      (document.limits limits).total < output.length ∧
        error = .postTooLong output.length (document.limits limits).total := by
  rw [checkOutput]
  split
  next h => simp [h, eq_comm]
  next h => simp [h]

theorem Document.checkOutput_eq_none_iff {output : Text} :
    document.checkOutput limits output = none ↔
      output.length ≤ (document.limits limits).total := by
  simp [checkOutput]

end Stages

/-- A compilation ends well exactly if no stage finds an error, and then with the rendered form. -/
theorem output?_compile_eq_some_iff {limits : Limits} {post output : Text} :
    (compile limits post).output? = some output ↔
      (parse post).errors = [] ∧ ((parse post).document.validate limits .standard).errors = [] ∧
        (parse post).document.checkOutput limits output = none ∧
          output = (parse post).document.render := by
  cases hread : parseStrict post with
  | error errors =>
    obtain ⟨hne, -⟩ := parseStrict_eq_error_iff.1 hread
    simp [compile_of_malformed hread, Compilation.output?, hne]
  | ok document =>
    obtain ⟨hnil, rfl⟩ := parseStrict_eq_ok_iff.1 hread
    by_cases hvalid : ((parse post).document.validate limits .standard).errors = []
    · cases hmeasure : (parse post).document.checkOutput limits (parse post).document.render with
      | some error =>
        simp only [compile_of_checkOutput_eq_some hread hvalid hmeasure, Compilation.output?,
          reduceCtorEq, false_iff]
        rintro ⟨-, -, hshort, rfl⟩
        rw [hmeasure] at hshort
        cases hshort
      | none =>
        simp only [compile_of_checkOutput_eq_none hread hvalid hmeasure, Compilation.output?,
          Option.some.injEq, hnil, hvalid, true_and]
        constructor
        · rintro rfl
          exact ⟨hmeasure, rfl⟩
        · rintro ⟨-, rfl⟩
          rfl
    · simp [compile_of_invalid hread hvalid, Compilation.output?, hvalid]

section Compiled

variable {limits : Limits} {post output : Text} (h : (compile limits post).output? = some output)
include h

theorem eq_render_of_compile : output = (parse post).document.render :=
  (output?_compile_eq_some_iff.1 h).2.2.2

theorem complete_of_compile : (parse post).document.Complete :=
  (Document.parts_of_errors_validate (output?_compile_eq_some_iff.1 h).2.1).1

theorem isClean_prose_of_compile :
    (StyleRules.standard.scan (parse post).document.prose).isClean = true :=
  Document.isClean_prose_of_errors_validate (output?_compile_eq_some_iff.1 h).2.1

end Compiled

end PostMarkup
