import PostMarkup.Notice
import PostMarkup.Proofs.Errors
import PostMarkup.Proofs.Stages

/-! The notices of a compilation. Each error and each warning has one, which says all that it says,
helps its reader on, and shows the place in the post if it is about a line. -/

namespace PostMarkup

open Text

/-! ### What is put before the author -/

/-- The pointer covers the trimmed text of the physical line with the given number. -/
structure Pointer.Covers (post : Text) (number : Nat) (pointer : Pointer) : Prop where
  stop_le : pointer.offset + pointer.length ≤ post.utf8Size
  slice : ∃ text, (text, number) ∈ (post.physicalLines.map trim).zipIdx 1 ∧
    slice? pointer.offset (pointer.offset + pointer.length) post = some text
  above : ∃ before, slice? 0 pointer.offset post = some before ∧ number = before.count '\n' + 1

/-- The notice puts the diagnostic about the post before the author. It points into the post if it
is about syntax, and then its one pointer covers the line that its message names. -/
structure Notice.Presents (post : Text) (d : Diagnostic) (notice : Notice) : Prop where
  message : notice.message = d.message
  code : notice.code = d.code.map Code.word
  severity : notice.severity = some d.severity
  help : ∃ help, notice.help = some help ∧
    (d.help = some help ∨ d.help = none ∧ d.code.map Code.description = some help)
  pointers_iff : notice.pointers?.isSome = true ↔ notice.post.isSome = true
  post_iff : notice.post.isSome = true ↔
    ∃ code ∈ [Code.e100, .e101, .e102, .e103, .e104], notice.code = some code.word
  covers : ∀ pointers ∈ notice.pointers?, notice.post = some post ∧
    ∃ (pointer : Pointer) (number : Nat) (complaint : String), pointers = [pointer] ∧
      pointer.isPrimary = true ∧ notice.message = s!"Line {number}: " ++ complaint ∧
      pointer.Covers post number

/-- It is enough that a diagnostic has a code, and a label exactly if the code is one of syntax. -/
theorem presents_noticeIn {post : Text} {d : Diagnostic} {code : Code} (hcode : d.code = some code)
    (hlabel : d.label.isSome = true ↔ code ∈ [Code.e100, .e101, .e102, .e103, .e104])
    (hcovers : ∀ label ∈ d.label, ∃ (number : Nat) (complaint : String),
      d.message = s!"Line {number}: " ++ complaint ∧ label.pointer.Covers post number) :
    Notice.Presents post d (d.noticeIn post) where
  message := rfl
  code := rfl
  severity := rfl
  help := by
    show ∃ help, (d.help <|> d.code.map Code.description) = some help ∧ _
    cases hhelp : d.help with
    | some help => exact ⟨help, rfl, .inl rfl⟩
    | none =>
      rw [hcode]
      exact ⟨code.description, rfl, .inr ⟨rfl, rfl⟩⟩
  pointers_iff := by simp [Diagnostic.noticeIn, Diagnostic.notice, Notice.pointers?]
  post_iff := by
    have hpost : (d.noticeIn post).post.isSome = d.label.isSome := Option.isSome_map
    have hword : (d.noticeIn post).code = some code.word := congrArg (Option.map Code.word) hcode
    rw [hpost, hlabel, hword]
    constructor
    · intro hmem
      exact ⟨code, hmem, rfl⟩
    · rintro ⟨other, hmem, hother⟩
      rwa [Code.word_injective (Option.some.inj hother)]
  covers := by
    intro pointers hpointers
    obtain ⟨label, hmem, rfl⟩ := Option.map_eq_some_iff.1 hpointers
    obtain ⟨number, complaint, hmessage, hplace⟩ := hcovers label hmem
    exact ⟨congrArg (Option.map fun _ => post) hmem,
      label.pointer, number, complaint, rfl, rfl, hmessage, hplace⟩

/-! ### Errors in lines -/

/-- The label of an error is where its line stands. -/
theorem covers_of_mem_errors {post : Text} {e : SyntaxError} (h : e ∈ (parse post).errors)
    {label : Label} (hlabel : e.diagnostic.label = some label) :
    label.pointer.Covers post e.line.number := by
  obtain ⟨hline, -⟩ := refused_of_mem_errors h
  have hstands := standsIn_of_mem_lines hline
  have hlt := (isExact_of_mem_lines hline).start_lt_stop
  obtain rfl : ⟨e.line.span, _⟩ = label := Option.some.inj hlabel
  have hstop : e.line.span.start + e.line.span.length = e.line.span.stop := by
    unfold Span.length
    omega
  constructor
  · show e.line.span.start + e.line.span.length ≤ post.utf8Size
    rw [hstop]
    exact hstands.stop_le
  · refine ⟨e.line.text, mem_zipIdx_of_mem_lines hline, ?_⟩
    show slice? e.line.span.start (e.line.span.start + e.line.span.length) post = _
    rw [hstop]
    exact hstands.slice?_span
  · exact hstands.number_eq

theorem presents_of_mem_errors {post : Text} {e : SyntaxError} (h : e ∈ (parse post).errors) :
    Notice.Presents post e.diagnostic (e.diagnostic.noticeIn post) := by
  refine presents_noticeIn rfl (iff_of_true rfl e.mark.code_mem_syntax) ?_
  intro label hlabel
  exact ⟨e.line.number, e.complaint, e.message_diagnostic, covers_of_mem_errors h hlabel⟩

/-! ### Violations -/

theorem Violation.code_not_mem_syntax (v : Violation) :
    v.code ∉ [Code.e100, .e101, .e102, .e103, .e104] := by
  cases v <;> simp [code]

theorem presents_violation (post : Text) (v : Violation) :
    Notice.Presents post v.diagnostic (v.diagnostic.noticeIn post) := by
  refine presents_noticeIn rfl (iff_of_false Bool.false_ne_true v.code_not_mem_syntax) ?_
  rintro label ⟨⟩

/-! ### Compilations -/

namespace Compilation

theorem result_eq_error_iff {c : Compilation} {errors : List Diagnostic} :
    c.result = .error errors ↔ c.success = false ∧ c.errors = errors := by
  unfold result success
  cases c.output? <;> simp

theorem exists_violation_of_mem_warnings {c : Compilation} {d : Diagnostic} (h : d ∈ c.warnings) :
    ∃ v : Violation, d = v.diagnostic := by
  cases c with
  | malformed errors => cases h
  | invalid | tooLong | done =>
    obtain ⟨v, -, rfl⟩ := List.mem_map.1 h
    exact ⟨v, rfl⟩

end Compilation

theorem mem_errors_compile {limits : Limits} {post : Text} {d : Diagnostic}
    (h : d ∈ (compile limits post).errors) :
    (∃ e ∈ (parse post).errors, d = e.diagnostic) ∨ ∃ v : Violation, d = v.diagnostic := by
  obtain ⟨stage, hends⟩ := exists_endsAt limits post
  cases hends with
  | reading hread _ _ hanswers =>
    obtain ⟨-, herrors⟩ := parseStrict_eq_error_iff.1 hread
    rw [hanswers.errors, ← herrors] at h
    obtain ⟨e, he, rfl⟩ := List.mem_map.1 h
    exact .inl ⟨e, he, rfl⟩
  | checking _ _ _ _ _ hanswers =>
    rw [hanswers.errors] at h
    obtain ⟨v, -, rfl⟩ := List.mem_map.1 h
    exact .inr ⟨v, rfl⟩
  | measuring _ _ _ _ _ _ _ hanswers =>
    rw [hanswers.errors] at h
    exact .inr ⟨_, List.mem_singleton.1 h⟩
  | rendering _ _ _ _ _ _ hanswers =>
    rw [hanswers.errors] at h
    cases h

/-- Notices present diagnostics one by one if each presents its own. -/
theorem forall₂_presents {post : Text} {diagnostics : List Diagnostic}
    (h : ∀ d ∈ diagnostics, Notice.Presents post d (d.noticeIn post)) :
    List.Forall₂ (Notice.Presents post) diagnostics
      (diagnostics.map (Diagnostic.noticeIn post)) := by
  rw [List.forall₂_map_right_iff, List.forall₂_same]
  exact h

/-- A compilation that fails has a notice for each of its errors, in their order, and every notice
presents its error: if it is about a line, it points at just the trimmed text of that line. Warnings
are presented in the same way, and never point anywhere. -/
theorem notices_compile (limits : Limits) (post : Text) :
    (∀ errors, (compile limits post).result = .error errors →
      errors = (compile limits post).errors ∧ errors ≠ [] ∧
        List.Forall₂ (Notice.Presents post) errors (Failure.compile errors post).notices) ∧
    List.Forall₂ (Notice.Presents post) (compile limits post).warnings
      ((compile limits post).warnings.map (Diagnostic.noticeIn post)) ∧
    ∀ notice ∈ (compile limits post).warnings.map (Diagnostic.noticeIn post),
      notice.pointers? = none ∧ notice.post = none := by
  refine ⟨fun errors h => ?_, ?_, ?_⟩
  · obtain ⟨hfails, rfl⟩ := Compilation.result_eq_error_iff.1 h
    have hne : (compile limits post).errors ≠ [] := by
      intro hnil
      rw [success_iff_errors_eq_nil.2 hnil] at hfails
      cases hfails
    refine ⟨rfl, hne, forall₂_presents fun d hd => ?_⟩
    obtain ⟨e, he, rfl⟩ | ⟨v, rfl⟩ := mem_errors_compile hd
    · exact presents_of_mem_errors he
    · exact presents_violation post v
  · refine forall₂_presents fun d hd => ?_
    obtain ⟨v, rfl⟩ := Compilation.exists_violation_of_mem_warnings hd
    exact presents_violation post v
  · intro notice hnotice
    obtain ⟨d, hd, rfl⟩ := List.mem_map.1 hnotice
    obtain ⟨v, rfl⟩ := Compilation.exists_violation_of_mem_warnings hd
    exact ⟨rfl, rfl⟩

/-- A post with letters of two bytes and with lines that end in a carriage return. The second line
is no evidence. -/
def accented : Text := "# \"é\"\r\n  + é | x\t\r\n".toList

theorem notices_compile_accented :
    ∃ errors, (compile {} accented).result = .error errors ∧
      List.Forall₂ (Notice.Presents accented) errors (Failure.compile errors accented).notices ∧
      (Failure.compile errors accented).notices.map Notice.pointers? =
        [some [⟨10, 8, "does not match the evidence grammar", true⟩]] := by
  have h : (compile {} accented).result = .error (compile {} accented).errors := by
    decide +kernel
  obtain ⟨-, -, hpresents⟩ := (notices_compile {} accented).1 _ h
  exact ⟨_, h, hpresents, by decide +kernel⟩

end PostMarkup
