import Mathlib.Logic.ExistsUnique
import PostMarkup.Proofs.Compilation

/-! Where a compilation ends. Each stage can be called on its own; a compilation ends at exactly one
of them, and answers what that stage and the ones before it answer. -/

namespace PostMarkup

/-- The stages of a compilation. -/
inductive Stage where
  | reading
  | checking
  | measuring
  | rendering
  deriving DecidableEq, Repr

def Compilation.stage : Compilation → Stage
  | malformed _ => .reading
  | invalid _ => .checking
  | tooLong .. => .measuring
  | done .. => .rendering

/-- All that a compilation answers. -/
structure Compilation.Answers (c : Compilation) (output : Option Text)
    (errors warnings : List Diagnostic) : Prop where
  output : c.output? = output
  errors : c.errors = errors
  warnings : c.warnings = warnings

/-- A compilation ends at a stage: what the stages find when they are called one by one, and what
the compilation makes of it. -/
inductive EndsAt (limits : Limits) (post : Text) : Stage → Prop
  | reading {errors : List Diagnostic} :
      parseStrict post = .error errors → errors ≠ [] →
      (∀ d ∈ errors, ∃ code ∈ [Code.e100, .e101, .e102, .e103, .e104], d.code = some code) →
      (compile limits post).Answers none errors [] →
      EndsAt limits post .reading
  | checking {document : Document} {report : Report} :
      parseStrict post = .ok document →
      document.validate limits .standard = report → report.errors ≠ [] →
      (∀ v ∈ report.errors,
        v.code ∈ [Code.e200, .e201, .e300, .e301, .e400, .e401, .e402, .e403, .e404]) →
      (∀ v ∈ report.warnings, v.code = .w300) →
      (compile limits post).Answers none (report.errors.map Violation.diagnostic)
        (report.warnings.map Violation.diagnostic) →
      EndsAt limits post .checking
  | measuring {document : Document} {report : Report} {error : Violation} :
      parseStrict post = .ok document →
      document.validate limits .standard = report → report.errors = [] →
      (∀ v ∈ report.warnings, v.code = .w300) →
      (document.limits limits).total < document.render.length →
      document.checkOutput limits document.render = some error → error.code = .e302 →
      (compile limits post).Answers none [error.diagnostic]
        (report.warnings.map Violation.diagnostic) →
      EndsAt limits post .measuring
  | rendering {document : Document} {report : Report} :
      parseStrict post = .ok document →
      document.validate limits .standard = report → report.errors = [] →
      (∀ v ∈ report.warnings, v.code = .w300) →
      document.render.length ≤ (document.limits limits).total →
      document.checkOutput limits document.render = none →
      (compile limits post).Answers (some document.render) []
        (report.warnings.map Violation.diagnostic) →
      EndsAt limits post .rendering

section Ends

variable {limits : Limits} {post : Text}

theorem EndsAt.stage_eq {stage : Stage} (h : EndsAt limits post stage) :
    (compile limits post).stage = stage := by
  cases h with
  | reading hread => rw [compile_of_malformed hread, Compilation.stage]
  | checking hread hreport hne =>
    subst hreport
    rw [compile_of_invalid hread hne, Compilation.stage]
  | measuring hread hreport hnil _ _ hlong =>
    subst hreport
    rw [compile_of_checkOutput_eq_some hread hnil hlong, Compilation.stage]
  | rendering hread hreport hnil _ _ hshort =>
    subst hreport
    rw [compile_of_checkOutput_eq_none hread hnil hshort, Compilation.stage]

theorem exists_endsAt (limits : Limits) (post : Text) : ∃ stage, EndsAt limits post stage := by
  cases hread : parseStrict post with
  | error errors =>
    obtain ⟨hne, herrors⟩ := parseStrict_eq_error_iff.1 hread
    refine ⟨_, .reading hread ?_ (fun _ => code_of_mem_parseStrict hread) ?_⟩
    · rw [← herrors]
      simpa using hne
    · rw [compile_of_malformed hread]
      exact ⟨rfl, herrors, rfl⟩
  | ok document =>
    have hwarnings : ∀ v ∈ (document.validate limits .standard).warnings, v.code = .w300 :=
      fun _ => Document.code_of_mem_warnings_validate
    by_cases hvalid : (document.validate limits .standard).errors = []
    · cases hmeasure : document.checkOutput limits document.render with
      | some error =>
        obtain ⟨hlong, rfl⟩ := Document.checkOutput_eq_some_iff.1 hmeasure
        refine ⟨_, .measuring hread rfl hvalid hwarnings hlong hmeasure rfl ?_⟩
        rw [compile_of_checkOutput_eq_some hread hvalid hmeasure]
        exact ⟨rfl, rfl, rfl⟩
      | none =>
        have hshort := Document.checkOutput_eq_none_iff.1 hmeasure
        refine ⟨_, .rendering hread rfl hvalid hwarnings hshort hmeasure ?_⟩
        rw [compile_of_checkOutput_eq_none hread hvalid hmeasure]
        exact ⟨rfl, rfl, rfl⟩
    · refine ⟨_, .checking hread rfl hvalid (fun _ => Document.code_of_mem_errors_validate)
        hwarnings ?_⟩
      rw [compile_of_invalid hread hvalid]
      exact ⟨rfl, rfl, rfl⟩

theorem existsUnique_endsAt (limits : Limits) (post : Text) :
    ∃! stage, EndsAt limits post stage := by
  obtain ⟨stage, h⟩ := exists_endsAt limits post
  exact ⟨stage, h, fun _ h' => h'.stage_eq.symm.trans h.stage_eq⟩

theorem success_iff_errors_eq_nil :
    (compile limits post).success = true ↔ (compile limits post).errors = [] := by
  rw [Compilation.success]
  obtain ⟨stage, h⟩ := exists_endsAt limits post
  cases h with
  | reading _ hne _ h => simp [h.output, h.errors, hne]
  | checking _ _ hne _ _ h => simp [h.output, h.errors, hne]
  | measuring _ _ _ _ _ _ _ h => simp [h.output, h.errors]
  | rendering _ _ _ _ _ _ h => simp [h.output, h.errors]

/-- A compilation ends at exactly one stage, and it ends well exactly if it reports no error. What
it renders then is a document with all its parts, none of them over a limit in force for it. -/
theorem compile_stages (limits : Limits) (post : Text) :
    (∃! stage, EndsAt limits post stage) ∧
      ((compile limits post).success = true ↔ (compile limits post).errors = []) ∧
      ∀ output, (compile limits post).output? = some output →
        ∃ document, parseStrict post = .ok document ∧ output = document.render ∧
          output.length ≤ (document.limits limits).total ∧ document.Complete ∧
          1 ≤ document.evidence.length ∧ document.evidence.length ≤ 5 ∧
          document.WithinLimits (document.limits limits) := by
  refine ⟨existsUnique_endsAt limits post, success_iff_errors_eq_nil, fun output houtput => ?_⟩
  obtain ⟨hread, hvalid, hmeasure, rfl⟩ := output?_compile_eq_some_iff.1 houtput
  obtain ⟨hcomplete, hwithin⟩ := Document.parts_of_errors_validate hvalid
  have hevidence : 1 ≤ (parse post).document.evidence.length :=
    List.length_pos_iff.2 hcomplete.evidence
  exact ⟨_, parseStrict_eq_ok_iff.2 ⟨hread, rfl⟩, rfl, Document.checkOutput_eq_none_iff.1 hmeasure,
    hcomplete, hevidence, hwithin.evidence_length, hwithin⟩

end Ends

/-- A post that sets its own limit on the whole to just the length of its rendered form. -/
def tight : Text :=
  ['\n'].intercalate <| List.map String.toList
    ["^ total 41", "# \"T\"", "! \"C\"", "+ 1 | \"x\"", "> \"I\"", "@ \"S\" | a.b"]

def tightOutput : Text :=
  ['\n'].intercalate <| List.map String.toList
    ["T.", "", "C.", "", "Results:", "- 1 x", "", "I.", "", "Source: S", "a.b"]

theorem compile_stages_tight :
    (compile {} tight).output? = some tightOutput ∧
      tightOutput.length = 41 ∧
      ∃ document, parseStrict tight = .ok document ∧ tightOutput = document.render ∧
        (document.limits {}).total = 41 ∧
        tightOutput.length ≤ (document.limits {}).total ∧ document.Complete ∧
        1 ≤ document.evidence.length ∧ document.evidence.length ≤ 5 ∧
        document.WithinLimits (document.limits {}) := by
  have h : (compile {} tight).output? = some tightOutput := by decide +kernel
  have htotal : ((parse tight).document.limits {}).total = 41 := by decide +kernel
  obtain ⟨-, -, hends⟩ := compile_stages {} tight
  obtain ⟨document, hread, hrender, hlength, hparts⟩ := hends tightOutput h
  obtain ⟨-, rfl⟩ := parseStrict_eq_ok_iff.1 hread
  exact ⟨h, by decide, _, hread, hrender, htotal, hlength, hparts⟩

end PostMarkup
