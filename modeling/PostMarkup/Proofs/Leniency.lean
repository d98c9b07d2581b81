import Mathlib.Algebra.Order.BigOperators.Group.List
import Mathlib.Algebra.Order.Group.Nat
import PostMarkup.Proofs.Score

/-! The analysis under thresholds that ask less. It finds nothing that it does not find under
stricter ones, apart from the limits that it names: some findings go, the others stay in their
order, and none is exchanged for another. -/

namespace PostMarkup

namespace Thresholds

/-- The second thresholds ask no more of a text than the first in any respect. -/
structure Looser (strict loose : Thresholds) : Prop where
  maxTitleLength : strict.maxTitleLength ≤ loose.maxTitleLength
  minClaimLines : loose.minClaimLines ≤ strict.minClaimLines
  minInsightLines : loose.minInsightLines ≤ strict.minInsightLines
  minEvidenceSignals : loose.minEvidenceSignals ≤ strict.minEvidenceSignals
  maxTextLength : strict.maxTextLength ≤ loose.maxTextLength

end Thresholds

/-! ### Findings whatever the limit -/

namespace Finding

/-- The finding without the limit that it names. -/
def unlimited : Finding → Finding
  | longTitle length _ => longTitle length 0
  | longText length _ => longText length 0
  | finding => finding

theorem isIssue_unlimited (finding : Finding) : finding.unlimited.isIssue = finding.isIssue := by
  cases finding <;> rfl

theorem points_unlimited (finding : Finding) : finding.unlimited.points = finding.points := by
  cases finding <;> rfl

end Finding

namespace Analysis

/-- The findings of the first list are among those of the second, in the same order, if the limits
that they name are not looked at. -/
def Within (findings findings' : List Finding) : Prop :=
  (findings.map Finding.unlimited).Sublist (findings'.map Finding.unlimited)

namespace Within

variable {findings findings' rest rest' : List Finding}

theorem refl (findings : List Finding) : Within findings findings := List.Sublist.refl _

theorem append (h : Within findings findings') (hrest : Within rest rest') :
    Within (findings ++ rest) (findings' ++ rest') := by
  rw [Within, List.map_append, List.map_append]
  exact List.Sublist.append h hrest

/-- A finding that is made in fewer cases. -/
theorem ite_nil_right {p q : Prop} [Decidable p] [Decidable q] {finding finding' : Finding}
    (h : p → q)
    (hsame : finding.unlimited = finding'.unlimited) :
    Within (if p then [finding] else []) (if q then [finding'] else []) := by
  by_cases hp : p
  · rw [if_pos hp, if_pos (h hp), Within, List.map_singleton, hsame, List.map_singleton]
  · rw [if_neg hp]
    exact List.nil_sublist _

/-- A finding that is spared in more cases. -/
theorem ite_nil_left {p q : Prop} [Decidable p] [Decidable q] {finding : Finding} (h : q → p) :
    Within (if p then [] else [finding]) (if q then [] else [finding]) := by
  by_cases hp : p
  · rw [if_pos hp]
    exact List.nil_sublist _
  · rw [if_neg hp, if_neg (mt h hp)]
    exact refl _

theorem countP_le {p : Finding → Bool} (hp : ∀ finding, p finding.unlimited = p finding)
    (h : Within findings findings') : findings.countP p ≤ findings'.countP p := by
  have hmap (findings : List Finding) :
      (findings.map Finding.unlimited).countP p = findings.countP p := by
    rw [List.countP_map]
    exact List.countP_congr fun finding _ => by simp [hp]
  rw [← hmap findings, ← hmap findings']
  exact List.Sublist.countP_le h

theorem points_le (h : Within findings findings') : points findings ≤ points findings' := by
  have hmap (findings : List Finding) :
      points (findings.map Finding.unlimited) = points findings := by
    rw [points, List.map_map, points]
    congr 1
    exact List.map_congr_left fun finding _ => finding.points_unlimited
  rw [← hmap findings, ← hmap findings']
  exact (List.Sublist.map Finding.points h).sum_le_sum fun _ _ => Nat.zero_le _

end Within

section Lists

variable {a a' : Analysis} (h : Within a.findings a'.findings)
include h

theorem length_issues_le : a.issues.length ≤ a'.issues.length := by
  rw [issues, issues, List.length_map, List.length_map, ← List.countP_eq_length_filter,
    ← List.countP_eq_length_filter]
  exact h.countP_le Finding.isIssue_unlimited

theorem length_warnings_le : a.warnings.length ≤ a'.warnings.length := by
  rw [warnings, warnings, List.length_map, List.length_map, ← List.countP_eq_length_filter,
    ← List.countP_eq_length_filter]
  exact h.countP_le fun finding => by rw [finding.isIssue_unlimited]

theorem valid_of_within (hvalid : a'.valid = true) : a.valid = true := by
  rw [valid_iff_issues_eq_nil, ← List.length_eq_zero_iff] at hvalid ⊢
  exact Nat.eq_zero_of_le_zero (hvalid ▸ length_issues_le h)

end Lists

section Looser

variable {strict loose : Thresholds} (h : strict.Looser loose)
include h

theorem titleFindings_within (lines : List Text) :
    Within (titleFindings loose lines) (titleFindings strict lines) := by
  rw [titleFindings, titleFindings]
  cases lines.head? with
  | none => exact Within.refl _
  | some line => exact Within.ite_nil_right h.maxTitleLength.trans_lt rfl

/-- Whether there is any evidence is no matter of thresholds. -/
theorem evidenceFindings_within (signals : Nat) :
    Within (evidenceFindings loose signals) (evidenceFindings strict signals) := by
  rw [evidenceFindings, evidenceFindings]
  by_cases hnone : signals = 0
  · rw [if_pos hnone, if_pos hnone]
    exact Within.refl _
  · rw [if_neg hnone, if_neg hnone]
    exact Within.ite_nil_right (fun hthin => hthin.trans_le h.minEvidenceSignals) rfl

theorem title_outlineOf_of_looser {t : Text} (htitle : (outlineOf strict t).title = true) :
    (outlineOf loose t).title = true := by
  rw [outlineOf, List.isEmpty_iff] at htitle ⊢
  have hwithin := titleFindings_within h t.contentLines
  rw [htitle] at hwithin
  exact List.map_eq_nil_iff.1 (List.sublist_nil.1 hwithin)

theorem claim_outlineOf_of_looser {t : Text} (hclaim : (outlineOf strict t).claim = true) :
    (outlineOf loose t).claim = true := by
  rw [outlineOf, decide_eq_true_iff] at hclaim ⊢
  exact h.minClaimLines.trans hclaim

theorem insight_outlineOf_of_looser {t : Text} (hinsight : (outlineOf strict t).insight = true) :
    (outlineOf loose t).insight = true := by
  rw [outlineOf, decide_eq_true_iff] at hinsight ⊢
  exact h.minInsightLines.trans hinsight

theorem findings_analyze_within (rules : StyleRules) (t : Text) :
    Within (analyze loose rules t).findings (analyze strict rules t).findings := by
  simp only [analyze]
  refine .append (.append (.append (.append (.append (.append (.append ?_ ?_) ?_) ?_) ?_) ?_) ?_) ?_
  · exact titleFindings_within h _
  · exact evidenceFindings_within h _
  · exact .refl _
  · exact .ite_nil_left (claim_outlineOf_of_looser h)
  · exact .ite_nil_left (insight_outlineOf_of_looser h)
  · exact .refl _
  · exact .refl _
  · exact .ite_nil_right h.maxTextLength.trans_lt rfl

end Looser

end Analysis

/-- Thresholds that ask less make no analysis worse: the score does not fall, no issue and no
warning is added, a valid text stays valid, and what the text was found to have it still has. -/
theorem analyze_looser {strict loose : Thresholds} (h : strict.Looser loose) (rules : StyleRules)
    (t : Text) :
    let before := analyze strict rules t
    let after := analyze loose rules t
    before.score ≤ after.score ∧
      after.issues.length ≤ before.issues.length ∧
      after.warnings.length ≤ before.warnings.length ∧
      (before.valid = true → after.valid = true) ∧
      (before.outline.title = true → after.outline.title = true) ∧
      (before.outline.claim = true → after.outline.claim = true) ∧
      (before.outline.insight = true → after.outline.insight = true) ∧
      (before.outline.source = true → after.outline.source = true) ∧
      after.outline.evidence = before.outline.evidence := by
  have hwithin := Analysis.findings_analyze_within h rules t
  have hpoints := hwithin.points_le
  refine ⟨?_, Analysis.length_issues_le hwithin, Analysis.length_warnings_le hwithin,
    Analysis.valid_of_within hwithin, Analysis.title_outlineOf_of_looser h,
    Analysis.claim_outlineOf_of_looser h, Analysis.insight_outlineOf_of_looser h, id, rfl⟩
  rw [Analysis.score_eq, Analysis.score_eq]
  omega

/-- Thresholds that no text meets. -/
def harsh : Thresholds :=
  { maxTitleLength := 0, minClaimLines := 9, minInsightLines := 9, minEvidenceSignals := 9,
    maxTextLength := 0 }

/-- A text that is good enough for the usual thresholds, but for the number of its signals. -/
def modestText : Text :=
  ['\n'].intercalate <| List.map String.toList ["Up 3x.", "It works.", "Keep going.", "Source: b"]

theorem analyze_looser_harsh :
    harsh.Looser {} ∧
      (analyze harsh .standard modestText).score = 65 ∧
      (analyze {} .standard modestText).score = 95 ∧
      (analyze harsh .standard modestText).score ≤ (analyze {} .standard modestText).score ∧
      (analyze {} .standard modestText).issues.length ≤
        (analyze harsh .standard modestText).issues.length := by
  have hlooser : harsh.Looser {} := by constructor <;> decide
  obtain ⟨hscore, hissues, -⟩ := analyze_looser hlooser .standard modestText
  exact ⟨hlooser, by decide +kernel, by decide +kernel, hscore, hissues⟩

end PostMarkup
