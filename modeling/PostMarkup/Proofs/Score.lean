import Mathlib.Algebra.BigOperators.Group.List.Basic
import Mathlib.Algebra.GroupWithZero.Nat
import PostMarkup.Analysis

/-! The score of an analysis. Penalties are told apart up to a bound only, and so is the number of
exclamation marks, but the bound lies so high that the score is the one that exact sums give. -/

namespace PostMarkup

namespace Finding

/-- What the finding costs, however much that is. -/
def points : Finding → Nat
  | exclamations count => 5 * count
  | finding => finding.penalty

theorem penalty_eq (finding : Finding) : finding.penalty = min maxPenalty finding.points := by
  cases finding with
  | exclamations count =>
    simp only [penalty, points]
    omega
  | _ => rfl

end Finding

namespace Analysis

/-- What the findings cost together, however much that is. -/
def points (findings : List Finding) : Nat := (findings.map Finding.points).sum

@[simp] theorem points_nil : points [] = 0 := rfl

@[simp] theorem points_cons (finding : Finding) (findings : List Finding) :
    points (finding :: findings) = finding.points + points findings :=
  rfl

@[simp] theorem points_append (findings findings' : List Finding) :
    points (findings ++ findings') = points findings + points findings' := by
  simp [points]

/-- One more finding on a bounded total leaves the bounded total. -/
theorem min_add_penalty (total : Nat) (finding : Finding) :
    min maxPenalty (min maxPenalty total + finding.penalty) =
      min maxPenalty (total + finding.points) := by
  rw [finding.penalty_eq]
  omega

theorem foldl_penalty (findings : List Finding) (total : Nat) :
    findings.foldl (fun total finding => min maxPenalty (total + finding.penalty))
        (min maxPenalty total) = min maxPenalty (total + points findings) := by
  induction findings generalizing total with
  | nil => rfl
  | cons finding findings ih =>
    rw [List.foldl_cons, min_add_penalty, ih, points_cons, Nat.add_assoc]

theorem penalty_eq_min (a : Analysis) : a.penalty = min maxPenalty (points a.findings) := by
  have h := foldl_penalty a.findings 0
  rwa [Nat.zero_add] at h

theorem score_eq (a : Analysis) : a.score = 100 - min 100 (points a.findings) := by
  have hmax : 255 ≤ maxPenalty := by decide
  rw [score, penalty_eq_min]
  omega

/-! ### The findings one by one -/

section Points

variable (thresholds : Thresholds) (lines : List Text)

theorem points_ite (p : Prop) [Decidable p] (finding : Finding) :
    points (if p then [finding] else []) = if p then finding.points else 0 := by
  split <;> rfl

theorem points_titleFindings :
    points (titleFindings thresholds lines) =
      (if lines = [] then 15 else 0) +
        if ∃ line ∈ lines.head?, thresholds.maxTitleLength < line.length then 10 else 0 := by
  cases lines with
  | nil => rfl
  | cons line lines => simp [titleFindings, points_ite, Finding.points, Finding.penalty]

theorem points_evidenceFindings (signals : Nat) :
    points (evidenceFindings thresholds signals) =
      (if signals = 0 then 20 else 0) +
        if 1 ≤ signals ∧ signals < thresholds.minEvidenceSignals then 5 else 0 := by
  rw [evidenceFindings]
  by_cases hnone : signals = 0
  · simp [hnone, Finding.points, Finding.penalty]
  · have hsome : 1 ≤ signals := Nat.one_le_iff_ne_zero.2 hnone
    simp [hnone, hsome, points_ite, Finding.points, Finding.penalty]

theorem points_styleFindings (report : StyleReport) :
    points (styleFindings report) =
      10 * report.phrases.length + (if report.hasEmoji then 10 else 0) +
        5 * report.exclamations := by
  have hphrases : points (report.phrases.map .bannedPhrase) = 10 * report.phrases.length := by
    simp [points, Function.comp_def, Finding.points, Finding.penalty, Nat.mul_comm]
  have hmarks : points (if 0 < report.exclamations then [.exclamations report.exclamations]
      else []) = 5 * report.exclamations := by
    rw [points_ite]
    split
    next => rfl
    next h => omega
  rw [styleFindings, points_append, points_append, hphrases, hmarks, points_ite]
  rfl

theorem points_questionFindings :
    points (questionFindings lines) =
      if ∃ line ∈ lines.head?, line.getLast? = some '?' then 10 else 0 := by
  cases lines with
  | nil => rfl
  | cons line lines => simp [questionFindings, points_ite, Finding.points, Finding.penalty]

end Points

end Analysis

/-- What a text loses for all its defects together, which can be more than a hundred points. -/
def Text.deductions (thresholds : Thresholds) (rules : StyleRules) (t : Text) : Nat :=
  let lines := t.contentLines
  let signals := lines.countP Signal.metric.found + lines.countP Signal.startsBullet
  let prose := lines.countP fun line => line.head? != some '#' && !Signal.source.found line
  (if lines = [] then 15 else 0) +
    (if ∃ line ∈ lines.head?, thresholds.maxTitleLength < line.length then 10 else 0) +
    (if signals = 0 then 20 else 0) +
    (if 1 ≤ signals ∧ signals < thresholds.minEvidenceSignals then 5 else 0) +
    (if Signal.source.found t then 0 else 15) +
    (if lines.length < thresholds.minClaimLines then 10 else 0) +
    (if prose < thresholds.minInsightLines then 5 else 0) +
    10 * (rules.phrasesIn t).length +
    (if rules.hasEmoji t then 10 else 0) +
    5 * t.count '!' +
    (if ∃ line ∈ lines.head?, line.getLast? = some '?' then 10 else 0) +
    (if thresholds.maxTextLength < t.length then 5 else 0)

theorem points_findings_analyze (thresholds : Thresholds) (rules : StyleRules) (t : Text) :
    Analysis.points (analyze thresholds rules t).findings = t.deductions thresholds rules := by
  have hunless (p : Prop) [Decidable p] (finding : Finding) :
      Analysis.points (if p then [] else [finding]) = if p then 0 else finding.points := by
    split <;> rfl
  -- What a text has enough of is decided with `≤` and costs nothing.
  have hfew (least number cost : Nat) :
      (if decide (least ≤ number) = true then 0 else cost) =
        if number < least then cost else 0 := by
    by_cases h : number < least
    · simp [h, Nat.not_le.2 h]
    · simp [h, Nat.not_lt.1 h]
  simp only [analyze, Analysis.outlineOf, Analysis.points_append, Analysis.points_titleFindings,
    Analysis.points_evidenceFindings, Analysis.points_styleFindings,
    Analysis.points_questionFindings, Analysis.points_ite, hunless, hfew,
    Analysis.countSignals_eq, StyleRules.scan, Finding.points, Finding.penalty, Text.deductions,
    Nat.add_assoc]
  rfl

/-- The score is a hundred less what the text loses, and nought if that is more, whatever the
bounds within which penalties are told apart. -/
theorem score_analyze (thresholds : Thresholds) (rules : StyleRules) (t : Text) :
    (analyze thresholds rules t).score = 100 - min 100 (t.deductions thresholds rules) ∧
      (analyze thresholds rules t).score ≤ 100 := by
  have hscore : (analyze thresholds rules t).score =
      100 - min 100 (t.deductions thresholds rules) := by
    rw [Analysis.score_eq, points_findings_analyze]
  exact ⟨hscore, by omega⟩

end PostMarkup
