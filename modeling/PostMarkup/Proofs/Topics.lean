import Mathlib.Algebra.GroupWithZero.Nat
import Mathlib.Data.List.Basic
import PostMarkup.Analysis

/-! The findings of an analysis sorted by what they are about. Every group of findings in the report
is about one topic, so what a group reports can be told apart from the rest. -/

namespace PostMarkup

namespace Finding

/-- What findings are about. -/
inductive Topic where
  | title
  | evidence
  | source
  | claim
  | insight
  | wording
  | length
  deriving DecidableEq

def topic : Finding → Topic
  | missingTitle | longTitle .. | questionTitle => .title
  | noEvidence | thinEvidence => .evidence
  | noSource => .source
  | tooShort => .claim
  | noInsight => .insight
  | bannedPhrase _ | emoji | exclamations _ => .wording
  | longText .. => .length

def phrase? : Finding → Option Text
  | bannedPhrase phrase => some phrase
  | _ => none

def exclamations? : Finding → Option Nat
  | exclamations count => some count
  | _ => none

section Wording

variable {finding : Finding} (h : finding.topic ≠ .wording)
include h

theorem phrase?_eq_none : finding.phrase? = none := by
  cases finding with
  | bannedPhrase phrase => exact absurd rfl h
  | _ => rfl

theorem exclamations?_eq_none : finding.exclamations? = none := by
  cases finding with
  | exclamations count => exact absurd rfl h
  | _ => rfl

end Wording

end Finding

namespace Analysis

/-- The findings about a topic, in the order of the report. -/
def about (a : Analysis) (topic : Finding.Topic) : List Finding :=
  a.findings.filter fun finding => finding.topic = topic

/-- The phrases that are reported. -/
def bannedPhrases (a : Analysis) : List Text := a.findings.filterMap Finding.phrase?

/-- The number of exclamation marks that is reported, nought if none is. -/
def exclamations (a : Analysis) : Nat := (a.findings.filterMap Finding.exclamations?).sum

theorem filter_topic {findings : List Finding} {topic : Finding.Topic}
    (h : ∀ finding ∈ findings, finding.topic = topic) (asked : Finding.Topic) :
    findings.filter (fun finding => finding.topic = asked) =
      if topic = asked then findings else [] := by
  split
  next heq => exact List.filter_eq_self.2 fun finding hmem => by simp [h finding hmem, heq]
  next hne => exact List.filter_eq_nil_iff.2 fun finding hmem => by simp [h finding hmem, hne]

theorem mem_findings_iff_mem_about {a : Analysis} {finding : Finding} :
    finding ∈ a.findings ↔ finding ∈ a.about finding.topic := by
  simp [about]

/-- What only findings about the topic have is taken from these alone. -/
theorem filterMap_about {α : Type} {a : Analysis} {topic : Finding.Topic} {f : Finding → Option α}
    (h : ∀ finding, finding.topic ≠ topic → f finding = none) :
    (a.about topic).filterMap f = a.findings.filterMap f := by
  rw [about, List.filterMap_filter]
  refine List.filterMap_congr fun finding _ => ?_
  by_cases htopic : finding.topic = topic
  · rw [if_pos (by simpa using htopic)]
  · rw [if_neg (by simpa using htopic), h finding htopic]

theorem filterMap_phrase?_styleFindings (report : StyleReport) :
    (styleFindings report).filterMap Finding.phrase? = report.phrases := by
  have hphrases : (report.phrases.map Finding.bannedPhrase).filterMap Finding.phrase? =
      report.phrases := by
    rw [List.filterMap_map]
    exact List.filterMap_some
  rw [styleFindings, List.filterMap_append, List.filterMap_append, hphrases]
  cases report.hasEmoji <;> split <;> simp [Finding.phrase?]

theorem sum_exclamations?_styleFindings (report : StyleReport) :
    ((styleFindings report).filterMap Finding.exclamations?).sum = report.exclamations := by
  have hphrases :
      (report.phrases.map Finding.bannedPhrase).filterMap Finding.exclamations? = [] := by
    simp [Finding.exclamations?]
  have hemoji : (if report.hasEmoji then [Finding.emoji] else []).filterMap
      Finding.exclamations? = [] := by
    split <;> rfl
  rw [styleFindings, List.filterMap_append, List.filterMap_append, hphrases, hemoji]
  split
  next => simp [Finding.exclamations?]
  next hnone => simpa using (Nat.eq_zero_of_not_pos hnone).symm

section Groups

variable {thresholds : Thresholds} {lines : List Text} {finding : Finding}

theorem topic_of_mem_titleFindings (h : finding ∈ titleFindings thresholds lines) :
    finding.topic = .title := by
  cases lines with
  | nil =>
    rw [List.mem_singleton.1 h]
    rfl
  | cons line lines =>
    rw [List.mem_singleton.1 (List.mem_ite_nil_right.1 h).2]
    rfl

theorem topic_of_mem_evidenceFindings {signals : Nat}
    (h : finding ∈ evidenceFindings thresholds signals) : finding.topic = .evidence := by
  rw [evidenceFindings] at h
  split at h
  · rw [List.mem_singleton.1 h]
    rfl
  · rw [List.mem_singleton.1 (List.mem_ite_nil_right.1 h).2]
    rfl

theorem topic_of_mem_styleFindings {report : StyleReport} (h : finding ∈ styleFindings report) :
    finding.topic = .wording := by
  simp only [styleFindings, List.mem_append, List.mem_map, List.mem_ite_nil_right,
    List.mem_singleton] at h
  rcases h with (⟨phrase, -, rfl⟩ | ⟨-, rfl⟩) | ⟨-, rfl⟩ <;> rfl

theorem topic_of_mem_questionFindings (h : finding ∈ questionFindings lines) :
    finding.topic = .title := by
  cases lines with
  | nil => cases h
  | cons line lines =>
    rw [List.mem_singleton.1 (List.mem_ite_nil_right.1 h).2]
    rfl

theorem topic_of_mem_when {p : Prop} [Decidable p] {single : Finding}
    (h : finding ∈ if p then [single] else []) : finding.topic = single.topic := by
  rw [List.mem_singleton.1 (List.mem_ite_nil_right.1 h).2]

theorem topic_of_mem_unless {p : Prop} [Decidable p] {single : Finding}
    (h : finding ∈ if p then [] else [single]) : finding.topic = single.topic := by
  rw [List.mem_singleton.1 (List.mem_ite_nil_left.1 h).2]

end Groups

section Analyzed

variable {thresholds : Thresholds} {rules : StyleRules} {t : Text}

theorem evidence_analyze :
    (analyze thresholds rules t).outline.evidence = countSignals t.contentLines :=
  rfl

/-- The report is made of groups of findings of which each is about one topic. -/
theorem about_analyze (topic : Finding.Topic) :
    (analyze thresholds rules t).about topic =
      (if .title = topic then titleFindings thresholds t.contentLines else []) ++
        (if .evidence = topic then
          evidenceFindings thresholds (outlineOf thresholds t).evidence else []) ++
        (if .source = topic then
          (if (outlineOf thresholds t).source then [] else [.noSource]) else []) ++
        (if .claim = topic then
          (if (outlineOf thresholds t).claim then [] else [.tooShort]) else []) ++
        (if .insight = topic then
          (if (outlineOf thresholds t).insight then [] else [.noInsight]) else []) ++
        (if .wording = topic then styleFindings (rules.scan t) else []) ++
        (if .title = topic then questionFindings t.contentLines else []) ++
        (if .length = topic then
          (if thresholds.maxTextLength < t.length then
            [.longText t.length thresholds.maxTextLength] else []) else []) := by
  simp only [about, analyze, List.filter_append]
  rw [filter_topic fun _ => topic_of_mem_titleFindings,
    filter_topic fun _ => topic_of_mem_evidenceFindings,
    filter_topic fun _ => topic_of_mem_styleFindings,
    filter_topic fun _ => topic_of_mem_questionFindings, filter_topic fun _ => topic_of_mem_when,
    filter_topic fun _ => topic_of_mem_unless, filter_topic fun _ => topic_of_mem_unless,
    filter_topic fun _ => topic_of_mem_unless]
  rfl

theorem about_title_analyze :
    (analyze thresholds rules t).about .title =
      titleFindings thresholds t.contentLines ++ questionFindings t.contentLines := by
  simp [about_analyze]

theorem about_wording_analyze :
    (analyze thresholds rules t).about .wording = styleFindings (rules.scan t) := by
  simp [about_analyze]

/-- The phrases that are reported are those that the rules find. -/
theorem bannedPhrases_analyze :
    (analyze thresholds rules t).bannedPhrases = rules.phrasesIn t := by
  rw [bannedPhrases, ← filterMap_about fun _ => Finding.phrase?_eq_none, about_wording_analyze,
    filterMap_phrase?_styleFindings]
  rfl

theorem exclamations_analyze : (analyze thresholds rules t).exclamations = t.count '!' := by
  rw [exclamations, ← filterMap_about fun _ => Finding.exclamations?_eq_none, about_wording_analyze,
    sum_exclamations?_styleFindings]
  rfl

theorem outline_analyze : (analyze thresholds rules t).outline = outlineOf thresholds t := rfl

/-! ### Single findings -/

theorem missingTitle_mem_findings_iff :
    .missingTitle ∈ (analyze thresholds rules t).findings ↔ t.contentLines = [] := by
  rw [mem_findings_iff_mem_about, Finding.topic, about_title_analyze]
  cases t.contentLines <;> simp [titleFindings, questionFindings]

theorem longTitle_mem_findings_iff :
    (∃ length limit, .longTitle length limit ∈ (analyze thresholds rules t).findings) ↔
      ∃ line ∈ t.contentLines.head?, thresholds.maxTitleLength < line.length := by
  simp only [mem_findings_iff_mem_about, Finding.topic, about_title_analyze]
  cases t.contentLines <;> simp [titleFindings, questionFindings]

theorem noEvidence_mem_findings_iff :
    .noEvidence ∈ (analyze thresholds rules t).findings ↔
      (analyze thresholds rules t).outline.evidence = 0 := by
  rw [mem_findings_iff_mem_about, about_analyze, outline_analyze]
  by_cases hnone : (outlineOf thresholds t).evidence = 0 <;>
    simp [Finding.topic, evidenceFindings, hnone]

theorem thinEvidence_not_mem_findings (h : (analyze thresholds rules t).outline.evidence = 0) :
    .thinEvidence ∉ (analyze thresholds rules t).findings := by
  rw [outline_analyze] at h
  rw [mem_findings_iff_mem_about, about_analyze]
  simp [Finding.topic, evidenceFindings, h]

theorem noSource_mem_findings_iff :
    .noSource ∈ (analyze thresholds rules t).findings ↔
      (analyze thresholds rules t).outline.source = false := by
  rw [mem_findings_iff_mem_about, about_analyze, outline_analyze]
  simp [Finding.topic]

theorem tooShort_mem_findings_iff :
    .tooShort ∈ (analyze thresholds rules t).findings ↔
      (analyze thresholds rules t).outline.claim = false := by
  rw [mem_findings_iff_mem_about, about_analyze, outline_analyze]
  simp [Finding.topic]

theorem noInsight_mem_findings_iff :
    .noInsight ∈ (analyze thresholds rules t).findings ↔
      (analyze thresholds rules t).outline.insight = false := by
  rw [mem_findings_iff_mem_about, about_analyze, outline_analyze]
  simp [Finding.topic]

theorem questionTitle_mem_findings_iff :
    .questionTitle ∈ (analyze thresholds rules t).findings ↔
      ∃ line, t.contentLines.head? = some line ∧ line.getLast? = some '?' := by
  rw [mem_findings_iff_mem_about, Finding.topic, about_title_analyze]
  cases t.contentLines <;> simp [titleFindings, questionFindings]

theorem emoji_mem_findings_iff :
    .emoji ∈ (analyze thresholds rules t).findings ↔ rules.hasEmoji t = true := by
  have hreport : .emoji ∈ styleFindings (rules.scan t) ↔ (rules.scan t).hasEmoji = true := by
    simp [styleFindings]
  rw [mem_findings_iff_mem_about, Finding.topic, about_wording_analyze, hreport]
  rfl

end Analyzed

end Analysis

end PostMarkup
