import PostMarkup.Analysis
import PostMarkup.Proofs.Pattern
import PostMarkup.Proofs.Render
import PostMarkup.Proofs.Style
import PostMarkup.Proofs.Topics

/-! The analysis of rendered posts. Rendering gives the analysis all it asks for, except that it may
find the title too long, and that it judges the style of texts which the checks on the document
leave alone. -/

namespace PostMarkup

open Text

/-! ### Lines with content -/

namespace Text

theorem head?_contentLines {t first : Text} {rest : List Text}
    (h : t.physicalLines = first :: rest) (hne : first.trim ≠ []) :
    t.contentLines.head? = some first.trim := by
  rw [contentLines, h, List.map_cons, List.filter_cons_of_pos (by simpa using hne), List.head?_cons]

/-- Lines that are not blank keep their order among the lines with content. -/
theorem sublist_contentLines {t : Text} {lines : List Text} (h : lines.Sublist t.physicalLines)
    (hne : ∀ line ∈ lines, line.trim ≠ []) : (lines.map trim).Sublist t.contentLines := by
  have hkept : (lines.map trim).filter (fun line => !line.isEmpty) = lines.map trim := by
    rw [List.filter_eq_self, List.forall_mem_map]
    exact fun line hline => by simpa using hne line hline
  rw [← hkept]
  exact (h.map trim).filter _

theorem infix_of_mem_physicalLines {t line : Text} (h : line ∈ t.physicalLines) : line <:+: t := by
  induction t using lines_induction with
  | last raw hraw =>
    rw [physicalLines_of_not_mem hraw, List.mem_singleton] at h
    exact h ▸ List.infix_rfl
  | cons raw rest hraw ih =>
    rw [physicalLines_cons hraw] at h
    rcases List.mem_cons.1 h with rfl | h
    · exact (List.prefix_append _ _).isInfix
    · exact (ih h).trans ((List.suffix_cons _ _).trans (List.suffix_append _ _)).isInfix

end Text

/-! ### Signals -/

theorem Signal.found_source_of_infix {t : Text} (title : Text)
    (h : "Source: ".toList ++ title <:+: t) : source.found t = true := by
  obtain ⟨front, back, rfl⟩ := h
  rw [List.append_assoc, List.append_assoc]
  refine Pattern.foundFrom_append (fun behind => ?_) _ _
  simp only [source, Pattern.reaches, Bool.or_eq_true]
  exact .inr (.inr (.inr rfl))

namespace Analysis

theorem countP_startsBullet_le_countSignals (lines : List Text) :
    lines.countP Signal.startsBullet ≤ countSignals lines := by
  rw [countSignals_eq]
  exact Nat.le_add_left _ _

theorem issues_eq_nil_iff {a : Analysis} :
    a.issues = [] ↔ ∀ finding ∈ a.findings, finding.isIssue = false := by
  simp [issues]

theorem forall_mem_styleFindings_iff {report : StyleReport} :
    (∀ finding ∈ styleFindings report, finding.isIssue = false) ↔ report.isClean = true := by
  cases hphrases : report.phrases <;> cases hemoji : report.hasEmoji <;>
    by_cases hcount : report.exclamations = 0 <;>
    simp [styleFindings, StyleReport.isClean, Finding.isIssue, Nat.pos_iff_ne_zero, *]

theorem forall_mem_titleFindings_iff {thresholds : Thresholds} {lines : List Text} {line : Text}
    (h : lines.head? = some line) :
    (∀ finding ∈ titleFindings thresholds lines, finding.isIssue = false) ↔
      line.length ≤ thresholds.maxTitleLength := by
  simp only [titleFindings, h]
  by_cases hlong : thresholds.maxTitleLength < line.length
  · rw [if_pos hlong]
    simpa [Finding.isIssue] using hlong
  · rw [if_neg hlong]
    simpa using hlong

theorem isIssue_of_mem_evidenceFindings {thresholds : Thresholds} {signals : Nat}
    (h : 0 < signals) {finding : Finding} (hmem : finding ∈ evidenceFindings thresholds signals) :
    finding.isIssue = false := by
  rw [evidenceFindings, if_neg (by omega)] at hmem
  split at hmem
  · rw [List.mem_singleton.1 hmem, Finding.isIssue]
  · cases hmem

section Findings

variable {thresholds : Thresholds} {rules : StyleRules} {t : Text}

/-- A text with all parts of a post has issues for the length of its title and its style only. -/
theorem issues_analyze_eq_nil_iff {line : Text} (hhead : t.contentLines.head? = some line)
    (hquestion : line.getLast? ≠ some '?')
    (hclaim : thresholds.minClaimLines ≤ t.contentLines.length)
    (hsource : Signal.source.found t = true) (hsignals : 0 < countSignals t.contentLines) :
    (analyze thresholds rules t).issues = [] ↔
      line.length ≤ thresholds.maxTitleLength ∧ (rules.scan t).isClean = true := by
  have hevidence : ∀ finding ∈ evidenceFindings thresholds (countSignals t.contentLines),
      finding.isIssue = false := fun _ => isIssue_of_mem_evidenceFindings hsignals
  have hfound : questionFindings t.contentLines = [] := by
    simp only [questionFindings, hhead, if_neg hquestion]
  simp only [issues_eq_nil_iff, analyze, outlineOf, List.forall_mem_append, hsource, hclaim, hfound,
    forall_mem_titleFindings_iff hhead, forall_mem_styleFindings_iff, eq_true hevidence]
  simp +contextual [Finding.isIssue]

end Findings

end Analysis

namespace Document

/-! ### Rendered lines -/

theorem trim_sentence (field : Option Text) : (sentence field).trim = (sentence field).trimStart :=
  trim_append_singleton (by decide)

theorem getLast?_trim_sentence (field : Option Text) :
    (sentence field).trim.getLast? = some '.' := by
  rw [trim_sentence, sentence, trimStart, List.dropWhile_append]
  split
  · decide
  · exact List.getLast?_concat

theorem trim_sentence_ne_nil (field : Option Text) : (sentence field).trim ≠ [] := fun h => by
  have hlast := getLast?_trim_sentence field
  rw [h] at hlast
  cases hlast

theorem head?_trim_bullet (t : Text) : (bullet t).trim.head? = some '-' :=
  head?_trim_cons (by decide) (' ' :: t)

theorem sentences_sublist_renderedLines (post : Document) :
    [sentence post.title, sentence post.claim].Sublist post.renderedLines := by
  refine .cons_cons _ (.cons _ (.trans ?_ (List.sublist_append_right _ _)))
  exact .cons_cons _ (List.nil_sublist _)

theorem bullets_sublist_renderedLines (post : Document) :
    ((post.evidence.map Evidence.text).map bullet).Sublist post.renderedLines := by
  refine .cons _ (.cons _ (.trans ?_ (List.sublist_append_right _ _)))
  exact .cons _ (.cons _ (.cons _ (List.sublist_append_left _ _)))

theorem isPlain_sentence {field : Option Text} :
    IsPlain (sentence field) ↔ ∀ t ∈ field, t.IsPlain := by
  rw [sentence, isPlain_append_cons (by decide)]
  cases field <;> simp [isPlain_nil]

theorem isPlain_bullet {t : Text} : IsPlain (bullet t) ↔ t.IsPlain := by
  change IsPlain ('-' :: ' ' :: t) ↔ t.IsPlain
  rw [isPlain_cons (by decide), isPlain_cons (by decide)]

theorem isPlain_bracketed {t : Text} : IsPlain (bracketed t) ↔ t.IsPlain := by
  change IsPlain ([] ++ '[' :: (t ++ ']' :: [])) ↔ t.IsPlain
  rw [isPlain_append_cons (by decide), isPlain_append_cons (by decide)]
  simp [isPlain_nil]

theorem isPlain_optionalLines {line : Option Text} :
    (∀ t ∈ optionalLines line, t.IsPlain) ↔ ∀ t ∈ line, t.IsPlain := by
  cases line <;> simp [optionalLines, isPlain_nil]

theorem isPlain_sourceLines {source : Source} :
    (∀ line ∈ sourceLines source, line.IsPlain) ↔
      source.title.IsPlain ∧ (∀ t ∈ source.credibility, t.IsPlain) ∧
        source.displayUrl.IsPlain := by
  have hheading : IsPlain ("Source: ".toList ++ source.title) ↔ source.title.IsPlain := by
    change IsPlain ("Source".toList ++ ':' :: ' ' :: source.title) ↔ source.title.IsPlain
    rw [isPlain_append_cons (by decide), isPlain_cons (by decide)]
    exact and_iff_right (isClean_scan_iff.1 (by decide +kernel))
  simp only [sourceLines, List.cons_append, List.forall_mem_cons, List.forall_mem_append,
    List.forall_mem_map, List.not_mem_nil, false_imp_iff, implies_true, and_true,
    Option.mem_toList, Option.mem_def, hheading, isPlain_bracketed]

theorem isPlain_render {post : Document} (h : post.WellFormed) (hcomplete : post.Complete) :
    IsPlain post.render ↔
      (∀ t ∈ post.title, t.IsPlain) ∧ (∀ t ∈ post.context, t.IsPlain) ∧
        (∀ t ∈ post.claim, t.IsPlain) ∧ (∀ item ∈ post.evidence, item.text.IsPlain) ∧
        (∀ t ∈ post.insight, t.IsPlain) ∧ (∀ t ∈ post.credential, t.IsPlain) ∧
        ∀ source ∈ post.source, source.title.IsPlain ∧
          (∀ t ∈ source.credibility, t.IsPlain) ∧ source.displayUrl.IsPlain := by
  have hheading : IsPlain "Results:".toList := isClean_scan_iff.1 (by decide +kernel)
  have hcredential : (∀ t ∈ post.credential.map bracketed, t.IsPlain) ↔
      ∀ t ∈ post.credential, t.IsPlain := by
    cases post.credential <;> simp [isPlain_bracketed]
  have hsource : (∀ line ∈ post.source.toList.flatMap sourceLines, line.IsPlain) ↔
      ∀ source ∈ post.source, ∀ line ∈ sourceLines source, line.IsPlain := by
    cases post.source <;> simp
  rw [isPlain_iff_physicalLines, physicalLines_render h hcomplete]
  simp only [renderedLines, List.forall_mem_cons, List.forall_mem_append, List.forall_mem_map,
    isPlain_sentence, isPlain_nil, isPlain_optionalLines, hheading, isPlain_bullet, hcredential,
    hsource, isPlain_sourceLines, true_and]

theorem isPlain_prose {post : Document} :
    IsPlain post.prose ↔
      (∀ t ∈ post.title, t.IsPlain) ∧ (∀ t ∈ post.claim, t.IsPlain) ∧
        (∀ t ∈ post.insight, t.IsPlain) ∧ (∀ t ∈ post.context, t.IsPlain) ∧
        ∀ item ∈ post.evidence, item.context.IsPlain := by
  rw [prose, isPlain_intercalate, styledTexts_eq]
  simp only [List.forall_mem_append, List.forall_mem_map, Option.mem_toList, Option.mem_def,
    and_assoc]

/-! ### Analysis -/

section Analyzed

variable {post : Document} (h : post.WellFormed) (hcomplete : post.Complete)
include h hcomplete

theorem head?_contentLines_render :
    post.render.contentLines.head? = some (sentence post.title).trim :=
  head?_contentLines (physicalLines_render h hcomplete) (trim_sentence_ne_nil _)

theorem two_le_length_contentLines_render : 2 ≤ post.render.contentLines.length := by
  have hlines : [sentence post.title, sentence post.claim].Sublist post.render.physicalLines := by
    rw [physicalLines_render h hcomplete]
    exact sentences_sublist_renderedLines post
  refine (sublist_contentLines hlines ?_).length_le
  simp [trim_sentence_ne_nil]

/-- Every item of evidence is a bullet, and so a signal. -/
theorem length_evidence_le_countSignals :
    post.evidence.length ≤ Analysis.countSignals post.render.contentLines := by
  have hlines : ((post.evidence.map Evidence.text).map bullet).Sublist
      post.render.physicalLines := by
    rw [physicalLines_render h hcomplete]
    exact bullets_sublist_renderedLines post
  have hbullet (t : Text) : Signal.startsBullet (bullet t).trim = true := by
    rw [Signal.startsBullet_eq, head?_trim_bullet]
    rfl
  have hne : ∀ line ∈ (post.evidence.map Evidence.text).map bullet, line.trim ≠ [] := by
    rw [List.forall_mem_map]
    intro t _ hnil
    have hstart := hbullet t
    rw [hnil] at hstart
    cases hstart
  calc post.evidence.length
    _ = (((post.evidence.map Evidence.text).map bullet).map trim).countP
          Signal.startsBullet := by
      rw [List.countP_eq_length.2]
      · simp
      · simp [hbullet]
    _ ≤ post.render.contentLines.countP Signal.startsBullet :=
      (sublist_contentLines hlines hne).countP_le
    _ ≤ Analysis.countSignals post.render.contentLines :=
      Analysis.countP_startsBullet_le_countSignals _

theorem found_source_render : Signal.source.found post.render = true := by
  obtain ⟨origin, horigin⟩ := hcomplete.source
  refine Signal.found_source_of_infix origin.title (infix_of_mem_physicalLines ?_)
  rw [physicalLines_render h hcomplete]
  simp [renderedLines, horigin, sourceLines]

end Analyzed

end Document

/-- A post that compiles passes the analysis, unless its title is too long with its period, or the
rules of style find something in a text that the checks on the document leave alone. -/
theorem issues_analyze_of_compile {limits : Limits} {post output : Text}
    (h : (compile limits post).output? = some output) :
    let document := (parse post).document
    let analysis := analyze {} .standard output
    (analysis.issues = [] ↔
      (Document.sentence document.title).trimStart.length ≤ 100 ∧
        (∀ item ∈ document.evidence, item.text.IsPlain) ∧
        (∀ t ∈ document.credential, t.IsPlain) ∧
        ∀ source ∈ document.source, source.title.IsPlain ∧
          (∀ t ∈ source.credibility, t.IsPlain) ∧ source.displayUrl.IsPlain) ∧
      .missingTitle ∉ analysis.findings ∧ .questionTitle ∉ analysis.findings ∧
      analysis.outline.claim = true ∧ analysis.outline.source = true ∧
      document.evidence.length ≤ analysis.outline.evidence ∧ 1 ≤ document.evidence.length := by
  have hcomplete := complete_of_compile h
  have hwell := Document.wellFormed_parse post
  have hprose := Document.isPlain_prose.1 (isClean_scan_iff.1 (isClean_prose_of_compile h))
  have hrender := eq_render_of_compile h
  generalize (parse post).document = document at hcomplete hwell hprose hrender
  obtain ⟨htitle, hclaim, hinsight, hcontext, -⟩ := hprose
  have hhead := Document.head?_contentLines_render hwell hcomplete
  have hlast := Document.getLast?_trim_sentence document.title
  have hlines := Document.two_le_length_contentLines_render hwell hcomplete
  have hfound := Document.found_source_render hwell hcomplete
  have hsignals := Document.length_evidence_le_countSignals hwell hcomplete
  have hitems : 1 ≤ document.evidence.length := List.length_pos_iff.2 hcomplete.evidence
  rw [← hrender] at hhead hlines hfound hsignals
  refine ⟨?_, ?_, ?_, decide_eq_true hlines, hfound, hsignals, hitems⟩
  · rw [Analysis.issues_analyze_eq_nil_iff hhead (by simp [hlast]) hlines hfound (by omega),
      Document.trim_sentence, isClean_scan_iff, hrender, Document.isPlain_render hwell hcomplete]
    tauto
  · rw [Analysis.missingTitle_mem_findings_iff]
    intro hnil
    rw [hnil] at hhead
    cases hhead
  · rw [Analysis.questionTitle_mem_findings_iff]
    rintro ⟨line, hline, hquestion⟩
    rw [hhead, Option.some.injEq] at hline
    rw [← hline, hlast] at hquestion
    cases hquestion

/-- A post with a phrase of the table that only the bar of its evidence divides. -/
def divided : Text :=
  ['\n'].intercalate <| List.map String.toList
    ["# \" T? Yes\"", "! \"C\"", "+ 3x Cutting | \"Edge latency\"", "> \"I\"", "@ \"\" | www.a.b"]

def dividedOutput : Text :=
  ['\n'].intercalate <| List.map String.toList
    [" T? Yes.", "", "C.", "", "Results:", "- 3x Cutting Edge latency", "", "I.", "", "Source: ",
      "a.b"]

theorem issues_analyze_of_compile_divided :
    (compile {} divided).output? = some dividedOutput ∧
      (analyze {} .standard dividedOutput).issues ≠ [] ∧
      .missingTitle ∉ (analyze {} .standard dividedOutput).findings ∧
      .questionTitle ∉ (analyze {} .standard dividedOutput).findings ∧
      (analyze {} .standard dividedOutput).outline.claim = true ∧
      (analyze {} .standard dividedOutput).outline.source = true ∧
      (parse divided).document.evidence.length ≤
        (analyze {} .standard dividedOutput).outline.evidence ∧
      1 ≤ (parse divided).document.evidence.length := by
  have h : (compile {} divided).output? = some dividedOutput := by decide +kernel
  obtain ⟨hissues, houtline⟩ := issues_analyze_of_compile h
  refine ⟨h, fun hnil => ?_, houtline⟩
  obtain ⟨-, hitems, -⟩ := hissues.1 hnil
  have hmem : ⟨"3x Cutting".toList, "Edge latency".toList⟩ ∈ (parse divided).document.evidence := by
    decide +kernel
  exact absurd (isClean_scan_iff.2 (hitems _ hmem)) (by decide +kernel)

end PostMarkup
