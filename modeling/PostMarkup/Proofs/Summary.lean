import PostMarkup.Proofs.Coherence
import PostMarkup.Proofs.Wording
import PostMarkup.Summary

/-! The summary of an analysis says all that the analysis says. Its lines are told from each other
by how they start, and each line tells the part of the analysis that it is made from. -/

namespace PostMarkup

open Text

/-! ### Lines that end with a line break -/

theorem Text.physicalLines_flatMap_line {lines : List Text} (h : ∀ line ∈ lines, '\n' ∉ line) :
    physicalLines (lines.flatMap fun line => line ++ ['\n']) = lines ++ [[]] := by
  induction lines with
  | nil => rfl
  | cons line lines ih =>
    rw [List.forall_mem_cons] at h
    rw [List.flatMap_cons, List.append_assoc, List.singleton_append, physicalLines_cons h.1, ih h.2,
      List.cons_append]

theorem newline_not_mem_repr (n : Nat) : '\n' ∉ n.repr.toList := by
  rw [Nat.toList_repr]
  exact fun h => absurd (Nat.isDigit_of_mem_toDigits (by decide) (by decide) h) (by decide)

/-! ### Messages on one line -/

namespace Finding

/-- The finding is about no phrase that has a line break in it. -/
def IsOneLine (finding : Finding) : Prop := ∀ phrase ∈ finding.phrase?, '\n' ∉ phrase

theorem newline_not_mem_opening (finding : Finding) : '\n' ∉ finding.opening := by
  unfold opening message
  cases finding <;>
  · dsimp only
    rw [String.toList_ofList]
    decide

section Lines

variable {finding : Finding} (h : finding.IsOneLine)
include h

theorem newline_not_mem_message : '\n' ∉ finding.message.toList := by
  rw [toList_message, List.mem_append, not_or]
  refine ⟨finding.newline_not_mem_opening, ?_⟩
  cases finding with
  | longTitle | longText =>
    simp only [details, List.mem_append, List.mem_cons, not_or]
    exact ⟨newline_not_mem_repr _, by decide, newline_not_mem_repr _, by decide⟩
  | exclamations =>
    simp only [details, List.mem_append, not_or]
    exact ⟨newline_not_mem_repr _, by decide⟩
  | bannedPhrase phrase => simp [details, h phrase rfl]
  | _ => exact List.not_mem_nil

theorem newline_not_mem_suggestion : '\n' ∉ finding.suggestion.toList := by
  cases finding with
  | bannedPhrase phrase =>
    have hphrase : '\n' ∉ (String.ofList phrase).toList := by simpa using h phrase rfl
    simp only [suggestion, String.toList_append, List.mem_append, not_or]
    exact ⟨⟨by decide, hphrase⟩, by decide⟩
  | _ =>
    unfold suggestion
    rw [String.toList_ofList]
    decide

end Lines

/-- The advice that goes with warnings. -/
def warningAdvice : List String :=
  [thinEvidence.suggestion, noInsight.suggestion, (longText 0 0).suggestion]

/-- Whether a finding is an issue can be told from its suggestion. -/
theorem isIssue_eq_false_iff (finding : Finding) :
    finding.isIssue = false ↔ finding.suggestion ∈ warningAdvice := by
  cases finding with
  | bannedPhrase phrase =>
    -- the phrase may be anything, but what stands before it starts none of the advice
    refine iff_of_false Bool.noConfusion fun hmem => ?_
    have hheads : ∀ advice ∈ warningAdvice, advice.toList.head? ≠ some 'R' := by decide
    refine hheads _ hmem ?_
    simp only [suggestion, String.toList_append]
    rfl
  | _ => simp only [isIssue, suggestion]; decide

/-- Findings can be told from their messages, issues and warnings apart, and their suggestions. -/
theorem eq_of_messages_eq {findings findings' : List Finding}
    (hissues : (findings.filter isIssue).map message = (findings'.filter isIssue).map message)
    (hwarnings : (findings.filter fun finding => !finding.isIssue).map message =
      (findings'.filter fun finding => !finding.isIssue).map message)
    (hsuggestions : findings.map suggestion = findings'.map suggestion) : findings = findings' := by
  induction findings generalizing findings' with
  | nil => exact (List.map_eq_nil_iff.1 hsuggestions.symm).symm
  | cons finding findings ih =>
    cases findings' with
    | nil => cases hsuggestions
    | cons finding' findings' =>
      obtain ⟨hsuggestion, hrest⟩ := List.cons.inj hsuggestions
      -- the suggestion tells which of the two lists has the message of this finding
      have hkind : finding.isIssue = finding'.isIssue := by
        rw [Bool.eq_iff_iff, ← not_iff_not, Bool.not_eq_true, Bool.not_eq_true,
          isIssue_eq_false_iff, hsuggestion, isIssue_eq_false_iff]
      cases hissue : finding'.isIssue with
      | true =>
        rw [hissue] at hkind
        simp only [List.filter_cons, hkind, hissue, Bool.not_true, if_true, List.map_cons,
          List.cons.injEq] at hissues hwarnings
        rw [message_injective hissues.1, ih hissues.2 (by simpa using hwarnings) hrest]
      | false =>
        rw [hissue] at hkind
        simp only [List.filter_cons, hkind, hissue, Bool.not_false, if_true, List.map_cons,
          List.cons.injEq] at hissues hwarnings
        rw [message_injective hwarnings.1, ih (by simpa using hissues) hwarnings.2 hrest]

end Finding

namespace Analysis

/-! ### The lines of a summary -/

/-- An item as it stands under its heading. -/
def itemLine (item : String) : Text := "  - ".toList ++ item.toList

def headingLine (heading : String) : Text := heading.toList ++ [':']

/-- The lines of a heading with its items, none if there are no items. -/
def sectionLines : String × List String → List Text
  | (_, []) => []
  | (heading, items) => headingLine heading :: items.map itemLine

/-- The lists of an analysis with their headings, in the order of the summary. -/
def sections (a : Analysis) : List (String × List String) :=
  [("Issues", a.issues), ("Warnings", a.warnings), ("Suggestions", a.suggestions)]

def verdict (valid : Bool) : String := if valid then "valid" else "invalid"

def scoreLine (a : Analysis) : Text :=
  "Score: ".toList ++ (a.score.repr.toList ++ ("/100 (".toList ++
    ((verdict a.valid).toList ++ [')'])))

def outlineLine (outline : Outline) : Text :=
  "Structure: title ".toList ++ ((yesNo outline.title).toList ++ (", claim ".toList ++
    ((yesNo outline.claim).toList ++ (", evidence ".toList ++ (outline.evidence.repr.toList ++
      (", insight ".toList ++ ((yesNo outline.insight).toList ++ (", source ".toList ++
        (yesNo outline.source).toList))))))))

def summaryLines (a : Analysis) : List Text :=
  a.scoreLine :: outlineLine a.outline :: a.sections.flatMap sectionLines

theorem toList_headed (heading : String) (items : List String) :
    (headed heading items).toList =
      (sectionLines (heading, items)).flatMap fun line => line ++ ['\n'] := by
  unfold headed
  cases items with
  | nil => rfl
  | cons item items =>
    simp [sectionLines, headingLine, itemLine, String.toList_join, List.flatMap_map]

theorem toList_summary (a : Analysis) :
    a.summary.toList = a.summaryLines.flatMap fun line => line ++ ['\n'] := by
  have hscore : s!"Score: {a.score}/100 (" = "Score: " ++ a.score.repr ++ "/100 (" := rfl
  have hevidence : s!", evidence {a.outline.evidence}, insight " =
      ", evidence " ++ a.outline.evidence.repr ++ ", insight " := rfl
  unfold summary summaryLines scoreLine outlineLine verdict
  rw [hscore, hevidence]
  simp [sections, toList_headed]

/-! ### No line break within a line -/

theorem newline_not_mem_yesNo (b : Bool) : '\n' ∉ (yesNo b).toList := by
  cases b <;> decide

theorem newline_not_mem_verdict (valid : Bool) : '\n' ∉ (verdict valid).toList := by
  cases valid <;> decide

theorem newline_not_mem_scoreLine (a : Analysis) : '\n' ∉ a.scoreLine := by
  unfold scoreLine
  simp only [List.mem_append, not_or]
  exact ⟨by decide, newline_not_mem_repr _, by decide, newline_not_mem_verdict _, by decide⟩

theorem newline_not_mem_outlineLine (outline : Outline) : '\n' ∉ outlineLine outline := by
  unfold outlineLine
  simp only [List.mem_append, not_or]
  exact ⟨by decide, newline_not_mem_yesNo _, by decide, newline_not_mem_yesNo _, by decide,
    newline_not_mem_repr _, by decide, newline_not_mem_yesNo _, by decide,
    newline_not_mem_yesNo _⟩

theorem newline_not_mem_of_mem_sectionLines {heading : String} {items : List String}
    (hheading : '\n' ∉ heading.toList) (hitems : ∀ item ∈ items, '\n' ∉ item.toList) :
    ∀ line ∈ sectionLines (heading, items), '\n' ∉ line := by
  cases items with
  | nil => simp [sectionLines]
  | cons item items =>
    simpa [sectionLines, headingLine, itemLine, hheading] using hitems

section Lines

variable {a : Analysis} (h : ∀ finding ∈ a.findings, finding.IsOneLine)
include h

/-- Issues and warnings stand on one line each. -/
theorem newline_not_mem_of_mem_messages (p : Finding → Bool) :
    ∀ item ∈ (a.findings.filter p).map Finding.message, '\n' ∉ item.toList := by
  intro item hitem
  obtain ⟨finding, hmem, rfl⟩ := List.mem_map.1 hitem
  exact Finding.newline_not_mem_message (h finding (List.mem_of_mem_filter hmem))

theorem newline_not_mem_of_mem_suggestions : ∀ item ∈ a.suggestions, '\n' ∉ item.toList := by
  intro item hitem
  obtain ⟨finding, hmem, rfl⟩ := List.mem_map.1 hitem
  exact Finding.newline_not_mem_suggestion (h finding hmem)

theorem newline_not_mem_of_mem_summaryLines : ∀ line ∈ a.summaryLines, '\n' ∉ line := by
  simp only [summaryLines, sections, List.forall_mem_cons, List.flatMap_cons, List.flatMap_nil,
    List.forall_mem_append, List.append_nil]
  exact ⟨a.newline_not_mem_scoreLine, newline_not_mem_outlineLine _,
    newline_not_mem_of_mem_sectionLines (by decide) (newline_not_mem_of_mem_messages h _),
    newline_not_mem_of_mem_sectionLines (by decide) (newline_not_mem_of_mem_messages h _),
    newline_not_mem_of_mem_sectionLines (by decide) (newline_not_mem_of_mem_suggestions h)⟩

/-- The summary can be taken apart into its lines. -/
theorem physicalLines_summary : physicalLines a.summary.toList = a.summaryLines ++ [[]] := by
  rw [toList_summary, physicalLines_flatMap_line (newline_not_mem_of_mem_summaryLines h)]

end Lines

/-! ### What the lines tell -/

theorem yesNo_append_inj {b b' : Bool} {s s' : Text}
    (h : (yesNo b).toList ++ s = (yesNo b').toList ++ s') : b = b' ∧ s = s' := by
  cases b <;> cases b' <;> simp_all [yesNo]

theorem outlineLine_injective : Function.Injective outlineLine := by
  intro outline outline' h
  obtain ⟨htitle, h⟩ := yesNo_append_inj (List.append_cancel_left h)
  obtain ⟨hclaim, h⟩ := yesNo_append_inj (List.append_cancel_left h)
  obtain ⟨hevidence, h⟩ := repr_append_inj (by simp) (by simp) (List.append_cancel_left h)
  obtain ⟨hinsight, h⟩ := yesNo_append_inj (List.append_cancel_left h)
  have hsource := List.append_cancel_left h
  rw [← List.append_nil (yesNo outline.source).toList,
    ← List.append_nil (yesNo outline'.source).toList] at hsource
  have hsource := (yesNo_append_inj hsource).1
  cases outline
  cases outline'
  simp_all

theorem headingLine_injective : Function.Injective headingLine := fun _ _ h =>
  String.toList_inj.1 (List.append_cancel_right h)

theorem itemLine_injective : Function.Injective itemLine := fun _ _ h =>
  String.toList_inj.1 (List.append_cancel_left h)

/-- The lines do not start with an item. -/
def StartsOffItems (lines : List Text) : Prop := ∀ item : String, itemLine item ∉ lines.head?

/-- Items end at the first line that is none. -/
theorem itemLines_append_inj {items items' : List String} {rest rest' : List Text}
    (hrest : StartsOffItems rest) (hrest' : StartsOffItems rest')
    (h : items.map itemLine ++ rest = items'.map itemLine ++ rest') :
    items = items' ∧ rest = rest' := by
  induction items generalizing items' with
  | nil =>
    cases items' with
    | nil => exact ⟨rfl, h⟩
    | cons item' items' =>
      rw [List.map_nil, List.nil_append] at h
      exact absurd (by simp [h]) (hrest item')
  | cons item items ih =>
    cases items' with
    | nil =>
      rw [List.map_nil, List.nil_append] at h
      exact absurd (by simp [← h]) (hrest' item)
    | cons item' items' =>
      obtain ⟨hitem, htail⟩ := List.cons.inj h
      obtain ⟨hitems, hrests⟩ := ih htail
      exact ⟨by rw [itemLine_injective hitem, hitems], hrests⟩

section Sections

variable {sections sections' : List (String × List String)}

/-- The lines of sections start with one of the headings. -/
theorem exists_heading_of_mem_head? {line : Text}
    (h : line ∈ (sections.flatMap sectionLines).head?) :
    ∃ heading ∈ sections.map Prod.fst, line = headingLine heading := by
  induction sections with
  | nil => simp at h
  | cons first sections ih =>
    obtain ⟨heading, items⟩ := first
    cases items with
    | nil =>
      obtain ⟨heading', hmem, hline⟩ := ih (by simpa [sectionLines] using h)
      exact ⟨heading', List.mem_cons_of_mem _ hmem, hline⟩
    | cons item items =>
      refine ⟨heading, List.mem_cons_self, ?_⟩
      simpa [sectionLines] using h.symm

theorem startsOffItems_flatMap_sectionLines
    (h : ∀ heading ∈ sections.map Prod.fst, (headingLine heading).head? ≠ some ' ') :
    StartsOffItems (sections.flatMap sectionLines) := by
  intro item hitem
  obtain ⟨heading, hmem, hline⟩ := exists_heading_of_mem_head? hitem
  refine h heading hmem ?_
  rw [← hline]
  rfl

/-- Sections can be told from their lines, if their headings are known, differ from each other, and
are not taken for items. -/
theorem flatMap_sectionLines_inj (hheadings : sections.map Prod.fst = sections'.map Prod.fst)
    (hnodup : (sections.map Prod.fst).Nodup)
    (hblank : ∀ heading ∈ sections.map Prod.fst, (headingLine heading).head? ≠ some ' ')
    (h : sections.flatMap sectionLines = sections'.flatMap sectionLines) :
    sections = sections' := by
  induction sections generalizing sections' with
  | nil => exact (List.map_eq_nil_iff.1 hheadings.symm).symm
  | cons first sections ih =>
    cases sections' with
    | nil => cases hheadings
    | cons first' sections' =>
      obtain ⟨heading, items⟩ := first
      obtain ⟨heading', items'⟩ := first'
      obtain ⟨rfl, hbelow⟩ : heading = heading' ∧
          sections.map Prod.fst = sections'.map Prod.fst := List.cons.inj hheadings
      obtain ⟨hnew, hnodup'⟩ := List.nodup_cons.1 hnodup
      have hblank' := fun other hother => hblank other (List.mem_cons_of_mem _ hother)
      -- the heading stands nowhere below, so that one list is empty only if the other is
      have habsent {lists : List (String × List String)}
          (hlists : lists.map Prod.fst = sections.map Prod.fst) :
          headingLine heading ∉ (lists.flatMap sectionLines).head? := by
        intro hmem
        obtain ⟨other, hother, heq⟩ := exists_heading_of_mem_head? hmem
        rw [hlists, ← headingLine_injective heq] at hother
        exact hnew hother
      rw [List.flatMap_cons, List.flatMap_cons] at h
      obtain ⟨hitems, hrest⟩ : items = items' ∧
          sections.flatMap sectionLines = sections'.flatMap sectionLines := by
        cases items with
        | nil =>
          cases items' with
          | nil => exact ⟨rfl, h⟩
          | cons item' items' =>
            exact absurd (by simpa [sectionLines] using congrArg List.head? h) (habsent rfl)
        | cons item items =>
          cases items' with
          | nil =>
            exact absurd (by simpa [sectionLines] using congrArg List.head? h.symm)
              (habsent hbelow.symm)
          | cons item' items' =>
            refine itemLines_append_inj (startsOffItems_flatMap_sectionLines hblank')
              (startsOffItems_flatMap_sectionLines ?_) (List.cons.inj h).2
            rwa [← hbelow]
      rw [hitems, ih hbelow hnodup' hblank' hrest]

end Sections

/-! ### The analysis from its summary -/

/-- An analysis can be told from its outline and its lists. -/
theorem eq_of_lists_eq {a b : Analysis} (houtline : a.outline = b.outline)
    (hissues : a.issues = b.issues) (hwarnings : a.warnings = b.warnings)
    (hsuggestions : a.suggestions = b.suggestions) : a = b :=
  congrArg₂ Analysis.mk houtline (Finding.eq_of_messages_eq hissues hwarnings hsuggestions)

section Analyses

variable {a b : Analysis} (ha : ∀ finding ∈ a.findings, finding.IsOneLine)
  (hb : ∀ finding ∈ b.findings, finding.IsOneLine)
include ha hb

theorem summaryLines_eq_of_summary_eq (h : a.summary = b.summary) :
    a.summaryLines = b.summaryLines := by
  have hlines := physicalLines_summary ha
  rw [h, physicalLines_summary hb] at hlines
  exact (List.append_cancel_right hlines).symm

/-- A summary tells the analysis that it is of. -/
theorem eq_of_summary_eq (h : a.summary = b.summary) : a = b := by
  obtain ⟨-, hrest⟩ := List.cons.inj (summaryLines_eq_of_summary_eq ha hb h)
  obtain ⟨houtline, hlines⟩ := List.cons.inj hrest
  have hsections : a.sections = b.sections :=
    flatMap_sectionLines_inj rfl (by simp [sections]) (by simp [sections, headingLine]) hlines
  simp only [sections, List.cons.injEq, Prod.mk.injEq, true_and, and_true] at hsections
  obtain ⟨hissues, hwarnings, hsuggestions⟩ := hsections
  exact eq_of_lists_eq (outlineLine_injective houtline) hissues hwarnings hsuggestions

end Analyses

/-- The standard phrases have no line break in them. -/
theorem isOneLine_of_mem_findings {thresholds : Thresholds} {t : Text} {finding : Finding}
    (h : finding ∈ (analyze thresholds .standard t).findings) : finding.IsOneLine := by
  intro phrase hphrase
  have hmem : phrase ∈ (analyze thresholds .standard t).bannedPhrases :=
    List.mem_filterMap.2 ⟨finding, h, hphrase⟩
  rw [bannedPhrases_analyze] at hmem
  exact (StyleRules.isPhrase_of_mem_standard phrase (List.mem_filter.1 hmem).1).newline_not_mem

end Analysis

/-- The summary of an analysis loses nothing: two analyses, of any texts under any thresholds, have
the same summary only if they agree in verdict, score, outline and in each of the three lists, and
so in all that they consist of. -/
theorem summary_analyze_eq_iff (thresholds thresholds' : Thresholds) (t t' : Text) :
    let a := analyze thresholds .standard t
    let b := analyze thresholds' .standard t'
    (a.summary = b.summary ↔
      a.valid = b.valid ∧ a.score = b.score ∧ a.outline = b.outline ∧ a.issues = b.issues ∧
        a.warnings = b.warnings ∧ a.suggestions = b.suggestions) ∧
      (a.summary = b.summary ↔ a = b) := by
  intro a b
  have htells (h : a.summary = b.summary) : a = b :=
    Analysis.eq_of_summary_eq (fun _ => Analysis.isOneLine_of_mem_findings)
      (fun _ => Analysis.isOneLine_of_mem_findings) h
  refine ⟨⟨fun h => ?_, fun h => ?_⟩, htells, fun h => by rw [h]⟩
  · rw [htells h]
    exact ⟨rfl, rfl, rfl, rfl, rfl, rfl⟩
  · obtain ⟨-, -, houtline, hissues, hwarnings, hsuggestions⟩ := h
    rw [Analysis.eq_of_lists_eq houtline hissues hwarnings hsuggestions]

end PostMarkup
