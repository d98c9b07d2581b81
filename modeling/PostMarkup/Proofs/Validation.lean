import PostMarkup.Validation

/-! The checks on a document, group by group: which codes a group reports, what a group that reports
nothing has made sure of, and the report as its groups put together. -/

namespace PostMarkup

/-- What a report says under a code. -/
def Report.found (report : Report) (code : Code) : List Violation :=
  (report.errors ++ report.warnings).filter fun v => v.code = code

/-- Every code but that of a context that is too long stands for an error. -/
theorem Violation.isError_iff {v : Violation} : v.isError = true ↔ v.code ≠ .w300 := by
  cases v <;> simp [isError, severity, code]

namespace Document

/-! ### Presence -/

/-- Nothing is missing that a post must have. -/
structure Complete (post : Document) : Prop where
  title : ∃ t ≠ [], post.title = some t
  claim : ∃ t ≠ [], post.claim = some t
  evidence : post.evidence ≠ []
  insight : ∃ t ≠ [], post.insight = some t
  source : ∃ origin, post.source = some origin

theorem present_eq_none_iff {field : Option Text} :
    present field = none ↔ ¬∃ t ≠ [], field = some t := by
  cases field with
  | none => simp [present]
  | some t => simp [present]

theorem present_eq_some_iff {field : Option Text} {t : Text} :
    present field = some t ↔ t ≠ [] ∧ field = some t := by
  rw [present, Option.filter_eq_some_iff, Bool.not_eq_true', List.isEmpty_eq_false_iff, and_comm]

theorem missingFields_eq_nil_iff {post : Document} :
    post.missingFields = [] ↔ post.Complete := by
  simp only [missingFields, List.append_eq_nil_iff, ite_eq_right_iff, List.cons_ne_nil, imp_false,
    present_eq_none_iff, Classical.not_not]
  constructor
  · rintro ⟨⟨⟨⟨htitle, hclaim⟩, hevidence⟩, hinsight⟩, hsource⟩
    exact ⟨htitle, hclaim, hevidence, hinsight, Option.ne_none_iff_exists'.1 hsource⟩
  · intro h
    exact ⟨⟨⟨⟨h.title, h.claim⟩, h.evidence⟩, h.insight⟩, Option.ne_none_iff_exists'.2 h.source⟩

theorem code_of_mem_missing {marks : List Mark} {v : Violation}
    (h : v ∈ marks.map Violation.missing) : v.code = .e200 := by
  obtain ⟨mark, -, rfl⟩ := List.mem_map.1 h
  rfl

/-! ### Lengths -/

theorem mem_fieldLength_iff {mark : Mark} {limit : Nat} {field : Option Text} {v : Violation} :
    v ∈ fieldLength mark limit field ↔
      ∃ t, field = some t ∧ limit < t.length ∧ v = .fieldTooLong mark t.length limit := by
  rw [fieldLength]
  split
  next hnone =>
    have hempty := present_eq_none_iff.1 hnone
    constructor
    · intro h
      cases h
    -- A text that is over a limit is not empty.
    · rintro ⟨t, ht, hlong, -⟩
      refine absurd ⟨t, ?_, ht⟩ hempty
      rintro rfl
      cases hlong
  next t ht =>
    obtain ⟨-, rfl⟩ := present_eq_some_iff.1 ht
    simp

theorem code_of_mem_fieldLength {mark : Mark} {limit : Nat} {field : Option Text} {v : Violation}
    (h : v ∈ fieldLength mark limit field) : v.code = .e300 := by
  obtain ⟨t, -, -, rfl⟩ := mem_fieldLength_iff.1 h
  rfl

theorem fieldLength_eq_nil_iff {mark : Mark} {limit : Nat} {field : Option Text} :
    fieldLength mark limit field = [] ↔ ∀ t ∈ field, t.length ≤ limit := by
  simp only [List.eq_nil_iff_forall_not_mem, mem_fieldLength_iff]
  constructor
  · intro h t ht
    exact Nat.not_lt.1 fun hlong => h _ ⟨t, ht, hlong, rfl⟩
  · rintro h v ⟨t, ht, hlong, -⟩
    have hle := h t ht
    omega

theorem code_of_mem_evidenceLengths {limit index : Nat} {items : List Evidence} {v : Violation}
    (h : v ∈ evidenceLengths limit index items) : v.code = .e301 := by
  induction items generalizing index with
  | nil => cases h
  | cons item items ih =>
    rw [evidenceLengths, List.mem_append, List.mem_ite_nil_right, List.mem_singleton] at h
    rcases h with ⟨-, rfl⟩ | h
    · rfl
    · exact ih h

theorem evidenceLengths_eq_nil_iff {limit index : Nat} {items : List Evidence} :
    evidenceLengths limit index items = [] ↔ ∀ item ∈ items, item.text.length ≤ limit := by
  induction items generalizing index with
  | nil => simp [evidenceLengths]
  | cons item items ih =>
    rw [evidenceLengths, List.append_eq_nil_iff, ih, List.forall_mem_cons]
    simp

theorem code_of_mem_evidenceCount {items : List Evidence} {v : Violation}
    (h : v ∈ evidenceCount items) : v.code = .e201 := by
  rw [evidenceCount, List.mem_ite_nil_right, List.mem_singleton] at h
  rw [h.2, Violation.code]

theorem evidenceCount_eq_nil_iff {items : List Evidence} :
    evidenceCount items = [] ↔ items.length ≤ maxEvidenceItems := by
  simp [evidenceCount]

theorem code_of_mem_contextLength {limit : Nat} {field : Option Text} {v : Violation}
    (h : v ∈ contextLength limit field) : v.code = .w300 := by
  rw [contextLength] at h
  split at h
  · cases h
  · rw [List.mem_ite_nil_right, List.mem_singleton] at h
    rw [h.2, Violation.code]

/-! ### Wording -/

theorem styledTexts_eq (post : Document) :
    post.styledTexts = post.title.toList ++ post.claim.toList ++ post.insight.toList ++
      post.context.toList ++ post.evidence.map Evidence.context := by
  rw [styledTexts]
  cases post.title <;> cases post.claim <;> cases post.insight <;> cases post.context <;> rfl

theorem code_of_mem_styleViolations {report : StyleReport} {v : Violation}
    (h : v ∈ styleViolations report) : v.code ∈ [Code.e400, .e401, .e402] := by
  simp only [styleViolations, List.mem_append, List.mem_map, List.mem_ite_nil_right,
    List.mem_singleton] at h
  rcases h with (⟨phrase, -, rfl⟩ | ⟨-, rfl⟩) | ⟨-, rfl⟩ <;> simp [Violation.code]

theorem styleViolations_eq_nil_iff {report : StyleReport} :
    styleViolations report = [] ↔ report.isClean = true := by
  simp [styleViolations, StyleReport.isClean, and_assoc]

/-- Each check on the wording has a code of its own. -/
theorem filter_code_styleViolations (report : StyleReport) :
    let found (code : Code) := (styleViolations report).filter fun v => v.code = code
    found .e400 = report.phrases.map .bannedPhrase ∧
      found .e401 = (if report.hasEmoji then [.emoji] else []) ∧
      found .e402 =
        if 0 < report.exclamations then [.exclamations report.exclamations] else [] := by
  intro found
  simp only [found, styleViolations, List.filter_append, List.filter_map, Function.comp_def,
    Violation.code]
  cases report.hasEmoji <;> cases report.exclamations <;> simp [List.filter_eq_self.2]

theorem code_of_mem_titleShape {field : Option Text} {v : Violation} (h : v ∈ titleShape field) :
    v.code ∈ [Code.e403, .e404] := by
  rw [titleShape] at h
  split at h
  · cases h
  · simp only [List.mem_append, List.mem_ite_nil_right, List.mem_singleton] at h
    rcases h with ⟨-, rfl⟩ | ⟨-, rfl⟩ <;> simp [Violation.code]

/-! ### Groups -/

/-- No part of the post is over its limit, and there is not too much evidence. -/
structure WithinLimits (limits : Limits) (post : Document) : Prop where
  title : ∀ t ∈ post.title, t.length ≤ limits.title
  claim : ∀ t ∈ post.claim, t.length ≤ limits.claim
  insight : ∀ t ∈ post.insight, t.length ≤ limits.insight
  evidence : ∀ item ∈ post.evidence, item.text.length ≤ limits.evidence
  evidence_length : post.evidence.length ≤ maxEvidenceItems

/-- What is wrong with the parts of a post, whatever their wording. -/
def partViolations (limits : Limits) (post : Document) : List Violation :=
  post.missingFields.map .missing ++
    fieldLength .title limits.title post.title ++
    fieldLength .claim limits.claim post.claim ++
    fieldLength .insight limits.insight post.insight ++
    evidenceLengths limits.evidence 1 post.evidence ++
    evidenceCount post.evidence

theorem partViolations_eq_nil_iff {limits : Limits} {post : Document} :
    partViolations limits post = [] ↔ post.Complete ∧ post.WithinLimits limits := by
  simp only [partViolations, List.append_eq_nil_iff, List.map_eq_nil_iff, missingFields_eq_nil_iff,
    fieldLength_eq_nil_iff, evidenceLengths_eq_nil_iff, evidenceCount_eq_nil_iff]
  constructor
  · rintro ⟨⟨⟨⟨⟨hcomplete, htitle⟩, hclaim⟩, hinsight⟩, hevidence⟩, hcount⟩
    exact ⟨hcomplete, htitle, hclaim, hinsight, hevidence, hcount⟩
  · rintro ⟨hcomplete, h⟩
    exact ⟨⟨⟨⟨⟨hcomplete, h.title⟩, h.claim⟩, h.insight⟩, h.evidence⟩, h.evidence_length⟩

theorem code_of_mem_partViolations {limits : Limits} {post : Document} {v : Violation}
    (h : v ∈ partViolations limits post) : v.code ∈ [Code.e200, .e300, .e301, .e201] := by
  simp only [partViolations, List.mem_append] at h
  rcases h with ((((h | h) | h) | h) | h) | h
  · simp [code_of_mem_missing h]
  · simp [code_of_mem_fieldLength h]
  · simp [code_of_mem_fieldLength h]
  · simp [code_of_mem_fieldLength h]
  · simp [code_of_mem_evidenceLengths h]
  · simp [code_of_mem_evidenceCount h]

theorem isError_of_code_mem {found : List Violation} {codes : List Code}
    (h : ∀ v ∈ found, v.code ∈ codes) (hcodes : Code.w300 ∉ codes) :
    ∀ v ∈ found, v.isError = true := by
  intro v hv
  refine Violation.isError_iff.2 fun hcode => hcodes ?_
  exact hcode ▸ h v hv

theorem filter_not_isError_eq_nil {found : List Violation} (h : ∀ v ∈ found, v.isError = true) :
    found.filter (fun v => !v.isError) = [] := by
  rw [List.filter_eq_nil_iff]
  intro v hv
  simp [h v hv]

theorem filter_code_eq_nil {found : List Violation} {codes : List Code} {code : Code}
    (h : ∀ v ∈ found, v.code ∈ codes) (hcode : code ∉ codes) :
    found.filter (fun v => v.code = code) = [] := by
  rw [List.filter_eq_nil_iff]
  intro v hv heq
  exact hcode (of_decide_eq_true heq ▸ h v hv)

/-! ### Reports -/

section Report

variable (defaults : Limits) (rules : StyleRules) (post : Document)

/-- All checks report errors, apart from the one on the length of the context, which reports a
warning. -/
theorem validate_eq :
    post.validate defaults rules =
      ⟨partViolations (post.limits defaults) post ++ styleViolations (rules.scan post.prose) ++
          titleShape post.title,
        contextLength (post.limits defaults).context post.context⟩ := by
  have hparts : ∀ v ∈ partViolations (post.limits defaults) post, v.isError = true :=
    isError_of_code_mem (fun _ => code_of_mem_partViolations) (by decide)
  have hstyle : ∀ v ∈ styleViolations (rules.scan post.prose), v.isError = true :=
    isError_of_code_mem (fun _ => code_of_mem_styleViolations) (by decide)
  have htitle : ∀ v ∈ titleShape post.title, v.isError = true :=
    isError_of_code_mem (fun _ => code_of_mem_titleShape) (by decide)
  have hcontext : ∀ v ∈ contextLength (post.limits defaults).context post.context,
      v.isError = false := by
    intro v hv
    rw [← Bool.not_eq_true, Violation.isError_iff, Classical.not_not]
    exact code_of_mem_contextLength hv
  have hsplit : violations (post.limits defaults) rules post =
      partViolations (post.limits defaults) post ++
        contextLength (post.limits defaults).context post.context ++
        styleViolations (rules.scan post.prose) ++ titleShape post.title := rfl
  rw [validate, hsplit, Report.mk.injEq]
  simp only [List.filter_append]
  constructor
  · rw [List.filter_eq_self.2 hparts, List.filter_eq_self.2 hstyle, List.filter_eq_self.2 htitle,
      List.filter_eq_nil_iff.2 (by simpa using hcontext), List.append_nil]
  · rw [filter_not_isError_eq_nil hparts, filter_not_isError_eq_nil hstyle,
      filter_not_isError_eq_nil htitle, List.filter_eq_self.2 (by simpa using hcontext)]
    simp

end Report

section Valid

variable {defaults : Limits} {rules : StyleRules} {post : Document}

theorem code_of_mem_errors_validate {v : Violation}
    (h : v ∈ (post.validate defaults rules).errors) :
    v.code ∈ [Code.e200, .e201, .e300, .e301, .e400, .e401, .e402, .e403, .e404] := by
  rw [validate_eq, List.mem_append, List.mem_append] at h
  rcases h with (h | h) | h
  · have hcode := code_of_mem_partViolations h
    exact (by decide : [Code.e200, .e300, .e301, .e201] ⊆ _) hcode
  · have hcode := code_of_mem_styleViolations h
    exact (by decide : [Code.e400, .e401, .e402] ⊆ _) hcode
  · have hcode := code_of_mem_titleShape h
    exact (by decide : [Code.e403, .e404] ⊆ _) hcode

theorem code_of_mem_warnings_validate {v : Violation}
    (h : v ∈ (post.validate defaults rules).warnings) : v.code = .w300 := by
  rw [validate_eq] at h
  exact code_of_mem_contextLength h

/-- No other group of checks uses the codes of the checks on the wording. -/
theorem found_validate {code : Code} (h : code ∈ [Code.e400, .e401, .e402]) :
    (post.validate defaults rules).found code =
      (styleViolations (rules.scan post.prose)).filter fun v => v.code = code := by
  have hparts : code ∉ [Code.e200, .e300, .e301, .e201] := by
    revert code
    decide
  have htitle : code ∉ [Code.e403, .e404] := by
    revert code
    decide
  have hcontext : code ∉ [Code.w300] := by
    revert code
    decide
  simp only [Report.found, validate_eq, List.filter_append]
  rw [filter_code_eq_nil (fun _ => code_of_mem_partViolations) hparts,
    filter_code_eq_nil (fun _ => code_of_mem_titleShape) htitle,
    filter_code_eq_nil (fun _ hv => List.mem_singleton.2 (code_of_mem_contextLength hv)) hcontext,
    List.nil_append, List.append_nil, List.append_nil]

/-- What a document without errors must be like. Only its lengths depend on limits. -/
theorem errors_validate_eq_nil_iff :
    (post.validate defaults rules).errors = [] ↔
      (post.Complete ∧ post.WithinLimits (post.limits defaults)) ∧
        (rules.scan post.prose).isClean = true ∧ titleShape post.title = [] := by
  rw [validate_eq, List.append_eq_nil_iff, List.append_eq_nil_iff, partViolations_eq_nil_iff,
    styleViolations_eq_nil_iff, and_assoc]

theorem parts_of_errors_validate (h : (post.validate defaults rules).errors = []) :
    post.Complete ∧ post.WithinLimits (post.limits defaults) :=
  (errors_validate_eq_nil_iff.1 h).1

theorem isClean_prose_of_errors_validate (h : (post.validate defaults rules).errors = []) :
    (rules.scan post.prose).isClean = true :=
  (errors_validate_eq_nil_iff.1 h).2.1

end Valid

end Document

end PostMarkup
