import PostMarkup.Proofs.Messages
import PostMarkup.Proofs.Validation

/-! The report on a document, rule by rule. Each rule has a code, and what it finds is told from the
fields that it is about; the report is what the rules find, put together. -/

namespace PostMarkup

namespace Document

/-! ### Rules -/

/-- The post has nothing of what a line with the mark would give it. -/
def Lacks (post : Document) : Mark → Prop
  | .title => post.title = none ∨ post.title = some []
  | .claim => post.claim = none ∨ post.claim = some []
  | .evidence => post.evidence = []
  | .insight => post.insight = none ∨ post.insight = some []
  | .source => post.source = none
  | .limit | .context | .credential => False

instance (post : Document) : DecidablePred post.Lacks
  | .title | .claim | .insight => inferInstanceAs (Decidable (_ ∨ _))
  | .evidence | .source => inferInstanceAs (Decidable (_ = _))
  | .limit | .context | .credential => inferInstanceAs (Decidable False)

/-- The text of a field, if it is there and over the limit. -/
def overlong (limit : Nat) (field : Option Text) : List Text :=
  field.toList.filter fun t => t ≠ [] ∧ limit < t.length

/-- The items with more characters than the limit, a space between value and context, each with its
place from one. -/
def overlongEvidence (limit : Nat) (items : List Evidence) : List (Evidence × Nat) :=
  (items.zipIdx 1).filter fun entry =>
    limit < entry.1.value.length + 1 + entry.1.context.length

/-- What the rule of a code finds. -/
def findings (limits : Limits) (rules : StyleRules) (post : Document) : Code → List Violation
  | .e200 => ([Mark.title, .claim, .evidence, .insight, .source].filter post.Lacks).map .missing
  | .e201 => if 5 < post.evidence.length then [.tooMuchEvidence post.evidence.length] else []
  | .e300 =>
    (overlong limits.title post.title).map
        (fun t => .fieldTooLong .title t.length limits.title) ++
      (overlong limits.claim post.claim).map
        (fun t => .fieldTooLong .claim t.length limits.claim) ++
      (overlong limits.insight post.insight).map
        (fun t => .fieldTooLong .insight t.length limits.insight)
  | .e301 =>
    (overlongEvidence limits.evidence post.evidence).map fun entry =>
      .evidenceTooLong entry.2 (entry.1.value.length + 1 + entry.1.context.length) limits.evidence
  | .e400 => (rules.scan post.prose).phrases.map .bannedPhrase
  | .e401 => if (rules.scan post.prose).hasEmoji then [.emoji] else []
  | .e402 =>
    if 0 < (rules.scan post.prose).exclamations then
      [.exclamations (rules.scan post.prose).exclamations]
    else []
  | .e403 => if ∃ t ∈ post.title, t ≠ [] ∧ t.getLast? = some '?' then [.questionTitle] else []
  | .e404 => if ∃ t ∈ post.title, '!' ∈ t then [.exclaimedTitle] else []
  | .w300 =>
    (overlong limits.context post.context).map fun t => .contextTooLong t.length limits.context
  | .e100 | .e101 | .e102 | .e103 | .e104 | .e302 => []

/-! ### Checks against rules -/

theorem present_eq_none_iff_eq {field : Option Text} :
    present field = none ↔ field = none ∨ field = some [] := by
  cases field <;> simp [present]

theorem missingFields_eq (post : Document) :
    post.missingFields = [Mark.title, .claim, .evidence, .insight, .source].filter post.Lacks := by
  have hone (mark : Mark) (marks : List Mark) : (mark :: marks).filter post.Lacks =
      (if post.Lacks mark then [mark] else []) ++ marks.filter post.Lacks := by
    rw [List.filter_cons]
    by_cases h : post.Lacks mark <;> simp [h]
  rw [hone, hone, hone, hone, hone, List.filter_nil]
  simp only [missingFields, present_eq_none_iff_eq, Lacks, List.append_nil, List.append_assoc]
  congr

/-- A check on the length of a field says what it says of the field's text, if that is overlong. -/
theorem map_overlong (limit : Nat) (field : Option Text) (make : Text → Violation) :
    (overlong limit field).map make =
      match present field with
      | none => []
      | some t => if limit < t.length then [make t] else [] := by
  rw [overlong]
  split
  next h => rcases present_eq_none_iff_eq.1 h with rfl | rfl <;> rfl
  next t h =>
    obtain ⟨hne, rfl⟩ := present_eq_some_iff.1 h
    by_cases hlong : limit < t.length <;> simp [hne, hlong]

theorem fieldLength_eq (mark : Mark) (limit : Nat) (field : Option Text) :
    fieldLength mark limit field =
      (overlong limit field).map fun t => .fieldTooLong mark t.length limit :=
  (map_overlong limit field fun t => .fieldTooLong mark t.length limit).symm

theorem contextLength_eq (limit : Nat) (field : Option Text) :
    contextLength limit field =
      (overlong limit field).map fun t => .contextTooLong t.length limit :=
  (map_overlong limit field fun t => .contextTooLong t.length limit).symm

theorem length_text (item : Evidence) :
    item.text.length = item.value.length + 1 + item.context.length := by
  rw [Evidence.text, List.length_append, List.length_cons]
  omega

theorem evidenceLengths_eq_zipIdx (limit index : Nat) (items : List Evidence) :
    evidenceLengths limit index items =
      ((items.zipIdx index).filter fun entry => limit < entry.1.text.length).map fun entry =>
        .evidenceTooLong entry.2 entry.1.text.length limit := by
  induction items generalizing index with
  | nil => rfl
  | cons item items ih =>
    rw [evidenceLengths, ih, List.zipIdx_cons]
    by_cases h : limit < item.text.length <;> simp [h]

theorem evidenceLengths_eq (limits : Limits) (rules : StyleRules) (post : Document) :
    evidenceLengths limits.evidence 1 post.evidence = findings limits rules post .e301 := by
  simp only [evidenceLengths_eq_zipIdx, findings, overlongEvidence, length_text]

theorem titleShape_eq (limits : Limits) (rules : StyleRules) (post : Document) :
    titleShape post.title =
      findings limits rules post .e403 ++ findings limits rules post .e404 := by
  simp only [titleShape, findings]
  split
  next h =>
    rcases present_eq_none_iff_eq.1 h with h | h <;> simp [h]
  next t h =>
    obtain ⟨hne, h⟩ := present_eq_some_iff.1 h
    simp [h, hne]

theorem partViolations_eq (limits : Limits) (rules : StyleRules) (post : Document) :
    partViolations limits post =
      [Code.e200, .e300, .e301, .e201].flatMap (findings limits rules post) := by
  rw [partViolations, missingFields_eq, fieldLength_eq, fieldLength_eq, fieldLength_eq,
    evidenceLengths_eq limits rules post]
  simp only [List.flatMap_cons, List.flatMap_nil, List.append_nil, List.append_assoc, findings]
  rfl

theorem styleViolations_eq (limits : Limits) (rules : StyleRules) (post : Document) :
    styleViolations (rules.scan post.prose) =
      [Code.e400, .e401, .e402].flatMap (findings limits rules post) := by
  simp only [styleViolations, List.flatMap_cons, List.flatMap_nil, List.append_nil,
    List.append_assoc, findings]

/-! ### Codes -/

section Codes

variable {limits : Limits} {rules : StyleRules} {post : Document}

/-- What the rule of a code finds, it reports under its code. -/
theorem code_of_mem_findings {code : Code} {v : Violation}
    (h : v ∈ findings limits rules post code) : v.code = code := by
  cases code with
  | e200 => exact code_of_mem_missing h
  | e201 => exact code_of_mem_evidenceCount h
  | e300 =>
    simp only [findings, ← fieldLength_eq, List.mem_append] at h
    rcases h with (h | h) | h <;> exact code_of_mem_fieldLength h
  | e301 =>
    rw [← evidenceLengths_eq] at h
    exact code_of_mem_evidenceLengths h
  | w300 =>
    rw [findings, ← contextLength_eq] at h
    exact code_of_mem_contextLength h
  | e400 =>
    obtain ⟨phrase, -, rfl⟩ := List.mem_map.1 h
    rfl
  | e401 | e402 | e403 | e404 =>
    rw [findings, List.mem_ite_nil_right, List.mem_singleton] at h
    rw [h.2, Violation.code]
  | e100 | e101 | e102 | e103 | e104 | e302 => cases h

theorem kind_mem_kinds_of_mem_findings {code : Code} {v : Violation}
    (h : v ∈ findings limits rules post code) : v.kind ∈ Violation.kinds := by
  refine Violation.kind_mem_kinds fun mark length limit hv => ?_
  subst hv
  obtain rfl : Code.e300 = code := code_of_mem_findings h
  simp only [findings, List.mem_append, List.mem_map] at h
  rcases h with (⟨t, -, heq⟩ | ⟨t, -, heq⟩) | ⟨t, -, heq⟩ <;> cases heq <;> decide

/-- Of what several rules find, each under its own code, that of one rule can be told apart. -/
theorem filter_code_flatMap_findings {codes : List Code} (h : codes.Nodup) (code : Code) :
    (codes.flatMap (findings limits rules post)).filter (fun v => v.code = code) =
      if code ∈ codes then findings limits rules post code else [] := by
  induction codes with
  | nil => rfl
  | cons first codes ih =>
    rw [List.nodup_cons] at h
    rw [List.flatMap_cons, List.filter_append, ih h.2]
    by_cases hcode : first = code
    · subst hcode
      have hkept : (findings limits rules post first).filter (fun v => v.code = first) =
          findings limits rules post first :=
        List.filter_eq_self.2 fun v hv => decide_eq_true (code_of_mem_findings hv)
      rw [hkept, if_neg h.1, if_pos List.mem_cons_self, List.append_nil]
    · have hdropped : (findings limits rules post first).filter (fun v => v.code = code) = [] :=
        List.filter_eq_nil_iff.2 fun v hv heq =>
          hcode ((code_of_mem_findings hv).symm.trans (of_decide_eq_true heq))
      simp [hdropped, Ne.symm hcode]

end Codes

/-! ### Reports -/

/-- What a report says about lengths is that these parts of the post are over the limits, each held
against that of its own name. -/
structure Measured (post : Document) (limit : LimitName → Nat) (report : Report) : Prop where
  found_e300 : report.found .e300 =
    (overlong (limit .title) post.title).map
        (fun t => .fieldTooLong .title t.length (limit .title)) ++
      (overlong (limit .claim) post.claim).map
        (fun t => .fieldTooLong .claim t.length (limit .claim)) ++
      (overlong (limit .insight) post.insight).map
        (fun t => .fieldTooLong .insight t.length (limit .insight))
  found_e301 : report.found .e301 =
    (overlongEvidence (limit .evidence) post.evidence).map fun entry =>
      .evidenceTooLong entry.2 (entry.1.value.length + 1 + entry.1.context.length)
        (limit .evidence)
  found_w300 : report.found .w300 =
    (overlong (limit .context) post.context).map fun t =>
      .contextTooLong t.length (limit .context)

/-- The codes of the rules whose findings are errors, in the order of the report. -/
def errorCodes : List Code := [.e200, .e300, .e301, .e201, .e400, .e401, .e402, .e403, .e404]

section Reports

variable (defaults : Limits) (rules : StyleRules) (post : Document)

theorem errors_validate :
    (post.validate defaults rules).errors =
      errorCodes.flatMap (findings (post.limits defaults) rules post) := by
  rw [validate_eq, partViolations_eq _ rules, styleViolations_eq (post.limits defaults),
    titleShape_eq (post.limits defaults) rules]
  simp [errorCodes]

theorem warnings_validate :
    (post.validate defaults rules).warnings =
      findings (post.limits defaults) rules post .w300 := by
  rw [validate_eq, contextLength_eq, findings]

theorem found_validate_eq_findings (code : Code) :
    (post.validate defaults rules).found code =
      findings (post.limits defaults) rules post code := by
  have hall : (post.validate defaults rules).errors ++ (post.validate defaults rules).warnings =
      (errorCodes ++ [Code.w300]).flatMap (findings (post.limits defaults) rules post) := by
    rw [errors_validate, warnings_validate, List.flatMap_append, List.flatMap_singleton]
  rw [Report.found, hall, filter_code_flatMap_findings (by decide)]
  cases code <;> rfl

theorem measured_validate :
    post.Measured (post.limits defaults).get (post.validate defaults rules) where
  found_e300 := found_validate_eq_findings defaults rules post .e300
  found_e301 := found_validate_eq_findings defaults rules post .e301
  found_w300 := found_validate_eq_findings defaults rules post .w300

theorem findings_eq_nil_of_not_mem {limits : Limits} {code : Code} (h : code ∉ errorCodes)
    (hne : code ≠ .w300) : findings limits rules post code = [] := by
  cases code with
  | e100 | e101 | e102 | e103 | e104 | e302 => rfl
  | w300 => exact absurd rfl hne
  | _ => exact absurd (by decide) h

theorem isValid_validate_iff :
    (post.validate defaults rules).isValid = true ↔
      ∀ code ≠ .w300, findings (post.limits defaults) rules post code = [] := by
  rw [Report.isValid, List.isEmpty_iff, errors_validate, List.flatMap_eq_nil_iff]
  constructor
  · intro h code hne
    by_cases hcode : code ∈ errorCodes
    · exact h code hcode
    · exact findings_eq_nil_of_not_mem rules post hcode hne
  · intro h code hcode
    refine h code ?_
    rintro rfl
    exact absurd hcode (by decide)

theorem diagnostic_of_mem_findings {limits : Limits} {code : Code} {v : Violation}
    (h : v ∈ findings limits rules post code) :
    v.diagnostic.code = some code ∧
      v.diagnostic.severity = if code = .w300 then .warning else .error := by
  obtain rfl := code_of_mem_findings h
  refine ⟨rfl, ?_⟩
  cases v <;> rfl

end Reports

/-- The report on a document holds what each rule finds in the fields it is about under the limits
in force, in the order of the rules, and nothing else: no rule adds to, takes from or repeats what
another finds. Only the rule on the context gives a warning, and it has no part in whether the
document is valid. The message of each finding names what it is about, and is that of no other
finding on any document. -/
theorem validate_exact (defaults : Limits) (rules : StyleRules) (post : Document) :
    let report := post.validate defaults rules
    let found := findings (post.limits defaults) rules post
    report.errors =
        [Code.e200, .e300, .e301, .e201, .e400, .e401, .e402, .e403, .e404].flatMap found ∧
      report.warnings = found .w300 ∧
      (∀ code, report.found code = found code) ∧
      (∀ code, ∀ v ∈ found code, v.diagnostic.code = some code ∧
        v.diagnostic.severity = if code = .w300 then .warning else .error) ∧
      (report.isValid = true ↔ ∀ code ≠ .w300, found code = []) ∧
      (∀ code, ∀ v ∈ found code, ∀ part ∈ v.named, part <:+: v.diagnostic.message.toList) ∧
      ∀ limits' rules' post' code code', ∀ v ∈ found code,
        ∀ v' ∈ findings limits' rules' post' code',
          v.diagnostic.message = v'.diagnostic.message → v = v' :=
  ⟨errors_validate defaults rules post, warnings_validate defaults rules post,
    found_validate_eq_findings defaults rules post,
    fun _ _ => diagnostic_of_mem_findings rules post, isValid_validate_iff defaults rules post,
    fun _ _ _ _ => Violation.infix_message_of_mem_named,
    fun _ _ _ _ _ _ hv _ hv' => Violation.eq_of_message_eq (kind_mem_kinds_of_mem_findings hv)
      (kind_mem_kinds_of_mem_findings hv')⟩

/-- A post that goes against most rules at once. It sets limits of its own for its title and its
context. -/
def flawed : Document where
  title := some "Delve! Why?".toList
  claim := some []
  evidence := (List.range 6).map fun n => ⟨['1'], List.replicate (57 + n) 'x'⟩
  context := some "☀".toList
  overrides := [(.title, 10), (.context, 0)]

theorem validate_exact_flawed :
    let report := flawed.validate {} .standard
    report.errors =
        [.missing .claim, .missing .insight, .missing .source, .fieldTooLong .title 11 10,
          .evidenceTooLong 3 61 60, .evidenceTooLong 4 62 60, .evidenceTooLong 5 63 60,
          .evidenceTooLong 6 64 60, .tooMuchEvidence 6, .bannedPhrase "delve".toList, .emoji,
          .exclamations 1, .questionTitle, .exclaimedTitle] ∧
      report.warnings = [.contextTooLong 1 0] ∧
      (Violation.evidenceTooLong 6 64 60).diagnostic.code = some .e301 ∧
      (∀ part ∈ ["6", "64", "60"].map String.toList,
        part <:+: (Violation.evidenceTooLong 6 64 60).diagnostic.message.toList) ∧
      report.isValid = false := by
  intro report
  obtain ⟨herrors, hwarnings, -, hcode, hvalid, hnamed, -⟩ := validate_exact {} .standard flawed
  have hlast : .evidenceTooLong 6 64 60 ∈ findings (flawed.limits {}) .standard flawed .e301 := by
    decide +kernel
  have hempty : findings (flawed.limits {}) .standard flawed .e403 ≠ [] := by decide +kernel
  refine ⟨herrors.trans ?_, hwarnings.trans ?_, (hcode _ _ hlast).1, hnamed _ _ hlast, ?_⟩
  · decide +kernel
  · decide +kernel
  · rw [← Bool.not_eq_true]
    exact fun h => hempty (hvalid.1 h .e403 (by decide))

end Document

end PostMarkup
