import PostMarkup.Document.Printer
import PostMarkup.Proofs.Parsed

/-! Documents and their printed form. Every document that a post describes is well-formed, whatever
else is wrong with the post, and every well-formed document is read back from its usual lines. -/

namespace PostMarkup

open Text

/-! ### Lines -/

theorem isBlank_of_isUrlChar {c : Char} (h : isUrlChar c = true) : isBlank c = false := by
  simp only [isUrlChar, Bool.and_eq_true, Bool.not_eq_true'] at h
  exact h.1

theorem isBlank_of_isDigit {c : Char} (h : c.isDigit = true) : isBlank c = false := by
  have hrange : 48 ≤ c.toNat ∧ c.toNat ≤ 57 := Char.isDigit_iff_toNat.1 h
  simp [isBlank]
  omega

/-- A line of the grammar has no blank characters at its ends. -/
theorem Layout.trim_line {layout : Layout} (h : layout.Proper) :
    layout.line.trim = layout.line := by
  refine trim_eq_self ?_ ?_
  · rw [line, startsOff_cons]
    cases layout.mark <;> decide
  · cases h with
    | quoting | evidence =>
      simp only [line, body, quote, List.reverse_cons, List.reverse_append]
      simp
      decide
    | limit _ _ _ _ _ _ hall hdigits =>
      simp only [line, body, List.reverse_cons, List.reverse_append, List.append_assoc]
      exact startsOff_append (by simpa using hdigits) (by simpa using hall)
        (fun _ => isBlank_of_isDigit) _
    | @source _ _ _ _ _ reason _ _ _ _ hurl hne _ =>
      cases reason with
      | none =>
        simp only [line, body, Option.map_none, Option.getD_none, List.append_nil,
          List.reverse_cons, List.reverse_append, List.append_assoc]
        exact startsOff_append (by simpa using hne) (by simpa using hurl)
          (fun _ => isBlank_of_isUrlChar) _
      | some r =>
        simp [line, body, quote, Reason.body]
        decide

namespace Directive

/-- The parts of the usual line of a directive. -/
def layout : Directive → Layout
  | limit name value => .limit [' '] name [' '] (Nat.toDigits 10 value)
  | title t => .quoting .title [' '] t
  | claim t => .quoting .claim [' '] t
  | evidence item => .evidence (' ' :: item.value ++ [' ']) [' '] item.context
  | insight t => .quoting .insight [' '] t
  | context t => .quoting .context [' '] t
  | credential t => .quoting .credential [' '] t
  | source origin =>
    .source [' '] origin.title [' '] [' '] origin.url
      (origin.credibility.map fun reason => ⟨[' '], [' '], reason⟩)

theorem line_layout (d : Directive) : d.layout.line = d.print := by
  cases d with
  | source origin =>
    cases h : origin.credibility <;>
      simp [layout, print, Layout.line, Layout.body, Layout.mark, Mark.char, Reason.body, h]
  | _ => simp [layout, print, Layout.line, Layout.body, Layout.mark, Mark.char]

theorem trim_layout_value {item : Evidence} (h : item.WellFormed) :
    trim (' ' :: item.value ++ [' ']) = item.value := by
  rw [trim_append_blank (by decide), trim_cons_blank (by decide), h.trim_value]

theorem proper_layout {d : Directive} (h : d.WellFormed) : d.layout.Proper := by
  have hgap : IsSpacing [' '] := by decide
  cases d with
  | limit name value =>
    obtain ⟨hname, hne, hpos, hbound⟩ := h
    rw [← Nat.ofDigitChars_ten_toDigits (n := value)] at hpos hbound
    exact .limit hgap (by simp) hname hne hgap (by simp)
      (fun c hc => Nat.isDigit_of_mem_toDigits (by decide) (by decide) hc) Nat.toDigits_ne_nil
      hpos hbound
  | evidence item =>
    refine .evidence ?_ ?_ hgap h.context.1
    · simpa using h.bar_not_mem
    · rw [trim_layout_value h]
      exact h.value_ne_nil
  | source origin =>
    refine .source hgap h.title.1 hgap hgap h.isUrlChar_of_mem h.url_ne_nil fun r hr => ?_
    obtain ⟨reason, hreason, rfl⟩ := Option.map_eq_some_iff.1 hr
    exact ⟨hgap, hgap, (h.credibility reason hreason).1⟩
  | title | claim | insight | context | credential => exact .quoting rfl hgap h.1

theorem directive?_layout {d : Directive} (h : d.WellFormed) : d.layout.directive? = some d := by
  cases d with
  | limit name value => simp [layout, Layout.directive?, Nat.ofDigitChars_ten_toDigits]
  | evidence item => simp only [layout, Layout.directive?, trim_layout_value h]
  | source origin => simp [layout, Layout.directive?, Function.comp_def]
  | title | claim | insight | context | credential => rfl

/-- The usual line of a directive says just that. -/
theorem ofText?_print {d : Directive} (h : d.WellFormed) : ofText? d.print = some d :=
  ofText?_eq_some_iff.2 ⟨d.layout, proper_layout h, line_layout d, directive?_layout h⟩

theorem trim_print {d : Directive} (h : d.WellFormed) : d.print.trim = d.print :=
  line_layout d ▸ Layout.trim_line (proper_layout h)

theorem newline_not_mem_print {d : Directive} (h : d.WellFormed) : '\n' ∉ d.print := by
  have hquote {s t : Text} (hs : '\n' ∉ s) (ht : IsQuotable t) : '\n' ∉ s ++ t.quote := by
    simp [quote, hs, ht.2]
  cases d with
  | limit name value =>
    have hname : '\n' ∉ name := fun hmem => absurd (h.1 _ hmem) (by decide)
    have hdigits : '\n' ∉ Nat.toDigits 10 value := fun hmem =>
      absurd (Nat.isDigit_of_mem_toDigits (by decide) (by decide) hmem) (by decide)
    simp [print, hname, hdigits]
  | evidence item => exact hquote (by simp [h.newline_not_mem]) h.context
  | source origin =>
    have hurl : '\n' ∉ origin.url := fun hmem => absurd (h.isUrlChar_of_mem _ hmem) (by decide)
    have hfront := hquote (s := "@ ".toList) (by simp) h.title
    cases hreason : origin.credibility with
    | none => simpa [print, hreason, hurl] using hfront
    | some reason =>
      have hback := hquote (s := " | ".toList) (by simp) (h.credibility reason hreason)
      simp only [print, hreason, List.mem_append, not_or] at hfront hback ⊢
      simp [hfront, hback, hurl]
  | title | claim | insight | context | credential => exact hquote (by simp) h

/-- What a line without line breaks says, a line can hold. -/
theorem WellFormed.of_ofText? {line : Text} {d : Directive} (h : ofText? line = some d)
    (hline : '\n' ∉ line) : d.WellFormed := by
  obtain ⟨layout, hproper, rfl, hd⟩ := ofText?_eq_some_iff.1 h
  cases hproper with
  | @quoting mark _ _ _ _ htext =>
    simp only [Layout.line, Layout.body, quote, List.mem_cons, List.mem_append, not_or] at hline
    obtain ⟨make, hmake, rfl⟩ := Option.map_eq_some_iff.1 hd
    cases mark <;> cases hmake <;> exact ⟨htext, hline.2.2.1.2⟩
  | limit _ _ hname hne _ _ _ _ hpos hbound =>
    cases hd
    exact ⟨hname, hne, hpos, hbound⟩
  | evidence hbar hvalue _ hcontext =>
    simp only [Layout.line, Layout.body, quote, List.mem_cons, List.mem_append, not_or] at hline
    cases hd
    exact ⟨hvalue, trim_trim _, fun hmem => hbar (mem_of_mem_trim hmem),
      fun hmem => hline.2.1 (mem_of_mem_trim hmem), hcontext, hline.2.2.2.2.1.2⟩
  | @source _ _ _ _ _ reason _ htitle _ _ hurl hne hreason =>
    simp only [Layout.line, Layout.body, quote, List.mem_cons, List.mem_append, not_or] at hline
    cases hd
    refine ⟨⟨htitle, hline.2.2.1.1.2⟩, hne, hurl, fun text htext => ?_⟩
    obtain ⟨r, rfl, rfl⟩ := Option.map_eq_some_iff.1 htext
    have hlast := hline.2.2.2.2.2.2.2
    simp only [Option.map_some, Option.getD_some, Reason.body, quote, List.mem_cons,
      List.mem_append, not_or] at hlast
    exact ⟨(hreason r rfl).text, hlast.2.2.2.1.2⟩

end Directive

namespace Document

/-! ### Documents -/

theorem WellFormed.empty : ({} : Document).WellFormed := by
  constructor <;> simp

/-- A directive that a line can hold keeps a document well-formed. -/
theorem WellFormed.apply {post : Document} {d : Directive} (h : post.WellFormed)
    (hd : d.WellFormed) : (post.apply d).WellFormed := by
  cases d with
  | limit name value =>
    rw [Document.apply]
    split
    next limit _ =>
      refine { h with overrides_nodup := ?_, overrides_bound := fun change hchange => ?_ }
      · exact Overrides.nodup_record _ _ h.overrides_nodup
      · rcases Overrides.eq_or_mem_of_mem_record hchange with rfl | hold
        · exact hd.2.2
        · exact h.overrides_bound change hold
    next => exact h
  | title t => exact { h with title := by rintro _ ⟨⟩; exact hd }
  | claim t => exact { h with claim := by rintro _ ⟨⟩; exact hd }
  | evidence item =>
    refine { h with evidence := fun other hother => ?_ }
    rcases List.mem_append.1 hother with hold | hnew
    · exact h.evidence other hold
    · exact List.mem_singleton.1 hnew ▸ hd
  | insight t => exact { h with insight := by rintro _ ⟨⟩; exact hd }
  | context t => exact { h with context := by rintro _ ⟨⟩; exact hd }
  | credential t => exact { h with credential := by rintro _ ⟨⟩; exact hd }
  | source origin => exact { h with source := by rintro _ ⟨⟩; exact hd }

theorem WellFormed.foldl_apply {directives : List Directive} {post : Document}
    (h : post.WellFormed) (hd : ∀ d ∈ directives, d.WellFormed) :
    (directives.foldl Document.apply post).WellFormed := by
  induction directives generalizing post with
  | nil => exact h
  | cons d rest ih =>
    exact ih (h.apply (hd d List.mem_cons_self)) fun d hmem => hd d (List.mem_cons_of_mem _ hmem)

/-- Every document that a post describes is well-formed, also where the post has errors. -/
theorem wellFormed_parse (post : Text) : (parse post).document.WellFormed := by
  rw [document_parse]
  refine WellFormed.empty.foldl_apply fun d hd => ?_
  obtain ⟨raw, hraw, hread⟩ := List.mem_filterMap.1 hd
  exact .of_ofText? hread fun hmem =>
    newline_not_mem_of_mem_physicalLines hraw (mem_of_mem_trim hmem)

theorem WellFormed.of_mem_directives {post : Document} (h : post.WellFormed) {d : Directive}
    (hd : d ∈ post.directives) : d.WellFormed := by
  simp only [directives, List.mem_append, List.mem_map, Option.mem_toList] at hd
  rcases hd with ((((((⟨change, hmem, rfl⟩ | ⟨t, ht, rfl⟩) | ⟨t, ht, rfl⟩) | ⟨item, hmem, rfl⟩) |
    ⟨t, ht, rfl⟩) | ⟨t, ht, rfl⟩) | ⟨t, ht, rfl⟩) | ⟨origin, horigin, rfl⟩
  · refine ⟨?_, ?_, h.overrides_bound change hmem⟩ <;> cases change.1 <;> decide
  · exact h.title t ht
  · exact h.claim t ht
  · exact h.evidence item hmem
  · exact h.insight t ht
  · exact h.context t ht
  · exact h.credential t ht
  · exact h.source origin horigin

/-- The directive of a field that may be absent sets the field. -/
theorem foldl_optional {α : Type} (make : α → Directive) (set : Option α → Document)
    (hset : ∀ a, (set none).apply (make a) = set (some a)) (field : Option α) :
    (field.toList.map make).foldl Document.apply (set none) = set field := by
  cases field with
  | none => rfl
  | some a => exact hset a

/-- The overrides after a list of changes, made in order. -/
theorem foldl_limits (changes : Overrides) (post : Document) :
    (changes.map fun change => Directive.limit change.1.word.toList change.2).foldl
        Document.apply post =
      { post with
        overrides := changes.foldl (fun old change => old.record change.1 change.2)
          post.overrides } := by
  induction changes generalizing post with
  | nil => rfl
  | cons change changes ih =>
    rw [List.map_cons, List.foldl_cons, ih, List.foldl_cons]
    simp [Document.apply, Document.setLimit]

theorem foldl_evidence (items : List Evidence) (post : Document) :
    (items.map Directive.evidence).foldl Document.apply post =
      { post with evidence := post.evidence ++ items } := by
  induction items generalizing post with
  | nil => simp
  | cons item items ih =>
    rw [List.map_cons, List.foldl_cons, ih]
    simp [Document.apply]

/-- The directives of a document make it again. -/
theorem ofDirectives_directives {post : Document}
    (h : (post.overrides.map Prod.fst).Nodup) : ofDirectives post.directives = post := by
  obtain ⟨title, claim, evidence, insight, context, credential, source, overrides⟩ := post
  have hoverrides : (overrides.map fun change =>
      Directive.limit change.1.word.toList change.2).foldl Document.apply {} = { overrides } := by
    rw [foldl_limits, Overrides.foldl_record [] h]
    rfl
  have htitle := foldl_optional .title (fun title => { overrides, title }) (fun _ => rfl) title
  have hclaim := foldl_optional .claim (fun claim => { overrides, title, claim }) (fun _ => rfl)
    claim
  have hevidence := foldl_evidence evidence { overrides, title, claim }
  have hinsight := foldl_optional .insight
    (fun insight => { overrides, title, claim, evidence, insight }) (fun _ => rfl) insight
  have hcontext := foldl_optional .context
    (fun context => { overrides, title, claim, evidence, insight, context }) (fun _ => rfl) context
  have hcredential := foldl_optional .credential
    (fun credential => { overrides, title, claim, evidence, insight, context, credential })
    (fun _ => rfl) credential
  have hsource := foldl_optional .source
    (fun source => { overrides, title, claim, evidence, insight, context, credential, source })
    (fun _ => rfl) source
  simp only [ofDirectives, directives, List.foldl_append]
  rw [hoverrides, htitle, hclaim, hevidence, List.nil_append, hinsight, hcontext, hcredential,
    hsource]

theorem filterMap_ofText?_print {post : Document} (h : post.WellFormed) :
    post.print.filterMap Directive.ofText? = post.directives := by
  rw [print, List.filterMap_map]
  refine (List.filterMap_congr fun d hd => ?_).trans List.filterMap_some
  exact Directive.ofText?_print (h.of_mem_directives hd)

/-- The physical lines of a printed document say what its directives say, and no line says
nothing. -/
theorem lines_print {post : Document} (h : post.WellFormed) {w : Text}
    (hw : ∀ c ∈ w, isBlank c = true) (hw' : '\n' ∉ w) :
    (physicalLines ((w ++ ['\n']).intercalate post.print)).filterMap
        (fun raw => Directive.ofText? raw.trim) = post.directives ∧
      ∀ raw ∈ physicalLines ((w ++ ['\n']).intercalate post.print),
        raw.trim = [] ∨ (Directive.ofText? raw.trim).isSome = true := by
  -- Nothing printed still makes one line, which is empty.
  by_cases hne : post.print = []
  · have hnone : post.directives = [] := by simpa [print] using hne
    rw [hne, hnone]
    exact ⟨rfl, by simp [physicalLines, trim, trimStart, trimEnd]⟩
  · have hnewline : ∀ line ∈ post.print, '\n' ∉ line := by
      intro line hline
      obtain ⟨d, hd, rfl⟩ := List.mem_map.1 hline
      exact Directive.newline_not_mem_print (h.of_mem_directives hd)
    have htrim : post.print.map trim = post.print := by
      rw [print, List.map_map]
      exact List.map_congr_left fun d hd => Directive.trim_print (h.of_mem_directives hd)
    have hlines := map_trim_physicalLines_intercalate hw hw' hne hnewline
    rw [htrim] at hlines
    refine ⟨?_, fun raw hraw => .inr ?_⟩
    · have hread := congrArg (List.filterMap Directive.ofText?) hlines
      rw [List.filterMap_map, filterMap_ofText?_print h] at hread
      exact hread
    · have hmem : raw.trim ∈ post.print := hlines ▸ List.mem_map_of_mem hraw
      obtain ⟨d, hd, hprint⟩ := List.mem_map.1 hmem
      rw [← hprint, Directive.ofText?_print (h.of_mem_directives hd)]
      rfl

/-- The lines of a well-formed document, each with the same blank characters before its line break,
are read back as that document. -/
theorem parse_intercalate_print {post : Document} (h : post.WellFormed) {w : Text}
    (hw : ∀ c ∈ w, isBlank c = true) (hw' : '\n' ∉ w) :
    parse ((w ++ ['\n']).intercalate post.print) = ⟨post, []⟩ := by
  have hdocument : (parse ((w ++ ['\n']).intercalate post.print)).document = post := by
    rw [document_parse, (lines_print h hw hw').1, ofDirectives_directives h.overrides_nodup]
  have herrors := errors_parse_eq_nil (lines_print h hw hw').2
  calc parse ((w ++ ['\n']).intercalate post.print)
    _ = ⟨(parse ((w ++ ['\n']).intercalate post.print)).document,
          (parse ((w ++ ['\n']).intercalate post.print)).errors⟩ := rfl
    _ = ⟨post, []⟩ := by rw [hdocument, herrors]

/-- A well-formed document is read back from its usual lines, whichever way the lines end. -/
theorem parse_print {post : Document} (h : post.WellFormed) :
    parse (['\n'].intercalate post.print) = ⟨post, []⟩ ∧
      parse (['\r', '\n'].intercalate post.print) = ⟨post, []⟩ :=
  ⟨parse_intercalate_print (w := []) h (by simp) (by simp),
    parse_intercalate_print (w := ['\r']) h (by decide) (by decide)⟩

/-- A document whose texts hold line ends, blank characters, marks and the signs of comments. -/
def crowded : Document where
  title := some " // \r# ".toList
  claim := some []
  evidence := [⟨"\"2x\u2003\rfaster\"".toList, "| > \t".toList⟩, ⟨['+'], []⟩]
  context := some "\u3000".toList
  source := some ⟨['@'], "//\"x".toList, some "^ total 1".toList⟩
  overrides := [(.total, numberBound - 1), (.title, 1)]

theorem wellFormed_crowded : crowded.WellFormed where
  title := by simp [crowded, IsQuotable]
  claim := by simp [crowded, IsQuotable]
  insight := by simp [crowded]
  context := by simp [crowded, IsQuotable]
  credential := by simp [crowded]
  evidence := by
    simp only [crowded, List.forall_mem_cons, List.not_mem_nil, false_imp_iff, implies_true]
    exact ⟨⟨by decide, by decide, by decide, by decide, by decide, by decide⟩,
      ⟨by decide, by decide, by decide, by decide, by decide, by decide⟩, trivial⟩
  source := by
    rintro _ ⟨⟩
    exact ⟨by decide, by decide, by decide, by rintro _ ⟨⟩; decide⟩
  overrides_nodup := by decide
  overrides_bound := by decide

theorem parse_print_crowded :
    crowded.WellFormed ∧ parse (['\n'].intercalate crowded.print) = ⟨crowded, []⟩ ∧
      parse (['\r', '\n'].intercalate crowded.print) = ⟨crowded, []⟩ :=
  ⟨wellFormed_crowded, parse_print wellFormed_crowded⟩

end Document

end PostMarkup
