import PostMarkup.Proofs.Precedence
import PostMarkup.Proofs.Stages

/-! Posts whose lines stand in another order: what a line says of one part of a post does not depend
on where it stands among the lines about other parts. -/

namespace PostMarkup

open Text

/-! ### Documents -/

namespace Document

/-- What lines with the mark have made of the post. -/
def part (post : Document) : Mark → Document
  | .limit => { overrides := post.overrides }
  | .title => { title := post.title }
  | .claim => { claim := post.claim }
  | .evidence => { evidence := post.evidence }
  | .insight => { insight := post.insight }
  | .context => { context := post.context }
  | .credential => { credential := post.credential }
  | .source => { source := post.source }

theorem render_eq_content (post : Document) : post.render = post.content.render := rfl

/-- What a post says is put together of its parts. -/
theorem content_eq_of_part_eq {post post' : Document}
    (h : ∀ mark ≠ .limit, post.part mark = post'.part mark) : post.content = post'.content := by
  have hview {α : Type} (mark : Mark) (hmark : mark ≠ .limit) (view : Document → α) :
      view (post.part mark) = view (post'.part mark) := congrArg view (h mark hmark)
  have htitle : post.title = post'.title := hview .title (by decide) title
  have hclaim : post.claim = post'.claim := hview .claim (by decide) claim
  have hevidence : post.evidence = post'.evidence := hview .evidence (by decide) evidence
  have hinsight : post.insight = post'.insight := hview .insight (by decide) insight
  have hcontext : post.context = post'.context := hview .context (by decide) context
  have hcredential : post.credential = post'.credential := hview .credential (by decide) credential
  have hsource : post.source = post'.source := hview .source (by decide) source
  simp only [content, htitle, hclaim, hevidence, hinsight, hcontext, hcredential, hsource]

/-- A directive changes the part of its own mark as it changes the whole, and no other part. -/
theorem part_apply (post : Document) (d : Directive) (mark : Mark) :
    (post.apply d).part mark =
      if d.mark = mark then (post.part mark).apply d else post.part mark := by
  cases d with
  | limit word value =>
    -- A word that stands for no limit changes nothing, in the whole as in the part.
    rw [apply, apply]
    cases mark <;> split <;> rfl
  | _ => cases mark <;> rfl

/-- A part is made by the directives of its own mark alone. -/
theorem part_foldl_apply (directives : List Directive) (post : Document) (mark : Mark) :
    (directives.foldl apply post).part mark =
      (directives.filter fun d => d.mark = mark).foldl apply (post.part mark) := by
  induction directives generalizing post with
  | nil => rfl
  | cons d rest ih =>
    rw [List.foldl_cons, ih, part_apply, List.filter_cons]
    by_cases h : d.mark = mark <;> simp [h]

theorem content_ofDirectives {directives directives' : List Directive}
    (h : ∀ mark ≠ .limit, directives.filter (fun d => d.mark = mark) =
      directives'.filter fun d => d.mark = mark) :
    (ofDirectives directives).content = (ofDirectives directives').content := by
  refine content_eq_of_part_eq fun mark hmark => ?_
  rw [ofDirectives, ofDirectives, part_foldl_apply, part_foldl_apply, h mark hmark]

end Document

/-! ### Lines -/

/-- The line sets the limit. -/
def Text.IsAbout (t : Text) (name : LimitName) : Prop :=
  ∃ value, t.SetsLimit name.word.toList value

theorem Text.isAbout_iff {t : Text} {name : LimitName} :
    t.IsAbout name ↔ (t.limitValue? name).isSome = true := by
  simp only [IsAbout, Option.isSome_iff_exists, limitValue?_eq_some_iff]

instance (t : Text) (name : LimitName) : Decidable (t.IsAbout name) :=
  decidable_of_iff _ isAbout_iff.symm

/-- The second list has the lines of the first in another order, in which lines with the same mark
keep their order. Of the lines about limits only those that set the same limit need to. -/
structure Rearranged (raws raws' : List Text) : Prop where
  perm : raws.Perm raws'
  marked : ∀ mark : Mark, mark ≠ .limit →
    raws.filter (fun raw => raw.trim.head? = some mark.char) =
      raws'.filter fun raw => raw.trim.head? = some mark.char
  limiting : ∀ name : LimitName,
    raws.filter (fun raw => raw.trim.IsAbout name) =
      raws'.filter fun raw => raw.trim.IsAbout name

theorem Text.IsAbout.head?_eq {t : Text} {name : LimitName} (h : t.IsAbout name) :
    t.head? = some Mark.limit.char := by
  obtain ⟨value, gap, gap', digits, -, rfl, -⟩ := h
  rfl

/-- It is enough that lines with the same mark keep their order, those about limits like others. -/
theorem Rearranged.of_filter_eq {raws raws' : List Text} (hperm : raws.Perm raws')
    (h : ∀ mark : Mark, raws.filter (fun raw => raw.trim.head? = some mark.char) =
      raws'.filter fun raw => raw.trim.head? = some mark.char) : Rearranged raws raws' := by
  refine ⟨hperm, fun mark _ => h mark, fun name => ?_⟩
  -- The lines that set the limit are found among those with the mark of limits.
  have hsplit (raws : List Text) : raws.filter (fun raw => raw.trim.IsAbout name) =
      (raws.filter fun raw => raw.trim.head? = some Mark.limit.char).filter fun raw =>
        raw.trim.IsAbout name := by
    rw [List.filter_filter]
    refine List.filter_congr fun raw _ => ?_
    by_cases habout : raw.trim.IsAbout name
    · simp [habout, habout.head?_eq]
    · simp [habout]
  rw [hsplit raws, hsplit raws', h]

section Rearranged

theorem filter_mark_filterMap_ofText? (raws : List Text) (mark : Mark) :
    (raws.filterMap fun raw => Directive.ofText? raw.trim).filter (fun d => d.mark = mark) =
      (raws.filter fun raw => raw.trim.head? = some mark.char).filterMap fun raw =>
        Directive.ofText? raw.trim := by
  rw [List.filter_filterMap, List.filterMap_filter]
  refine List.filterMap_congr fun raw _ => ?_
  cases hread : Directive.ofText? raw.trim with
  | none => simp
  | some d =>
    have hhead : raw.trim.head? = some d.mark.char :=
      LineKind.ofText_eq_directive_iff.1 (kind_of_ofText? hread)
    have hiff : d.mark.char = mark.char ↔ d.mark = mark := ⟨Mark.char_injective, congrArg _⟩
    simp only [hhead, Option.some.injEq, hiff, Option.filter_some]

/-- Lines that do not set the limit give it no values. -/
theorem limitValues_filter (raws : List Text) (name : LimitName) :
    limitValues (raws.filter fun raw => raw.trim.IsAbout name) name = limitValues raws name := by
  rw [limitValues, limitValues, List.filterMap_filter]
  refine List.filterMap_congr fun raw _ => ?_
  by_cases h : raw.trim.IsAbout name
  · rw [if_pos (decide_eq_true h)]
  · have hnone : raw.trim.limitValue? name = none := by
      rwa [isAbout_iff, Option.not_isSome_iff_eq_none] at h
    rw [hnone, ite_self]

variable {post post' : Text} (h : Rearranged post.physicalLines post'.physicalLines)
include h

/-- The refused lines are the same, in some order. -/
theorem perm_mark_errors_parse :
    ((parse post).errors.map SyntaxError.mark).Perm
      ((parse post').errors.map SyntaxError.mark) := by
  rw [map_mark_errors_parse, map_mark_errors_parse]
  exact (h.perm.map trim).filterMap refusedMark?

theorem errors_parse_eq_nil_rearranged : (parse post).errors = [] ↔ (parse post').errors = [] := by
  simp only [errors_parse_eq_nil_iff, h.perm.mem_iff]

theorem content_parse_rearranged :
    (parse post).document.content = (parse post').document.content := by
  rw [document_parse, document_parse]
  refine Document.content_ofDirectives fun mark hmark => ?_
  rw [filter_mark_filterMap_ofText?, filter_mark_filterMap_ofText?, h.marked mark hmark]

theorem limits_parse_rearranged (defaults : Limits) :
    (parse post).document.limits defaults = (parse post').document.limits defaults := by
  refine Limits.ext_get fun name => ?_
  rw [get_limits_parse, get_limits_parse, ← limitValues_filter, h.limiting name,
    limitValues_filter]

/-- Once a post has been read, the order of its lines is forgotten. -/
theorem compile_rearranged (limits : Limits) (hread : (parse post).errors = []) :
    compile limits post = compile limits post' := by
  have hread' : (parse post').errors = [] := (errors_parse_eq_nil_rearranged h).1 hread
  have hcontent := content_parse_rearranged h
  have hlimits := limits_parse_rearranged h limits
  have hreport : (parse post).document.validate limits .standard =
      (parse post').document.validate limits .standard := by
    rw [Document.validate_eq_content, hcontent, hlimits, ← Document.validate_eq_content]
  have hrender : (parse post).document.render = (parse post').document.render := by
    rw [Document.render_eq_content, hcontent, ← Document.render_eq_content]
  have hmeasure (output : Text) : (parse post).document.checkOutput limits output =
      (parse post').document.checkOutput limits output := by
    rw [Document.checkOutput_eq_content, hcontent, hlimits, ← Document.checkOutput_eq_content]
  simp only [compile, hread, hread', hreport, hrender, hmeasure]

theorem compile_rearranged_of_malformed (limits : Limits) (hne : (parse post).errors ≠ []) :
    compile limits post = .malformed (parse post).errors ∧
      compile limits post' = .malformed (parse post').errors := by
  have hne' : (parse post').errors ≠ [] := mt (errors_parse_eq_nil_rearranged h).2 hne
  exact ⟨compile_of_malformed (parseStrict_eq_error_iff.2 ⟨hne, rfl⟩),
    compile_of_malformed (parseStrict_eq_error_iff.2 ⟨hne', rfl⟩)⟩

end Rearranged

/-- So it is where all lines with the same mark keep their order. -/
theorem compile_eq_of_filter_eq (limits : Limits) {post post' : Text}
    (hperm : post.physicalLines.Perm post'.physicalLines)
    (h : ∀ mark : Mark, post.physicalLines.filter (fun raw => raw.trim.head? = some mark.char) =
      post'.physicalLines.filter fun raw => raw.trim.head? = some mark.char)
    (hread : (parse post).errors = []) : compile limits post = compile limits post' :=
  compile_rearranged (.of_filter_eq hperm h) limits hread

theorem map_code_errors_malformed (errors : List SyntaxError) :
    (Compilation.malformed errors).errors.map Diagnostic.code =
      (errors.map SyntaxError.mark).map fun mark => some mark.code := by
  rw [Compilation.errors, List.map_map, List.map_map]
  rfl

/-- Posts that differ in the order of their lines alone, where lines about the same thing keep their
order, come out alike: the same is rendered or the same is reported. Only where lines are refused do
the reports differ, and then no more than in the order and the places of the errors. -/
theorem compile_reordered (limits : Limits) {post post' : Text}
    (h : Rearranged post.physicalLines post'.physicalLines) :
    let first := compile limits post
    let second := compile limits post'
    first.success = second.success ∧ first.output? = second.output? ∧
      first.stage = second.stage ∧
      (first.stage ≠ .reading → first.errors = second.errors ∧ first.warnings = second.warnings) ∧
      ∀ code, (first.errors.map Diagnostic.code).count code =
        (second.errors.map Diagnostic.code).count code := by
  intro first second
  by_cases hread : (parse post).errors = []
  · have heq : first = second := compile_rearranged h limits hread
    rw [heq]
    exact ⟨rfl, rfl, rfl, fun _ => ⟨rfl, rfl⟩, fun _ => rfl⟩
  · have hmarks := perm_mark_errors_parse h
    obtain ⟨hfirst, hsecond⟩ := compile_rearranged_of_malformed h limits hread
    have hcodes : (first.errors.map Diagnostic.code).Perm (second.errors.map Diagnostic.code) := by
      simp only [first, second, hfirst, hsecond, map_code_errors_malformed]
      exact hmarks.map _
    refine ⟨?_, ?_, ?_, ?_, hcodes.count_eq⟩ <;> simp only [first, second, hfirst, hsecond]
    · rfl
    · rfl
    · rfl
    · intro hstage
      exact absurd rfl hstage

/-- The lines of a post with all its parts, each where one expects it. -/
def listed : List Text :=
  ["^ total 51", "^ title 2", "^ context 1", "# \"T\"", "? \"xy\"", "! \"C\"", "+ 1 | \"x\"",
    "+ 2 | \"y\"", "> \"I\"", "@ \"S\" | a.b", "^ title 1"].map String.toList

/-- The same lines in another order, the limit on the whole after those on the title. -/
def shuffled : List Text :=
  ["+ 1 | \"x\"", "@ \"S\" | a.b", "^ title 2", "> \"I\"", "? \"xy\"", "^ title 1", "# \"T\"",
    "+ 2 | \"y\"", "^ total 51", "^ context 1", "! \"C\""].map String.toList

theorem rearranged_shuffled : Rearranged listed shuffled where
  perm := by decide +kernel
  marked mark hmark := by
    cases mark with
    | limit => exact absurd rfl hmark
    | _ => decide +kernel
  limiting name := by cases name <;> decide +kernel

/-- What is rendered of either. -/
def shuffledOutput : Text :=
  ['\n'].intercalate <| List.map String.toList
    ["T.", "", "xy", "", "C.", "", "Results:", "- 1 x", "- 2 y", "", "I.", "", "Source: S", "a.b"]

theorem compile_reordered_shuffled :
    let first := compile {} (['\n'].intercalate listed)
    let second := compile {} (['\n'].intercalate shuffled)
    Rearranged (physicalLines (['\n'].intercalate listed))
        (physicalLines (['\n'].intercalate shuffled)) ∧
      first.stage ≠ .reading ∧ second.output? = some shuffledOutput ∧
      second.warnings = [(Violation.contextTooLong 2 1).diagnostic] := by
  intro first second
  have hlisted : physicalLines (['\n'].intercalate listed) = listed := by decide +kernel
  have hshuffled : physicalLines (['\n'].intercalate shuffled) = shuffled := by decide +kernel
  have h : Rearranged (physicalLines (['\n'].intercalate listed))
      (physicalLines (['\n'].intercalate shuffled)) := by
    rw [hlisted, hshuffled]
    exact rearranged_shuffled
  have hfirst : first = .done shuffledOutput [.contextTooLong 2 1] := by decide +kernel
  have hstage : first.stage ≠ .reading := by
    rw [hfirst]
    decide
  obtain ⟨-, houtput, -, hreport, -⟩ := compile_reordered {} h
  refine ⟨h, hstage, houtput.symm.trans ?_, (hreport hstage).2.symm.trans ?_⟩
  · exact congrArg Compilation.output? hfirst
  · exact congrArg Compilation.warnings hfirst

end PostMarkup
