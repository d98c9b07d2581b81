import PostMarkup.Proofs.Render
import PostMarkup.Proofs.Wording

/-! What becomes of the empty parts of a post. The checks take an optional text that is empty for
one that is missing, while the rendered form keeps its place: an empty block, or empty brackets. An
address of which nothing is displayed leaves the last line empty. -/

namespace PostMarkup

open Text

/-! ### The last line -/

theorem Text.getLast?_physicalLines_eq_nil_iff {t : Text} :
    t.physicalLines.getLast? = some [] ↔ t = [] ∨ t.getLast? = some '\n' := by
  constructor
  · induction t using lines_induction with
    | last line hline =>
      rw [physicalLines_of_not_mem hline, List.getLast?_singleton, Option.some.injEq]
      exact .inl
    | cons line rest hline ih =>
      rw [physicalLines_cons hline, List.getLast?_cons_of_ne_nil (physicalLines_ne_nil rest)]
      intro h
      right
      rcases ih h with rfl | hlast
      · exact List.getLast?_concat
      · rw [List.getLast?_append, List.getLast?_cons, hlast]
        rfl
  · rintro (rfl | h)
    · rfl
    · obtain ⟨front, rfl⟩ := List.getLast?_eq_some_iff.1 h
      rw [physicalLines_append]
      exact List.getLast?_concat

theorem Text.eq_or_eq_append_dropStart (start : String) (t : Text) :
    t = dropStart start t ∨ t = start.toList ++ dropStart start t := by
  rw [dropStart]
  cases hrest : start.toList.isPrefixOf? t with
  | none => exact .inl rfl
  | some rest => exact .inr (List.isPrefixOf?_eq_some_iff_append_eq.1 hrest).symm

namespace Source

/-- What readers are not shown of an address: nothing, a scheme, `www.`, or both. -/
def fronts : List Text :=
  ["", "https://", "http://", "www.", "https://www.", "http://www."].map String.toList

theorem exists_front_displayUrl (source : Source) :
    ∃ front ∈ fronts, source.url = front ++ source.displayUrl := by
  have hfront (scheme bare : Text) (hurl : source.url = scheme ++ bare)
      (hscheme : scheme ∈ fronts) (hwww : scheme ++ "www.".toList ∈ fronts) :
      ∃ front ∈ fronts, source.url = front ++ dropStart "www." bare := by
    rcases eq_or_eq_append_dropStart "www." bare with hbare | hbare
    · exact ⟨scheme, hscheme, by rw [← hbare, hurl]⟩
    · exact ⟨_, hwww, by rw [List.append_assoc, ← hbare, hurl]⟩
  rw [displayUrl]
  split
  next bare hbare =>
    have hurl := (List.isPrefixOf?_eq_some_iff_append_eq.1 hbare).symm
    exact hfront _ bare hurl (by decide) (by decide)
  next =>
    rcases eq_or_eq_append_dropStart "http://" source.url with hurl | hurl
    · exact hfront [] _ hurl (by decide) (by decide)
    · exact hfront _ _ hurl (by decide) (by decide)

/-- Nothing is displayed of an address exactly if it is all front. -/
theorem displayUrl_eq_nil_iff {source : Source} : source.displayUrl = [] ↔ source.url ∈ fronts := by
  constructor
  · intro h
    obtain ⟨front, hfront, hurl⟩ := source.exists_front_displayUrl
    rw [hurl, h, List.append_nil]
    exact hfront
  · obtain ⟨title, url, credibility⟩ := source
    intro h
    simp only [fronts, List.map_cons, List.map_nil, List.mem_cons, List.not_mem_nil,
      or_false] at h
    rcases h with rfl | rfl | rfl | rfl | rfl | rfl <;> rfl

end Source

namespace Document

theorem getLast?_renderedLines {post : Document} {origin : Source}
    (horigin : post.source = some origin) :
    post.renderedLines.getLast? = some origin.displayUrl := by
  simp [renderedLines, horigin, sourceLines, List.getLast?_append, List.getLast?_cons]

theorem head?_renderedLines_ne_nil (post : Document) : post.renderedLines.head? ≠ some [] := by
  simp [renderedLines, sentence]

end Document

/-- The last line of what is rendered is the address as readers see it. That is empty, and a line
break the end of what is rendered, only if the address is all front. -/
theorem getLast?_output_of_compile {limits : Limits} {post output : Text}
    (h : (compile limits post).output? = some output) :
    ∃ origin, (parse post).document.source = some origin ∧
      output.physicalLines.getLast? = some origin.displayUrl ∧
      (output.getLast? = some '\n' ↔ origin.displayUrl = []) ∧
      (origin.displayUrl = [] ↔
        origin.url ∈ ["https://", "http://", "www.", "https://www.", "http://www."].map
          String.toList) := by
  have hwell := Document.wellFormed_parse post
  have hcomplete := complete_of_compile h
  obtain ⟨origin, horigin⟩ := hcomplete.source
  have hlines : output.physicalLines = (parse post).document.renderedLines := by
    rw [eq_render_of_compile h, Document.physicalLines_render hwell hcomplete]
  have hlast : output.physicalLines.getLast? = some origin.displayUrl := by
    rw [hlines, Document.getLast?_renderedLines horigin]
  have hne : output ≠ [] := by
    rintro rfl
    exact Document.head?_renderedLines_ne_nil _ (congrArg List.head? hlines).symm
  refine ⟨origin, horigin, hlast, ?_, ?_⟩
  · calc output.getLast? = some '\n'
      _ ↔ output = [] ∨ output.getLast? = some '\n' := (or_iff_right hne).symm
      _ ↔ output.physicalLines.getLast? = some [] := getLast?_physicalLines_eq_nil_iff.symm
      _ ↔ origin.displayUrl = [] := by rw [hlast, Option.some.injEq]
  · have hurl : origin.url ≠ [] := (hwell.source origin horigin).url_ne_nil
    rw [Source.displayUrl_eq_nil_iff, Source.fronts, List.map_cons, List.mem_cons]
    exact or_iff_right hurl

/-- A post whose address is all front. -/
def addressless : Text :=
  ['\n'].intercalate <| List.map String.toList
    ["# \"T\"", "! \"C\"", "+ 1 | \"x\"", "> \"I\"", "@ \"S\" | https://www."]

def addresslessOutput : Text :=
  ['\n'].intercalate <| List.map String.toList
    ["T.", "", "C.", "", "Results:", "- 1 x", "", "I.", "", "Source: S", ""]

/-- A post whose address is almost all front. -/
def nearlyAddressless : Text := addressless ++ "w".toList

/-- What is rendered need not end in a line that says something. -/
theorem getLast?_output_addressless :
    (compile {} addressless).output? = some addresslessOutput ∧
      addresslessOutput.getLast? = some '\n' ∧
      addresslessOutput.physicalLines.getLast? = some [] := by
  decide +kernel

theorem getLast?_output_of_compile_nearlyAddressless :
    (compile {} nearlyAddressless).output? = some (addresslessOutput ++ "w".toList) ∧
      (addresslessOutput ++ "w".toList).physicalLines.getLast? = some "w".toList ∧
      (addresslessOutput ++ "w".toList).getLast? ≠ some '\n' := by
  have h : (compile {} nearlyAddressless).output? = some (addresslessOutput ++ "w".toList) := by
    decide +kernel
  obtain ⟨origin, horigin, hlast, hnewline, -⟩ := getLast?_output_of_compile h
  have hparsed : (parse nearlyAddressless).document.source =
      some ⟨['S'], "https://www.w".toList, none⟩ := by decide +kernel
  obtain rfl : origin = ⟨['S'], "https://www.w".toList, none⟩ :=
    Option.some.inj (horigin.symm.trans hparsed)
  refine ⟨h, hlast, ?_⟩
  rw [ne_eq, hnewline]
  decide

/-! ### Optional texts -/

namespace Document

/-- The field, without its text if that is empty and `drop` says so. -/
def dropEmpty (drop : Bool) (field : Option Text) : Option Text :=
  if drop then present field else field

/-- The post without some of its optional texts that are empty. -/
def omitEmpty (context credential credibility : Bool) (post : Document) : Document :=
  { post with
    context := dropEmpty context post.context
    credential := dropEmpty credential post.credential
    source := post.source.map fun origin =>
      { origin with credibility := dropEmpty credibility origin.credibility } }

section Fields

variable (drop : Bool) (field : Option Text)

theorem dropEmpty_eq_or : dropEmpty drop field = field ∨
    field = some [] ∧ dropEmpty drop field = none := by
  cases drop with
  | false => exact .inl rfl
  | true =>
    cases field with
    | none => exact .inl rfl
    | some t => cases t <;> simp [dropEmpty, present]

theorem mem_of_mem_dropEmpty {drop : Bool} {field : Option Text} {t : Text}
    (h : t ∈ dropEmpty drop field) : t ∈ field := by
  rcases dropEmpty_eq_or drop field with heq | ⟨-, hnone⟩
  · rwa [heq] at h
  · rw [hnone] at h
    cases h

@[simp] theorem present_dropEmpty : present (dropEmpty drop field) = present field := by
  rcases dropEmpty_eq_or drop field with heq | ⟨rfl, hnone⟩
  · rw [heq]
  · rw [hnone]
    rfl

theorem exists_mem_dropEmpty {p : Text → Prop} (hp : ¬p []) :
    (∃ t ∈ dropEmpty drop field, p t) ↔ ∃ t ∈ field, p t := by
  rcases dropEmpty_eq_or drop field with heq | ⟨rfl, hnone⟩
  · rw [heq]
  · simp [hnone, hp]

theorem count_dropEmpty (c : Char) :
    ((dropEmpty drop field).map (List.count c)).getD 0 = (field.map (List.count c)).getD 0 := by
  rcases dropEmpty_eq_or drop field with heq | ⟨rfl, hnone⟩
  · rw [heq]
  · rw [hnone]
    rfl

end Fields

section Checks

variable (context credential credibility : Bool) (post : Document)

theorem someStyled_omitEmpty {p : Text → Prop} (hp : ¬p []) :
    (post.omitEmpty context credential credibility).SomeStyled p ↔ post.SomeStyled p := by
  simp only [SomeStyled, omitEmpty, exists_mem_dropEmpty _ _ hp]

theorem exclamations_omitEmpty :
    (post.omitEmpty context credential credibility).exclamations = post.exclamations := by
  simp only [exclamations, omitEmpty, count_dropEmpty]

/-- An empty text adds nothing to what the standard rules find. -/
theorem scan_prose_omitEmpty :
    StyleRules.standard.scan (post.omitEmpty context credential credibility).prose =
      StyleRules.standard.scan post.prose := by
  have hphrases := StyleRules.isPhrase_of_mem_standard
  have hemoji : ¬(List.any [] isEmoji = true) := by decide
  simp only [StyleRules.scan, StyleReport.mk.injEq]
  refine ⟨?_, ?_, ?_⟩
  · rw [phrasesIn_prose hphrases, phrasesIn_prose hphrases]
    refine List.filter_congr fun phrase hmem => decide_eq_decide.2 ?_
    refine someStyled_omitEmpty context credential credibility post ?_
    simp [lower, lowerFrom, (hphrases phrase hmem).ne_nil]
  · rw [Bool.eq_iff_iff, hasEmoji_prose, hasEmoji_prose]
    exact someStyled_omitEmpty context credential credibility post hemoji
  · rw [count_prose, count_prose, exclamations_omitEmpty]

/-- The checks take an optional text that is empty for one that is missing. -/
theorem validate_omitEmpty (defaults : Limits) :
    (post.omitEmpty context credential credibility).validate defaults .standard =
      post.validate defaults .standard := by
  have hparts (limits : Limits) :
      partViolations limits (post.omitEmpty context credential credibility) =
        partViolations limits post := by
    obtain ⟨title, claim, evidence, insight, context, credential, source, overrides⟩ := post
    cases source <;> rfl
  rw [validate_eq, validate_eq, scan_prose_omitEmpty, Report.mk.injEq]
  refine ⟨?_, ?_⟩
  · exact congrArg (· ++ _ ++ _) (hparts _)
  · simp only [contextLength, omitEmpty, present_dropEmpty]
    rfl

end Checks

section Rendered

variable {context credential credibility : Bool} {post : Document}

theorem WellFormed.omitEmpty (h : post.WellFormed) :
    (post.omitEmpty context credential credibility).WellFormed where
  title := h.title
  claim := h.claim
  insight := h.insight
  evidence := h.evidence
  context t ht := h.context t (mem_of_mem_dropEmpty ht)
  credential t ht := h.credential t (mem_of_mem_dropEmpty ht)
  source := by
    intro origin horigin
    obtain ⟨old, hold, rfl⟩ := Option.map_eq_some_iff.1 horigin
    have hsource := h.source old hold
    exact { hsource with
      credibility := fun t ht => hsource.credibility t (mem_of_mem_dropEmpty ht) }
  overrides_nodup := h.overrides_nodup
  overrides_bound := h.overrides_bound

theorem Complete.omitEmpty (h : post.Complete) :
    (post.omitEmpty context credential credibility).Complete where
  title := h.title
  claim := h.claim
  evidence := h.evidence
  insight := h.insight
  source := by
    obtain ⟨origin, horigin⟩ := h.source
    exact ⟨_, congrArg (Option.map _) horigin⟩

/-- An optional text that is empty shows in the rendered form. -/
theorem render_omitEmpty_eq_iff (h : post.WellFormed) (hcomplete : post.Complete) :
    (post.omitEmpty context credential credibility).render = post.render ↔
      post.omitEmpty context credential credibility = post := by
  refine ⟨fun hrender => ?_, fun heq => by rw [heq]⟩
  have hlines := congrArg physicalLines hrender
  rw [physicalLines_render h.omitEmpty hcomplete.omitEmpty, physicalLines_render h hcomplete,
    renderedLines_inj hcomplete.omitEmpty hcomplete] at hlines
  obtain ⟨-, -, -, hcontext, hcredential, -, -, hcredibility, -⟩ := hlines
  obtain ⟨origin, horigin⟩ := hcomplete.source
  obtain ⟨title, claim, evidence, insight, context, credential, source, overrides⟩ := post
  obtain rfl : source = some origin := horigin
  simp only [Document.omitEmpty, Option.map_some, Option.some.injEq]
    at hcontext hcredential hcredibility
  simp only [Document.omitEmpty, hcontext, hcredential, hcredibility, Option.map_some]

end Rendered

/-! ### Empty blocks -/

/-- Two lines that follow each other are empty. -/
def HasEmptyBlock (lines : List Text) : Prop := [[], []] <:+: lines

theorem hasEmptyBlock_cons_of_ne_nil {line : Text} (h : line ≠ []) {lines : List Text} :
    HasEmptyBlock (line :: lines) ↔ HasEmptyBlock lines := by
  simp [HasEmptyBlock, List.infix_cons_iff, h.symm]

theorem hasEmptyBlock_nil_cons {lines : List Text} :
    HasEmptyBlock ([] :: lines) ↔ lines.head? = some [] ∨ HasEmptyBlock lines := by
  cases lines with
  | nil => simp [HasEmptyBlock, List.infix_cons_iff]
  | cons line lines => simp [HasEmptyBlock, List.infix_cons_iff, eq_comm]

theorem hasEmptyBlock_append {front : List Text} (h : ∀ line ∈ front, line ≠ [])
    {lines : List Text} : HasEmptyBlock (front ++ lines) ↔ HasEmptyBlock lines := by
  induction front with
  | nil => rfl
  | cons line front ih =>
    rw [List.forall_mem_cons] at h
    rw [List.cons_append, hasEmptyBlock_cons_of_ne_nil h.1, ih h.2]

theorem sentence_ne_nil (field : Option Text) : sentence field ≠ [] := by
  simp [sentence]

theorem hasEmptyBlock_optionalLines {line : Option Text} {lines : List Text}
    (h : lines.head? ≠ some []) :
    HasEmptyBlock ([] :: (optionalLines line ++ lines)) ↔
      line = some [] ∨ HasEmptyBlock lines := by
  cases line with
  | none => simp [optionalLines, hasEmptyBlock_nil_cons, h]
  | some t =>
    by_cases ht : t = []
    · simp [optionalLines, hasEmptyBlock_nil_cons, ht]
    · simp [optionalLines, hasEmptyBlock_nil_cons, hasEmptyBlock_cons_of_ne_nil, ht, h]

theorem not_hasEmptyBlock_sourceLines (source : Source) : ¬HasEmptyBlock (sourceLines source) := by
  rw [sourceLines, hasEmptyBlock_append]
  · intro h
    simpa using h.length_le
  · simp [bracketed]

/-- Only a context without text makes an empty block. -/
theorem hasEmptyBlock_renderedLines_iff {post : Document} (hcomplete : post.Complete) :
    HasEmptyBlock post.renderedLines ↔ post.context = some [] := by
  obtain ⟨origin, horigin⟩ := hcomplete.source
  have hhead (field : Option Text) (lines : List Text) :
      (sentence field :: lines).head? ≠ some [] := by simp [sentence]
  have hcredential : ¬HasEmptyBlock
      ([] :: (optionalLines (post.credential.map bracketed) ++ sourceLines origin)) := by
    rw [hasEmptyBlock_optionalLines (by simp [sourceLines])]
    rintro (hnil | hsource)
    · obtain ⟨t, -, ht⟩ := Option.map_eq_some_iff.1 hnil
      cases ht
    · exact not_hasEmptyBlock_sourceLines origin hsource
  have hbullets : ∀ line ∈ (post.evidence.map Evidence.text).map bullet, line ≠ [] := by
    simp [bullet]
  have hresults : ¬HasEmptyBlock ((post.evidence.map Evidence.text).map bullet ++ [] ::
      sentence post.insight :: [] ::
        (optionalLines (post.credential.map bracketed) ++ sourceLines origin)) := by
    rw [hasEmptyBlock_append hbullets, hasEmptyBlock_nil_cons,
      hasEmptyBlock_cons_of_ne_nil (sentence_ne_nil _)]
    exact not_or_intro (hhead _ _) hcredential
  have hclaim : ¬HasEmptyBlock (sentence post.claim :: [] :: "Results:".toList ::
      ((post.evidence.map Evidence.text).map bullet ++ [] :: sentence post.insight :: [] ::
        (optionalLines (post.credential.map bracketed) ++ sourceLines origin))) := by
    rw [hasEmptyBlock_cons_of_ne_nil (sentence_ne_nil _), hasEmptyBlock_nil_cons,
      hasEmptyBlock_cons_of_ne_nil (by decide)]
    exact not_or_intro (by simp) hresults
  rw [renderedLines, horigin, Option.toList_some, List.flatMap_singleton,
    hasEmptyBlock_cons_of_ne_nil (sentence_ne_nil _), hasEmptyBlock_optionalLines (hhead _ _)]
  exact or_iff_left hclaim

/-! ### Empty brackets -/

theorem brackets_ne_sentence (field : Option Text) : "[]".toList ≠ sentence field := fun h => by
  have hlast := getLast?_sentence field
  rw [← h] at hlast
  exact absurd hlast (by decide)

/-- A line of empty brackets is a text without characters that is put into brackets, unless it is
one that is rendered as it stands. -/
theorem brackets_mem_renderedLines_iff {post : Document} {origin : Source}
    (horigin : post.source = some origin) :
    "[]".toList ∈ post.renderedLines ↔
      post.context = some "[]".toList ∨ post.credential = some [] ∨
        origin.credibility = some [] ∨ origin.displayUrl = "[]".toList := by
  have hbracketed (field : Option Text) :
      "[]".toList ∈ field.toList.map bracketed ↔ field = some [] := by
    cases field <;> simp [bracketed]
  have hoptional (line : Option Text) :
      "[]".toList ∈ optionalLines line ↔ line = some "[]".toList := by
    cases line with
    | none => simp [optionalLines]
    | some t => simp [optionalLines, eq_comm (b := t)]
  have hcredential : post.credential.map bracketed = some "[]".toList ↔
      post.credential = some [] := by
    cases post.credential <;> simp [bracketed]
  have hbullets : "[]".toList ∉ (post.evidence.map Evidence.text).map bullet := by
    simp [bullet]
  have hempty : "[]".toList ≠ [] := by simp
  have hheading : "[]".toList ≠ "Results:".toList := by decide
  have hsource : "[]".toList ≠ "Source: ".toList ++ origin.title := by simp
  simp only [renderedLines, horigin, Option.toList_some, List.flatMap_cons, List.flatMap_nil,
    List.append_nil, sourceLines, List.mem_cons, List.mem_append, List.not_mem_nil, hoptional,
    hcredential, hbracketed, brackets_ne_sentence, hempty, hheading, hbullets, hsource, false_or,
    or_false, eq_comm (b := origin.displayUrl)]

end Document

/-- An optional text that is empty counts as missing in the checks, and does not in the rendered
form: there it shows, so that the form is another without it. A context without text is what makes
an empty block; a credential or a reason without text makes empty brackets. -/
theorem omitEmpty_of_compile {limits : Limits} {post output : Text}
    (h : (compile limits post).output? = some output) :
    let document := (parse post).document
    (∀ context credential credibility : Bool,
        let omitted := document.omitEmpty context credential credibility
        omitted.validate limits .standard = document.validate limits .standard ∧
          (omitted.render = output ↔ omitted = document)) ∧
      ([[], []] <:+: output.physicalLines ↔ document.context = some []) ∧
      ∃ origin, document.source = some origin ∧
        ("[]".toList ∈ output.physicalLines ↔
          document.context = some "[]".toList ∨ document.credential = some [] ∨
            origin.credibility = some [] ∨ origin.displayUrl = "[]".toList) := by
  intro document
  have hwell : document.WellFormed := Document.wellFormed_parse post
  have hcomplete : document.Complete := complete_of_compile h
  have hrender : output = document.render := eq_render_of_compile h
  have hlines : output.physicalLines = document.renderedLines := by
    rw [hrender, Document.physicalLines_render hwell hcomplete]
  obtain ⟨origin, horigin⟩ := hcomplete.source
  refine ⟨fun context credential credibility => ⟨?_, ?_⟩, ?_, origin, horigin, ?_⟩
  · exact Document.validate_omitEmpty context credential credibility document limits
  · rw [hrender]
    exact Document.render_omitEmpty_eq_iff hwell hcomplete
  · rw [hlines]
    exact Document.hasEmptyBlock_renderedLines_iff hcomplete
  · rw [hlines]
    exact Document.brackets_mem_renderedLines_iff horigin

/-- A post whose optional texts are all empty. -/
def hollow : Text :=
  ['\n'].intercalate <| List.map String.toList
    ["# \"T\"", "? \"\"", "! \"C\"", "+ 1 | \"x\"", "> \"I\"", "* \"\"", "@ \"S\" | a.b | \"\""]

def hollowOutput : Text :=
  ['\n'].intercalate <| List.map String.toList
    ["T.", "", "", "", "C.", "", "Results:", "- 1 x", "", "I.", "", "[]", "", "Source: S", "[]",
      "a.b"]

theorem output?_compile_hollow : (compile {} hollow).output? = some hollowOutput := by
  decide +kernel

/-- What is rendered can have an empty block and empty brackets. -/
theorem render_omitEmpty_hollow :
    (compile {} hollow).output? = some hollowOutput ∧
      [[], [], []] <:+: hollowOutput.physicalLines ∧
      hollowOutput.physicalLines.count "[]".toList = 2 ∧
      ((parse hollow).document.omitEmpty true true true).render ≠ hollowOutput := by
  refine ⟨output?_compile_hollow, ?_⟩
  decide +kernel

theorem omitEmpty_of_compile_hollow :
    (compile {} hollow).output? = some hollowOutput ∧
      ((parse hollow).document.omitEmpty true true true).validate {} .standard =
        (parse hollow).document.validate {} .standard ∧
      ((parse hollow).document.omitEmpty true false true).render ≠ hollowOutput ∧
      (parse hollow).document.context = some [] := by
  obtain ⟨homitted, hblock, -⟩ := omitEmpty_of_compile output?_compile_hollow
  have hne : (parse hollow).document.omitEmpty true false true ≠ (parse hollow).document := by
    decide +kernel
  refine ⟨output?_compile_hollow, (homitted true true true).1,
    mt (homitted true false true).2.1 hne, hblock.1 ?_⟩
  decide +kernel

end PostMarkup
