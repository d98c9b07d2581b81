import PostMarkup.Proofs.Compilation
import PostMarkup.Proofs.RoundTrip

/-! The rendered form line by line. A document without missing parts is rendered as lines from which
all that readers see of it can be told again. -/

namespace PostMarkup

open Text

/-! ### Lines of blocks -/

theorem Text.mem_of_mem_dropStart {start : String} {t : Text} {c : Char}
    (h : c ∈ dropStart start t) : c ∈ t := by
  rw [dropStart] at h
  cases hrest : start.toList.isPrefixOf? t with
  | none => simpa [hrest] using h
  | some rest =>
    rw [← List.isPrefixOf?_eq_some_iff_append_eq.1 hrest]
    exact List.mem_append_right _ (by simpa [hrest] using h)

theorem Source.mem_of_mem_displayUrl {source : Source} {c : Char} (h : c ∈ source.displayUrl) :
    c ∈ source.url := by
  have hbare := mem_of_mem_dropStart h
  split at hbare
  next rest hrest =>
    rw [← List.isPrefixOf?_eq_some_iff_append_eq.1 hrest]
    exact List.mem_append_right _ hbare
  next => exact mem_of_mem_dropStart hbare

namespace Document

def bullet (t : Text) : Text := "- ".toList ++ t

def bracketed (t : Text) : Text := '[' :: t ++ [']']

/-- A line that may be left out, and the empty line after it. -/
def optionalLines (line : Option Text) : List Text := line.toList.flatMap fun t => [t, []]

/-- The lines that say where the evidence comes from. -/
def sourceLines (source : Source) : List Text :=
  ("Source: ".toList ++ source.title) :: source.credibility.toList.map bracketed ++
    [source.displayUrl]

/-- The lines of each block of the rendered form: one line for every part of the post. -/
def blockLines (post : Document) : List (List Text) :=
  [[sentence post.title]] ++ post.context.toList.map ([·]) ++ [[sentence post.claim]] ++
    (if post.evidence = [] then []
      else ["Results:".toList :: (post.evidence.map Evidence.text).map bullet]) ++
    [[sentence post.insight]] ++ post.credential.toList.map (fun t => [bracketed t]) ++
    post.source.toList.map sourceLines

/-- The lines of the rendered form, if nothing is missing. -/
def renderedLines (post : Document) : List Text :=
  sentence post.title :: [] :: (optionalLines post.context ++ sentence post.claim :: [] ::
    "Results:".toList :: ((post.evidence.map Evidence.text).map bullet ++ [] ::
      sentence post.insight :: [] :: (optionalLines (post.credential.map bracketed) ++
        post.source.toList.flatMap sourceLines)))

theorem newline_not_mem_sentence {field : Option Text} (h : ∀ t ∈ field, IsQuotable t) :
    '\n' ∉ sentence field := by
  cases field with
  | none => decide
  | some t => simpa [sentence] using (h t rfl).2

theorem newline_not_mem_bullet {item : Evidence} (h : item.WellFormed) :
    '\n' ∉ bullet item.text := by
  simp [bullet, Evidence.text, h.newline_not_mem, h.context.2]

theorem newline_not_mem_bracketed {t : Text} (h : IsQuotable t) : '\n' ∉ bracketed t := by
  simp [bracketed, h.2]

theorem physicalLines_resultsBlock {items : List Evidence} (h : ∀ item ∈ items, item.WellFormed) :
    (resultsBlock items).physicalLines =
      "Results:".toList :: (items.map Evidence.text).map bullet := by
  rw [List.map_map]
  exact physicalLines_append_flatMap (by decide) fun item hitem =>
    newline_not_mem_bullet (h item hitem)

theorem sourceBlock_eq (source : Source) :
    sourceBlock source = ("Source: ".toList ++ source.title) ++
      (source.credibility.toList.map bracketed ++ [source.displayUrl]).flatMap ('\n' :: ·) := by
  unfold sourceBlock
  cases source.credibility <;> simp [bracketed]

theorem physicalLines_sourceBlock {source : Source} (h : source.WellFormed) :
    (sourceBlock source).physicalLines = sourceLines source := by
  have htitle : '\n' ∉ "Source: ".toList ++ source.title := by simp [h.title.2]
  rw [sourceBlock_eq, physicalLines_append_flatMap htitle ?_]
  · simp [sourceLines]
  · simp only [List.forall_mem_append, List.forall_mem_singleton, List.forall_mem_map,
      Option.mem_toList]
    refine ⟨fun reason hreason => newline_not_mem_bracketed (h.credibility reason hreason), ?_⟩
    intro hmem
    have hchar := h.isUrlChar_of_mem _ (Source.mem_of_mem_displayUrl hmem)
    exact absurd hchar (by decide)

theorem map_physicalLines_blocks {post : Document} (h : post.WellFormed) :
    post.blocks.map physicalLines = post.blockLines := by
  have htitle := physicalLines_of_not_mem (newline_not_mem_sentence h.title)
  have hclaim := physicalLines_of_not_mem (newline_not_mem_sentence h.claim)
  have hinsight := physicalLines_of_not_mem (newline_not_mem_sentence h.insight)
  have hcontext : ∀ t ∈ post.context.toList, '\n' ∉ t := by
    simp only [Option.mem_toList]
    exact fun t ht => (h.context t ht).2
  have hcredential : (post.credential.toList.map fun t => '[' :: t ++ [']']).map physicalLines =
      post.credential.toList.map fun t => [bracketed t] := by
    rw [List.map_map]
    exact List.map_congr_left fun t ht => physicalLines_of_not_mem
      (newline_not_mem_bracketed (h.credential t (Option.mem_toList.1 ht)))
  have hresults : (if post.evidence = [] then [] else [resultsBlock post.evidence]).map
      physicalLines = if post.evidence = [] then []
        else ["Results:".toList :: (post.evidence.map Evidence.text).map bullet] := by
    split
    · rfl
    · rw [List.map_singleton, physicalLines_resultsBlock h.evidence]
  have hsource : (post.source.toList.map sourceBlock).map physicalLines =
      post.source.toList.map sourceLines := by
    rw [List.map_map]
    exact List.map_congr_left fun source hsource =>
      physicalLines_sourceBlock (h.source source (Option.mem_toList.1 hsource))
  rw [blocks, blockLines]
  simp only [List.map_append, List.map_cons, List.map_nil, htitle, hclaim, hinsight,
    map_physicalLines hcontext, hresults, hcredential, hsource]

/-- The rendered form has the lines of its blocks, and an empty line between any two blocks. -/
theorem physicalLines_render_eq {post : Document} (h : post.WellFormed) :
    post.render.physicalLines = [[]].intercalate post.blockLines := by
  rw [render, show "\n\n".toList = ['\n', '\n'] from rfl,
    physicalLines_intercalate_blankLine (by simp [blocks]), map_physicalLines_blocks h]

/-- The rendered form of a document without missing parts has just the lines one expects. -/
theorem physicalLines_render {post : Document} (h : post.WellFormed) (hcomplete : post.Complete) :
    post.render.physicalLines = post.renderedLines := by
  obtain ⟨origin, horigin⟩ := hcomplete.source
  rw [physicalLines_render_eq h, blockLines, if_neg hcomplete.evidence, renderedLines, horigin]
  cases post.context <;> cases post.credential <;> simp [optionalLines]

/-- Every document that a post describes is well-formed, also where the post has errors. What is
rendered of it, complete or not, therefore has a line for each of its parts, and nothing but this
part on that line; between any two blocks it has an empty line, and no other lines. -/
theorem physicalLines_render_parse (post : Text) :
    let document := (parse post).document
    document.WellFormed ∧
      document.render.physicalLines = [[]].intercalate document.blockLines :=
  ⟨wellFormed_parse post, physicalLines_render_eq (wellFormed_parse post)⟩

/-! ### Parts told from the lines -/

theorem bracketed_injective : Function.Injective bracketed := by
  intro t t' h
  simpa [bracketed] using h

theorem bullet_injective : Function.Injective bullet := List.append_right_injective _

theorem sentence_inj {field field' : Option Text} (h : ∃ t ≠ [], field = some t)
    (h' : ∃ t ≠ [], field' = some t) : sentence field = sentence field' ↔ field = field' := by
  obtain ⟨t, -, rfl⟩ := h
  obtain ⟨t', -, rfl⟩ := h'
  simp [sentence]

theorem getLast?_sentence (field : Option Text) : (sentence field).getLast? = some '.' :=
  List.getLast?_concat

/-- Whether an optional line stands in front can be told if the rest starts differently. -/
theorem optionalLines_append_inj {line line' : Option Text} {rest rest' : List Text}
    (h : line = none ↔ line' = none) :
    optionalLines line ++ rest = optionalLines line' ++ rest' ↔ line = line' ∧ rest = rest' := by
  cases line <;> cases line' <;> simp_all [optionalLines]

/-- A context can be told from a claim: two lines after the claim stands the heading. -/
theorem contextLines_inj {context context' claim claim' : Option Text} {rest rest' : List Text} :
    optionalLines context ++ sentence claim :: [] :: "Results:".toList :: rest =
        optionalLines context' ++ sentence claim' :: [] :: "Results:".toList :: rest' ↔
      context = context' ∧ sentence claim = sentence claim' ∧ rest = rest' := by
  have hnone (context claim : Option Text) (rest : List Text) :
      (optionalLines context ++ sentence claim :: [] :: "Results:".toList :: rest)[2]? =
        some "Results:".toList ↔ context = none := by
    -- Behind a context the third line is the claim, which ends in a period as no heading does.
    cases context with
    | none => simp [optionalLines]
    | some t =>
      have hne : sentence claim ≠ "Results:".toList := fun h => by
        have hlast := getLast?_sentence claim
        rw [h] at hlast
        exact absurd hlast (by decide)
      simpa [optionalLines] using hne
  refine ⟨fun h => ?_, ?_⟩
  · have hiff : context = none ↔ context' = none := by
      rw [← hnone context claim rest, h, hnone]
    simpa using (optionalLines_append_inj hiff).1 h
  · rintro ⟨rfl, hclaim, rfl⟩
    rw [hclaim]

/-- No item of a list is empty, so the items end at the first empty line. -/
theorem bullets_append_inj {texts texts' : List Text} {rest rest' : List Text} :
    texts.map bullet ++ [] :: rest = texts'.map bullet ++ [] :: rest' ↔
      texts = texts' ∧ rest = rest' := by
  induction texts generalizing texts' with
  | nil => cases texts' <;> simp [bullet]
  | cons t texts ih =>
    cases texts' with
    | nil => simp [bullet]
    | cons t' texts' => simp [ih, bullet_injective.eq_iff, and_assoc]

/-- A credential can be told from a source by its first character. -/
theorem credentialLines_inj {credential credential' : Option Text} {source source' : Source} :
    optionalLines (credential.map bracketed) ++ sourceLines source =
        optionalLines (credential'.map bracketed) ++ sourceLines source' ↔
      credential = credential' ∧ sourceLines source = sourceLines source' := by
  have hnone (credential : Option Text) (source : Source) :
      ((optionalLines (credential.map bracketed) ++ sourceLines source).head?.bind List.head?) =
        some 'S' ↔ credential.map bracketed = none := by
    cases credential <;> simp [optionalLines, sourceLines, bracketed]
  refine ⟨fun h => ?_, ?_⟩
  · have hiff : credential.map bracketed = none ↔ credential'.map bracketed = none := by
      rw [← hnone credential source, h, hnone]
    obtain ⟨hcredential, hsource⟩ := (optionalLines_append_inj hiff).1 h
    exact ⟨Option.map_injective bracketed_injective hcredential, hsource⟩
  · rintro ⟨rfl, hsource⟩
    rw [hsource]

theorem sourceLines_inj {source source' : Source} :
    sourceLines source = sourceLines source' ↔
      source.title = source'.title ∧ source.credibility = source'.credibility ∧
        source.displayUrl = source'.displayUrl := by
  refine ⟨fun h => ?_, ?_⟩
  · simp only [sourceLines, List.cons_append, List.cons.injEq, List.append_cancel_left_eq] at h
    obtain ⟨htitle, hrest⟩ := h
    obtain ⟨hcredibility, hurl⟩ := List.append_inj' hrest rfl
    refine ⟨htitle, ?_, List.cons.inj hurl |>.1⟩
    have htoList := List.map_injective_iff.2 bracketed_injective hcredibility
    cases hreason : source.credibility <;> cases hreason' : source'.credibility <;>
      simp_all
  · rintro ⟨htitle, hcredibility, hurl⟩
    rw [sourceLines, htitle, hcredibility, hurl, sourceLines]

/-- Two documents without missing parts have the same lines exactly if they agree in all that
readers see. -/
theorem renderedLines_inj {post post' : Document} (h : post.Complete) (h' : post'.Complete) :
    post.renderedLines = post'.renderedLines ↔
      post.title = post'.title ∧ post.claim = post'.claim ∧ post.insight = post'.insight ∧
        post.context = post'.context ∧ post.credential = post'.credential ∧
        post.evidence.map Evidence.text = post'.evidence.map Evidence.text ∧
        post.source.map Source.title = post'.source.map Source.title ∧
        post.source.map Source.credibility = post'.source.map Source.credibility ∧
        post.source.map Source.displayUrl = post'.source.map Source.displayUrl := by
  obtain ⟨origin, horigin⟩ := h.source
  obtain ⟨origin', horigin'⟩ := h'.source
  simp only [renderedLines, horigin, horigin', Option.toList_some, List.flatMap_cons,
    List.flatMap_nil, List.append_nil, List.cons.injEq, true_and, contextLines_inj,
    bullets_append_inj, credentialLines_inj, sourceLines_inj, sentence_inj h.title h'.title,
    sentence_inj h.claim h'.claim, sentence_inj h.insight h'.insight, Option.map_some,
    Option.some.injEq]
  tauto

end Document

/-- Two posts that compile have the same rendered form exactly if their documents agree in all that
readers see, which leaves open where an item of evidence has its bar, what the displayed address
leaves out, and the overrides. -/
theorem output_eq_iff_of_compile {limits limits' : Limits} {post post' output output' : Text}
    (h : (compile limits post).output? = some output)
    (h' : (compile limits' post').output? = some output') :
    let document := (parse post).document
    let document' := (parse post').document
    output = output' ↔
      document.title = document'.title ∧ document.claim = document'.claim ∧
        document.insight = document'.insight ∧ document.context = document'.context ∧
        document.credential = document'.credential ∧
        document.evidence.map Evidence.text = document'.evidence.map Evidence.text ∧
        document.source.map Source.title = document'.source.map Source.title ∧
        document.source.map Source.credibility = document'.source.map Source.credibility ∧
        document.source.map Source.displayUrl = document'.source.map Source.displayUrl := by
  intro document document'
  have hcomplete : document.Complete := complete_of_compile h
  have hcomplete' : document'.Complete := complete_of_compile h'
  calc output = output'
    _ ↔ document.render = document'.render := by
      rw [eq_render_of_compile h, eq_render_of_compile h']
    _ ↔ document.renderedLines = document'.renderedLines := by
      rw [← physicalLines_injective.eq_iff,
        Document.physicalLines_render (Document.wellFormed_parse post) hcomplete,
        Document.physicalLines_render (Document.wellFormed_parse post') hcomplete']
    _ ↔ _ := Document.renderedLines_inj hcomplete hcomplete'

/-- A post whose context reads like the heading of the evidence, and whose credential reads like the
name of a source. -/
def misleading : Text :=
  ['\n'].intercalate <| List.map String.toList
    ["^ title 50", "# \"T\"", "? \"Results:\"", "! \"C\"", "+ 2x | \"much faster\"", "> \"I\"",
      "* \"Source: S\"", "@ \"\" | https://a.b | \"\""]

/-- The same post with the bar elsewhere, another address and no override. -/
def misleadingRespelled : Text :=
  ['\n'].intercalate <| List.map String.toList
    ["# \"T\"", "? \"Results:\"", "! \"C\"", "+ 2x much | \"faster\"", "> \"I\"", "* \"Source: S\"",
      "@ \"\" | http://www.a.b | \"\""]

def misleadingOutput : Text :=
  ['\n'].intercalate <| List.map String.toList
    ["T.", "", "Results:", "", "C.", "", "Results:", "- 2x much faster", "", "I.", "",
      "[Source: S]", "", "Source: ", "[]", "a.b"]

theorem output_eq_iff_of_compile_misleading :
    (compile {} misleading).output? = some misleadingOutput ∧
      (compile {} misleadingRespelled).output? = some misleadingOutput ∧
      let document := (parse misleading).document
      let document' := (parse misleadingRespelled).document
      document.title = document'.title ∧ document.claim = document'.claim ∧
        document.insight = document'.insight ∧ document.context = document'.context ∧
        document.credential = document'.credential ∧
        document.evidence.map Evidence.text = document'.evidence.map Evidence.text ∧
        document.source.map Source.title = document'.source.map Source.title ∧
        document.source.map Source.credibility = document'.source.map Source.credibility ∧
        document.source.map Source.displayUrl = document'.source.map Source.displayUrl := by
  have h : (compile {} misleading).output? = some misleadingOutput := by decide +kernel
  have h' : (compile {} misleadingRespelled).output? = some misleadingOutput := by decide +kernel
  exact ⟨h, h', (output_eq_iff_of_compile h h').1 rfl⟩

end PostMarkup
