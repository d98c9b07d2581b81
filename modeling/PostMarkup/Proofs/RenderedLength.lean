import Mathlib.Algebra.BigOperators.Group.List.Basic
import PostMarkup.Config
import PostMarkup.Proofs.Findings
import PostMarkup.Proofs.Render

/-! The length of the rendered form, told from the fields, and the limit on the whole, which a
compilation checks against just this length. -/

namespace PostMarkup

/-- Each text counts with a separator, apart from one. -/
theorem Text.length_intercalate (separator : Text) {texts : List Text} (h : texts ≠ []) :
    (separator.intercalate texts).length + separator.length =
      (texts.map fun t => t.length + separator.length).sum := by
  induction texts with
  | nil => exact absurd rfl h
  | cons t texts ih =>
    cases texts with
    | nil => simp
    | cons s texts =>
      rw [List.intercalate_cons_cons, List.length_append, List.length_append, List.map_cons,
        List.sum_cons, ← ih (List.cons_ne_nil _ _)]
      omega

namespace Document

/-- The characters of the rendered form of a document without missing parts: those of its fields,
and what stands around each of them. -/
def renderedLength (post : Document) : Nat :=
  post.title.elim 0 List.length + post.claim.elim 0 List.length + post.insight.elim 0 List.length +
    post.source.elim 0 (fun origin => origin.title.length + origin.displayUrl.length) + 28 +
    (post.evidence.map fun item => item.value.length + item.context.length + 4).sum +
    post.context.elim 0 (fun t => t.length + 2) +
    post.credential.elim 0 (fun t => t.length + 4) +
    (post.source.bind Source.credibility).elim 0 (fun t => t.length + 3)

theorem length_sentence (field : Option Text) :
    (sentence field).length = field.elim 0 List.length + 1 := by
  cases field <;> simp [sentence]

theorem length_resultsBlock (items : List Evidence) :
    (resultsBlock items).length =
      8 + (items.map fun item => item.value.length + item.context.length + 4).sum := by
  have hitem (item : Evidence) : ("\n- ".toList ++ item.text).length =
      item.value.length + item.context.length + 4 := by
    rw [List.length_append, length_text]
    change 3 + _ = _
    omega
  unfold resultsBlock
  rw [List.length_append, List.length_flatMap]
  simp only [hitem]
  rfl

theorem length_bracketed (t : Text) : (bracketed t).length = t.length + 2 := by
  simp [bracketed]

theorem length_sourceBlock (source : Source) :
    (sourceBlock source).length =
      source.title.length + source.displayUrl.length + 9 +
        source.credibility.elim 0 (fun t => t.length + 3) := by
  have hheading : "Source: ".toList.length = 8 := rfl
  rw [sourceBlock_eq, List.length_append, List.length_append, List.length_flatMap, hheading]
  cases source.credibility with
  | none =>
    simp only [Option.toList_none, List.map_nil, List.nil_append, List.map_cons, List.sum_cons,
      List.sum_nil, List.length_cons, Option.elim_none]
    omega
  | some reason =>
    simp only [Option.toList_some, List.map_nil, List.nil_append, List.cons_append, List.map_cons,
      List.sum_cons, List.sum_nil, List.length_cons, length_bracketed, Option.elim_some]
    omega

theorem blocks_eq {post : Document} {origin : Source} (hevidence : post.evidence ≠ [])
    (horigin : post.source = some origin) :
    post.blocks = sentence post.title :: (post.context.toList ++ sentence post.claim ::
      resultsBlock post.evidence :: sentence post.insight ::
        (post.credential.toList.map bracketed ++ [sourceBlock origin])) := by
  rw [blocks, horigin, if_neg hevidence]
  simp [bracketed]

theorem length_render {post : Document} (h : post.Complete) :
    post.render.length = post.renderedLength := by
  obtain ⟨origin, horigin⟩ := h.source
  have hoptional (field : Option Text) (size : Text → Nat) :
      (field.toList.map size).sum = field.elim 0 size := by
    cases field <;> simp
  have hbracketed (t : Text) : (bracketed t).length + 2 = t.length + 4 := by
    rw [length_bracketed]
  have hblocks : (post.blocks.map fun t => t.length + 2).sum = post.renderedLength + 2 := by
    rw [blocks_eq h.evidence horigin]
    simp only [List.map_cons, List.map_append, List.map_map, List.map_nil, List.sum_cons,
      List.sum_append, List.sum_nil, hoptional, length_sentence, length_resultsBlock,
      length_sourceBlock, Function.comp_def, hbracketed, renderedLength, horigin,
      Option.elim_some, Option.bind_some]
    omega
  have hrender : post.render.length + 2 = (post.blocks.map fun t => t.length + 2).sum :=
    Text.length_intercalate ['\n', '\n'] (by simp [blocks])
  omega

end Document

/-- A post whose lines are well formed and whose document passes the checks is measured exactly. Its
rendered form has the length that its fields give it, and the compilation fails for this length, and
says it, just if it is above the limit in force for the whole. -/
theorem compile_measured (config : Config) {post : Text} (hread : (parse post).errors = [])
    (hvalid : ((parse post).document.validate config.limits .standard).errors = []) :
    let document := (parse post).document
    let total := (document.limits config.limits).total
    let compilation := compile config.limits post
    document.render.length = document.renderedLength ∧
      ((compilation.success = false ∧ ∃ d ∈ compilation.errors, d.code = some .e302 ∧
        d.message = s!"Post too long: {document.renderedLength}/{total} characters") ↔
          total < document.renderedLength) ∧
      (compilation.output? = some document.render ↔ document.renderedLength ≤ total) := by
  intro document total compilation
  have hstrict : parseStrict post = .ok document := parseStrict_eq_ok_iff.2 ⟨hread, rfl⟩
  have hcomplete : document.Complete := (Document.parts_of_errors_validate hvalid).1
  have hlength := Document.length_render hcomplete
  refine ⟨hlength, ?_⟩
  by_cases hlong : total < document.renderedLength
  · have hmeasure : document.checkOutput config.limits document.render =
        some (.postTooLong document.renderedLength total) := by
      rw [Document.checkOutput_eq_some_iff, hlength]
      exact ⟨hlong, rfl⟩
    have hcompilation : compilation = .tooLong (.postTooLong document.renderedLength total)
        (document.validate config.limits .standard).warnings :=
      compile_of_checkOutput_eq_some hstrict hvalid hmeasure
    rw [hcompilation]
    refine ⟨iff_of_true ⟨rfl, _, List.mem_singleton_self _, rfl, rfl⟩ hlong, iff_of_false ?_ ?_⟩
    · simp [Compilation.output?]
    · exact Nat.not_le.2 hlong
  · have hshort : document.renderedLength ≤ total := Nat.not_lt.1 hlong
    have hmeasure : document.checkOutput config.limits document.render = none := by
      rw [Document.checkOutput_eq_none_iff, hlength]
      exact hshort
    have hcompilation : compilation = .done document.render
        (document.validate config.limits .standard).warnings :=
      compile_of_checkOutput_eq_none hstrict hvalid hmeasure
    rw [hcompilation]
    refine ⟨iff_of_false ?_ hlong, iff_of_true rfl hshort⟩
    rintro ⟨hfailure, -⟩
    cases hfailure

/-- A post with every optional part and a limit on the whole that is one below its length. -/
def brimming : Text :=
  ['\n'].intercalate <| List.map String.toList
    ["^ total 60", "# \"T\"", "? \"X\"", "! \"C\"", "+ 1 | \"x\"", "+ 2 | \"é\"", "> \"I\"",
      "* \"me\"", "@ \"S\" | https://www.a.b | \"ok\""]

theorem compile_measured_brimming :
    (parse brimming).errors = [] ∧
      ((parse brimming).document.validate {} .standard).errors = [] ∧
      (parse brimming).document.renderedLength = 61 ∧
      (parse brimming).document.render.length = 61 ∧
      (compile {} brimming).success = false ∧
      ∃ d ∈ (compile {} brimming).errors, d.code = some .e302 ∧
        d.message = "Post too long: 61/60 characters" := by
  have hread : (parse brimming).errors = [] := by decide +kernel
  have hvalid : ((parse brimming).document.validate {} .standard).errors = [] := by decide +kernel
  have hsize : (parse brimming).document.renderedLength = 61 := by decide +kernel
  have htotal : ((parse brimming).document.limits {}).total = 60 := by decide +kernel
  obtain ⟨hlength, hlong, -⟩ := compile_measured {} hread hvalid
  simp only [hsize, htotal] at hlength hlong
  obtain ⟨hfailure, herror⟩ := hlong.2 (by decide)
  exact ⟨hread, hvalid, hsize, hlength, hfailure, herror⟩

end PostMarkup
