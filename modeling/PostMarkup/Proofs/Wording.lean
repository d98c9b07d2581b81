import Mathlib.Data.List.Infix
import PostMarkup.Proofs.Style
import PostMarkup.Proofs.Validation

/-! The findings on the wording of a post, field by field. The fields are looked through as one text
with a line break between any two, and no finding reaches across a line break. -/

namespace PostMarkup

open Text

/-! ### Phrases -/

/-- A phrase to look for: it has characters, all of them ASCII, and none of them a line break. -/
structure Text.IsPhrase (t : Text) : Prop where
  ne_nil : t ≠ []
  ascii : t.IsAscii
  newline_not_mem : '\n' ∉ t

theorem Text.infix_lower_intercalate_iff {phrase : Text} (h : phrase.IsPhrase) {texts : List Text} :
    phrase <:+: lower (['\n'].intercalate texts) ↔ ∃ t ∈ texts, phrase <:+: t.lower := by
  have hnil : ¬phrase <:+: lower [] := by simp [lower, lowerFrom, h.ne_nil]
  refine iff_of_eq <| apply_intercalate (f := fun t => phrase <:+: t.lower) (g := Or)
    (F := fun texts => ∃ t ∈ texts, phrase <:+: t.lower) ?_ ?_ ?_ ?_ texts
  · simp [hnil]
  · intro s t
    exact propext <|
      infix_lower_append_cons_iff h.ascii (by decide) (by decide) h.newline_not_mem
  · simp [hnil]
  · simp

theorem StyleRules.isPhrase_of_mem_standard :
    ∀ phrase ∈ StyleRules.standard.phrases, phrase.IsPhrase := by
  intro phrase hmem
  obtain ⟨word, hword, rfl⟩ := List.mem_map.1 hmem
  obtain ⟨hne, hascii, hsplit, -⟩ := bannedPhrases_shape word hword
  exact ⟨hne, hascii, hsplit '\n' List.mem_cons_self⟩

namespace Document

/-! ### Fields -/

/-- Some text that the rules of style are about is as `p` asks. -/
def SomeStyled (p : Text → Prop) (post : Document) : Prop :=
  (∃ t ∈ post.title, p t) ∨ (∃ t ∈ post.claim, p t) ∨ (∃ t ∈ post.insight, p t) ∨
    (∃ t ∈ post.context, p t) ∨ ∃ item ∈ post.evidence, p item.context

instance (p : Text → Prop) [DecidablePred p] (post : Document) : Decidable (post.SomeStyled p) :=
  inferInstanceAs (Decidable (_ ∨ _))

theorem someStyled_iff {p : Text → Prop} {post : Document} :
    post.SomeStyled p ↔ ∃ t ∈ post.styledTexts, p t := by
  simp only [SomeStyled, styledTexts_eq, List.mem_append, Option.mem_toList, Option.mem_def,
    or_and_right, exists_or, List.mem_map, exists_exists_and_eq_and, or_assoc]

/-- The exclamation marks in the texts that the rules of style are about, field by field. -/
def exclamations (post : Document) : Nat :=
  let count (field : Option Text) : Nat := (field.map (List.count '!')).getD 0
  count post.title + count post.claim + count post.insight + count post.context +
    (post.evidence.map fun item => item.context.count '!').sum

theorem count_prose (post : Document) : post.prose.count '!' = post.exclamations := by
  have hfield (field : Option Text) :
      (field.toList.map (List.count '!')).sum = (field.map (List.count '!')).getD 0 := by
    cases field <;> simp
  rw [prose, count_intercalate (by decide), styledTexts_eq, exclamations]
  simp only [List.map_append, List.sum_append, hfield, List.map_map, Function.comp_def]

/-- The two posts agree in all that the rules of style are about. -/
structure SameStyled (post post' : Document) : Prop where
  title : post.title = post'.title
  claim : post.claim = post'.claim
  insight : post.insight = post'.insight
  context : post.context = post'.context
  evidence : post.evidence.map Evidence.context = post'.evidence.map Evidence.context

theorem SameStyled.prose_eq {post post' : Document} (h : post.SameStyled post') :
    post.prose = post'.prose := by
  rw [prose, prose, styledTexts_eq, styledTexts_eq, h.title, h.claim, h.insight, h.context,
    h.evidence]

/-! ### Findings -/

section Findings

variable {defaults : Limits} {rules : StyleRules} {post : Document}

theorem phrasesIn_prose (h : ∀ phrase ∈ rules.phrases, phrase.IsPhrase) :
    rules.phrasesIn post.prose =
      rules.phrases.filter fun phrase => post.SomeStyled fun t => phrase <:+: t.lower := by
  refine List.filter_congr fun phrase hmem => ?_
  rw [Bool.eq_iff_iff, occursIn_iff, decide_eq_true_iff, someStyled_iff, prose,
    infix_lower_intercalate_iff (h phrase hmem)]

theorem hasEmoji_prose :
    StyleRules.standard.hasEmoji post.prose = true ↔
      post.SomeStyled fun t => t.any isEmoji = true := by
  change post.prose.any isEmoji = true ↔ _
  rw [prose, any_intercalate (by decide), someStyled_iff, List.any_eq_true]

theorem found_e400 (h : ∀ phrase ∈ rules.phrases, phrase.IsPhrase) :
    (post.validate defaults rules).found .e400 =
      (rules.phrases.filter fun phrase =>
        post.SomeStyled fun t => phrase <:+: t.lower).map .bannedPhrase := by
  calc (post.validate defaults rules).found .e400
    _ = (styleViolations (rules.scan post.prose)).filter fun v => v.code = .e400 :=
      found_validate (by decide)
    _ = (rules.phrasesIn post.prose).map .bannedPhrase := (filter_code_styleViolations _).1
    _ = _ := by rw [phrasesIn_prose h]

theorem found_e401 (h : rules.hasEmoji = StyleRules.standard.hasEmoji) :
    (post.validate defaults rules).found .e401 =
      if post.SomeStyled fun t => t.any isEmoji = true then [.emoji] else [] := by
  calc (post.validate defaults rules).found .e401
    _ = (styleViolations (rules.scan post.prose)).filter fun v => v.code = .e401 :=
      found_validate (by decide)
    _ = if rules.hasEmoji post.prose then [.emoji] else [] := (filter_code_styleViolations _).2.1
    _ = _ := by simp only [h, hasEmoji_prose]

theorem found_e402 :
    (post.validate defaults rules).found .e402 =
      if 0 < post.exclamations then [.exclamations post.exclamations] else [] := by
  calc (post.validate defaults rules).found .e402
    _ = (styleViolations (rules.scan post.prose)).filter fun v => v.code = .e402 :=
      found_validate (by decide)
    _ = if 0 < post.prose.count '!' then [.exclamations (post.prose.count '!')] else [] :=
      (filter_code_styleViolations _).2.2
    _ = _ := by rw [count_prose]

/-- Nothing but the texts that the rules of style are about matters to what is found in them. -/
theorem found_congr {defaults' : Limits} {post' : Document} (h : post.SameStyled post')
    {code : Code} (hcode : code ∈ [Code.e400, .e401, .e402]) :
    (post'.validate defaults' rules).found code = (post.validate defaults rules).found code := by
  rw [found_validate hcode, found_validate hcode, h.prose_eq]

end Findings

/-- The wording of a post is judged field by field: a phrase is reported if it occurs in some field
in whatever case, an emoji if some field has one, and the exclamation marks with their number over
all fields. Nothing else in the post has a part in it. -/
theorem found_wording :
    (∀ phrase ∈ StyleRules.standard.phrases, phrase.IsPhrase) ∧
      ∀ rules : StyleRules, (∀ phrase ∈ rules.phrases, phrase.IsPhrase) →
        ∀ (defaults : Limits) (post : Document),
          let report := post.validate defaults rules
          report.found .e400 =
              (rules.phrases.filter fun phrase =>
                post.SomeStyled fun t => phrase <:+: t.lower).map .bannedPhrase ∧
            (rules.hasEmoji = StyleRules.standard.hasEmoji →
              report.found .e401 =
                if post.SomeStyled fun t => t.any isEmoji = true then [.emoji] else []) ∧
            (report.found .e402).map Violation.message =
              (if 0 < post.exclamations then
                [s!"Exclamation marks are not allowed (found {post.exclamations})"] else []) ∧
            ∀ (defaults' : Limits) (post' : Document), post.SameStyled post' →
              ∀ code ∈ [Code.e400, .e401, .e402],
                (post'.validate defaults' rules).found code = report.found code := by
  refine ⟨StyleRules.isPhrase_of_mem_standard, fun rules hphrases defaults post => ?_⟩
  refine ⟨found_e400 hphrases, found_e401, ?_, fun defaults' post' h code => found_congr h⟩
  rw [found_e402]
  split <;> rfl

/-- A post with two phrases of the table within fields and one across two fields, and with marks and
an emoji in several. -/
def boastful : Document where
  title := some "At the cutting".toList
  claim := some "Edge ΣΑΣ Game-CHANGER!".toList
  insight := some "No.".toList
  context := some "☀!".toList
  evidence := [⟨"3x!".toList, "DELVE!".toList⟩]
  credential := some "unleash".toList

/-- The same wording with another limit and without the credential. -/
def modest : Document := { boastful with credential := none, overrides := [(.total, 1)] }

theorem found_wording_boastful :
    let report := boastful.validate {} .standard
    report.found .e400 =
        [.bannedPhrase "game-changer".toList, .bannedPhrase "delve".toList] ∧
      report.found .e401 = [.emoji] ∧
      (report.found .e402).map Violation.message = [(Violation.exclamations 3).message] ∧
      (modest.validate { title := 1 } .standard).found .e400 = report.found .e400 := by
  intro report
  obtain ⟨hstandard, hfound⟩ := found_wording
  obtain ⟨hphrases, hemoji, hcount, hsame⟩ := hfound .standard hstandard {} boastful
  have hthree : boastful.exclamations = 3 := by decide +kernel
  have hmodest : boastful.SameStyled modest := ⟨rfl, rfl, rfl, rfl, rfl⟩
  rw [hthree, if_pos (by decide)] at hcount
  refine ⟨hphrases.trans ?_, (hemoji rfl).trans ?_, hcount, ?_⟩
  · decide +kernel
  · decide +kernel
  · exact hsame { title := 1 } modest hmodest .e400 (by decide)

end Document

end PostMarkup
