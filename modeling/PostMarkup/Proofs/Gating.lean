import PostMarkup.Proofs.Reordering

/-! What the limits on a post have a part in. They decide whether it is rendered, and the looser
they are the more posts are; what is rendered of a post is the same under all of them. -/

namespace PostMarkup

open Text

/-! ### Looser limits -/

/-- No limit of the first is above that of the second. -/
instance : LE Limits := ⟨fun limits limits' => ∀ name, limits.get name ≤ limits'.get name⟩

namespace Limits

theorem set_le_set {limits limits' : Limits} (h : limits ≤ limits') (name : LimitName)
    (value : Nat) : limits.set name value ≤ limits'.set name value := by
  intro other
  by_cases hname : other = name
  · rw [hname, get_set_same, get_set_same]
  · rw [get_set_ne limits value hname, get_set_ne limits' value hname]
    exact h other

/-- Looser limits are still the looser ones after the same changes. -/
theorem override_le_override {limits limits' : Limits} (h : limits ≤ limits')
    (changes : List (LimitName × Nat)) : limits.override changes ≤ limits'.override changes := by
  induction changes generalizing limits limits' with
  | nil => exact h
  | cons change changes ih => exact ih (set_le_set h change.1 change.2)

end Limits

section Looser

variable {limits limits' : Limits} (h : limits ≤ limits')
include h

namespace Document

theorem WithinLimits.mono {post : Document} (hpost : post.WithinLimits limits) :
    post.WithinLimits limits' where
  title t ht := (hpost.title t ht).trans (h .title)
  claim t ht := (hpost.claim t ht).trans (h .claim)
  insight t ht := (hpost.insight t ht).trans (h .insight)
  evidence item hitem := (hpost.evidence item hitem).trans (h .evidence)
  evidence_length := hpost.evidence_length

theorem errors_validate_eq_nil_of_le {rules : StyleRules} {post : Document}
    (hvalid : (post.validate limits rules).errors = []) :
    (post.validate limits' rules).errors = [] := by
  obtain ⟨⟨hcomplete, hwithin⟩, hwording⟩ := errors_validate_eq_nil_iff.1 hvalid
  have hloose : post.limits limits ≤ post.limits limits' :=
    Limits.override_le_override h post.overrides
  exact errors_validate_eq_nil_iff.2 ⟨⟨hcomplete, hwithin.mono hloose⟩, hwording⟩

theorem checkOutput_eq_none_of_le {post : Document} {output : Text}
    (hshort : post.checkOutput limits output = none) :
    post.checkOutput limits' output = none := by
  have hloose : (post.limits limits).total ≤ (post.limits limits').total :=
    Limits.override_le_override h post.overrides .total
  exact checkOutput_eq_none_iff.2 ((checkOutput_eq_none_iff.1 hshort).trans hloose)

end Document

theorem output?_compile_of_le {post output : Text}
    (houtput : (compile limits post).output? = some output) :
    (compile limits' post).output? = some output := by
  obtain ⟨hread, hvalid, hshort, hrender⟩ := output?_compile_eq_some_iff.1 houtput
  exact output?_compile_eq_some_iff.2 ⟨hread, Document.errors_validate_eq_nil_of_le h hvalid,
    Document.checkOutput_eq_none_of_le h hshort, hrender⟩

end Looser

/-! ### Lines about limits -/

/-- The posts have the same lines in the same order, apart from those with the mark of limits. -/
def Text.SameBesideLimits (post post' : Text) : Prop :=
  post.physicalLines.filter (fun raw => raw.trim.head? ≠ some '^') =
    post'.physicalLines.filter fun raw => raw.trim.head? ≠ some '^'

instance (post post' : Text) : Decidable (post.SameBesideLimits post') :=
  inferInstanceAs (Decidable (_ = _))

theorem Text.SameBesideLimits.content_eq {post post' : Text} (h : post.SameBesideLimits post') :
    (parse post).document.content = (parse post').document.content := by
  rw [document_parse, document_parse]
  refine Document.content_ofDirectives fun mark hmark => ?_
  -- The lines with any other mark are among those that the posts have in common.
  have hchar : mark.char ≠ '^' := fun heq => hmark (Mark.char_injective heq)
  have hcommon (raws : List Text) : raws.filter (fun raw => raw.trim.head? = some mark.char) =
      (raws.filter fun raw => raw.trim.head? ≠ some '^').filter fun raw =>
        raw.trim.head? = some mark.char := by
    rw [List.filter_filter]
    refine List.filter_congr fun raw _ => ?_
    by_cases hhead : raw.trim.head? = some mark.char <;> simp [hhead, hchar]
  rw [filter_mark_filterMap_ofText?, filter_mark_filterMap_ofText?, hcommon, h, ← hcommon]

/-- What is rendered of a post depends on nothing but what it says apart from its limits. -/
theorem output_eq_of_content_eq {limits limits' : Limits} {post post' output output' : Text}
    (h : (parse post).document.content = (parse post').document.content)
    (houtput : (compile limits post).output? = some output)
    (houtput' : (compile limits' post').output? = some output') : output = output' := by
  rw [eq_render_of_compile houtput, eq_render_of_compile houtput', Document.render_eq_content, h,
    ← Document.render_eq_content]

/-- Limits decide whether a post is rendered, and have no part in what is rendered of it. Under two
configurations it comes out the same, if it does under both; what comes out under the one comes out
under any with limits as loose or looser; and posts that differ in their lines about limits alone
come out the same, if they do. -/
theorem compile_gated (config config' : Config) (post : Text) :
    (∀ output output', (compile config.limits post).output? = some output →
        (compile config'.limits post).output? = some output' → output = output') ∧
      (config.limits ≤ config'.limits → ∀ output,
        (compile config.limits post).output? = some output →
          (compile config'.limits post).output? = some output) ∧
      ∀ post', post.SameBesideLimits post' → ∀ output output',
        (compile config.limits post).output? = some output →
          (compile config'.limits post').output? = some output' → output = output' :=
  ⟨fun _ _ => output_eq_of_content_eq rfl, fun h _ => output?_compile_of_le h,
    fun _ h _ _ => output_eq_of_content_eq h.content_eq⟩

/-- A configuration with limits that a very short post just keeps, but for that on the whole. -/
def sparing : Config where
  limits := { title := 1, claim := 1, evidence := 3, insight := 1, context := 0, total := 40 }
  thresholds := { maxTitleLength := 0 }

/-- A post that raises the limit on the whole for itself. -/
def raised : Text :=
  ['\n'].intercalate <| List.map String.toList
    ["^ total 41", "# \"T\"", "! \"C\"", "+ 1 | \"x\"", "> \"I\"", "@ \"S\" | a.b"]

/-- The same post with other lines about limits, one of which comes to nothing. -/
def reset : Text :=
  ['\n'].intercalate <| List.map String.toList
    ["# \"T\"", " ^ total", "! \"C\"", "+ 1 | \"x\"", "^ evidence 5", "> \"I\"", "@ \"S\" | a.b"]

/-- What is rendered of either. -/
def raisedOutput : Text :=
  ['\n'].intercalate <| List.map String.toList
    ["T.", "", "C.", "", "Results:", "- 1 x", "", "I.", "", "Source: S", "a.b"]

theorem compile_gated_raised :
    sparing.limits ≤ ({} : Config).limits ∧ raised.SameBesideLimits reset ∧
      (compile sparing.limits raised).output? = some raisedOutput ∧
      (compile {} raised).output? = some raisedOutput ∧
      (compile {} reset).output? = some raisedOutput ∧
      (compile sparing.limits reset).success = false := by
  have hle : sparing.limits ≤ ({} : Config).limits := by
    intro name
    cases name <;> decide
  have hsame : raised.SameBesideLimits reset := by decide +kernel
  have hraised : (compile sparing.limits raised).output? = some raisedOutput := by decide +kernel
  have hreset : (compile {} reset).output?.isSome = true := by decide +kernel
  obtain ⟨output, houtput⟩ := Option.isSome_iff_exists.1 hreset
  obtain ⟨-, hloose, hbeside⟩ := compile_gated sparing {} raised
  have heq : raisedOutput = output := hbeside reset hsame raisedOutput output hraised houtput
  refine ⟨hle, hsame, hraised, hloose hle raisedOutput hraised, heq ▸ houtput, ?_⟩
  decide +kernel

end PostMarkup
