import Mathlib.Data.List.Nodup
import Mathlib.Logic.Function.Basic
import PostMarkup.Proofs.Score
import PostMarkup.Proofs.Text
import PostMarkup.Proofs.Topics

/-! The parts of an analysis agree with each other. Issues, warnings and suggestions are lists of
messages, and the outline and the score stand beside them; a message tells the finding that it is
from, so all of them can be told from the findings, and from each other. -/

namespace PostMarkup

/-! ### Merged lists -/

/-- The third list is the first two merged, each of them in its own order. -/
inductive Merges {α : Type} : List α → List α → List α → Prop
  | nil : Merges [] [] []
  | left {x : α} {xs ys zs : List α} : Merges xs ys zs → Merges (x :: xs) ys (x :: zs)
  | right {y : α} {xs ys zs : List α} : Merges xs ys zs → Merges xs (y :: ys) (y :: zs)

namespace Merges

variable {α β : Type} {xs ys zs : List α}

theorem map (f : α → β) (h : Merges xs ys zs) : Merges (xs.map f) (ys.map f) (zs.map f) := by
  induction h with
  | nil => exact .nil
  | left _ ih => exact .left ih
  | right _ ih => exact .right ih

theorem length_eq (h : Merges xs ys zs) : zs.length = xs.length + ys.length := by
  induction h with
  | nil => rfl
  | left _ ih =>
    rw [List.length_cons, List.length_cons, ih]
    omega
  | right _ ih =>
    rw [List.length_cons, List.length_cons, ih]
    omega

/-- What a test keeps of a list and what it drops make up the list. -/
theorem filter (p : α → Bool) (zs : List α) :
    Merges (zs.filter p) (zs.filter fun z => !p z) zs := by
  induction zs with
  | nil => exact .nil
  | cons z zs ih =>
    cases hz : p z with
    | true =>
      rw [List.filter_cons_of_pos hz, List.filter_cons_of_neg (by simp [hz])]
      exact .left ih
    | false =>
      rw [List.filter_cons_of_neg (by simp [hz]), List.filter_cons_of_pos (by simp [hz])]
      exact .right ih

end Merges

/-! ### Messages -/

namespace Finding

/-- The finding without the numbers and the phrase in it. -/
def kind : Finding → Finding
  | longTitle .. => longTitle 0 0
  | bannedPhrase _ => bannedPhrase []
  | exclamations _ => exclamations 0
  | longText .. => longText 0 0
  | finding => finding

def kinds : List Finding :=
  [missingTitle, longTitle 0 0, noEvidence, thinEvidence, noSource, tooShort, noInsight,
    bannedPhrase [], emoji, exclamations 0, questionTitle, longText 0 0]

/-- The kinds whose findings have numbers or a phrase. -/
def openKinds : List Finding := [longTitle 0 0, bannedPhrase [], exclamations 0, longText 0 0]

/-- What the messages of a kind have in common, up to the first number or the phrase. -/
def opening : Finding → Text
  | longTitle .. => "Title too long (".toList
  | bannedPhrase _ => "Banned phrase: \"".toList
  | exclamations _ => "Exclamation marks are not allowed (found ".toList
  | longText .. => "Post is long (".toList
  | finding => finding.message.toList

/-- The rest of a message. -/
def details : Finding → Text
  | longTitle length limit | longText length limit =>
    length.repr.toList ++ '/' :: (limit.repr.toList ++ " characters)".toList)
  | bannedPhrase phrase => phrase ++ "\"".toList
  | exclamations count => count.repr.toList ++ ")".toList
  | _ => []

theorem kind_mem_kinds (finding : Finding) : finding.kind ∈ kinds := by
  cases finding <;> simp [kind, kinds]

theorem opening_kind (finding : Finding) : finding.kind.opening = finding.opening := by
  cases finding <;> rfl

theorem toList_message (finding : Finding) :
    finding.message.toList = finding.opening ++ finding.details := by
  have hratio (start : String) (length limit : Nat) :
      (start ++ length.repr ++ "/" ++ limit.repr ++ " characters)").toList =
        start.toList ++ (length.repr.toList ++ '/' :: (limit.repr.toList ++
          " characters)".toList)) := by
    simp only [String.toList_append, List.append_assoc]
    rfl
  cases finding with
  | longTitle length limit => exact hratio "Title too long (" length limit
  | longText length limit => exact hratio "Post is long (" length limit
  | bannedPhrase phrase =>
    change ("Banned phrase: \"" ++ String.ofList phrase ++ "\"").toList =
      "Banned phrase: \"".toList ++ (phrase ++ "\"".toList)
    have hphrase : (String.ofList phrase).toList = phrase := String.toList_ofList
    rw [String.toList_append, String.toList_append, List.append_assoc, hphrase]
  | exclamations count =>
    change ("Exclamation marks are not allowed (found " ++ count.repr ++ ")").toList =
      "Exclamation marks are not allowed (found ".toList ++ (count.repr.toList ++ ")".toList)
    rw [String.toList_append, String.toList_append, List.append_assoc]
  | _ => exact (List.append_nil _).symm

/-- No kind's opening is the beginning of another's. -/
theorem eq_of_opening_isPrefix : ∀ kind ∈ kinds, ∀ kind' ∈ kinds,
    kind.opening <+: kind'.opening → kind = kind' := by
  decide +kernel

section Messages

variable {finding finding' : Finding}

theorem kind_eq_of_opening_isPrefix (h : finding.opening <+: finding'.opening) :
    finding.kind = finding'.kind := by
  rw [← opening_kind finding, ← opening_kind finding'] at h
  exact eq_of_opening_isPrefix _ finding.kind_mem_kinds _ finding'.kind_mem_kinds h

theorem kind_eq_of_message_eq (h : finding.message = finding'.message) :
    finding.kind = finding'.kind := by
  have htext : finding.message.toList = finding'.opening ++ finding'.details := by
    rw [h, toList_message]
  have hopening : finding.opening <+: finding.message.toList := by
    rw [toList_message]
    exact List.prefix_append _ _
  have hopening' : finding'.opening <+: finding.message.toList := by
    rw [htext]
    exact List.prefix_append _ _
  rcases List.prefix_or_prefix_of_prefix hopening hopening' with h | h
  · exact kind_eq_of_opening_isPrefix h
  · exact (kind_eq_of_opening_isPrefix h).symm

theorem details_eq_of_message_eq (h : finding.message = finding'.message) :
    finding.details = finding'.details := by
  have hopening : finding.opening = finding'.opening := by
    rw [← opening_kind, kind_eq_of_message_eq h, opening_kind]
  have htext := congrArg String.toList h
  rwa [toList_message, toList_message, hopening, List.append_cancel_left_eq] at htext

theorem eq_of_kind_eq (h : finding'.kind = finding) (hclosed : finding ∉ openKinds) :
    finding' = finding := by
  subst h
  cases finding' with
  | longTitle | bannedPhrase | exclamations | longText =>
    exact absurd (by simp [kind, openKinds]) hclosed
  | _ => rfl

theorem details_longTitle_inj {length limit length' limit' : Nat}
    (h : (longTitle length limit).details = (longTitle length' limit').details) :
    length = length' ∧ limit = limit' := by
  obtain ⟨hlength, hrest⟩ := Text.repr_append_inj (by simp) (by simp) h
  exact ⟨hlength, (Text.repr_append_inj (by simp) (by simp) (List.cons.inj hrest).2).1⟩

end Messages

/-- Every finding has a message of its own. -/
theorem message_injective : Function.Injective message := by
  intro finding finding' h
  have hkind := kind_eq_of_message_eq h
  have hdetails := details_eq_of_message_eq h
  cases finding with
  | longTitle length limit =>
    cases finding' with
    | longTitle length' limit' =>
      obtain ⟨rfl, rfl⟩ := details_longTitle_inj hdetails
      rfl
    | _ => cases hkind
  | longText length limit =>
    cases finding' with
    | longText length' limit' =>
      obtain ⟨rfl, rfl⟩ := details_longTitle_inj hdetails
      rfl
    | _ => cases hkind
  | bannedPhrase phrase =>
    cases finding' with
    | bannedPhrase phrase' => rw [List.append_cancel_right hdetails]
    | _ => cases hkind
  | exclamations count =>
    cases finding' with
    | exclamations count' => rw [(Text.repr_append_inj (by simp) (by simp) hdetails).1]
    | _ => cases hkind
  | _ => exact (eq_of_kind_eq hkind.symm (by decide)).symm

end Finding

namespace Analysis

section Lists

variable {a : Analysis} {finding : Finding}

theorem message_mem_issues_iff :
    finding.message ∈ a.issues ↔ finding ∈ a.findings ∧ finding.isIssue = true := by
  rw [issues, List.mem_map_of_injective Finding.message_injective, List.mem_filter]

theorem message_mem_warnings_iff :
    finding.message ∈ a.warnings ↔ finding ∈ a.findings ∧ finding.isIssue = false := by
  rw [warnings, List.mem_map_of_injective Finding.message_injective, List.mem_filter,
    Bool.not_eq_true']

theorem suggestions_eq_nil_iff : a.suggestions = [] ↔ a.findings = [] := List.map_eq_nil_iff

/-- The suggestions are those for the issues and those for the warnings, each in their order. -/
theorem merges_suggestions {advice : String → String}
    (h : ∀ finding : Finding, advice finding.message = finding.suggestion) :
    Merges (a.issues.map advice) (a.warnings.map advice) a.suggestions := by
  have hfollow (findings : List Finding) :
      (findings.map Finding.message).map advice = findings.map Finding.suggestion := by
    rw [List.map_map]
    exact List.map_congr_left fun finding _ => h finding
  rw [issues, warnings, hfollow, hfollow]
  exact (Merges.filter Finding.isIssue a.findings).map Finding.suggestion

theorem length_suggestions : a.suggestions.length = a.issues.length + a.warnings.length := by
  rw [suggestions, issues, warnings, List.length_map, List.length_map, List.length_map]
  exact (Merges.filter Finding.isIssue a.findings).length_eq

end Lists

section Analyzed

variable {thresholds : Thresholds} {rules : StyleRules} {t : Text} {finding : Finding}

/-- A title is missed if there is no line at all, or too long a line in its place. -/
theorem title_outline_analyze_eq_false_iff :
    (analyze thresholds rules t).outline.title = false ↔
      Xor (.missingTitle ∈ (analyze thresholds rules t).findings)
        (∃ length limit, .longTitle length limit ∈ (analyze thresholds rules t).findings) := by
  rw [missingTitle_mem_findings_iff, longTitle_mem_findings_iff, outline_analyze, outlineOf]
  cases t.contentLines <;> simp [titleFindings, Xor]

theorem points_pos_of_mem_findings (h : finding ∈ (analyze thresholds rules t).findings) :
    0 < finding.points := by
  cases finding with
  | exclamations count =>
    rw [mem_findings_iff_mem_about, Finding.topic, about_wording_analyze] at h
    have hsome : 0 < (rules.scan t).exclamations ∧ count = (rules.scan t).exclamations := by
      simpa [styleFindings] using h
    rw [Finding.points]
    omega
  | _ => exact Nat.zero_lt_succ _

theorem score_eq_hundred_iff :
    (analyze thresholds rules t).score = 100 ↔ (analyze thresholds rules t).findings = [] := by
  rw [score_eq]
  cases hfindings : (analyze thresholds rules t).findings with
  | nil => simp
  | cons finding findings =>
    have hmem : finding ∈ (analyze thresholds rules t).findings := by
      rw [hfindings]
      exact List.mem_cons_self
    have hpos := points_pos_of_mem_findings hmem
    rw [points_cons]
    simp only [reduceCtorEq, iff_false]
    omega

end Analyzed

end Analysis

/-- The parts of an analysis are told from each other. A text is valid if it has no issues; the
suggestions are those that go with the issues and with the warnings, merged, where a message tells
its suggestion; the score is full if there are none; and of the parts of a post a text lacks just
those for which there is an issue or a warning. -/
theorem analyze_coherent : ∃ advice : String → String,
    (∀ finding : Finding, advice finding.message = finding.suggestion) ∧
      ∀ (thresholds : Thresholds) (rules : StyleRules) (t : Text),
        let a := analyze thresholds rules t
        (a.valid = true ↔ a.issues = []) ∧
          a.suggestions.length = a.issues.length + a.warnings.length ∧
          Merges (a.issues.map advice) (a.warnings.map advice) a.suggestions ∧
          (a.score = 100 ↔ a.suggestions = []) ∧
          (a.outline.title = false ↔
            Xor ("Missing title" ∈ a.issues)
              (∃ length limit : Nat,
                s!"Title too long ({length}/{limit} characters)" ∈ a.issues)) ∧
          (a.outline.claim = false ↔ "Post too short to contain a claim" ∈ a.issues) ∧
          (a.outline.source = false ↔ "No source found" ∈ a.issues) ∧
          (a.outline.evidence = 0 ↔ "No evidence found" ∈ a.issues) ∧
          ("No evidence found" ∈ a.issues →
            "Only one piece of evidence found" ∉ a.warnings) ∧
          (a.outline.insight = false ↔ "No insight detected" ∈ a.warnings) := by
  let advice : String → String := Function.extend Finding.message Finding.suggestion id
  have hadvice (finding : Finding) : advice finding.message = finding.suggestion :=
    Finding.message_injective.extend_apply _ _ finding
  refine ⟨advice, hadvice, fun thresholds rules t => ?_⟩
  intro a
  have hissue (finding : Finding) (h : finding.isIssue = true) :
      finding.message ∈ a.issues ↔ finding ∈ a.findings := by
    rw [Analysis.message_mem_issues_iff, and_iff_left h]
  have hwarning (finding : Finding) (h : finding.isIssue = false) :
      finding.message ∈ a.warnings ↔ finding ∈ a.findings := by
    rw [Analysis.message_mem_warnings_iff, and_iff_left h]
  have hmissing : "Missing title" ∈ a.issues ↔ .missingTitle ∈ a.findings :=
    hissue .missingTitle rfl
  have hlong : (∃ length limit : Nat,
      s!"Title too long ({length}/{limit} characters)" ∈ a.issues) ↔
        ∃ length limit, .longTitle length limit ∈ a.findings :=
    exists₂_congr fun length limit => hissue (.longTitle length limit) rfl
  refine ⟨Analysis.valid_iff_issues_eq_nil, Analysis.length_suggestions,
    Analysis.merges_suggestions hadvice, ?_, ?_, ?_, ?_, ?_, ?_, ?_⟩
  · rw [Analysis.suggestions_eq_nil_iff]
    exact Analysis.score_eq_hundred_iff
  · rw [hmissing, hlong]
    exact Analysis.title_outline_analyze_eq_false_iff
  · exact Analysis.tooShort_mem_findings_iff.symm.trans (hissue .tooShort rfl).symm
  · exact Analysis.noSource_mem_findings_iff.symm.trans (hissue .noSource rfl).symm
  · exact Analysis.noEvidence_mem_findings_iff.symm.trans (hissue .noEvidence rfl).symm
  · intro hnone hthin
    have hzero := Analysis.noEvidence_mem_findings_iff.1 ((hissue .noEvidence rfl).1 hnone)
    exact Analysis.thinEvidence_not_mem_findings hzero ((hwarning .thinEvidence rfl).1 hthin)
  · exact Analysis.noInsight_mem_findings_iff.symm.trans (hwarning .noInsight rfl).symm

end PostMarkup
