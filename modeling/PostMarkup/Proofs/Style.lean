import PostMarkup.Proofs.Casing
import PostMarkup.Proofs.Text
import PostMarkup.Style

/-! What the standard rules of style find in texts put together. The characters that rendering puts
between and around texts stand in no phrase of the table, or not at its start, so they neither make
nor break an occurrence. -/

namespace PostMarkup

open Text

/-- The text holds no phrase of the standard table in whatever case, no emoji and no exclamation
mark. -/
def Text.IsPlain (t : Text) : Prop :=
  (∀ phrase ∈ bannedPhrases, ¬phrase.toList <:+: t.lower) ∧ (∀ c ∈ t, isEmoji c = false) ∧ '!' ∉ t

theorem isClean_scan_iff {t : Text} : (StyleRules.standard.scan t).isClean = true ↔ t.IsPlain := by
  simp only [StyleReport.isClean, StyleRules.scan, StyleRules.phrasesIn, StyleRules.standard,
    Bool.and_eq_true, List.isEmpty_iff, List.filter_eq_nil_iff, List.forall_mem_map,
    occursIn_iff, Bool.not_eq_true', List.any_eq_false, Bool.not_eq_true, beq_iff_eq,
    List.count_eq_zero, and_assoc, Text.IsPlain]

theorem bannedPhrases_shape : ∀ phrase ∈ bannedPhrases, phrase.toList ≠ [] ∧
    (∀ c ∈ phrase.toList, c.toNat < 0x80) ∧
    (∀ c ∈ ['\n', '.', ':', '[', ']'], c ∉ phrase.toList) ∧
    ∀ c ∈ ['-', ' '], phrase.toList.head? ≠ some c := by
  decide +kernel

theorem glue_shape : ∀ c ∈ ['\n', '.', ':', '[', ']', '-', ' '],
    c.toNat < 0x80 ∧ c.toLower = c ∧ isEmoji c = false ∧ c ≠ '!' := by
  decide

namespace Text

theorem isPlain_nil : IsPlain [] := isClean_scan_iff.1 (by decide +kernel)

/-- Texts on both sides of a character that no phrase holds are judged apart. -/
theorem isPlain_append_cons {s t : Text} {c : Char} (hc : c ∈ ['\n', '.', ':', '[', ']']) :
    IsPlain (s ++ c :: t) ↔ s.IsPlain ∧ t.IsPlain := by
  obtain ⟨hascii, hlower, hemoji, hne⟩ := glue_shape c (by revert hc c; decide)
  have hphrases : (∀ phrase ∈ bannedPhrases, ¬phrase.toList <:+: lower (s ++ c :: t)) ↔
      (∀ phrase ∈ bannedPhrases, ¬phrase.toList <:+: s.lower) ∧
        ∀ phrase ∈ bannedPhrases, ¬phrase.toList <:+: t.lower := by
    rw [← forall₂_and]
    refine forall₂_congr fun phrase hmem => ?_
    obtain ⟨-, hphrase, hsplit, -⟩ := bannedPhrases_shape phrase hmem
    rw [infix_lower_append_cons_iff hphrase hascii hlower (hsplit c hc), not_or]
  rw [IsPlain, IsPlain, IsPlain, hphrases, List.forall_mem_append, List.forall_mem_cons,
    List.mem_append, List.mem_cons]
  simp only [hemoji, hne.symm, not_or, not_false_iff, true_and]
  tauto

/-- A character that no phrase starts with does not count in front of a text. -/
theorem isPlain_cons {t : Text} {c : Char} (hc : c ∈ ['-', ' ']) :
    IsPlain (c :: t) ↔ t.IsPlain := by
  obtain ⟨hascii, hlower, hemoji, hne⟩ := glue_shape c (by revert hc c; decide)
  have hphrases : (∀ phrase ∈ bannedPhrases, ¬phrase.toList <:+: lower (c :: t)) ↔
      ∀ phrase ∈ bannedPhrases, ¬phrase.toList <:+: t.lower := by
    refine forall₂_congr fun phrase hmem => ?_
    obtain ⟨hnonempty, hphrase, -, hstart⟩ := bannedPhrases_shape phrase hmem
    rw [infix_lower_cons_of_head_ne hphrase hascii hlower hnonempty (hstart c hc)]
  rw [IsPlain, IsPlain, hphrases, List.forall_mem_cons, List.mem_cons]
  simp only [hemoji, hne.symm, false_or, true_and]

theorem isPlain_intercalate {texts : List Text} :
    IsPlain (['\n'].intercalate texts) ↔ ∀ t ∈ texts, t.IsPlain := by
  refine iff_of_eq <| apply_intercalate (f := IsPlain) (g := And)
    (F := fun texts => ∀ t ∈ texts, t.IsPlain) ?_ ?_ ?_ ?_ texts
  · simp [isPlain_nil]
  · intro s t
    exact propext (isPlain_append_cons (by decide))
  · simp [isPlain_nil]
  · simp

/-- A text is judged line by line. -/
theorem isPlain_iff_physicalLines {t : Text} :
    t.IsPlain ↔ ∀ line ∈ t.physicalLines, line.IsPlain := by
  rw [← isPlain_intercalate, physicalLines, List.intercalate_splitOn]

end Text

end PostMarkup
