import PostMarkup.Proofs.Wording

/-! What the standard rules of style find in a text is not hidden by what stands around it, nor by
the case of its letters. The lowercase form of a text does depend on its surroundings, but only in
letters that no phrase of the table has. -/

namespace PostMarkup

namespace Text

/-! ### Case -/

def capitals : Text := "ABCDEFGHIJKLMNOPQRSTUVWXYZ".toList

theorem toLower_of_not_mem_capitals {c : Char} (h : c ∉ capitals) : c.toLower = c := by
  refine dif_neg fun ⟨hfirst, hlast⟩ => h ?_
  have hfirst : 65 ≤ c.toNat := UInt32.le_iff_toNat_le.1 hfirst
  have hlast : c.toNat ≤ 90 := UInt32.le_iff_toNat_le.1 hlast
  have hnumber : c.toNat ∈ capitals.map Char.toNat := by
    rw [show capitals.map Char.toNat = List.range' 65 26 from rfl, List.mem_range'_1]
    omega
  obtain ⟨d, hd, heq⟩ := List.mem_map.1 hnumber
  exact Char.toNat_inj.1 heq ▸ hd

theorem capitals_shape : ∀ c ∈ capitals, lowerChar c.toLower = lowerChar c ∧
    isEmoji c.toLower = isEmoji c ∧ (c.toLower == '!') = (c == '!') := by
  decide +kernel

/-- Nothing that the rules read of a character depends on its ASCII case. -/
theorem toLower_shape (c : Char) : lowerChar c.toLower = lowerChar c ∧
    isEmoji c.toLower = isEmoji c ∧ (c.toLower == '!') = (c == '!') := by
  by_cases h : c ∈ capitals
  · exact capitals_shape c h
  · rw [toLower_of_not_mem_capitals h]
    exact ⟨rfl, rfl, rfl⟩

/-- The texts differ in the case of ASCII letters and in nothing else. -/
def SameBesideCase (s t : Text) : Prop := s.map Char.toLower = t.map Char.toLower

instance (s t : Text) : Decidable (s.SameBesideCase t) := inferInstanceAs (Decidable (_ = _))

section Phrases

variable {phrase s t : Text} (h : phrase.IsAscii)
include h

theorem infix_lower_map_toLower : phrase <:+: lower (t.map Char.toLower) ↔ phrase <:+: t.lower := by
  rw [infix_lower_iff h, infix_lower_iff h, List.flatMap_map]
  simp only [(toLower_shape _).1]

/-- A phrase that occurs in a text occurs in every text around it. -/
theorem infix_lower_of_infix (hpart : s <:+: t) (hphrase : phrase <:+: s.lower) :
    phrase <:+: t.lower := by
  rw [infix_lower_iff h] at hphrase ⊢
  obtain ⟨front, back, rfl⟩ := hpart
  rw [List.flatMap_append, List.flatMap_append]
  exact hphrase.trans (List.infix_append _ _ _)

end Phrases

end Text

open Text

namespace StyleRules

theorem isAscii_of_mem_standard {phrase : Text} (h : phrase ∈ standard.phrases) : phrase.IsAscii :=
  (isPhrase_of_mem_standard phrase h).ascii

theorem mem_phrasesIn {rules : StyleRules} {phrase t : Text} :
    phrase ∈ rules.phrasesIn t ↔ phrase ∈ rules.phrases ∧ phrase <:+: t.lower := by
  rw [phrasesIn, List.mem_filter, occursIn_iff]

theorem scan_map_toLower (t : Text) : standard.scan (t.map Char.toLower) = standard.scan t := by
  have hphrases : standard.phrasesIn (t.map Char.toLower) = standard.phrasesIn t := by
    rw [phrasesIn, phrasesIn]
    refine List.filter_congr fun phrase hmem => ?_
    rw [Bool.eq_iff_iff, occursIn_iff, occursIn_iff,
      infix_lower_map_toLower (isAscii_of_mem_standard hmem)]
  have hemoji : standard.hasEmoji (t.map Char.toLower) = standard.hasEmoji t := by
    change (t.map Char.toLower).any isEmoji = t.any isEmoji
    rw [List.any_map]
    exact congrArg t.any (funext fun c => (toLower_shape c).2.1)
  have hmarks : (t.map Char.toLower).count '!' = t.count '!' := by
    rw [List.count, List.countP_map]
    exact List.countP_congr fun c _ => by simpa using (toLower_shape c).2.2
  rw [scan, scan, hphrases, hemoji, hmarks]

theorem scan_of_sameBesideCase {s t : Text} (h : s.SameBesideCase t) :
    standard.scan s = standard.scan t := by
  rw [← scan_map_toLower s, h, scan_map_toLower]

section Parts

variable {s t : Text} (h : s <:+: t)
include h

theorem mem_phrases_scan_of_infix {phrase : Text} (hphrase : phrase ∈ (standard.scan s).phrases) :
    phrase ∈ (standard.scan t).phrases := by
  obtain ⟨hmem, hoccurs⟩ := mem_phrasesIn.1 hphrase
  exact mem_phrasesIn.2 ⟨hmem, infix_lower_of_infix (isAscii_of_mem_standard hmem) h hoccurs⟩

theorem hasEmoji_scan_of_infix (hemoji : (standard.scan s).hasEmoji = true) :
    (standard.scan t).hasEmoji = true := by
  obtain ⟨c, hc, hchar⟩ := List.any_eq_true.1 hemoji
  exact List.any_eq_true.2 ⟨c, h.subset hc, hchar⟩

end Parts

theorem nodup_phrases_standard : standard.phrases.Nodup := by decide +kernel

/-- What the rules find in a text they find in any text that holds it, also if the case of its
letters is changed: no phrase and no emoji is hidden, and the exclamation marks add up. Each phrase
is reported at most once, in the order of the table. -/
theorem scan_surrounded :
    (∀ front t t' back : Text, t.SameBesideCase t' →
      let part := standard.scan t
      let whole := standard.scan (front ++ t' ++ back)
      (∀ phrase ∈ part.phrases, phrase ∈ whole.phrases) ∧
        (part.hasEmoji = true → whole.hasEmoji = true) ∧
        whole.exclamations = front.count '!' + t'.count '!' + back.count '!' ∧
        standard.scan t' = part) ∧
      ∀ t : Text, (standard.scan t).phrases.Sublist standard.phrases ∧
        (standard.scan t).phrases.Nodup := by
  refine ⟨fun front t t' back h => ?_, fun t => ?_⟩
  · intro part whole
    have hcase : standard.scan t' = part := (scan_of_sameBesideCase h).symm
    have hpart : t' <:+: front ++ t' ++ back := List.infix_append _ _ _
    have hmarks : (front ++ t' ++ back).count '!' =
        front.count '!' + t'.count '!' + back.count '!' := by
      rw [List.count_append, List.count_append]
    refine ⟨fun phrase hphrase => ?_, fun hemoji => ?_, hmarks, hcase⟩
    · rw [← hcase] at hphrase
      exact mem_phrases_scan_of_infix hpart hphrase
    · rw [← hcase] at hemoji
      exact hasEmoji_scan_of_infix hpart hemoji
  · have hsublist : (standard.scan t).phrases.Sublist standard.phrases := List.filter_sublist
    exact ⟨hsublist, hsublist.nodup nodup_phrases_standard⟩

/-- A text with a phrase of the table, an emoji and a mark, and the same with other letters in
capitals. -/
def plainBoast : Text := "a game-changer! ☀".toList

def loudBoast : Text := "A GAME-changER! ☀".toList

theorem scan_surrounded_loudBoast :
    plainBoast.SameBesideCase loudBoast ∧
      "game-changer".toList ∈ (standard.scan plainBoast).phrases ∧
      "game-changer".toList ∈
        (standard.scan ("ΑΣ".toList ++ loudBoast ++ "ΣΑΣ!".toList)).phrases ∧
      (standard.scan ("ΑΣ".toList ++ loudBoast ++ "ΣΑΣ!".toList)).hasEmoji = true ∧
      (standard.scan ("ΑΣ".toList ++ loudBoast ++ "ΣΑΣ!".toList)).exclamations = 2 := by
  have hcase : plainBoast.SameBesideCase loudBoast := by decide
  have hphrase : "game-changer".toList ∈ (standard.scan plainBoast).phrases := by decide +kernel
  have hemoji : (standard.scan plainBoast).hasEmoji = true := by decide +kernel
  obtain ⟨hphrases, hemojis, hmarks, -⟩ :=
    scan_surrounded.1 "ΑΣ".toList plainBoast loudBoast "ΣΑΣ!".toList hcase
  refine ⟨hcase, hphrase, hphrases _ hphrase, hemojis hemoji, hmarks.trans ?_⟩
  decide +kernel

end StyleRules

end PostMarkup
