import Mathlib.Data.List.Basic
import PostMarkup.Text.Casing

/-! Occurrences of ASCII phrases in lowercase forms. A phrase holds no sigma, so it does not tell
which form a sigma takes, and the lowercase form may be read character by character. -/

namespace PostMarkup.Text

/-! ### Occurrences -/

variable {phrase s t : Text} {c : Char}

/-- A phrase does not reach across a character that it does not hold. -/
theorem infix_append_cons_iff (hc : c ∉ phrase) :
    phrase <:+: s ++ c :: t ↔ phrase <:+: s ∨ phrase <:+: t := by
  refine ⟨fun h => ?_, ?_⟩
  · rcases List.infix_append_iff_ne_nil.1 h with h | h | ⟨front, back, -, hne, rfl, -, hback⟩
    · exact .inl h
    · rcases List.infix_cons_iff.1 h with h | h
      · rcases List.prefix_cons_iff.1 h with rfl | ⟨rest, rfl, -⟩
        · exact .inl List.nil_infix
        · exact absurd List.mem_cons_self hc
      · exact .inr h
    -- The phrase lies across the border, so its second part starts with `c`.
    · rcases List.prefix_cons_iff.1 hback with rfl | ⟨rest, rfl, -⟩
      · exact absurd rfl hne
      · exact absurd (List.mem_append_right _ List.mem_cons_self) hc
  · rintro (h | h)
    · exact h.trans (List.prefix_append _ _).isInfix
    · exact h.trans ((List.suffix_cons _ _).trans (List.suffix_append _ _)).isInfix

/-- A phrase does not start with a character that it does not start with. -/
theorem infix_cons_of_head_ne (hne : phrase ≠ []) (hc : phrase.head? ≠ some c) :
    phrase <:+: c :: t ↔ phrase <:+: t := by
  rw [List.infix_cons_iff, List.prefix_cons_iff]
  refine ⟨?_, .inr⟩
  rintro ((rfl | ⟨rest, rfl, -⟩) | h)
  · exact absurd rfl hne
  · exact absurd rfl hc
  · exact h

/-- Changes among characters that a phrase does not hold leave its occurrences alone. -/
theorem infix_map_iff {f : Char → Char} (hf : ∀ c ∈ phrase, ∀ d, f d = c ↔ d = c) :
    phrase <:+: t.map f ↔ phrase <:+: t := by
  have hmap (u : Text) : u.map f = phrase ↔ u = phrase := by
    induction phrase generalizing u with
    | nil => simp
    | cons c phrase ih =>
      cases u with
      | nil => simp
      | cons d u =>
        rw [List.map_cons, List.cons.injEq, List.cons.injEq, hf c List.mem_cons_self,
          ih fun c hc => hf c (List.mem_cons_of_mem _ hc)]
  refine ⟨?_, fun h => ?_⟩
  · rintro ⟨front, back, h⟩
    obtain ⟨rest, back', rfl, hrest, -⟩ := List.map_eq_append_iff.1 h.symm
    obtain ⟨front', u, rfl, -, hu⟩ := List.map_eq_append_iff.1 hrest
    rw [(hmap u).1 hu]
    exact List.infix_append _ _ _
  · rw [← (hmap phrase).2 rfl]
    exact h.map f

/-! ### Lowercase forms -/

/-- Every sigma as it is within a word. -/
def foldSigma (c : Char) : Char := if c = 'ς' then 'σ' else c

theorem map_foldSigma_lowerAt (before : Text) (c : Char) (after : Text) :
    (lowerAt before c after).map foldSigma = (lowerChar c).map foldSigma := by
  rw [lowerAt]
  -- Only a capital sigma has a form that depends on what stands around it.
  split
  next h =>
    have hsigma : lowerChar 'Σ' = ['σ'] := by decide
    rw [h, hsigma]
    split <;> rfl
  next => rfl

theorem map_foldSigma_lowerFrom (before t : Text) :
    (lowerFrom before t).map foldSigma = (t.flatMap lowerChar).map foldSigma := by
  induction t generalizing before with
  | nil => rfl
  | cons c t ih =>
    rw [lowerFrom, List.map_append, ih, map_foldSigma_lowerAt, List.flatMap_cons, List.map_append]

/-- All characters are ASCII. -/
def IsAscii (t : Text) : Prop := ∀ c ∈ t, c.toNat < 0x80

theorem lowerChar_of_ascii (h : c.toNat < 0x80) : lowerChar c = [c.toLower] := by
  rw [lowerChar, if_pos h]

theorem infix_lower_iff (h : IsAscii phrase) :
    phrase <:+: t.lower ↔ phrase <:+: t.flatMap lowerChar := by
  have hfold : ∀ c ∈ phrase, ∀ d, foldSigma d = c ↔ d = c := by
    intro c hc d
    have hfinal : c ≠ 'ς' := by rintro rfl; exact absurd (h _ hc) (by decide)
    have hmedial : c ≠ 'σ' := by rintro rfl; exact absurd (h _ hc) (by decide)
    rw [foldSigma]
    split
    next hd =>
      subst hd
      exact ⟨fun h => absurd h.symm hmedial, fun h => absurd h.symm hfinal⟩
    next => rfl
  rw [← infix_map_iff hfold, ← infix_map_iff (t := t.flatMap lowerChar) hfold, lower,
    map_foldSigma_lowerFrom]

section Lowercase

variable (h : IsAscii phrase) (hascii : c.toNat < 0x80) (hlower : c.toLower = c)
include h hascii hlower

theorem infix_lower_append_cons_iff (hc : c ∉ phrase) :
    phrase <:+: (s ++ c :: t).lower ↔ phrase <:+: s.lower ∨ phrase <:+: t.lower := by
  rw [infix_lower_iff h, infix_lower_iff h, infix_lower_iff h, List.flatMap_append,
    List.flatMap_cons, lowerChar_of_ascii hascii, hlower, List.singleton_append,
    infix_append_cons_iff hc]

theorem infix_lower_cons_of_head_ne (hne : phrase ≠ []) (hc : phrase.head? ≠ some c) :
    phrase <:+: lower (c :: t) ↔ phrase <:+: t.lower := by
  rw [infix_lower_iff h, infix_lower_iff h, List.flatMap_cons, lowerChar_of_ascii hascii, hlower,
    List.singleton_append, infix_cons_of_head_ne hne hc]

end Lowercase

end PostMarkup.Text
