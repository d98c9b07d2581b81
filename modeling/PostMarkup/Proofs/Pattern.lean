import Mathlib.Data.List.Basic
import PostMarkup.Text.Pattern

/-! What patterns match, told apart from the search for it: a part of a text, with what stands on
both sides of it. The search finds a match exactly if some part of the text is one. Of what stands
around a match only word edges tell anything, and a character that is no word character and that no
match runs across divides a text into two that are searched apart. -/

namespace PostMarkup

/-- The character behind the place that the text leads to from a place behind `behind`. -/
def Text.endingAfter (behind : Option Char) (t : Text) : Option Char := t.getLast?.or behind

namespace Text

variable {behind : Option Char}

@[simp] theorem endingAfter_nil : endingAfter behind [] = behind := rfl

@[simp] theorem endingAfter_cons {c : Char} {t : Text} :
    endingAfter behind (c :: t) = endingAfter (some c) t := by
  cases h : t.getLast? <;> simp [endingAfter, List.getLast?_cons, h]

theorem endingAfter_append {s t : Text} :
    endingAfter behind (s ++ t) = endingAfter (endingAfter behind s) t := by
  simp [endingAfter, List.getLast?_append, Option.or_assoc]

/-- The character between two texts is in the one or the other of two that make up the same. -/
theorem append_cons_eq_append_iff {s t u v : Text} {c : Char} :
    s ++ c :: t = u ++ v ↔ (∃ rest, s = u ++ rest ∧ v = rest ++ c :: t) ∨
      ∃ rest, u = s ++ c :: rest ∧ t = rest ++ v := by
  rw [List.append_eq_append_iff]
  constructor
  · rintro (⟨rest, rfl, hrest⟩ | h)
    · rcases List.cons_eq_append_iff.1 hrest with ⟨rfl, rfl⟩ | ⟨rest, rfl, rfl⟩
      · exact .inl ⟨[], by simp, rfl⟩
      · exact .inr ⟨rest, rfl, rfl⟩
    · exact .inl h
  · rintro (h | ⟨rest, rfl, rfl⟩)
    · exact .inr h
    · exact .inl ⟨c :: rest, rfl, rfl⟩

end Text

open Text

namespace Pattern

/-! ### Matches -/

/-- The pattern matches `part`, where `behind` is the last character behind it and `ahead` is what
follows. -/
def Matches : Pattern → Option Char → Text → Text → Prop
  | empty, _, part, _ => part = []
  | one inClass, _, part, _ => ∃ c, inClass c = true ∧ part = [c]
  | many inClass, _, part, _ => part ≠ [] ∧ ∀ c ∈ part, inClass c = true
  | wordEdge, behind, part, ahead => part = [] ∧ Place.isWordEdge ⟨behind, ahead⟩ = true
  | both p q, behind, part, ahead => ∃ first second, part = first ++ second ∧
      p.Matches behind first (second ++ ahead) ∧ q.Matches (endingAfter behind first) second ahead
  | either p q, behind, part, ahead => p.Matches behind part ahead ∨ q.Matches behind part ahead

section Search

variable {goal : Place → Bool}

theorem reachesAfter_iff {inClass : Char → Bool} {t : Text} (behind : Option Char) :
    reachesAfter inClass goal t = true ↔ ∃ part ahead, t = part ++ ahead ∧ part ≠ [] ∧
      (∀ c ∈ part, inClass c = true) ∧ goal ⟨endingAfter behind part, ahead⟩ = true := by
  induction t generalizing behind with
  | nil => simp [reachesAfter]
  | cons c t ih =>
    rw [reachesAfter, Bool.and_eq_true, Bool.or_eq_true, ih (some c)]
    constructor
    · rintro ⟨hc, hgoal | ⟨part, ahead, rfl, -, hpart, hgoal⟩⟩
      · exact ⟨[c], t, rfl, by simp, by simpa using hc, hgoal⟩
      · exact ⟨c :: part, ahead, rfl, by simp, List.forall_mem_cons.2 ⟨hc, hpart⟩,
          by simpa using hgoal⟩
    · rintro ⟨_ | ⟨d, part⟩, ahead, heq, hne, hpart, hgoal⟩
      · exact absurd rfl hne
      · rw [List.cons_append, List.cons.injEq] at heq
        obtain ⟨rfl, rfl⟩ := heq
        rw [List.forall_mem_cons] at hpart
        rw [endingAfter_cons] at hgoal
        refine ⟨hpart.1, ?_⟩
        cases part with
        | nil => exact .inl hgoal
        | cons d part => exact .inr ⟨d :: part, ahead, rfl, by simp, hpart.2, hgoal⟩

variable {behind : Option Char}

/-- A pattern leads from a place to those that its matches at that place end at. -/
theorem reaches_iff {p : Pattern} {t : Text} :
    p.reaches goal ⟨behind, t⟩ = true ↔ ∃ part ahead, t = part ++ ahead ∧
      p.Matches behind part ahead ∧ goal ⟨endingAfter behind part, ahead⟩ = true := by
  induction p generalizing goal behind t with
  | empty => simp [reaches, Matches]
  | one inClass =>
    cases t with
    | nil => simp [reaches, Matches]
    | cons c t =>
      rw [reaches, Bool.and_eq_true]
      constructor
      · rintro ⟨hc, hgoal⟩
        exact ⟨[c], t, rfl, ⟨c, hc, rfl⟩, hgoal⟩
      · rintro ⟨part, ahead, heq, ⟨d, hd, rfl⟩, hgoal⟩
        rw [List.singleton_append, List.cons.injEq] at heq
        obtain ⟨rfl, rfl⟩ := heq
        exact ⟨hd, hgoal⟩
  | many inClass => simp only [reaches, Matches, reachesAfter_iff behind, and_assoc]
  | wordEdge => simp [reaches, Matches, and_assoc]
  | both p q ihp ihq =>
    rw [reaches, ihp]
    constructor
    · rintro ⟨first, _, rfl, hfirst, hrest⟩
      obtain ⟨second, ahead, rfl, hsecond, hgoal⟩ := ihq.1 hrest
      rw [← endingAfter_append] at hgoal
      exact ⟨first ++ second, ahead, (List.append_assoc _ _ _).symm,
        ⟨first, second, rfl, hfirst, hsecond⟩, hgoal⟩
    · rintro ⟨_, ahead, rfl, ⟨first, second, rfl, hfirst, hsecond⟩, hgoal⟩
      rw [endingAfter_append] at hgoal
      exact ⟨first, second ++ ahead, List.append_assoc _ _ _, hfirst,
        ihq.2 ⟨second, ahead, rfl, hsecond, hgoal⟩⟩
  | either p q ihp ihq =>
    rw [reaches, Bool.or_eq_true, ihp, ihq]
    simp only [Matches, or_and_right, and_or_left, exists_or]

theorem foundFrom_iff {p : Pattern} {t : Text} :
    p.foundFrom behind t = true ↔ ∃ front part back, t = front ++ (part ++ back) ∧
      p.Matches (endingAfter behind front) part back := by
  induction t generalizing behind with
  | nil =>
    rw [foundFrom, reaches_iff]
    constructor
    · rintro ⟨part, ahead, heq, hpart, -⟩
      exact ⟨[], part, ahead, heq, hpart⟩
    · rintro ⟨front, part, back, heq, hpart⟩
      obtain ⟨rfl, hrest⟩ := List.append_eq_nil_iff.1 heq.symm
      exact ⟨part, back, hrest.symm, hpart, rfl⟩
  | cons c t ih =>
    rw [foundFrom, Bool.or_eq_true, reaches_iff, ih]
    constructor
    · rintro (⟨part, ahead, heq, hpart, -⟩ | ⟨front, part, back, rfl, hpart⟩)
      · exact ⟨[], part, ahead, heq, hpart⟩
      · exact ⟨c :: front, part, back, rfl, by simpa using hpart⟩
    · rintro ⟨_ | ⟨d, front⟩, part, back, heq, hpart⟩
      · exact .inl ⟨part, back, heq, hpart, rfl⟩
      · rw [List.cons_append, List.cons.injEq] at heq
        obtain ⟨rfl, rfl⟩ := heq
        exact .inr ⟨front, part, back, rfl, by simpa using hpart⟩

/-- A match at a place is found from every place before it. -/
theorem foundFrom_append {p : Pattern} {t : Text}
    (h : ∀ behind, p.reaches (fun _ => true) ⟨behind, t⟩ = true) (behind : Option Char) (s : Text) :
    p.foundFrom behind (s ++ t) = true := by
  obtain ⟨part, ahead, rfl, hpart, -⟩ := reaches_iff.1 (h (endingAfter behind s))
  exact foundFrom_iff.2 ⟨s, part, ahead, rfl, hpart⟩

/-- A pattern is found in a text exactly if it matches some part of it. -/
theorem found_iff {p : Pattern} {t : Text} :
    p.found t = true ↔ ∃ front part back, t = front ++ (part ++ back) ∧
      p.Matches front.getLast? part back := by
  simp only [found, foundFrom_iff, endingAfter, Option.or_none]

end Search

/-! ### Surroundings -/

/-- What matches at a place depends on nothing around it but on whether there are word characters
on both sides. -/
theorem matches_congr {p : Pattern} {behind behind' : Option Char} {part ahead ahead' : Text}
    (hbehind : behind.any isWordChar = behind'.any isWordChar)
    (hahead : ahead.head?.any isWordChar = ahead'.head?.any isWordChar) :
    p.Matches behind part ahead ↔ p.Matches behind' part ahead' := by
  induction p generalizing behind behind' part ahead ahead' with
  | empty | one | many => rfl
  | wordEdge => simp only [Matches, Place.isWordEdge, hbehind, hahead]
  | both p q ihp ihq =>
    refine exists₂_congr fun first second => and_congr_right fun _ => and_congr (ihp hbehind ?_)
      (ihq ?_ hahead)
    · cases second with
      | nil => exact hahead
      | cons c second => rfl
    · cases hlast : first.getLast? <;> simp [endingAfter, hlast, hbehind]
  | either p q ihp ihq => exact or_congr (ihp hbehind hahead) (ihq hbehind hahead)

/-- Texts on both sides of a character that is no word character and that no match runs across are
searched apart. -/
theorem found_append_cons {p : Pattern} {s t : Text} {c : Char} (hc : isWordChar c = false)
    (hcross : ∀ front first second back, s = front ++ first → t = second ++ back →
      ¬p.Matches front.getLast? (first ++ c :: second) back) :
    p.found (s ++ c :: t) = (p.found s || p.found t) := by
  -- The character tells a match as little as the end of the text would in its place.
  have hahead (rest : Text) :
      (rest ++ c :: t).head?.any isWordChar = rest.head?.any isWordChar := by
    cases rest <;> simp [hc]
  have hbehind (rest : Text) :
      (s ++ c :: rest).getLast?.any isWordChar = rest.getLast?.any isWordChar := by
    cases h : rest.getLast? <;> simp [List.getLast?_append, List.getLast?_cons, h, hc]
  rw [Bool.eq_iff_iff, Bool.or_eq_true, found_iff, found_iff, found_iff]
  constructor
  · rintro ⟨front, part, back, heq, hpart⟩
    rcases append_cons_eq_append_iff.1 heq with ⟨first, rfl, hrest⟩ | ⟨rest, rfl, rfl⟩
    · rcases append_cons_eq_append_iff.1 hrest.symm with ⟨rest, rfl, rfl⟩ | ⟨second, rfl, rfl⟩
      · exact .inl ⟨front, part, rest, rfl, (matches_congr rfl (hahead rest)).1 hpart⟩
      · exact absurd hpart (hcross front first second back rfl rfl)
    · exact .inr ⟨rest, part, back, rfl, (matches_congr (hbehind rest) rfl).1 hpart⟩
  · rintro (⟨front, part, back, rfl, hpart⟩ | ⟨front, part, back, rfl, hpart⟩)
    · exact ⟨front, part, back ++ c :: t, by simp, (matches_congr rfl (hahead back)).2 hpart⟩
    · exact ⟨s ++ c :: front, part, back, by simp, (matches_congr (hbehind front) rfl).2 hpart⟩

/-! ### Characters that no match holds -/

/-- The character is in no class of the pattern. -/
def avoids (c : Char) : Pattern → Bool
  | empty | wordEdge => true
  | one inClass | many inClass => !inClass c
  | both p q | either p q => p.avoids c && q.avoids c

theorem not_mem_of_matches {p : Pattern} {c : Char} {behind : Option Char} {part ahead : Text}
    (h : p.avoids c = true) (hpart : p.Matches behind part ahead) : c ∉ part := by
  induction p generalizing behind part ahead with
  | empty =>
    obtain rfl : part = [] := hpart
    simp
  | one inClass =>
    obtain ⟨d, hd, rfl⟩ := hpart
    rintro hmem
    obtain rfl := List.mem_singleton.1 hmem
    simp [avoids, hd] at h
  | many inClass =>
    intro hmem
    simp [avoids, hpart.2 c hmem] at h
  | wordEdge =>
    obtain ⟨rfl, -⟩ := hpart
    simp
  | both p q ihp ihq =>
    obtain ⟨first, second, rfl, hfirst, hsecond⟩ := hpart
    rw [avoids, Bool.and_eq_true] at h
    rw [List.mem_append, not_or]
    exact ⟨ihp h.1 hfirst, ihq h.2 hsecond⟩
  | either p q ihp ihq =>
    rw [avoids, Bool.and_eq_true] at h
    exact hpart.elim (ihp h.1) (ihq h.2)

/-- A character that is in no class of a pattern, and no word character, divides a text. -/
theorem found_append_cons_of_avoids {p : Pattern} {c : Char} (hc : isWordChar c = false)
    (h : p.avoids c = true) (s t : Text) : p.found (s ++ c :: t) = (p.found s || p.found t) :=
  found_append_cons hc fun _ _ _ _ _ _ hpart => not_mem_of_matches h hpart (by simp)

end Pattern

end PostMarkup
