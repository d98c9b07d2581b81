import Mathlib.Algebra.GroupWithZero.Nat
import Mathlib.Data.List.TakeWhile
import PostMarkup.Text.Blank

/-! Facts about texts that every reading and printing of posts rests on: where a text leaves a class
of characters, what trimming keeps, and the physical lines of texts put together. -/

namespace PostMarkup.Text

/-! ### Classes of characters -/

section Classes

variable {p : Char → Bool}

/-- No character of the class comes first. -/
def StartsOff (p : Char → Bool) (t : Text) : Prop := ∀ c ∈ t.head?, p c = false

@[simp] theorem startsOff_nil (p : Char → Bool) : StartsOff p [] := by
  simp [StartsOff]

@[simp] theorem startsOff_cons {c : Char} {t : Text} :
    StartsOff p (c :: t) ↔ p c = false := by
  simp [StartsOff]

theorem startsOff_append {q : Char → Bool} {s : Text} (hne : s ≠ [])
    (hs : ∀ c ∈ s, q c = true) (h : ∀ c, q c = true → p c = false) (t : Text) :
    StartsOff p (s ++ t) := by
  obtain ⟨c, s, rfl⟩ := List.exists_cons_of_ne_nil hne
  simpa using h c (hs c List.mem_cons_self)

theorem startsOff_dropWhile (p : Char → Bool) (t : Text) : StartsOff p (t.dropWhile p) := by
  intro c hc
  have h := List.head?_dropWhile_not p t
  rw [Option.mem_def.1 hc] at h
  exact h

theorem takeWhile_append_startsOff {s t : Text} (hs : ∀ c ∈ s, p c = true)
    (ht : StartsOff p t) : (s ++ t).takeWhile p = s := by
  rw [List.takeWhile_append_of_pos hs]
  cases t with
  | nil => simp
  | cons c t => simp [startsOff_cons.1 ht]

theorem dropWhile_append_startsOff {s t : Text} (hs : ∀ c ∈ s, p c = true)
    (ht : StartsOff p t) : (s ++ t).dropWhile p = t := by
  rw [List.dropWhile_append_of_pos hs]
  cases t with
  | nil => simp
  | cons c t => simp [startsOff_cons.1 ht]

/-- A text has one split into a part in the class and a rest that starts off it. -/
theorem append_startsOff_inj {s s' t t' : Text} (hs : ∀ c ∈ s, p c = true)
    (ht : StartsOff p t) (hs' : ∀ c ∈ s', p c = true) (ht' : StartsOff p t')
    (h : s ++ t = s' ++ t') : s = s' ∧ t = t' := by
  refine ⟨?_, ?_⟩
  · rw [← takeWhile_append_startsOff hs ht, h, takeWhile_append_startsOff hs' ht']
  · rw [← dropWhile_append_startsOff hs ht, h, dropWhile_append_startsOff hs' ht']

end Classes

/-- A number can be told from what follows it, if that starts with no digit. -/
theorem repr_append_inj {m n : Nat} {s s' : Text} (hs : StartsOff Char.isDigit s)
    (hs' : StartsOff Char.isDigit s') (h : m.repr.toList ++ s = n.repr.toList ++ s') :
    m = n ∧ s = s' := by
  have hdigits (k : Nat) : ∀ c ∈ k.repr.toList, c.isDigit = true := by
    rw [Nat.toList_repr]
    exact fun c => Nat.isDigit_of_mem_toDigits (by decide) (by decide)
  obtain ⟨hnumber, hrest⟩ := append_startsOff_inj (hdigits m) hs (hdigits n) hs' h
  refine ⟨?_, hrest⟩
  rw [Nat.toList_repr, Nat.toList_repr] at hnumber
  have hread := congrArg (fun digits => Nat.ofDigitChars 10 digits 0) hnumber
  simpa only [Nat.ofDigitChars_toDigits (b := 10) (by decide) (by decide)] using hread

/-! ### Trimming -/

theorem trimStart_eq_self {t : Text} (h : StartsOff isBlank t) : t.trimStart = t := by
  have := dropWhile_append_startsOff (p := isBlank) (s := []) (by simp) h
  simpa [trimStart] using this

theorem trimEnd_eq_self {t : Text} (h : StartsOff isBlank t.reverse) : t.trimEnd = t := by
  have := trimStart_eq_self h
  rw [trimStart] at this
  rw [trimEnd, this, List.reverse_reverse]

/-- A text that is not blank at its ends is its own trimmed form. -/
theorem trim_eq_self {t : Text} (hs : StartsOff isBlank t) (he : StartsOff isBlank t.reverse) :
    t.trim = t := by
  rw [trim, trimStart_eq_self hs, trimEnd_eq_self he]

theorem trimEnd_append_blank {t w : Text} (hw : ∀ c ∈ w, isBlank c = true) :
    trimEnd (t ++ w) = trimEnd t := by
  rw [trimEnd, List.reverse_append, List.dropWhile_append_of_pos (by simpa using hw), trimEnd]

theorem trimEnd_eq_nil_of_blank {w : Text} (hw : ∀ c ∈ w, isBlank c = true) : trimEnd w = [] :=
  trimEnd_append_blank (t := []) hw

/-- Blank characters put after a text do not show in its trimmed form. -/
theorem trim_append_blank {t w : Text} (hw : ∀ c ∈ w, isBlank c = true) :
    trim (t ++ w) = trim t := by
  rw [trim, trim, trimStart, trimStart, List.dropWhile_append]
  split
  next h =>
    rw [List.isEmpty_iff.1 h]
    exact trimEnd_eq_nil_of_blank fun c hc => hw c ((List.dropWhile_sublist _).subset hc)
  next => exact trimEnd_append_blank hw

/-- Blank characters put before a text do not show in its trimmed form. -/
theorem trim_blank_append {w : Text} (hw : ∀ c ∈ w, isBlank c = true) (t : Text) :
    trim (w ++ t) = trim t := by
  rw [trim, trimStart, List.dropWhile_append_of_pos hw, trim, trimStart]

theorem trim_cons_blank {c : Char} (hc : isBlank c = true) (t : Text) : trim (c :: t) = trim t :=
  trim_blank_append (w := [c]) (by simpa using hc) t

/-- The blank characters that a text starts with end where its trimmed form starts. -/
theorem takeWhile_isBlank_append {t : Text} (h : t.trim ≠ []) (u : Text) :
    (t ++ u).takeWhile isBlank = t.takeWhile isBlank := by
  rw [List.takeWhile_append, if_neg]
  intro hlength
  have hblank : ∀ c ∈ t, isBlank c = true :=
    List.takeWhile_eq_self_iff.1 ((List.takeWhile_prefix _).eq_of_length hlength)
  exact h (trim_append_blank (t := []) hblank)

theorem isPrefix_trimEnd (t : Text) : t.trimEnd <+: t := by
  rw [trimEnd, ← List.reverse_suffix, List.reverse_reverse]
  exact List.dropWhile_suffix _

theorem mem_of_mem_trim {t : Text} {c : Char} (h : c ∈ t.trim) : c ∈ t :=
  (List.dropWhile_sublist _).subset ((isPrefix_trimEnd _).subset h)

theorem startsOff_reverse_trim (t : Text) : StartsOff isBlank t.trim.reverse := by
  rw [trim, trimEnd, List.reverse_reverse]
  exact startsOff_dropWhile _ _

theorem startsOff_trim (t : Text) : StartsOff isBlank t.trim := by
  intro c hc
  obtain ⟨w, hw⟩ := isPrefix_trimEnd t.trimStart
  refine startsOff_dropWhile isBlank t c ?_
  rw [show t.dropWhile isBlank = t.trim ++ w from hw.symm, List.head?_append]
  simp [Option.mem_def.1 hc]

/-- A text is its trimmed form between the blank characters around it. -/
theorem exists_append_trim (t : Text) :
    ∃ tail, t = t.takeWhile isBlank ++ (t.trim ++ tail) := by
  obtain ⟨tail, htail⟩ := isPrefix_trimEnd t.trimStart
  refine ⟨tail, ?_⟩
  rw [trim, htail, trimStart, List.takeWhile_append_dropWhile]

@[simp] theorem trim_trim (t : Text) : t.trim.trim = t.trim :=
  trim_eq_self (startsOff_trim t) (startsOff_reverse_trim t)

/-- A text whose last character is not blank is trimmed at its start only. -/
theorem trim_append_singleton {t : Text} {c : Char} (hc : isBlank c = false) :
    trim (t ++ [c]) = trimStart (t ++ [c]) := by
  refine trimEnd_eq_self ?_
  rw [trimStart, List.dropWhile_append]
  split <;> simp [hc]

theorem head?_trim_cons {c : Char} (hc : isBlank c = false) (t : Text) :
    (trim (c :: t)).head? = some c := by
  rw [trim, trimStart_eq_self (startsOff_cons.2 hc), trimEnd, List.reverse_cons,
    List.dropWhile_append]
  split <;> simp [hc]

/-- The first character of the trimmed text is the first one that is not blank. -/
theorem head?_trim (t : Text) : t.trim.head? = t.find? fun c => !isBlank c := by
  induction t with
  | nil => rfl
  | cons c t ih =>
    cases hc : isBlank c with
    | true => rw [trim_cons_blank hc, ih, List.find?_cons_of_neg (by simp [hc])]
    | false => rw [head?_trim_cons hc, List.find?_cons_of_pos (by simp [hc])]

/-! ### Physical lines -/

theorem physicalLines_ne_nil (t : Text) : t.physicalLines ≠ [] := List.splitOn_ne_nil _ _

theorem physicalLines_of_not_mem {t : Text} (h : '\n' ∉ t) : t.physicalLines = [t] :=
  List.splitOn_eq_singleton h

theorem map_physicalLines {lines : List Text} (h : ∀ line ∈ lines, '\n' ∉ line) :
    lines.map physicalLines = lines.map ([·]) :=
  List.map_congr_left fun line hline => physicalLines_of_not_mem (h line hline)

theorem physicalLines_append (s t : Text) :
    physicalLines (s ++ '\n' :: t) = s.physicalLines ++ t.physicalLines :=
  List.splitOn_append_cons_self s t

theorem physicalLines_cons {line : Text} (h : '\n' ∉ line) (t : Text) :
    physicalLines (line ++ '\n' :: t) = line :: t.physicalLines := by
  rw [physicalLines_append, physicalLines_of_not_mem h, List.singleton_append]

/-- The lines of items of which each starts a line of its own after the text in front. -/
theorem physicalLines_append_flatMap {α : Type} {f : α → Text} {items : List α} {front : Text}
    (hfront : '\n' ∉ front) (hf : ∀ a ∈ items, '\n' ∉ f a) :
    physicalLines (front ++ items.flatMap fun a => '\n' :: f a) = front :: items.map f := by
  induction items generalizing front with
  | nil => simpa using physicalLines_of_not_mem hfront
  | cons a items ih =>
    have hrest := ih (hf a List.mem_cons_self) fun b hb => hf b (List.mem_cons_of_mem _ hb)
    rw [List.flatMap_cons, List.cons_append, physicalLines_cons hfront, hrest, List.map_cons]

/-- To show something of every text, show it of a single line, and of a line in front of a text. -/
theorem lines_induction {motive : Text → Prop} (last : ∀ line, '\n' ∉ line → motive line)
    (cons : ∀ line rest, '\n' ∉ line → motive rest → motive (line ++ '\n' :: rest)) (t : Text) :
    motive t := by
  by_cases h : '\n' ∈ t
  · obtain ⟨line, rest, ht, hline⟩ := List.eq_append_cons_of_mem h
    have hlt : rest.length < t.length := by
      rw [ht]
      simp
      omega
    rw [ht]
    exact cons line rest hline (lines_induction last cons rest)
  · exact last t h
termination_by t.length

theorem physicalLines_injective : Function.Injective physicalLines :=
  Function.LeftInverse.injective fun _ => List.intercalate_splitOn '\n'

theorem newline_not_mem_of_mem_physicalLines {t line : Text} (h : line ∈ t.physicalLines) :
    '\n' ∉ line := by
  induction t using lines_induction with
  | last raw hraw =>
    rw [physicalLines_of_not_mem hraw, List.mem_singleton] at h
    rwa [h]
  | cons raw rest hraw ih =>
    rw [physicalLines_cons hraw] at h
    rcases List.mem_cons.1 h with rfl | h
    · exact hraw
    · exact ih h

/-- The lines of texts joined by line breaks, each with blank characters in front, are the lines of
the texts, as far as trimming goes. -/
theorem map_trim_physicalLines_intercalate {w : Text} (hw : ∀ c ∈ w, isBlank c = true)
    (hw' : '\n' ∉ w) {texts : List Text} (hne : texts ≠ []) (htexts : ∀ t ∈ texts, '\n' ∉ t) :
    (physicalLines ((w ++ ['\n']).intercalate texts)).map trim = texts.map trim := by
  induction texts with
  | nil => exact absurd rfl hne
  | cons t rest ih =>
    have ht : '\n' ∉ t := htexts t List.mem_cons_self
    cases rest with
    | nil => simp [physicalLines_of_not_mem ht]
    | cons u rest =>
      have hjoin : (w ++ ['\n']).intercalate (t :: u :: rest) =
          (t ++ w) ++ '\n' :: (w ++ ['\n']).intercalate (u :: rest) := by simp
      rw [hjoin, physicalLines_append, physicalLines_of_not_mem (by simp [ht, hw']),
        List.map_append, ih (by simp) fun t ht => htexts t (List.mem_cons_of_mem _ ht)]
      simp [trim_append_blank hw]

/-- The lines of texts with an empty line between any two. -/
theorem physicalLines_intercalate_blankLine {texts : List Text} (hne : texts ≠ []) :
    physicalLines (['\n', '\n'].intercalate texts) =
      [[]].intercalate (texts.map physicalLines) := by
  induction texts with
  | nil => exact absurd rfl hne
  | cons t rest ih =>
    cases rest with
    | nil => simp
    | cons u rest =>
      have hjoin : ['\n', '\n'].intercalate (t :: u :: rest) =
          t ++ '\n' :: ([] ++ '\n' :: ['\n', '\n'].intercalate (u :: rest)) := by simp
      rw [hjoin, physicalLines_append, physicalLines_append, ih (by simp)]
      simp [physicalLines]

/-! ### Joined texts -/

/-- If `g` puts together what `f` makes of the texts on both sides of a line break, it puts together
what `f` makes of all texts that line breaks join, and `F` is what comes of it. -/
theorem apply_intercalate {α : Type} {f : Text → α} {g : α → α → α} {F : List Text → α}
    (hunit : ∀ a, g a (f []) = a) (hbreak : ∀ s t, f (s ++ '\n' :: t) = g (f s) (f t))
    (hnil : F [] = f []) (hcons : ∀ t rest, F (t :: rest) = g (f t) (F rest)) (texts : List Text) :
    f (['\n'].intercalate texts) = F texts := by
  induction texts with
  | nil => exact hnil.symm
  | cons t rest ih =>
    cases rest with
    | nil => rw [List.intercalate_singleton, hcons, hnil, hunit]
    | cons next rest =>
      rw [List.intercalate_cons_cons, List.append_assoc, List.singleton_append, hbreak, ih, hcons t]

theorem any_intercalate {p : Char → Bool} (h : p '\n' = false) (texts : List Text) :
    (['\n'].intercalate texts).any p = texts.any fun t => t.any p := by
  apply apply_intercalate (f := fun t => t.any p) (g := or) <;> simp [h]

theorem count_intercalate {c : Char} (h : c ≠ '\n') (texts : List Text) :
    (['\n'].intercalate texts).count c = (texts.map (List.count c)).sum := by
  apply apply_intercalate (f := List.count c) (g := Nat.add) <;> simp [h.symm]

end PostMarkup.Text
