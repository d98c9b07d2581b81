import PostMarkup.Proofs.LineByLine

/-! Numbers that say how many times as much something is, with `x` or `×` for a sign. After either
sign the pattern asks for the edge of a word. An `x` is a letter, so there is one where the word
ends; a `×` is none, so there is one where a word begins. At the end of a word a `×` is no sign of
evidence, and divides the line into two that are judged apart. -/

namespace PostMarkup.Signal

open Text Pattern

/-! ### Digits -/

variable {c : Char} {behind : Option Char} {part ahead : Text}

/-- The digits of every script are word characters. -/
theorem decimalZeros_shape : decimalZeros.all (fun first =>
    wordRanges.any fun range => Nat.ble range.1 first && Nat.ble (first + 9) range.2) = true := by
  decide +kernel

theorem isWordChar_of_isDecimalDigit (h : isDecimalDigit c = true) : isWordChar c = true := by
  rw [isDecimalDigit] at h
  rw [isWordChar]
  split at h
  next hascii => simp [hascii, Char.isAlphanum, h]
  next hascii =>
    obtain ⟨first, hfirst, hdigit⟩ := List.any_eq_true.1 h
    obtain ⟨range, hrange, hdigits⟩ :=
      List.any_eq_true.1 (List.all_eq_true.1 decimalZeros_shape first hfirst)
    simp only [Bool.and_eq_true, decide_eq_true_iff, Nat.ble_eq] at hdigit hdigits
    rw [if_neg hascii, List.any_eq_true]
    refine ⟨range, hrange, ?_⟩
    simp only [Bool.and_eq_true, decide_eq_true_iff]
    omega

/-- The sign of multiplication is no letter. -/
theorem isWordChar_times : isWordChar '×' = false := by decide +kernel

theorem isBlank_of_isDecimalDigit (h : isDecimalDigit c = true) : isBlank c = false := by
  cases hblank : isBlank c with
  | false => rfl
  | true =>
    rw [← isWordChar_of_isDecimalDigit h, isWordChar_of_isBlank hblank]

def IsDigits (t : Text) : Prop := t ≠ [] ∧ ∀ c ∈ t, isDecimalDigit c = true

theorem IsDigits.exists_cons (h : IsDigits part) :
    ∃ digit rest, part = digit :: rest ∧ isDecimalDigit digit = true := by
  obtain ⟨digit, rest, rfl⟩ := List.exists_cons_of_ne_nil h.1
  exact ⟨digit, rest, rfl, h.2 digit List.mem_cons_self⟩

/-- The point and the digits after it, if there are any. -/
def pointed (fraction : Option Text) : Text := (fraction.map ('.' :: ·)).getD []

/-! ### What measurements look like -/

theorem matches_number_iff : number.Matches behind part ahead ↔
    ∃ (whole : Text) (fraction : Option Text), part = whole ++ pointed fraction ∧
      IsDigits whole ∧ ∀ digits ∈ fraction, IsDigits digits := by
  constructor
  · rintro ⟨whole, _, rfl, hwhole, ⟨_, digits, rfl, ⟨c, hc, rfl⟩, hdigits⟩ | rfl⟩
    · obtain rfl := beq_iff_eq.1 hc
      refine ⟨whole, some digits, rfl, hwhole, ?_⟩
      rintro _ ⟨⟩
      exact hdigits
    · exact ⟨whole, none, rfl, hwhole, by simp⟩
  · rintro ⟨whole, _ | digits, rfl, hwhole, hfraction⟩
    · exact ⟨whole, [], rfl, hwhole, .inr rfl⟩
    · exact ⟨whole, '.' :: digits, rfl, hwhole,
        .inl ⟨['.'], digits, rfl, ⟨'.', rfl, rfl⟩, hfraction digits rfl⟩⟩

theorem matches_gap_iff : (optional (one isBlank)).Matches behind part ahead ↔
    ∃ gap : Option Char, part = gap.toList ∧ ∀ c ∈ gap, isBlank c = true := by
  constructor
  · rintro (⟨c, hc, rfl⟩ | rfl)
    · exact ⟨some c, rfl, by simpa using hc⟩
    · exact ⟨none, rfl, by simp⟩
  · rintro ⟨_ | c, rfl, hc⟩
    · exact .inr rfl
    · exact .inl ⟨c, hc c rfl, rfl⟩

theorem matches_percentage_iff : percentage.Matches behind part ahead ↔
    ∃ (whole : Text) (fraction : Option Text) (gap : Option Char),
      part = whole ++ (pointed fraction ++ (gap.toList ++ ['%'])) ∧ IsDigits whole ∧
      (∀ digits ∈ fraction, IsDigits digits) ∧ ∀ c ∈ gap, isBlank c = true := by
  simp only [percentage, Pattern.sequence, Matches, matches_gap_iff, matches_number_iff]
  constructor
  · rintro ⟨_, _, rfl, ⟨whole, fraction, rfl, hwhole, hfraction⟩, _, _, rfl, ⟨gap, rfl, hgap⟩,
      _, _, rfl, ⟨sign, hsign, rfl⟩, rfl⟩
    obtain rfl := beq_iff_eq.1 hsign
    exact ⟨whole, fraction, gap, by simp, hwhole, hfraction, hgap⟩
  · rintro ⟨whole, fraction, gap, rfl, hwhole, hfraction, hgap⟩
    exact ⟨whole ++ pointed fraction, _, by simp, ⟨whole, fraction, rfl, hwhole, hfraction⟩,
      gap.toList, _, rfl, ⟨gap, rfl, hgap⟩, ['%'], [], rfl, ⟨'%', rfl, rfl⟩, rfl⟩

theorem matches_decimal_iff : decimal.Matches behind part ahead ↔
    ∃ whole fraction, part = whole ++ '.' :: fraction ∧ IsDigits whole ∧ IsDigits fraction := by
  simp only [decimal, Pattern.sequence, Matches]
  constructor
  · rintro ⟨whole, _, rfl, hwhole, _, _, rfl, ⟨point, hpoint, rfl⟩,
      fraction, _, rfl, hfraction, rfl⟩
    obtain rfl := beq_iff_eq.1 hpoint
    exact ⟨whole, fraction, by simp, hwhole, hfraction⟩
  · rintro ⟨whole, fraction, rfl, hwhole, hfraction⟩
    exact ⟨whole, _, rfl, hwhole, ['.'], fraction, rfl, ⟨'.', rfl, rfl⟩, fraction, [], by simp,
      hfraction, rfl⟩

theorem matches_multiplier_iff : multiplier.Matches behind part ahead ↔
    ∃ (whole : Text) (fraction : Option Text) (gap : Option Char) (sign : Char),
      part = whole ++ (pointed fraction ++ (gap.toList ++ [sign])) ∧
      Place.isWordEdge ⟨behind, part ++ ahead⟩ = true ∧ IsDigits whole ∧
      (∀ digits ∈ fraction, IsDigits digits) ∧ (∀ c ∈ gap, isBlank c = true) ∧
      (sign = 'x' ∨ sign = '×') ∧ Place.isWordEdge ⟨some sign, ahead⟩ = true := by
  simp only [multiplier, Pattern.sequence, Matches, matches_gap_iff, matches_number_iff]
  constructor
  · rintro ⟨_, _, rfl, ⟨rfl, hfront⟩, _, _, rfl, ⟨whole, fraction, rfl, hwhole, hfraction⟩,
      _, _, rfl, ⟨gap, rfl, hgap⟩, _, _, rfl, ⟨sign, hsign, rfl⟩, _, _, rfl, ⟨rfl, hback⟩, rfl⟩
    refine ⟨whole, fraction, gap, sign, by simp, hfront, hwhole, hfraction, hgap, ?_, hback⟩
    simpa using hsign
  · rintro ⟨whole, fraction, gap, sign, rfl, hfront, hwhole, hfraction, hgap, hsign, hback⟩
    refine ⟨[], _, rfl, ⟨rfl, hfront⟩, whole ++ pointed fraction, _, by simp,
      ⟨whole, fraction, rfl, hwhole, hfraction⟩, gap.toList, _, rfl, ⟨gap, rfl, hgap⟩, [sign], [],
      rfl, ⟨sign, by simpa using hsign, rfl⟩, [], [], rfl, ⟨rfl, hback⟩, rfl⟩

/-- A measurement begins with a digit and does not end in a blank character. -/
theorem ends_of_matches_metric (h : metric.Matches behind part ahead) :
    (∃ digit rest, part = digit :: rest ∧ isDecimalDigit digit = true) ∧
      ∃ front last, part = front ++ [last] ∧ isBlank last = false := by
  rcases h with h | h | h
  · obtain ⟨whole, fraction, gap, rfl, hwhole, -, -⟩ := matches_percentage_iff.1 h
    obtain ⟨digit, rest, rfl, hdigit⟩ := hwhole.exists_cons
    exact ⟨⟨digit, _, rfl, hdigit⟩, digit :: rest ++ (pointed fraction ++ gap.toList), '%',
      by simp, by decide⟩
  · obtain ⟨whole, fraction, gap, sign, rfl, -, hwhole, -, -, hsign, -⟩ :=
      matches_multiplier_iff.1 h
    obtain ⟨digit, rest, rfl, hdigit⟩ := hwhole.exists_cons
    refine ⟨⟨digit, _, rfl, hdigit⟩, digit :: rest ++ (pointed fraction ++ gap.toList), sign,
      by simp, ?_⟩
    rcases hsign with rfl | rfl <;> decide
  · obtain ⟨whole, fraction, rfl, hwhole, hne, hfraction⟩ := matches_decimal_iff.1 h
    obtain ⟨digit, rest, rfl, hdigit⟩ := hwhole.exists_cons
    exact ⟨⟨digit, _, rfl, hdigit⟩, digit :: rest ++ '.' :: fraction.dropLast,
      fraction.getLast hne, by simp [List.dropLast_append_getLast],
      isBlank_of_isDecimalDigit (hfraction _ (List.getLast_mem hne))⟩

/-- In a measurement a `×` stands last, and a word begins after it. -/
theorem eq_nil_of_matches_metric {first second : Text}
    (h : metric.Matches behind (first ++ '×' :: second) ahead) :
    second = [] ∧ ahead.head?.any isWordChar = true := by
  rcases h with h | h | h
  · exact absurd (by simp) (not_mem_of_matches (c := '×') (by decide) h)
  · obtain ⟨whole, fraction, gap, sign, heq, -, hwhole, hfraction, hgap, -, hedge⟩ :=
      matches_multiplier_iff.1 h
    have hnumber : number.Matches none (whole ++ pointed fraction) [] :=
      matches_number_iff.2 ⟨whole, fraction, rfl, hwhole, hfraction⟩
    have hbefore : '×' ∉ whole ++ pointed fraction ++ gap.toList := by
      rw [List.mem_append, not_or, Option.mem_toList]
      exact ⟨not_mem_of_matches (by decide) hnumber, fun hmem => by cases hgap _ hmem⟩
    have hsplit : first ++ '×' :: second = whole ++ pointed fraction ++ gap.toList ++ [sign] := by
      simp [heq]
    rcases append_cons_eq_append_iff.1 hsplit with ⟨rest, -, hlast⟩ | ⟨rest, hmem, -⟩
    · rcases List.append_eq_singleton_iff.1 hlast.symm with ⟨-, hlast⟩ | ⟨-, hlast⟩
      · obtain ⟨rfl, hsecond⟩ := List.cons.inj hlast
        exact ⟨hsecond, by simpa [Place.isWordEdge, isWordChar_times] using hedge⟩
      · cases hlast
    · exact absurd (by simp [hmem]) hbefore
  · exact absurd (by simp) (not_mem_of_matches (c := '×') (by decide) h)

/-! ### Where measurements are found -/

/-- A `×` at the end of a word divides a line into two that are searched apart. -/
theorem found_metric_times {s t : Text} (h : t.head?.any isWordChar = false) :
    metric.found (s ++ '×' :: t) = (metric.found s || metric.found t) := by
  refine found_append_cons isWordChar_times fun front first second back _ ht hpart => ?_
  obtain ⟨rfl, hedge⟩ := eq_nil_of_matches_metric hpart
  rw [List.nil_append] at ht
  rw [← ht, h] at hedge
  cases hedge

theorem ignoresEnds_found_metric : IgnoresEnds metric.found where
  blank_cons {c} hc t := by
    rw [← List.nil_append (c :: t), found_append_cons (isWordChar_of_isBlank hc)]
    · rfl
    · intro front first second back hs _ hpart
      obtain ⟨-, rfl⟩ := List.append_eq_nil_iff.1 hs.symm
      obtain ⟨⟨digit, rest, heq, hdigit⟩, -⟩ := ends_of_matches_metric hpart
      rw [List.nil_append, List.cons.injEq] at heq
      rw [heq.1, isBlank_of_isDecimalDigit hdigit] at hc
      cases hc
  append_blank {c} hc t := by
    rw [found_append_cons (isWordChar_of_isBlank hc)]
    · exact Bool.or_false _
    · intro front first second back _ ht hpart
      obtain ⟨rfl, -⟩ := List.append_eq_nil_iff.1 ht.symm
      obtain ⟨-, start, last, heq, hlast⟩ := ends_of_matches_metric hpart
      rw [(List.append_inj' heq rfl).2 |> List.singleton_inj.1, hlast] at hc
      cases hc

theorem startsBullet_trim_append {s : Text} (h : ∃ c ∈ s, isBlank c = false) (t : Text) :
    startsBullet (trim (s ++ t)) = startsBullet s.trim := by
  have hsome : (s.find? fun c => !isBlank c).isSome = true := by simpa using h
  rw [startsBullet_eq, startsBullet_eq, head?_trim, head?_trim, List.find?_append,
    Option.or_of_isSome hsome]

/-- A line has the signals of its trimmed form, so a blank one has none. -/
theorem countSignals_contentLines {line : Text} (h : '\n' ∉ line) :
    Analysis.countSignals line.contentLines = evidence line.trim := by
  rw [contentLines_of_not_mem h]
  split
  next hblank =>
    rw [hblank]
    rfl
  next => rfl

/-! ### Multiples -/

/-- A line with a multiple in it: a number that begins a word and, after no more than one blank
character, the place of a sign that ends one. -/
structure Multiple where
  front : Text
  whole : Text
  fraction : Option Text
  gap : Option Char
  back : Text
  front_edge : front.getLast?.any isWordChar = false
  digits_whole : IsDigits whole
  digits_fraction : ∀ digits ∈ fraction, IsDigits digits
  blank_gap : ∀ c ∈ gap, isBlank c = true
  back_edge : back.head?.any isWordChar = false
  newline_not_mem : '\n' ∉ front ++ gap.toList ++ back

namespace Multiple

def before (m : Multiple) : Text := m.front ++ m.whole ++ pointed m.fraction ++ m.gap.toList

def line (m : Multiple) (sign : Char) : Text := m.before ++ sign :: m.back

/-- The analysis, which trims lines, finds a measurement in the line. -/
def isMeasured (m : Multiple) (sign : Char) : Bool := metric.found (m.line sign).trim

/-- The line between others. -/
def text (m : Multiple) (above : List Text) (sign : Char) (below : List Text) : Text :=
  ['\n'].intercalate (above ++ m.line sign :: below)

variable (m : Multiple)

theorem newline_not_mem_line {sign : Char} (h : sign ≠ '\n') : '\n' ∉ m.line sign := by
  have hnumber : number.Matches none (m.whole ++ pointed m.fraction) [] :=
    matches_number_iff.2 ⟨m.whole, m.fraction, rfl, m.digits_whole, m.digits_fraction⟩
  have hdigits : '\n' ∉ m.whole ++ pointed m.fraction := not_mem_of_matches (by decide) hnumber
  have hrest := m.newline_not_mem
  simp only [List.mem_append, not_or] at hdigits hrest
  simp [line, before, hdigits, hrest, h.symm]

/-- With `x` for a sign the line holds a measurement. -/
theorem isMeasured_x : m.isMeasured 'x' = true := by
  obtain ⟨digit, rest, hwhole, hdigit⟩ := m.digits_whole.exists_cons
  have hx : isWordChar 'x' = true := by decide
  rw [isMeasured, ignoresEnds_found_metric.trim]
  refine found_iff.2 ⟨m.front, m.whole ++ (pointed m.fraction ++ (m.gap.toList ++ ['x'])), m.back,
    by simp [line, before], .inr (.inl (matches_multiplier_iff.2 ⟨m.whole, m.fraction, m.gap, 'x',
      rfl, ?_, m.digits_whole, m.digits_fraction, m.blank_gap, .inl rfl, ?_⟩))⟩
  · simp [Place.isWordEdge, m.front_edge, hwhole, isWordChar_of_isDecimalDigit hdigit]
  · simp [Place.isWordEdge, m.back_edge, hx]

/-- With `×` for a sign it holds one only if there is one before or after the sign. -/
theorem isMeasured_times :
    m.isMeasured '×' = (metric.found m.before || metric.found m.back) := by
  rw [isMeasured, ignoresEnds_found_metric.trim]
  exact found_metric_times m.back_edge

/-- A decimal is a measurement on its own. -/
theorem found_before (h : m.fraction.isSome = true) : metric.found m.before = true := by
  obtain ⟨digits, hfraction⟩ := Option.isSome_iff_exists.1 h
  have hdecimal : decimal.Matches m.front.getLast? (m.whole ++ '.' :: digits) m.gap.toList :=
    matches_decimal_iff.2 ⟨m.whole, digits, rfl, m.digits_whole, m.digits_fraction digits hfraction⟩
  exact found_iff.2 ⟨m.front, m.whole ++ '.' :: digits, m.gap.toList,
    by simp [before, pointed, hfraction], .inr (.inr hdecimal)⟩

theorem evidence_trim_line (sign : Char) :
    evidence (m.line sign).trim = (if m.isMeasured sign then 1 else 0) +
      (if startsBullet m.before.trim then 1 else 0) := by
  obtain ⟨digit, rest, hwhole, hdigit⟩ := m.digits_whole.exists_cons
  have hsolid : ∃ c ∈ m.before, isBlank c = false :=
    ⟨digit, by simp [before, hwhole], isBlank_of_isDecimalDigit hdigit⟩
  rw [evidence, isMeasured, line, startsBullet_trim_append hsolid]

/-- Besides the line, the evidence in a text is what the lines around it hold. -/
theorem countSignals_text (above below : List Text) {sign : Char} (h : sign ≠ '\n') :
    Analysis.countSignals (m.text above sign below).contentLines =
      Analysis.countSignals (above.flatMap contentLines) + evidence (m.line sign).trim +
        Analysis.countSignals (below.flatMap contentLines) := by
  rw [text, contentLines_intercalate, List.flatMap_append, List.flatMap_cons,
    Analysis.countSignals_append, Analysis.countSignals_append,
    countSignals_contentLines (m.newline_not_mem_line h), Nat.add_assoc]

end Multiple

/-- A number with `x` is evidence wherever both begin and end words. With `×` in its place it is so
if it is a decimal, or if there is a measurement before or after the sign; otherwise the line, and
with it the text, is one signal short. -/
theorem evidence_multiple (m : Multiple) :
    m.isMeasured 'x' = true ∧
      (m.fraction.isSome = true → m.isMeasured '×' = true) ∧
      (m.isMeasured '×' = true ↔ metric.found m.before = true ∨ metric.found m.back = true) ∧
      ∀ (thresholds : Thresholds) (rules : StyleRules) (above below : List Text),
        (analyze thresholds rules (m.text above 'x' below)).outline.evidence =
          (analyze thresholds rules (m.text above '×' below)).outline.evidence +
            if m.isMeasured '×' then 0 else 1 := by
  refine ⟨m.isMeasured_x, fun h => ?_, ?_, fun thresholds rules above below => ?_⟩
  · rw [m.isMeasured_times, m.found_before h, Bool.true_or]
  · rw [m.isMeasured_times, Bool.or_eq_true]
  · have hsignal :
        (if m.isMeasured '×' then 1 else 0) + (if m.isMeasured '×' then 0 else 1) = 1 := by
      split <;> rfl
    rw [Analysis.evidence_analyze, Analysis.evidence_analyze,
      m.countSignals_text above below (by decide), m.countSignals_text above below (by decide),
      m.evidence_trim_line, m.evidence_trim_line, m.isMeasured_x, if_pos rfl]
    omega

/-- "up 2.5 x since May", with the place of the sign between "2.5 " and " since". -/
def upSinceMay : Multiple where
  front := "up ".toList
  whole := ['2']
  fraction := some ['5']
  gap := some ' '
  back := " since May".toList
  front_edge := by decide
  digits_whole := ⟨by decide, by decide⟩
  digits_fraction := by
    rintro _ ⟨⟩
    exact ⟨by decide, by decide⟩
  blank_gap := by
    rintro _ ⟨⟩
    rfl
  back_edge := by decide
  newline_not_mem := by decide

theorem evidence_multiple_upSinceMay :
    upSinceMay.line '×' = "up 2.5 × since May".toList ∧ upSinceMay.fraction.isSome = true ∧
      upSinceMay.isMeasured 'x' = true ∧ upSinceMay.isMeasured '×' = true ∧
      (analyze {} .standard (upSinceMay.text [] 'x' [])).outline.evidence =
        (analyze {} .standard (upSinceMay.text [] '×' [])).outline.evidence := by
  obtain ⟨hx, hdecimal, -, hevidence⟩ := evidence_multiple upSinceMay
  have htimes : upSinceMay.isMeasured '×' = true := hdecimal rfl
  have hsame := hevidence {} .standard [] []
  rw [if_pos htimes, Nat.add_zero] at hsame
  exact ⟨rfl, rfl, hx, htimes, hsame⟩

/-- A number that is all of its line. -/
def threefold : Multiple where
  front := []
  whole := ['3']
  fraction := none
  gap := none
  back := []
  front_edge := rfl
  digits_whole := ⟨by decide, by decide⟩
  digits_fraction := by simp
  blank_gap := by simp
  back_edge := rfl
  newline_not_mem := by decide

theorem evidence_threefold :
    threefold.text [] '×' [] = "3×".toList ∧ threefold.isMeasured '×' = false ∧
      (analyze {} .standard (threefold.text [] 'x' [])).outline.evidence = 1 ∧
      (analyze {} .standard (threefold.text [] '×' [])).outline.evidence = 0 := by
  decide +kernel

end PostMarkup.Signal
