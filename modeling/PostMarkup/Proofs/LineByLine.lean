import PostMarkup.Proofs.ContentLines
import PostMarkup.Proofs.Pattern
import PostMarkup.Proofs.Style
import PostMarkup.Proofs.Topics

/-! The analysis reads line by line, also where it is given the text as a whole: nothing that it
looks for reaches across a line break, or begins or ends with a blank character. So it depends on
the lines with content alone, and the analysis of two texts one below the other is put together of
the analyses of both. -/

namespace PostMarkup

open Text

/-! ### What the analysis looks for -/

namespace Text

/-- Blank characters have one case, are no emoji, and have no part in the names of sources. -/
theorem blanks_shape : ∀ c ∈ blanks,
    lowerChar c = [c] ∧ isEmoji c = false ∧ Signal.source.avoids c = true := by
  decide +kernel

theorem lineWise_occursIn_lower {phrase : Text} (hascii : phrase.IsAscii)
    (h : phrase.IsLinePart) : LineWise (fun t => occursIn phrase t.lower) or := by
  have hlower (t : Text) : occursIn phrase t.lower = occursIn phrase (t.flatMap lowerChar) := by
    rw [Bool.eq_iff_iff, occursIn_iff, occursIn_iff, infix_lower_iff hascii]
  simp only [hlower]
  exact (lineWise_occursIn h).comp_flatMap fun c hc => (blanks_shape c (mem_blanks hc)).1

theorem lineWise_found_source : LineWise Signal.source.found or := by
  have hdivide {c : Char} (hc : isBlank c = true) (s t : Text) :
      Signal.source.found (s ++ c :: t) = (Signal.source.found s || Signal.source.found t) := by
    obtain ⟨-, -, havoids⟩ := blanks_shape c (mem_blanks hc)
    exact Pattern.found_append_cons_of_avoids (isWordChar_of_isBlank hc) havoids s t
  have hnil : Signal.source.found [] = false := by decide
  refine ⟨⟨fun hc t => ?_, fun hc t => ?_⟩, hdivide (by decide)⟩
  · rw [← List.nil_append (_ :: t), hdivide hc, hnil, Bool.false_or]
  · rw [hdivide hc, hnil, Bool.or_false]

end Text

namespace StyleRules

theorem bannedPhrases_ends : ∀ phrase ∈ bannedPhrases,
    phrase.toList.head?.any isBlank = false ∧ phrase.toList.reverse.head?.any isBlank = false := by
  decide +kernel

theorem lineWise_phrase {phrase : Text} (h : phrase ∈ standard.phrases) :
    LineWise (fun t => occursIn phrase t.lower) or := by
  obtain ⟨word, hword, rfl⟩ := List.mem_map.1 h
  obtain ⟨hne, hascii, hsplit, -⟩ := bannedPhrases_shape word hword
  obtain ⟨hstart, hend⟩ := bannedPhrases_ends word hword
  rw [Option.any_eq_false] at hstart hend
  exact lineWise_occursIn_lower hascii ⟨hne, hstart, hend, hsplit '\n' List.mem_cons_self⟩

theorem lineWise_hasEmoji : LineWise standard.hasEmoji or :=
  lineWise_any fun c hc => (blanks_shape c (mem_blanks hc)).2.1

/-- The standard rules find the same in texts with the same lines. -/
theorem scan_congr {s t : Text} (h : s.contentLines = t.contentLines) :
    standard.scan s = standard.scan t := by
  have hphrases : standard.phrasesIn s = standard.phrasesIn t :=
    List.filter_congr fun phrase hmem => (lineWise_phrase hmem).congr h
  have hemoji : standard.hasEmoji s = standard.hasEmoji t := lineWise_hasEmoji.congr h
  have hmarks : s.count '!' = t.count '!' := (lineWise_count (by decide)).congr h
  rw [scan, scan, hphrases, hemoji, hmarks]

end StyleRules

/-! ### Layout -/

/-- Text with blank characters around it, among which may be line breaks. -/
structure Padded where
  front : Text
  text : Text
  back : Text
  blank_front : ∀ c ∈ front, isBlank c = true
  blank_back : ∀ c ∈ back, isBlank c = true

namespace Padded

def whole (padded : Padded) : Text := padded.front ++ padded.text ++ padded.back

theorem contentLines_whole (padded : Padded) :
    padded.whole.contentLines = padded.text.contentLines := by
  rw [whole, lineWise_contentLines.append_blanks padded.blank_back,
    lineWise_contentLines.blank_append padded.blank_front]

/-- Indentation, blanks at the ends of lines, empty lines and carriage returns make no difference
to the lines with content. -/
theorem contentLines_intercalate_whole (lines : List Padded) :
    contentLines (['\n'].intercalate (lines.map whole)) =
      contentLines (['\n'].intercalate (lines.map text)) := by
  rw [contentLines_intercalate, contentLines_intercalate, List.flatMap_map, List.flatMap_map]
  simp only [contentLines_whole]

end Padded

theorem analyze_congr {thresholds : Thresholds} {s t : Text}
    (hlines : s.contentLines = t.contentLines) (hs : s.length ≤ thresholds.maxTextLength)
    (ht : t.length ≤ thresholds.maxTextLength) :
    analyze thresholds .standard s = analyze thresholds .standard t := by
  have hscan := StyleRules.scan_congr hlines
  have hsource : Signal.source.found s = Signal.source.found t :=
    lineWise_found_source.congr hlines
  have houtline : Analysis.outlineOf thresholds s = Analysis.outlineOf thresholds t := by
    simp only [Analysis.outlineOf, hlines, hsource]
  simp only [analyze, houtline, hlines, hscan, if_neg (Nat.not_lt.2 hs), if_neg (Nat.not_lt.2 ht)]

/-- The analysis of a text that is not too long depends on its lines with content and nothing else.
So it makes no difference how lines are indented, what blanks and carriage returns they end in, and
what empty lines stand between them. -/
theorem analyze_layout (thresholds : Thresholds) :
    (∀ s t : Text, s.contentLines = t.contentLines → s.length ≤ thresholds.maxTextLength →
        t.length ≤ thresholds.maxTextLength →
        analyze thresholds .standard s = analyze thresholds .standard t) ∧
      ∀ lines : List Padded,
        let padded := ['\n'].intercalate (lines.map Padded.whole)
        let plain := ['\n'].intercalate (lines.map Padded.text)
        padded.length ≤ thresholds.maxTextLength → plain.length ≤ thresholds.maxTextLength →
          analyze thresholds .standard padded = analyze thresholds .standard plain :=
  ⟨fun _ _ => analyze_congr,
    fun lines => analyze_congr (Padded.contentLines_intercalate_whole lines)⟩

/-- A text with blanks, empty lines and carriage returns in it. -/
def airy : Text := "\u00A0Up 3x.  \r\n\r\n\tSource: b".toList

/-- The same text without them. -/
def compact : Text := "Up 3x.\nSource: b".toList

/-- The lines of the text with what stands around them. -/
def airyLines : List Padded :=
  [{ front := "\u00A0".toList, text := "Up 3x.".toList, back := "  \r\n\r".toList,
     blank_front := by decide, blank_back := by decide },
    { front := "\t".toList, text := "Source: b".toList, back := [],
      blank_front := by decide, blank_back := by decide }]

theorem analyze_layout_airy :
    airy.contentLines = compact.contentLines ∧ airy.length ≤ 23 ∧ compact.length ≤ 23 ∧
      analyze { maxTextLength := 23 } .standard airy =
        analyze { maxTextLength := 23 } .standard compact ∧
      ['\n'].intercalate (airyLines.map Padded.whole) = airy ∧
      ['\n'].intercalate (airyLines.map Padded.text) = compact ∧
      analyze { maxTextLength := 23 } .standard (['\n'].intercalate (airyLines.map Padded.whole)) =
        analyze { maxTextLength := 23 } .standard
          (['\n'].intercalate (airyLines.map Padded.text)) := by
  have hlines : airy.contentLines = compact.contentLines := by decide +kernel
  obtain ⟨hsame, hpadded⟩ := analyze_layout { maxTextLength := 23 }
  exact ⟨hlines, by decide, by decide, hsame airy compact hlines (by decide) (by decide), rfl, rfl,
    hpadded airyLines (by decide) (by decide)⟩

/-! ### Texts one below the other -/

/-- The analysis of two texts one below the other. Signals of evidence and exclamation marks add up;
a source, an emoji and each phrase of the table are found where they are found in either; and the
title is that of the first text that has a line with content. -/
theorem analyze_append (thresholds : Thresholds) (s t : Text) :
    let first := analyze thresholds .standard s
    let second := analyze thresholds .standard t
    let whole := analyze thresholds .standard (s ++ '\n' :: t)
    whole.outline.evidence = first.outline.evidence + second.outline.evidence ∧
      (whole.outline.source = true ↔
        first.outline.source = true ∨ second.outline.source = true) ∧
      whole.bannedPhrases = StyleRules.standard.phrases.filter
        (fun phrase => phrase ∈ first.bannedPhrases ∨ phrase ∈ second.bannedPhrases) ∧
      (.emoji ∈ whole.findings ↔ .emoji ∈ first.findings ∨ .emoji ∈ second.findings) ∧
      whole.exclamations = first.exclamations + second.exclamations ∧
      whole.about .title =
        if s.contentLines = [] then second.about .title else first.about .title := by
  intro first second whole
  have hlines : contentLines (s ++ '\n' :: t) = s.contentLines ++ t.contentLines :=
    contentLines_append s t
  refine ⟨?_, ?_, ?_, ?_, ?_, ?_⟩
  · rw [Analysis.evidence_analyze, Analysis.evidence_analyze, Analysis.evidence_analyze, hlines]
    exact Analysis.countSignals_append _ _
  · rw [← Bool.or_eq_true, ← Bool.eq_iff_iff]
    exact lineWise_found_source.append s t
  · simp only [whole, first, second, Analysis.bannedPhrases_analyze]
    refine List.filter_congr fun phrase hmem => ?_
    rw [(StyleRules.lineWise_phrase hmem).append]
    simp [StyleRules.phrasesIn, hmem]
  · simp only [whole, first, second, Analysis.emoji_mem_findings_iff,
      StyleRules.lineWise_hasEmoji.append, Bool.or_eq_true]
  · simp only [whole, first, second, Analysis.exclamations_analyze]
    exact (lineWise_count (by decide)).append s t
  · simp only [whole, first, second, Analysis.about_title_analyze, hlines]
    cases s.contentLines <;> rfl

end PostMarkup
