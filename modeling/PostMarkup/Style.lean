import PostMarkup.Text.Casing

/-! The rules of style: phrases that a post must not use, no emoji, and no exclamation marks. -/

namespace PostMarkup

/-- A table of rules. Phrases are looked for in the lowercase form of a text. -/
structure StyleRules where
  phrases : List Text
  hasEmoji : Text → Bool

structure StyleReport where
  phrases : List Text
  hasEmoji : Bool
  exclamations : Nat
  deriving DecidableEq, Repr

def StyleReport.isClean (report : StyleReport) : Bool :=
  report.phrases.isEmpty && !report.hasEmoji && report.exclamations == 0

namespace StyleRules

def phrasesIn (rules : StyleRules) (t : Text) : List Text :=
  let lowered := t.lower
  rules.phrases.filter fun phrase => Text.occursIn phrase lowered

def scan (rules : StyleRules) (t : Text) : StyleReport where
  phrases := rules.phrasesIn t
  hasEmoji := rules.hasEmoji t
  exclamations := t.count '!'

end StyleRules

/-- The phrases that promise more than they say. -/
def bannedPhrases : List String :=
  ["game-changer", "game changer", "game-changing", "revolutionary", "revolutionize",
    "paradigm shift", "disruptive", "synergy", "leverage", "cutting-edge", "cutting edge",
    "groundbreaking", "state-of-the-art", "best-in-class", "world-class", "next-level",
    "unlock the power", "harness the power", "unleash", "supercharge", "delve", "deep dive",
    "mind-blowing", "in today's fast-paced world", "ever-evolving landscape", "seamless",
    "transformative", "move the needle", "think outside the box", "at the end of the day"]

/-- The pictographs, the dingbats and their kin, the flag letters, and the character that asks for
the coloured form of another. -/
def isEmoji (c : Char) : Bool :=
  let n := c.toNat
  (0x1F000 ≤ n && n ≤ 0x1FAFF) || (0x2600 ≤ n && n ≤ 0x27BF) || (0x2B00 ≤ n && n ≤ 0x2BFF) ||
    (0x1F1E6 ≤ n && n ≤ 0x1F1FF) || n == 0xFE0F

def StyleRules.standard : StyleRules where
  phrases := bannedPhrases.map String.toList
  hasEmoji := fun t => t.any isEmoji

/-- Rules that take one text for the only emoji. -/
def StyleRules.ofEmojiText (phrases : List Text) (emoji : Text) : StyleRules where
  phrases := phrases
  hasEmoji := Text.occursIn emoji

end PostMarkup
