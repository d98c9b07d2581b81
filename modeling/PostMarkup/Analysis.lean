import PostMarkup.Analysis.Signal
import PostMarkup.Log
import PostMarkup.Style

/-! The analysis of finished text: what it has, what it lacks, and a score from nought to a
hundred. -/

namespace PostMarkup

structure Thresholds where
  maxTitleLength : Nat := 100
  minClaimLines : Nat := 2
  minInsightLines : Nat := 3
  minEvidenceSignals : Nat := 2
  maxTextLength : Nat := 1300
  deriving DecidableEq, Repr, Inhabited

/-- One thing that the analysis has to say against a text. -/
inductive Finding where
  | missingTitle
  | longTitle (length limit : Nat)
  | noEvidence
  | thinEvidence
  | noSource
  | tooShort
  | noInsight
  | bannedPhrase (phrase : Text)
  | emoji
  | exclamations (count : Nat)
  | questionTitle
  | longText (length limit : Nat)
  deriving DecidableEq, Repr

/-- The largest penalty that is told apart from larger ones. -/
def maxPenalty : Nat := UInt32.size - 1

namespace Finding

/-- The finding makes the text invalid, and is no mere warning. -/
def isIssue : Finding → Bool
  | thinEvidence | noInsight | longText .. => false
  | _ => true

def penalty : Finding → Nat
  | missingTitle => 15
  | longTitle .. => 10
  | noEvidence => 20
  | thinEvidence => 5
  | noSource => 15
  | tooShort => 10
  | noInsight => 5
  | bannedPhrase _ => 10
  | emoji => 10
  | exclamations count => min maxPenalty (5 * min maxPenalty count)
  | questionTitle => 10
  | longText .. => 5

def message : Finding → String
  | missingTitle => "Missing title"
  | longTitle length limit => s!"Title too long ({length}/{limit} characters)"
  | noEvidence => "No evidence found"
  | thinEvidence => "Only one piece of evidence found"
  | noSource => "No source found"
  | tooShort => "Post too short to contain a claim"
  | noInsight => "No insight detected"
  | bannedPhrase phrase => "Banned phrase: \"" ++ String.ofList phrase ++ "\""
  | emoji => "Emojis are not allowed"
  | exclamations count => s!"Exclamation marks are not allowed (found {count})"
  | questionTitle => "Title must not be a question"
  | longText length limit => s!"Post is long ({length}/{limit} characters)"

def suggestion : Finding → String
  | missingTitle => "Open with a one-line title stating the finding"
  | longTitle .. => "Shorten the first line to a headline"
  | noEvidence => "Back the claim with concrete numbers such as percentages or multipliers"
  | thinEvidence => "Add a second data point"
  | noSource => "Cite where the evidence comes from with a link or a `Source:` line"
  | tooShort => "Follow the title with the main claim"
  | noInsight => "Close with what the reader should take away"
  | bannedPhrase phrase => "Replace \"" ++ String.ofList phrase ++ "\" with a concrete statement"
  | emoji => "Remove emojis"
  | exclamations _ => "Let the numbers carry the excitement"
  | questionTitle => "State the answer instead of asking"
  | longText .. => "Trim the post so readers finish it"

end Finding

/-- What a text has of the parts of a post. -/
structure Outline where
  title : Bool
  claim : Bool
  evidence : Nat
  insight : Bool
  source : Bool
  deriving DecidableEq, Repr

structure Analysis where
  outline : Outline
  findings : List Finding
  deriving DecidableEq, Repr

namespace Analysis

/-- All penalties together, as far as they are told apart. -/
def penalty (a : Analysis) : Nat :=
  a.findings.foldl (fun total finding => min maxPenalty (total + finding.penalty)) 0

def score (a : Analysis) : Nat := 100 - min 255 a.penalty

def issues (a : Analysis) : List String := (a.findings.filter Finding.isIssue).map Finding.message

def warnings (a : Analysis) : List String :=
  (a.findings.filter fun finding => !finding.isIssue).map Finding.message

def suggestions (a : Analysis) : List String := a.findings.map Finding.suggestion

def valid (a : Analysis) : Bool := !a.findings.any Finding.isIssue

theorem valid_iff_issues_eq_nil {a : Analysis} : a.valid = true ↔ a.issues = [] := by
  simp [valid, issues]

end Analysis

/-- The lines of a text that are not blank, without blank characters at their ends. -/
def Text.contentLines (t : Text) : List Text :=
  (t.physicalLines.map Text.trim).filter fun line => !line.isEmpty

namespace Analysis

def countSignals (lines : List Text) : Nat :=
  lines.foldr (fun line signals => Signal.evidence line + signals) 0

theorem countSignals_eq (lines : List Text) :
    countSignals lines = lines.countP Signal.metric.found + lines.countP Signal.startsBullet := by
  induction lines with
  | nil => rfl
  | cons line lines ih =>
    rw [countSignals] at ih ⊢
    rw [List.foldr_cons, ih, List.countP_cons, List.countP_cons, Signal.evidence]
    omega

theorem countSignals_append (lines lines' : List Text) :
    countSignals (lines ++ lines') = countSignals lines + countSignals lines' := by
  simp only [countSignals_eq, List.countP_append]
  omega

/-- The lines that speak for themselves. -/
def countProse (lines : List Text) : Nat := lines.countP Signal.isProse

def titleFindings (thresholds : Thresholds) (lines : List Text) : List Finding :=
  match lines.head? with
  | none => [.missingTitle]
  | some line =>
    if thresholds.maxTitleLength < line.length then
      [.longTitle line.length thresholds.maxTitleLength]
    else []

def evidenceFindings (thresholds : Thresholds) (signals : Nat) : List Finding :=
  if signals = 0 then [.noEvidence]
  else if signals < thresholds.minEvidenceSignals then [.thinEvidence]
  else []

def styleFindings (report : StyleReport) : List Finding :=
  report.phrases.map .bannedPhrase ++ (if report.hasEmoji then [.emoji] else []) ++
    (if 0 < report.exclamations then [.exclamations report.exclamations] else [])

def questionFindings (lines : List Text) : List Finding :=
  match lines.head? with
  | none => []
  | some line => if line.getLast? = some '?' then [.questionTitle] else []

def outlineOf (thresholds : Thresholds) (t : Text) : Outline :=
  let lines := t.contentLines
  { title := (titleFindings thresholds lines).isEmpty
    claim := thresholds.minClaimLines ≤ lines.length
    evidence := countSignals lines
    insight := thresholds.minInsightLines ≤ countProse lines
    source := Signal.source.found t }

end Analysis

def analyze (thresholds : Thresholds) (rules : StyleRules) (t : Text) : Analysis :=
  let lines := t.contentLines
  let outline := Analysis.outlineOf thresholds t
  { outline := outline
    findings :=
      Analysis.titleFindings thresholds lines ++
        Analysis.evidenceFindings thresholds outline.evidence ++
        (if outline.source then [] else [.noSource]) ++
        (if outline.claim then [] else [.tooShort]) ++
        (if outline.insight then [] else [.noInsight]) ++
        Analysis.styleFindings (rules.scan t) ++
        Analysis.questionFindings lines ++
        (if thresholds.maxTextLength < t.length then
          [.longText t.length thresholds.maxTextLength]
        else []) }

def analyzeEvents (thresholds : Thresholds) (rules : StyleRules) (t : Text) : List Event :=
  let lines := t.contentLines
  let analysis := analyze thresholds rules t
  [.analyzing lines.length, .countedSignals analysis.outline.evidence,
    .countedProse (Analysis.countProse lines), .scannedStyle,
    .analyzed analysis.score analysis.valid analysis.issues.length analysis.warnings.length]

end PostMarkup
