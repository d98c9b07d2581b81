import PostMarkup.Analysis
import PostMarkup.Config.Setting
import PostMarkup.Limit

/-! The configuration: the limits on posts and the thresholds of the analysis. -/

namespace PostMarkup

inductive ThresholdName where
  | maxTitleLength
  | minClaimLines
  | minInsightLines
  | minEvidenceSignals
  | maxTextLength
  deriving DecidableEq, Repr

namespace ThresholdName

def all : List ThresholdName :=
  [maxTitleLength, minClaimLines, minInsightLines, minEvidenceSignals, maxTextLength]

def word : ThresholdName → String
  | maxTitleLength => "max_title_length"
  | minClaimLines => "min_claim_lines"
  | minInsightLines => "min_insight_lines"
  | minEvidenceSignals => "min_evidence_signals"
  | maxTextLength => "max_text_length"

end ThresholdName

namespace Thresholds

def get (thresholds : Thresholds) : ThresholdName → Nat
  | .maxTitleLength => thresholds.maxTitleLength
  | .minClaimLines => thresholds.minClaimLines
  | .minInsightLines => thresholds.minInsightLines
  | .minEvidenceSignals => thresholds.minEvidenceSignals
  | .maxTextLength => thresholds.maxTextLength

def set (thresholds : Thresholds) (name : ThresholdName) (value : Nat) : Thresholds :=
  match name with
  | .maxTitleLength => { thresholds with maxTitleLength := value }
  | .minClaimLines => { thresholds with minClaimLines := value }
  | .minInsightLines => { thresholds with minInsightLines := value }
  | .minEvidenceSignals => { thresholds with minEvidenceSignals := value }
  | .maxTextLength => { thresholds with maxTextLength := value }

end Thresholds

structure Config where
  limits : Limits := {}
  thresholds : Thresholds := {}
  deriving DecidableEq, Repr, Inhabited

/-- How the text of a file is read as a configuration, or why it is none. -/
abbrev Config.Reader := Text → Except String Config

/-- The limits that a setting describes, with the usual ones where it is silent. -/
def Limits.ofSetting? (setting : Setting) : Option Limits := do
  return ({} : Limits).override
    (← setting.numbers? (LimitName.all.map fun name => (name, name.word)))

/-- The thresholds that a setting describes, with the usual ones where it is silent. -/
def Thresholds.ofSetting? (setting : Setting) : Option Thresholds := do
  let changes ← setting.numbers? (ThresholdName.all.map fun name => (name, name.word))
  return changes.foldl (fun thresholds change => thresholds.set change.1 change.2) {}

namespace Config

/-- The words for the two parts of a configuration. -/
def parts : List Text := ["limits".toList, "analyzer".toList]

/-- The configuration that a table describes. Entries with other names are passed over. -/
def ofSetting? : Setting → Option Config
  | .table entries => do
    guard (Setting.haveReadable (entries.filter fun entry => !parts.contains entry.1))
    let limits ←
      match entries.lookup "limits".toList with
      | some setting => Limits.ofSetting? setting
      | none => some {}
    let thresholds ←
      match entries.lookup "analyzer".toList with
      | some setting => Thresholds.ofSetting? setting
      | none => some {}
    return ⟨limits, thresholds⟩
  | _ => none

/-- The first limit that is zero, which no configuration from a file may have. -/
def zeroLimit? (config : Config) : Option LimitName :=
  LimitName.all.find? fun name => config.limits.get name = 0

end Config

end PostMarkup
