import PostMarkup.Diagnostic
import PostMarkup.Limit
import PostMarkup.Mark

/-! The log as data: the events that the stages of the work report, and how each is written down. -/

namespace PostMarkup

/-- How much a record matters. A log keeps the records up to a level of its choice. -/
inductive LogLevel where
  | error
  | warn
  | info
  | debug
  | trace
  deriving DecidableEq, Repr

namespace LogLevel

def word : LogLevel → String
  | error => "ERROR"
  | warn => "WARN"
  | info => "INFO"
  | debug => "DEBUG"
  | trace => "TRACE"

def rank : LogLevel → Nat
  | error => 0
  | warn => 1
  | info => 2
  | debug => 3
  | trace => 4

/-- The level of a log that a word asks for, where `off` asks for no log at all. -/
def filter? : String → Option (Option LogLevel)
  | "off" => some none
  | "error" => some (some error)
  | "warn" => some (some warn)
  | "info" => some (some info)
  | "debug" => some (some debug)
  | "trace" => some (some trace)
  | _ => none

end LogLevel

def Severity.logLevel : Severity → LogLevel
  | error => .error
  | warning => .warn

inductive Event where
  | readingPost (bytes : Nat)
  | skippedLine (number : Nat)
  | ignoredLimit (name : Text) (value : Nat)
  | appliedLine (number : Nat) (mark : Mark)
  | droppedLine (number : Nat) (mark : Mark)
  | readPost (errors : Nat)
  | keptDocument
  | checkingLimits
  | scannedStyle
  | checked (hasErrors : Bool)
  | rendered (blocks characters : Nat)
  | compiling
  | stoppedAtReading (errors : Nat)
  | warned (warning : Diagnostic)
  | stoppedAtChecking (errors : Nat)
  | stoppedAtLength
  | compiled (characters : Nat)
  | analyzing (lines : Nat)
  | countedSignals (signals : Nat)
  | countedProse (lines : Nat)
  | analyzed (score : Nat) (valid : Bool) (issues warnings : Nat)
  deriving DecidableEq, Repr

namespace Event

def level : Event → LogLevel
  | readingPost _ | readPost _ | checked _ | compiling | stoppedAtReading _ | stoppedAtChecking _
  | stoppedAtLength | analyzed .. => .info
  | skippedLine _ | ignoredLimit .. | droppedLine .. | checkingLimits | rendered .. | warned _
  | compiled _ | analyzing _ | countedSignals _ | countedProse _ => .debug
  | appliedLine .. | keptDocument | scannedStyle => .trace

/-- The part of the program that reports the event. -/
def target : Event → String
  | readingPost _ | readPost _ => "quill_parser"
  | skippedLine _ | ignoredLimit .. | appliedLine .. | droppedLine .. => "quill_parser::parser"
  | checkingLimits | checked _ => "quill_parser::validator"
  | scannedStyle => "quill_core::rules"
  | rendered .. => "quill::render"
  | keptDocument | compiling | stoppedAtReading _ | warned _ | stoppedAtChecking _
  | stoppedAtLength | compiled _ => "quill"
  | analyzing _ | countedSignals _ | countedProse _ | analyzed .. => "quill::analyze"

def message : Event → String
  | readingPost _ => "Parsing post"
  | skippedLine _ => "Skipping unrecognized line"
  | ignoredLimit name _ => "Ignoring limit: " ++ unknownLimitMessage name
  | appliedLine .. => "Applied directive"
  | droppedLine .. => "Dropping malformed directive"
  | readPost _ => "Parsing finished"
  | keptDocument => "Parsed document"
  | checkingLimits => "Validating with effective limits"
  | scannedStyle => "Style scan complete"
  | checked _ => "Validation finished"
  | rendered .. => "Rendered post"
  | compiling => "Compiling post"
  | stoppedAtReading _ => "Compilation stopped at parsing"
  | warned _ => "Validation warning"
  | stoppedAtChecking _ => "Compilation stopped at validation"
  | stoppedAtLength => "Compilation stopped at output length check"
  | compiled _ => "Post compiled"
  | analyzing _ => "Analyzing text"
  | countedSignals _ => "Counted evidence signals"
  | countedProse _ => "Counted prose lines"
  | analyzed .. => "Analysis finished"

/-- The named values of the record. A value is left open where it is a whole structure. -/
def values : Event → List (String × Option String)
  | readingPost bytes => [("bytes", toString bytes)]
  | skippedLine number => [("line", toString number)]
  | ignoredLimit name value => [("name", String.ofList name), ("value", toString value)]
  | appliedLine number mark | droppedLine number mark =>
    [("line", toString number), ("symbol", mark.char.toString)]
  | readPost errors | stoppedAtReading errors | stoppedAtChecking errors =>
    [("errors", toString errors)]
  | keptDocument => [("document", none)]
  | checkingLimits => [("limits", none)]
  | scannedStyle => [("report", none)]
  | checked hasErrors => [("has_errors", toString hasErrors)]
  | rendered blocks characters => [("blocks", toString blocks), ("chars", toString characters)]
  | compiling | stoppedAtLength => []
  | warned warning => [("warning", warning.display)]
  | compiled characters => [("chars", toString characters)]
  | analyzing lines => [("lines", toString lines)]
  | countedSignals signals => [("signals", toString signals)]
  | countedProse lines => [("prose_lines", toString lines)]
  | analyzed score valid issues warnings =>
    [("score", toString score), ("valid", toString valid), ("issues", toString issues),
      ("warnings", toString warnings)]

end Event

/-- The events that a log of the given level keeps. A log that is off keeps none. -/
def keptEvents (level : Option LogLevel) (events : List Event) : List Event :=
  events.filter fun event => level.any fun level => event.level.rank ≤ level.rank

end PostMarkup
