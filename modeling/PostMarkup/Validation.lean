import PostMarkup.Diagnostic
import PostMarkup.Document
import PostMarkup.Log
import PostMarkup.Mark
import PostMarkup.Style

/-! The checks on a document: what a post must have, how long its parts may be, and how it may be
worded. Every rule is applied, so no violation hides another. -/

namespace PostMarkup

inductive Violation where
  | missing (mark : Mark)
  | fieldTooLong (mark : Mark) (length limit : Nat)
  /-- The item of evidence with this index, from one, is too long. -/
  | evidenceTooLong (index length limit : Nat)
  | tooMuchEvidence (count : Nat)
  | contextTooLong (length limit : Nat)
  | bannedPhrase (phrase : Text)
  | emoji
  | exclamations (count : Nat)
  | questionTitle
  | exclaimedTitle
  | postTooLong (length limit : Nat)
  deriving DecidableEq, Repr

namespace Violation

/-- Only a context that is too long is tolerated. -/
def severity : Violation → Severity
  | contextTooLong .. => .warning
  | _ => .error

def isError (v : Violation) : Bool := v.severity == .error

def code : Violation → Code
  | missing _ => .e200
  | fieldTooLong .. => .e300
  | evidenceTooLong .. => .e301
  | tooMuchEvidence _ => .e201
  | contextTooLong .. => .w300
  | bannedPhrase _ => .e400
  | emoji => .e401
  | exclamations _ => .e402
  | questionTitle => .e403
  | exclaimedTitle => .e404
  | postTooLong .. => .e302

def message : Violation → String
  | missing mark => "Missing " ++ mark.char.toString ++ " (" ++ mark.word ++ ")"
  | fieldTooLong mark length limit =>
    mark.word.capitalize ++ s!" too long: {length}/{limit} characters"
  | evidenceTooLong index length limit =>
    s!"Evidence {index} too long: {length}/{limit} characters"
  | tooMuchEvidence count => s!"Evidence limited to {maxEvidenceItems} items (found {count})"
  | contextTooLong length limit => s!"Context too long: {length}/{limit} characters"
  | bannedPhrase phrase => "Banned phrase: \"" ++ String.ofList phrase ++ "\""
  | emoji => "Emojis are not allowed"
  | exclamations count => s!"Exclamation marks are not allowed (found {count})"
  | questionTitle => "Title must not end with a question mark"
  | exclaimedTitle => "Title must not contain exclamation marks"
  | postTooLong length limit => s!"Post too long: {length}/{limit} characters"

def help : Violation → Option String
  | missing mark => some ("add a line like " ++ mark.template)
  | tooMuchEvidence _ => some "keep the strongest data points"
  | bannedPhrase _ => some "say what actually happened instead"
  | questionTitle => some "state the finding instead of asking about it"
  | postTooLong .. => some "shorten the prose or raise the limit with `^ total <n>`"
  | _ => none

def diagnostic (v : Violation) : Diagnostic where
  severity := v.severity
  code := some v.code
  message := v.message
  help := v.help

end Violation

structure Report where
  errors : List Violation
  warnings : List Violation
  deriving DecidableEq, Repr

namespace Report

def isValid (report : Report) : Bool := report.errors.isEmpty

/-- Errors before warnings, as diagnostics. -/
def diagnostics (report : Report) : List Diagnostic :=
  (report.errors ++ report.warnings).map Violation.diagnostic

/-- The warnings if they are all there is, and otherwise everything that was found. -/
def result (report : Report) : Except (List Diagnostic) (List Violation) :=
  if report.isValid then .ok report.warnings else .error report.diagnostics

end Report

namespace Document

/-- The text of a field, unless it is absent or empty. -/
def present (field : Option Text) : Option Text := field.filter fun t => !t.isEmpty

/-- The fields that every post must have and this one has not. -/
def missingFields (post : Document) : List Mark :=
  (if present post.title = none then [.title] else []) ++
    (if present post.claim = none then [.claim] else []) ++
    (if post.evidence = [] then [.evidence] else []) ++
    (if present post.insight = none then [.insight] else []) ++
    (if post.source = none then [.source] else [])

/-- The violation of a limit by a field that is there. -/
def fieldLength (mark : Mark) (limit : Nat) (field : Option Text) : List Violation :=
  match present field with
  | none => []
  | some t => if limit < t.length then [.fieldTooLong mark t.length limit] else []

/-- The violations of a limit by items of evidence, the first of which has the given index. -/
def evidenceLengths (limit index : Nat) : List Evidence → List Violation
  | [] => []
  | item :: rest =>
    (if limit < item.text.length then [.evidenceTooLong index item.text.length limit] else []) ++
      evidenceLengths limit (index + 1) rest

def evidenceCount (items : List Evidence) : List Violation :=
  if maxEvidenceItems < items.length then [.tooMuchEvidence items.length] else []

def contextLength (limit : Nat) (field : Option Text) : List Violation :=
  match present field with
  | none => []
  | some t => if limit < t.length then [.contextTooLong t.length limit] else []

def styleViolations (report : StyleReport) : List Violation :=
  report.phrases.map .bannedPhrase ++ (if report.hasEmoji then [.emoji] else []) ++
    (if 0 < report.exclamations then [.exclamations report.exclamations] else [])

def titleShape (field : Option Text) : List Violation :=
  match present field with
  | none => []
  | some t =>
    (if t.getLast? = some '?' then [.questionTitle] else []) ++
      (if t.contains '!' then [.exclaimedTitle] else [])

def violations (limits : Limits) (rules : StyleRules) (post : Document) : List Violation :=
  post.missingFields.map .missing ++
    fieldLength .title limits.title post.title ++
    fieldLength .claim limits.claim post.claim ++
    fieldLength .insight limits.insight post.insight ++
    evidenceLengths limits.evidence 1 post.evidence ++
    evidenceCount post.evidence ++
    contextLength limits.context post.context ++
    styleViolations (rules.scan post.prose) ++
    titleShape post.title

/-- Checks a document. The limits are those in force for it where `defaults` hold for the rest. -/
def validate (defaults : Limits) (rules : StyleRules) (post : Document) : Report :=
  let found := violations (post.limits defaults) rules post
  ⟨found.filter Violation.isError, found.filter fun v => !v.isError⟩

/-- The violation of the limit on the whole by the rendered form of a document. -/
def checkOutput (defaults : Limits) (post : Document) (output : Text) : Option Violation :=
  let limit := (post.limits defaults).total
  if limit < output.length then some (.postTooLong output.length limit) else none

end Document

def Report.events (report : Report) : List Event :=
  [.checkingLimits, .scannedStyle, .checked (!report.isValid)]

end PostMarkup
