import PostMarkup.Parsed
import PostMarkup.Render
import PostMarkup.Validation

/-! Compilation: from the text of a post to its rendered form, unless a stage on the way finds an
error. -/

namespace PostMarkup

inductive Compilation where
  | malformed (errors : List SyntaxError)
  | invalid (report : Report)
  | tooLong (error : Violation) (warnings : List Violation)
  | done (output : Text) (warnings : List Violation)
  deriving DecidableEq, Repr

/-- Compiles a post under the given limits. -/
def compile (limits : Limits) (post : Text) : Compilation :=
  let parsed := parse post
  if parsed.errors ≠ [] then .malformed parsed.errors
  else
    let report := parsed.document.validate limits .standard
    if report.errors ≠ [] then .invalid report
    else
      let output := parsed.document.render
      match parsed.document.checkOutput limits output with
      | some error => .tooLong error report.warnings
      | none => .done output report.warnings

namespace Compilation

/-- The rendered form, if there is one. -/
def output? : Compilation → Option Text
  | done output _ => some output
  | _ => none

def success (c : Compilation) : Bool := c.output?.isSome

def errors : Compilation → List Diagnostic
  | malformed errors => errors.map SyntaxError.diagnostic
  | invalid report => report.errors.map Violation.diagnostic
  | tooLong error _ => [error.diagnostic]
  | done _ _ => []

def warnings : Compilation → List Diagnostic
  | malformed _ => []
  | invalid report => report.warnings.map Violation.diagnostic
  | tooLong _ warnings | done _ warnings => warnings.map Violation.diagnostic

/-- The rendered form, or all errors. -/
def result (c : Compilation) : Except (List Diagnostic) Text :=
  match c.output? with
  | some output => .ok output
  | none => .error c.errors

end Compilation

def compileEvents (limits : Limits) (post : Text) : List Event :=
  let parsed := parse post
  let report := parsed.document.validate limits .standard
  let compilation := compile limits post
  let warned := compilation.warnings.map Event.warned
  [.compiling] ++ parseEvents post ++
    match compilation with
    | .malformed errors => [.stoppedAtReading errors.length]
    | .invalid _ => report.events ++ warned ++ [.stoppedAtChecking report.errors.length]
    | .tooLong .. => report.events ++ warned ++ parsed.document.renderEvents ++ [.stoppedAtLength]
    | .done output _ =>
      report.events ++ warned ++ parsed.document.renderEvents ++ [.compiled output.length]

/-- Reads a post whose lines must all be well formed. -/
def parseStrict (post : Text) : Except (List Diagnostic) Document :=
  let parsed := parse post
  if parsed.errors = [] then .ok parsed.document
  else .error (parsed.errors.map SyntaxError.diagnostic)

def parseStrictEvents (post : Text) : List Event :=
  parseEvents post ++ if (parse post).errors = [] then [.keptDocument] else []

end PostMarkup
