import PostMarkup.Diagnostic
import PostMarkup.Directive
import PostMarkup.Line
import PostMarkup.Log

/-! From the text of a post to its document. Each line is read on its own, and the document is what
the directives make of an empty one; a malformed line leaves no trace in it. -/

namespace PostMarkup

inductive Reading where
  | accepted (directive : Directive)
  /-- It does not fit its mark, which is strict. -/
  | refused (mark : Mark)
  /-- It does not fit its mark, which is lenient. -/
  | dropped (mark : Mark)
  | skipped
  deriving DecidableEq, Repr

def Line.reading (line : Line) : Reading :=
  match line.kind with
  | .directive mark =>
    match Directive.ofText? line.text, mark.tier with
    | some directive, _ => .accepted directive
    | none, .strict => .refused mark
    | none, .lenient => .dropped mark
  | _ => .skipped

/-- The directive of a line that is accepted. -/
def Line.directive? (line : Line) : Option Directive :=
  match line.reading with
  | .accepted directive => some directive
  | _ => none

/-- A line that does not fit its mark, though it must. -/
structure SyntaxError where
  line : Line
  mark : Mark
  deriving DecidableEq, Repr

def Line.syntaxError? (line : Line) : Option SyntaxError :=
  match line.reading with
  | .refused mark => some ⟨line, mark⟩
  | _ => none

def Mark.code : Mark → Code
  | .title => .e100
  | .claim => .e101
  | .evidence => .e102
  | .insight => .e103
  | _ => .e104

/-- The report of a malformed line. It has a hint only if the line has no quotes at all. -/
def SyntaxError.diagnostic (e : SyntaxError) : Diagnostic where
  severity := .error
  code := some e.mark.code
  message := s!"Line {e.line.number}: Invalid " ++ e.mark.word ++ ". Use " ++ e.mark.template
  label := some ⟨e.line.span, "does not match the " ++ e.mark.word ++ " grammar"⟩
  help :=
    if e.line.text.contains '"' then none
    else some "text segments must be wrapped in double quotes"

/-- What the lines of a post amount to. -/
structure Parsed where
  document : Document
  errors : List SyntaxError
  deriving DecidableEq, Repr

/-- The document that directives make, one after another. -/
def Document.ofDirectives (directives : List Directive) : Document :=
  directives.foldl Document.apply {}

def parse (post : Text) : Parsed where
  document := .ofDirectives ((lines post).filterMap Line.directive?)
  errors := (lines post).filterMap Line.syntaxError?

def Line.events (line : Line) : List Event :=
  match line.reading with
  | .accepted (.limit name value) =>
    if LimitName.ofText? name = none then
      [.ignoredLimit name value, .appliedLine line.number .limit]
    else [.appliedLine line.number .limit]
  | .accepted directive => [.appliedLine line.number directive.mark]
  | .refused _ => []
  | .dropped mark => [.droppedLine line.number mark]
  | .skipped => [.skippedLine line.number]

def parseEvents (post : Text) : List Event :=
  .readingPost post.utf8Size :: (lines post).flatMap Line.events ++
    [.readPost (parse post).errors.length]

end PostMarkup
