import PostMarkup.Diagnostic
import PostMarkup.Mark
import PostMarkup.Text.Blank

/-! The lines of a post, each with its place in the text. Blank lines and comments are counted but
left out. -/

namespace PostMarkup

inductive LineKind where
  | blank
  | comment
  | directive (mark : Mark)
  | unrecognized (first : Char)
  deriving DecidableEq, Repr

/-- The kind of a line, which its first characters that are not blank decide. -/
def LineKind.ofText (t : Text) : LineKind :=
  match t.trim with
  | [] => .blank
  | '/' :: '/' :: _ => .comment
  | c :: _ =>
    match Mark.ofChar? c with
    | some mark => .directive mark
    | none => .unrecognized c

/-- The line carries something, if only something that no mark announces. -/
def LineKind.isContent : LineKind → Bool
  | blank | comment => false
  | directive _ | unrecognized _ => true

structure Line where
  /-- Its place among the physical lines, from one. -/
  number : Nat
  text : Text
  /-- The bytes of the post that are its text. -/
  span : Span
  kind : LineKind
  deriving DecidableEq, Repr

/-- The line with the given number that starts at byte `offset` of the post, unless it is blank or
a comment. -/
def Line.ofPhysical? (offset number : Nat) (raw : Text) : Option Line :=
  let text := raw.trim
  let start := offset + Text.utf8Size (raw.takeWhile isBlank)
  let line : Line := ⟨number, text, ⟨start, start + text.utf8Size⟩, .ofText text⟩
  if line.kind.isContent then some line else none

/-- The lines among the physical lines given, the first of which starts at byte `offset` and comes
after `number` others. -/
def linesFrom (offset number : Nat) : List Text → List Line
  | [] => []
  | raw :: rest =>
    (Line.ofPhysical? offset (number + 1) raw).toList ++
      linesFrom (offset + Text.utf8Size raw + 1) (number + 1) rest

/-- The lines of a post that are neither blank nor comments, in order. -/
def lines (post : Text) : List Line := linesFrom 0 0 post.physicalLines

end PostMarkup
