import PostMarkup.Failure

/-! Notices: what is put before the author, for every diagnostic and every failure. A notice that
points into the post comes with its text. -/

namespace PostMarkup

/-- A part of the post that a notice points at, in bytes. -/
structure Pointer where
  offset : Nat
  length : Nat
  message : String
  /-- It is what the notice is about, and does not only help to see that. -/
  isPrimary : Bool
  deriving DecidableEq, Repr

def Label.pointer (label : Label) : Pointer where
  offset := label.span.start
  length := label.span.length
  message := label.message
  isPrimary := true

structure Notice where
  message : String
  code : Option String := none
  severity : Option Severity := none
  help : Option String := none
  label : Option Label := none
  cause : Option String := none
  /-- The text of the post, for a notice that points into it. -/
  post : Option Text := none
  deriving DecidableEq, Repr

/-- What the notice points at, if it points at anything. -/
def Notice.pointers? (notice : Notice) : Option (List Pointer) :=
  notice.label.map fun label => [label.pointer]

/-- The notice of a diagnostic, still without the post. Where it has no help of its own, its code
has. -/
def Diagnostic.notice (d : Diagnostic) : Notice where
  message := d.message
  code := d.code.map Code.word
  severity := some d.severity
  help := d.help <|> d.code.map Code.description
  label := d.label

/-- The notice of a diagnostic about a post. -/
def Diagnostic.noticeIn (post : Text) (d : Diagnostic) : Notice :=
  { d.notice with post := d.label.map fun _ => post }

/-- The notices of a failure. Those of errors in a post are one for each. -/
def Failure.notices (failure : Failure) : List Notice :=
  match failure with
  | io error =>
    [{ message := failure.message, code := some "quill::io", cause := some error.message }]
  | compile errors post => errors.map (Diagnostic.noticeIn post)
  | config _ =>
    [{ message := failure.message
       code := some "quill::config"
       help := some ("configuration is read from --config, quill/config.toml or the user config " ++
        "directory") }]

end PostMarkup
