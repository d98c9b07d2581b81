import PostMarkup.Document
import PostMarkup.Mark
import PostMarkup.Text.Blank

/-! Directives: what a well-formed line of a post says, how it is read, and what it does to the
post. Reading takes a whole line, so nothing may be left over. -/

namespace PostMarkup

inductive Directive where
  /-- A limit, whose name may be one that no part of a post has. -/
  | limit (name : Text) (value : Nat)
  | title (text : Text)
  | claim (text : Text)
  | evidence (item : Evidence)
  | insight (text : Text)
  | context (text : Text)
  | credential (text : Text)
  | source (source : Source)
  deriving DecidableEq, Repr

def Directive.mark : Directive → Mark
  | limit _ _ => .limit
  | title _ => .title
  | claim _ => .claim
  | evidence _ => .evidence
  | insight _ => .insight
  | context _ => .context
  | credential _ => .credential
  | source _ => .source

/-- The directives that hold one quoted text and nothing else. -/
def Mark.quoting? : Mark → Option (Text → Directive)
  | title => some .title
  | claim => some .claim
  | insight => some .insight
  | context => some .context
  | credential => some .credential
  | limit | evidence | source => none

/-- The post after a directive. A limit of unknown name changes nothing. -/
def Document.apply (post : Document) : Directive → Document
  | .limit name value =>
    match LimitName.ofText? name with
    | some name => post.setLimit name value
    | none => post
  | .title text => { post with title := some text }
  | .claim text => { post with claim := some text }
  | .evidence item => { post with evidence := post.evidence ++ [item] }
  | .insight text => { post with insight := some text }
  | .context text => { post with context := some text }
  | .credential text => { post with credential := some text }
  | .source source => { post with source := some source }

def isNameChar (c : Char) : Bool := c.isAlphanum || c == '_'

def isUrlChar (c : Char) : Bool := !isBlank c && c != '|'

/-- Every number of a limit is below this. -/
def numberBound : Nat := UInt64.size

namespace Directive

/-- Reads a text in double quotes, which cannot hold one, and gives it with what follows. -/
def quoted? : Text → Option (Text × Text)
  | '"' :: t =>
    match t.dropWhile (· != '"') with
    | _ :: rest => some (t.takeWhile (· != '"'), rest)
    | [] => none
  | _ => none

def quotedToEnd? (t : Text) : Option Text :=
  match quoted? t with
  | some (text, []) => some text
  | _ => none

/-- Reads a bar and the spacing on both sides of it, and gives what follows. -/
def bar? (t : Text) : Option Text :=
  match t.skipSpacing with
  | '|' :: rest => some (Text.skipSpacing rest)
  | _ => none

/-- Reads the spacing that a text starts with, at least one character, and gives what follows. -/
def spacing? : Text → Option Text
  | c :: t => if isSpacing c then some (Text.skipSpacing t) else none
  | [] => none

/-- Reads what follows the mark of a limit: a name and a positive number. -/
def limit? (t : Text) : Option Directive := do
  let t ← spacing? t
  let name := t.takeWhile isNameChar
  let digits ← spacing? (t.dropWhile isNameChar)
  let value := Nat.ofDigitChars 10 digits 0
  if name ≠ [] ∧ digits ≠ [] ∧ digits.all Char.isDigit ∧ 0 < value ∧ value < numberBound then
    some (limit name value)
  else none

/-- Reads what follows the mark of an item of evidence: a value, a bar and a quoted context. -/
def evidence? (t : Text) : Option Directive := do
  let value := Text.trim (t.takeWhile (· != '|'))
  let context ← quotedToEnd? (← bar? (t.dropWhile (· != '|')))
  if value ≠ [] then some (evidence ⟨value, context⟩) else none

/-- Reads what follows the address of a source: nothing, or a bar and a quoted reason to trust
it. -/
def credibility? : Text → Option (Option Text)
  | [] => some none
  | t => do return some (← quotedToEnd? (← bar? t))

/-- Reads what follows the mark of a source: a quoted title, an address and perhaps a quoted
reason to trust it, between bars. -/
def source? (t : Text) : Option Directive := do
  let (name, t) ← quoted? t.skipSpacing
  let t ← bar? t
  let url := t.takeWhile isUrlChar
  let credibility ← credibility? (t.dropWhile isUrlChar)
  if url ≠ [] then some (source ⟨name, url, credibility⟩) else none

def ofBody? : Mark → Text → Option Directive
  | .limit, t => limit? t
  | .evidence, t => evidence? t
  | .source, t => source? t
  | mark, t => do return (← mark.quoting?) (← quotedToEnd? t.skipSpacing)

def ofText? : Text → Option Directive
  | [] => none
  | c :: t => (Mark.ofChar? c).bind fun mark => ofBody? mark t

end Directive

end PostMarkup
