import PostMarkup.Directive

/-! The grammar of directives: the parts of a line that holds one, in order, and what they say. -/

namespace PostMarkup

def Text.quote (t : Text) : Text := '"' :: t ++ ['"']

/-- A run of spaces and tabs, which may be empty. -/
def IsSpacing (w : Text) : Prop := ∀ c ∈ w, isSpacing c = true

instance (w : Text) : Decidable (IsSpacing w) :=
  inferInstanceAs (Decidable (∀ c ∈ w, isSpacing c = true))

/-- The last part of a line that names a source, if it is there: a bar with spacing on both sides,
and a quoted reason to trust the source. -/
structure Reason where
  before : Text
  after : Text
  text : Text

def Reason.body (reason : Reason) : Text :=
  reason.before ++ '|' :: (reason.after ++ reason.text.quote)

structure Reason.Proper (reason : Reason) : Prop where
  before : IsSpacing reason.before
  after : IsSpacing reason.after
  text : '"' ∉ reason.text

/-- The parts of a line that holds a directive, in order. -/
inductive Layout where
  | quoting (mark : Mark) (gap text : Text)
  | limit (gap name gap' digits : Text)
  /-- The value comes with the blank characters around it. -/
  | evidence (value gap context : Text)
  | source (gap title before after url : Text) (reason : Option Reason)

namespace Layout

def mark : Layout → Mark
  | quoting mark _ _ => mark
  | limit .. => .limit
  | evidence .. => .evidence
  | source .. => .source

/-- What stands after the mark. -/
def body : Layout → Text
  | quoting _ gap text => gap ++ text.quote
  | limit gap name gap' digits => gap ++ (name ++ (gap' ++ digits))
  | evidence value gap context => value ++ '|' :: (gap ++ context.quote)
  | source gap title before after url reason =>
    gap ++ (title.quote ++ (before ++ '|' :: (after ++ (url ++ (reason.map Reason.body).getD []))))

/-- The line that is put together from the parts. -/
def line (layout : Layout) : Text := layout.mark.char :: layout.body

/-- Every part is as its place in the line demands. -/
inductive Proper : Layout → Prop where
  | quoting {mark : Mark} {gap text : Text} :
      mark.quoting?.isSome = true → IsSpacing gap → '"' ∉ text → Proper (quoting mark gap text)
  | limit {gap name gap' digits : Text} :
      IsSpacing gap → gap ≠ [] → (∀ c ∈ name, isNameChar c = true) → name ≠ [] →
      IsSpacing gap' → gap' ≠ [] → (∀ c ∈ digits, c.isDigit = true) → digits ≠ [] →
      0 < Nat.ofDigitChars 10 digits 0 → Nat.ofDigitChars 10 digits 0 < numberBound →
      Proper (limit gap name gap' digits)
  | evidence {value gap context : Text} :
      '|' ∉ value → value.trim ≠ [] → IsSpacing gap → '"' ∉ context →
      Proper (evidence value gap context)
  | source {gap title before after url : Text} {reason : Option Reason} :
      IsSpacing gap → '"' ∉ title → IsSpacing before → IsSpacing after →
      (∀ c ∈ url, isUrlChar c = true) → url ≠ [] → (∀ r ∈ reason, r.Proper) →
      Proper (source gap title before after url reason)

def directive? : Layout → Option Directive
  | quoting mark _ text => mark.quoting?.map fun make => make text
  | limit _ name _ digits => some (.limit name (Nat.ofDigitChars 10 digits 0))
  | evidence value _ context => some (.evidence ⟨value.trim, context⟩)
  | source _ title _ _ url reason => some (.source ⟨title, url, reason.map Reason.text⟩)

/-- What a line of the layout makes of a post: it writes the values in its parts to the field that
its mark stands for, and leaves all other fields as they are. A limit of unknown name writes
nothing. -/
inductive Writes (post : Document) : Layout → Document → Prop where
  | title {gap text : Text} : Writes post (quoting .title gap text) { post with title := some text }
  | claim {gap text : Text} : Writes post (quoting .claim gap text) { post with claim := some text }
  | insight {gap text : Text} :
      Writes post (quoting .insight gap text) { post with insight := some text }
  | context {gap text : Text} :
      Writes post (quoting .context gap text) { post with context := some text }
  | credential {gap text : Text} :
      Writes post (quoting .credential gap text) { post with credential := some text }
  | limit {gap word gap' digits : Text} {name : LimitName} {overrides : Overrides} :
      word = name.word.toList → post.overrides.Sets name (Nat.ofDigitChars 10 digits 0) overrides →
      Writes post (limit gap word gap' digits) { post with overrides := overrides }
  | unknownLimit {gap word gap' digits : Text} :
      (∀ name : LimitName, word ≠ name.word.toList) → Writes post (limit gap word gap' digits) post
  | evidence {value gap context : Text} :
      Writes post (evidence value gap context)
        { post with evidence := post.evidence ++ [⟨value.trim, context⟩] }
  | source {gap title before after url : Text} {reason : Option Reason} :
      Writes post (source gap title before after url reason)
        { post with source := some ⟨title, url, reason.map Reason.text⟩ }

/-- The parts of a line that holds a limit are as their places demand, whatever the number is. -/
structure LimitForm (gap name gap' digits : Text) : Prop where
  isSpacing_gap : IsSpacing gap
  gap_ne_nil : gap ≠ []
  isNameChar_of_mem : ∀ c ∈ name, isNameChar c = true
  name_ne_nil : name ≠ []
  isSpacing_gap' : IsSpacing gap'
  gap'_ne_nil : gap' ≠ []
  isDigit_of_mem : ∀ c ∈ digits, c.isDigit = true
  digits_ne_nil : digits ≠ []

end Layout

/-- The text is a line of the grammar. -/
def Text.IsDirective (t : Text) : Prop := ∃ layout : Layout, layout.Proper ∧ layout.line = t

/-- The text is a line of the grammar, and gives the limit of that name that value. -/
def Text.SetsLimit (t name : Text) (value : Nat) : Prop :=
  ∃ gap gap' digits, (Layout.limit gap name gap' digits).Proper ∧
    (Layout.limit gap name gap' digits).line = t ∧ value = Nat.ofDigitChars 10 digits 0

/-- The post after a line, and whether the line says anything. A line that says nothing leaves the
post as it is. -/
def Document.applyText (post : Document) (line : Text) : Document × Bool :=
  match Directive.ofText? line with
  | some directive => (post.apply directive, true)
  | none => (post, false)

end PostMarkup
