import PostMarkup.Directive.Grammar

/-! Documents written back as the text of a post: a line for every part, in a fixed order. -/

namespace PostMarkup

/-- The usual line of a directive. -/
def Directive.print : Directive → Text
  | limit name value => "^ ".toList ++ name ++ ' ' :: Nat.toDigits 10 value
  | title t => "# ".toList ++ t.quote
  | claim t => "! ".toList ++ t.quote
  | evidence item => "+ ".toList ++ item.value ++ " | ".toList ++ item.context.quote
  | insight t => "> ".toList ++ t.quote
  | context t => "? ".toList ++ t.quote
  | credential t => "* ".toList ++ t.quote
  | source origin =>
    "@ ".toList ++ origin.title.quote ++ " | ".toList ++ origin.url ++
      match origin.credibility with
      | some reason => " | ".toList ++ reason.quote
      | none => []

namespace Document

def directives (post : Document) : List Directive :=
  post.overrides.map (fun change => .limit change.1.word.toList change.2) ++
    post.title.toList.map .title ++ post.claim.toList.map .claim ++
    post.evidence.map .evidence ++ post.insight.toList.map .insight ++
    post.context.toList.map .context ++ post.credential.toList.map .credential ++
    post.source.toList.map .source

def print (post : Document) : List Text := post.directives.map Directive.print

end Document

/-- A text that can stand in double quotes on a line. -/
def IsQuotable (t : Text) : Prop := '"' ∉ t ∧ '\n' ∉ t

instance (t : Text) : Decidable (IsQuotable t) := inferInstanceAs (Decidable (_ ∧ _))

/-- An item that a line can hold. -/
structure Evidence.WellFormed (item : Evidence) : Prop where
  value_ne_nil : item.value ≠ []
  trim_value : item.value.trim = item.value
  bar_not_mem : '|' ∉ item.value
  newline_not_mem : '\n' ∉ item.value
  context : IsQuotable item.context

/-- A source that a line can hold. -/
structure Source.WellFormed (source : Source) : Prop where
  title : IsQuotable source.title
  url_ne_nil : source.url ≠ []
  isUrlChar_of_mem : ∀ c ∈ source.url, isUrlChar c = true
  credibility : ∀ reason ∈ source.credibility, IsQuotable reason

/-- A directive that a line can hold. -/
def Directive.WellFormed : Directive → Prop
  | limit name value =>
    (∀ c ∈ name, isNameChar c = true) ∧ name ≠ [] ∧ 0 < value ∧ value < numberBound
  | title t | claim t | insight t | context t | credential t => IsQuotable t
  | evidence item => item.WellFormed
  | source origin => origin.WellFormed

/-- A document that the text of a post can describe. -/
structure Document.WellFormed (post : Document) : Prop where
  title : ∀ t ∈ post.title, IsQuotable t
  claim : ∀ t ∈ post.claim, IsQuotable t
  insight : ∀ t ∈ post.insight, IsQuotable t
  context : ∀ t ∈ post.context, IsQuotable t
  credential : ∀ t ∈ post.credential, IsQuotable t
  evidence : ∀ item ∈ post.evidence, item.WellFormed
  source : ∀ source ∈ post.source, source.WellFormed
  overrides_nodup : (post.overrides.map Prod.fst).Nodup
  overrides_bound : ∀ change ∈ post.overrides, 0 < change.2 ∧ change.2 < numberBound

end PostMarkup
