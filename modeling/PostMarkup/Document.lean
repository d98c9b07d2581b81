import PostMarkup.Limit

/-! A post as its author structured it: a title, a claim, evidence, an insight and a source, each of
which may still be missing. -/

namespace PostMarkup

/-- A number and what it means. -/
structure Evidence where
  value : Text
  context : Text
  deriving DecidableEq, Repr

/-- The item as readers see it. -/
def Evidence.text (item : Evidence) : Text := item.value ++ ' ' :: item.context

/-- Where the evidence comes from. -/
structure Source where
  title : Text
  url : Text
  credibility : Option Text := none
  deriving DecidableEq, Repr

/-- `t` without `start` at its start, if it is there. -/
def Text.dropStart (start : String) (t : Text) : Text := (start.toList.isPrefixOf? t).getD t

/-- The address as readers see it: without its scheme and without `www.`. -/
def Source.displayUrl (source : Source) : Text :=
  let bare :=
    match "https://".toList.isPrefixOf? source.url with
    | some rest => rest
    | none => Text.dropStart "http://" source.url
  Text.dropStart "www." bare

/-- A post before it is checked. A field that holds one value holds the last one written. -/
structure Document where
  title : Option Text := none
  claim : Option Text := none
  evidence : List Evidence := []
  insight : Option Text := none
  context : Option Text := none
  credential : Option Text := none
  source : Option Source := none
  overrides : Overrides := []
  deriving DecidableEq, Repr, Inhabited

namespace Document

/-- The limits in force for the post, where `defaults` hold for what it leaves open. -/
def limits (post : Document) (defaults : Limits) : Limits := defaults.override post.overrides

/-- The post with a limit of its own, in place of one that it has set under that name. -/
def setLimit (post : Document) (name : LimitName) (value : Nat) : Document :=
  { post with overrides := post.overrides.record name value }

@[simp] theorem overrides_setLimit (post : Document) (name : LimitName) (value : Nat) :
    (post.setLimit name value).overrides = post.overrides.record name value :=
  rfl

/-- The texts that the rules of style are about. -/
def styledTexts (post : Document) : List Text :=
  [post.title, post.claim, post.insight, post.context].filterMap id ++
    post.evidence.map Evidence.context

/-- The texts that the rules of style are about, a line break between any two. -/
def prose (post : Document) : Text := ['\n'].intercalate post.styledTexts

end Document

end PostMarkup
