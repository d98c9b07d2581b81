import PostMarkup.Document
import PostMarkup.Log

/-! The rendered form of a post: blocks of text with an empty line between any two. -/

namespace PostMarkup

namespace Document

def sentence (field : Option Text) : Text := field.getD [] ++ ['.']

def resultsBlock (items : List Evidence) : Text :=
  "Results:".toList ++ items.flatMap fun item => "\n- ".toList ++ item.text

/-- The block that says where the evidence comes from. -/
def sourceBlock (source : Source) : Text :=
  "Source: ".toList ++ source.title ++
    (match source.credibility with
      | some reason => "\n[".toList ++ reason ++ [']']
      | none => []) ++
    '\n' :: source.displayUrl

/-- The blocks of the rendered form, in order. -/
def blocks (post : Document) : List Text :=
  [sentence post.title] ++ post.context.toList ++ [sentence post.claim] ++
    (if post.evidence = [] then [] else [resultsBlock post.evidence]) ++
    [sentence post.insight] ++
    post.credential.toList.map (fun t => '[' :: t ++ [']']) ++
    post.source.toList.map sourceBlock

def render (post : Document) : Text := "\n\n".toList.intercalate post.blocks

def renderEvents (post : Document) : List Event :=
  [.rendered post.blocks.length post.render.length]

end Document

end PostMarkup
