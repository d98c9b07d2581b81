import PostMarkup.Analysis

/-! The two printed forms of an analysis: a summary for readers, and JSON. -/

namespace PostMarkup

namespace Analysis

def yesNo (b : Bool) : String := if b then "yes" else "no"

/-- A heading and the items under it, or nothing if there are none. -/
def headed (heading : String) (items : List String) : String :=
  if items.isEmpty then ""
  else heading ++ ":\n" ++ String.join (items.map fun item => "  - " ++ item ++ "\n")

def summary (a : Analysis) : String :=
  s!"Score: {a.score}/100 (" ++ (if a.valid then "valid" else "invalid") ++ ")\n" ++
    "Structure: title " ++ yesNo a.outline.title ++ ", claim " ++ yesNo a.outline.claim ++
    s!", evidence {a.outline.evidence}, insight " ++ yesNo a.outline.insight ++
    ", source " ++ yesNo a.outline.source ++ "\n" ++
    headed "Issues" a.issues ++ headed "Warnings" a.warnings ++
    headed "Suggestions" a.suggestions

end Analysis

/-- JSON values, as far as an analysis has them. -/
inductive Json where
  | flag (b : Bool)
  | number (n : Nat)
  | texts (items : List String)
  | record (fields : List (String × Json))

namespace Json

def hexDigit (n : Nat) : Char := if n < 10 then Char.ofNat (48 + n) else Char.ofNat (87 + n)

/-- A character within quotes. Quotes, backslashes and control characters are escaped. -/
def escape (c : Char) : Text :=
  match c with
  | '"' => ['\\', '"']
  | '\\' => ['\\', '\\']
  | '\n' => ['\\', 'n']
  | '\r' => ['\\', 'r']
  | '\t' => ['\\', 't']
  | '\x08' => ['\\', 'b']
  | '\x0C' => ['\\', 'f']
  | c =>
    if c.toNat < 0x20 then
      ['\\', 'u', '0', '0', hexDigit (c.toNat / 16), hexDigit (c.toNat % 16)]
    else [c]

def quote (s : String) : String := "\"" ++ String.ofList (s.toList.flatMap escape) ++ "\""

def indent (depth : Nat) : String := String.ofList (List.replicate (2 * depth) ' ')

/-- Lines between brackets, a line for each. -/
def block (depth : Nat) (opening closing : String) (lines : List String) : String :=
  if lines.isEmpty then opening ++ closing
  else
    opening ++ "\n" ++ ",\n".intercalate (lines.map fun line => indent (depth + 1) ++ line) ++
      "\n" ++ indent depth ++ closing

mutual

/-- The value at a depth, which is that of the line on which it starts. -/
def pretty (depth : Nat) : Json → String
  | flag b => toString b
  | number n => toString n
  | texts items => block depth "[" "]" (items.map quote)
  | record fields => block depth "\x7b" "\x7d" (prettyFields (depth + 1) fields)

def prettyFields (depth : Nat) : List (String × Json) → List String
  | [] => []
  | (name, value) :: rest => (quote name ++ ": " ++ value.pretty depth) :: prettyFields depth rest

end

end Json

def Analysis.json (a : Analysis) : Json :=
  .record
    [("valid", .flag a.valid),
      ("score", .number a.score),
      ("structure", .record
        [("title", .flag a.outline.title),
          ("claim", .flag a.outline.claim),
          ("evidence", .number a.outline.evidence),
          ("insight", .flag a.outline.insight),
          ("source", .flag a.outline.source)]),
      ("issues", .texts a.issues),
      ("warnings", .texts a.warnings),
      ("suggestions", .texts a.suggestions)]

/-- What is printed of an analysis, in the form asked for. -/
def Analysis.printed (a : Analysis) (json : Bool) : Text :=
  if json then (a.json.pretty 0).toList ++ ['\n'] else a.summary.toList

end PostMarkup
