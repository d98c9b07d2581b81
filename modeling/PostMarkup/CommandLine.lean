import PostMarkup.Text.Basic

/-! The command line: a subcommand with an input, and options before or after it. An option's value
stands in the same word or in the next one, and an option is given at most once on each side of the
subcommand. -/

namespace PostMarkup

inductive Command where
  | compile (output : Option Text)
  | analyze (json : Bool)
  deriving DecidableEq, Repr

structure Invocation where
  command : Command
  input : Text
  config : Option Text
  logLevel : Text
  deriving DecidableEq, Repr

/-- Why a command line asks for no work. -/
inductive UsageError where
  | helpAsked
  | versionAsked
  | nothingAsked
  | missingSubcommand
  | missingInput
  | unknownArgument
  | unknownSubcommand
  | repeatedOption
  | missingValue
  | unwantedValue
  deriving DecidableEq, Repr

def usage : String :=
  "Usage: quill [-c CONFIG] [--log-level LEVEL] compile INPUT [-o OUTPUT]\n" ++
    "       quill [-c CONFIG] [--log-level LEVEL] analyze INPUT [--json]\n\n" ++
    "INPUT is a path, or - for the standard input."

namespace UsageError

/-- The command line asks for what the answer tells, and is no mistake. -/
def isAnswered : UsageError → Bool
  | helpAsked | versionAsked => true
  | _ => false

def message : UsageError → String
  | helpAsked | nothingAsked => usage
  | versionAsked => "quill 0.1.0"
  | missingSubcommand => "error: a subcommand is required\n\n" ++ usage
  | missingInput => "error: an input is required\n\n" ++ usage
  | unknownArgument => "error: unexpected argument\n\n" ++ usage
  | unknownSubcommand => "error: unrecognized subcommand\n\n" ++ usage
  | repeatedOption => "error: an option is given more than once\n\n" ++ usage
  | missingValue => "error: an option needs a value\n\n" ++ usage
  | unwantedValue => "error: a flag takes no value\n\n" ++ usage

end UsageError

namespace CommandLine

/-- The options, with the flags among them. -/
inductive Opt where
  | config
  | logLevel
  | output
  | json
  | help
  | version
  deriving DecidableEq, Repr

def Opt.long : Opt → Text
  | config => "config".toList
  | logLevel => "log-level".toList
  | output => "output".toList
  | json => "json".toList
  | help => "help".toList
  | version => "version".toList

def Opt.short? : Opt → Option Char
  | config => some 'c'
  | output => some 'o'
  | help => some 'h'
  | version => some 'V'
  | logLevel | json => none

def Opt.takesValue : Opt → Bool
  | config | logLevel | output => true
  | json | help | version => false

/-- The side of the subcommand on which a word stands. -/
inductive Scope where
  | before
  | compile
  | analyze
  deriving DecidableEq, Repr

def Scope.options : Scope → List Opt
  | before => [.config, .logLevel, .help, .version]
  | compile => [.config, .logLevel, .output, .help]
  | analyze => [.config, .logLevel, .json, .help]

/-- The part that the name of a subcommand opens. -/
def Scope.ofName? (word : Text) : Option Scope :=
  if word = "compile".toList then some .compile
  else if word = "analyze".toList then some .analyze
  else none

def helpName : Text := "help".toList

/-- What the words of one side have said so far. -/
structure State where
  /-- The options that are settled, with their values. -/
  given : List (Opt × Text) := []
  /-- The last option, whose value may be still to come. It is settled by the next word that is not
  that value. -/
  pending : Option (Opt × Option Text) := none
  input : Option Text := none
  onlyInputs : Bool := false

namespace State

/-- The next word may be the value of an option. -/
def awaitsValue (s : State) : Bool :=
  match s.pending with
  | some (_, none) => true
  | _ => false

def give (s : State) (option : Opt) (value : Text) : Except UsageError State :=
  if (s.given.lookup option).isSome then .error .repeatedOption
  else .ok { s with given := s.given ++ [(option, value)] }

def settle (s : State) : Except UsageError State :=
  match s.pending with
  | none => .ok s
  | some (_, none) => .error .missingValue
  | some (option, some value) => { s with pending := none }.give option value

def flag (s : State) (option : Opt) : Except UsageError State := do
  let s ← s.settle
  match option with
  | .help => .error .helpAsked
  | .version => .error .versionAsked
  | option => s.give option []

/-- Takes an option with the value in its own word, if it is there. -/
def option (s : State) (option : Opt) (value : Option Text) : Except UsageError State := do
  let s ← s.settle
  match value with
  | some value => s.give option value
  | none => .ok { s with pending := some (option, none) }

def long (s : State) (scope : Scope) (word : Text) : Except UsageError State :=
  let name := word.takeWhile (· != '=')
  let value := (word.dropWhile (· != '=')).tail?
  match scope.options.find? (·.long = name) with
  | none => .error .unknownArgument
  | some option =>
    if option.takesValue then s.option option value
    else if value.isSome then .error .unwantedValue
    else s.flag option

/-- Takes the letters after one dash. What follows an option that takes a value is the value. -/
def short (s : State) (scope : Scope) : Text → Except UsageError State
  | [] => .ok s
  | letter :: rest =>
    match scope.options.find? (·.short? = some letter) with
    | none => .error .unknownArgument
    | some option =>
      if option.takesValue then
        s.option option
          (match rest with
            | [] => none
            | '=' :: value => some value
            | value => some value)
      else do (← s.flag option).short scope rest

def plain (s : State) (scope : Scope) (word : Text) : Except UsageError State :=
  match scope, s.input with
  | .before, _ =>
    if s.onlyInputs ∧ ((Scope.ofName? word).isSome ∨ word = helpName) then .error .unknownArgument
    else .error .unknownSubcommand
  | _, some _ => .error .unknownArgument
  | _, none => do return { ← s.settle with input := some word }

def take (s : State) (scope : Scope) (word : Text) : Except UsageError State :=
  if s.onlyInputs then s.plain scope word
  else
    match word with
    | ['-', '-'] => .ok { s with onlyInputs := true }
    | '-' :: '-' :: word => s.long scope word
    | '-' :: letter :: letters => s.short scope (letter :: letters)
    | word =>
      match s.pending with
      | some (option, none) => .ok { s with pending := some (option, some word) }
      | _ => s.plain scope word

end State

def readAfter (scope : Scope) : State → List Text → Except UsageError State
  | s, [] => do
    let s ← s.settle
    if s.input.isSome then .ok s else .error .missingInput
  | s, word :: words => do readAfter scope (← s.take scope word) words

/-- What comes of asking for help on the subcommands named. -/
def helpOn : List Text → UsageError
  | [] => .helpAsked
  | [word] =>
    if (Scope.ofName? word).isSome ∨ word = helpName then .helpAsked else .unknownSubcommand
  | _ => .unknownSubcommand

/-- What both sides of a subcommand say together. The words after it come first. -/
def combine (command : Command) (before after : State) : Invocation where
  command := command
  input := after.input.getD []
  config := after.given.lookup .config <|> before.given.lookup .config
  logLevel :=
    (after.given.lookup .logLevel <|> before.given.lookup .logLevel).getD "info".toList

/-- The command of a subcommand with what stands after it. -/
def command (scope : Scope) (after : State) : Command :=
  match scope with
  | .analyze => .analyze (after.given.lookup .json).isSome
  | _ => .compile (after.given.lookup .output)

/-- Reads the words up to a subcommand, and those after it. -/
def readBefore : State → List Text → Except UsageError Invocation
  | s, [] => do
    let s ← s.settle
    .error (if s.given.isEmpty then .nothingAsked else .missingSubcommand)
  | s, word :: words =>
    if s.onlyInputs ∨ s.awaitsValue then do readBefore (← s.take .before word) words
    else if word = helpName then .error (helpOn words)
    else
      match Scope.ofName? word with
      | none => do readBefore (← s.take .before word) words
      | some scope => do
        let after ← readAfter scope {} words
        let before ← s.settle
        return combine (command scope after) before after

end CommandLine

/-- Reads a command line, without the name of the program. -/
def Invocation.ofWords (words : List Text) : Except UsageError Invocation :=
  CommandLine.readBefore {} words

end PostMarkup
