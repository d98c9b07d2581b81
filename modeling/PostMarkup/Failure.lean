import PostMarkup.Diagnostic
import PostMarkup.Limit

/-! Why a run of the program fails. -/

namespace PostMarkup

inductive IoError where
  | notFound
  | notDirectory
  | isDirectory
  | nameTooLong
  | nulInPath
  | notUtf8
  | other (text : String)
  deriving DecidableEq, Repr

def IoError.message : IoError → String
  | notFound => "No such file or directory (os error 2)"
  | notDirectory => "Not a directory (os error 20)"
  | isDirectory => "Is a directory (os error 21)"
  | nameTooLong => "File name too long (os error 36)"
  | nulInPath => "file name contained an unexpected NUL byte"
  | notUtf8 => "stream did not contain valid UTF-8"
  | other text => text

inductive ConfigError where
  | missingFile (path : Text)
  /-- The file is no TOML, or its settings are not those of a configuration. The reason is what the
  reader of the file says. -/
  | malformed (reason : String)
  | zeroLimit (name : LimitName)
  | other (text : String)
  deriving DecidableEq, Repr

def ConfigError.message : ConfigError → String
  | missingFile path => "Missing configuration file: " ++ String.ofList path
  | malformed reason => "Failed to parse TOML configuration: " ++ reason
  | zeroLimit name =>
    "Validation error: limit `" ++ name.word ++ "` must be greater than zero"
  | other text => text

inductive Failure where
  | io (error : IoError)
  /-- The post has errors. They point into its text. -/
  | compile (errors : List Diagnostic) (post : Text)
  | config (error : ConfigError)
  deriving DecidableEq, Repr

def Failure.message : Failure → String
  | io error => "I/O error: " ++ error.message
  | compile errors _ => Diagnostic.displayAll errors
  | config error => "Configuration error: " ++ error.message

end PostMarkup
