import Turnstile.Config.Document
import Turnstile.Config.Validation
import Turnstile.Toml.Document
/-!
Loading configurations from TOML documents. What is loaded has been validated.
-/
namespace Turnstile

inductive FileFault where
  | missing
  | notDirectory
  | isDirectory
  | denied
  | nameTooLong
  | notText
  deriving DecidableEq, Inhabited

def FileFault.message : FileFault → String
  | .missing => "No such file or directory (os error 2)"
  | .notDirectory => "Not a directory (os error 20)"
  | .isDirectory => "Is a directory (os error 21)"
  | .denied => "Permission denied (os error 13)"
  | .nameTooLong => "File name too long (os error 36)"
  | .notText => "stream did not contain valid UTF-8"

abbrev FileContent := Except FileFault String

inductive LoadError where
  | unreadable (fault : FileFault)
  | malformed
  | undecodable (e : DecodeError)
  | invalid (violations : List Violation)

def violationsMessage (violations : List Violation) : String :=
  "Validation failed: " ++ ", ".intercalate (violations.map Violation.message)

def LoadError.message : LoadError → String
  | .unreadable fault => "IO error: " ++ fault.message
  | .malformed => "Parse error: the text is not a TOML document"
  | .undecodable e => "Parse error: " ++ e.message .toml
  | .invalid violations => violationsMessage violations

namespace Config

def ofToml (source : String) : Except LoadError Config :=
  match Toml.document? source with
  | none => .error .malformed
  | some d =>
    match Config.ofData .toml d with
    | .error e => .error (.undecodable e)
    | .ok c =>
      match c.validate with
      | .error violations => .error (.invalid violations)
      | .ok () => .ok c

def load : FileContent → Except LoadError Config
  | .error fault => .error (.unreadable fault)
  | .ok source => ofToml source

end Config
end Turnstile
