import Turnstile.Text.Blank
import Turnstile.Text.Visible
/-!
The arguments of the command line and the commands that they make. A value is checked when the
argument after it is understood, or at the end; an argument that is not understood is reported before
that.
-/
namespace Turnstile

inductive Command where
  | validate (config : String)
  | resolve (config method : String) (attributes : List (String × String))
  | watch (config : String)
  deriving DecidableEq, Inhabited

inductive CommandName where
  | validate | resolve | watch | help
  deriving DecidableEq, Inhabited

namespace CommandName

def text : CommandName → String
  | .validate => "validate"
  | .resolve => "resolve"
  | .watch => "watch"
  | .help => "help"

def all : List CommandName := [.validate, .resolve, .watch, .help]

def ofText? (text : String) : Option CommandName := all.find? fun n => n.text == text

end CommandName

inductive Slot where
  | config | method
  deriving DecidableEq, Inhabited

def Slot.label : Slot → String
  | .config => "<CONFIG>"
  | .method => "<METHOD>"

def CommandName.slots : CommandName → List Slot
  | .validate | .watch => [.config]
  | .resolve => [.config, .method]
  | .help => []

def attributeLabel : String := "--attr <ATTRIBUTES>"

inductive UsageError where
  | help (topic : Option CommandName)
  | noCommand
  | unknownCommand (text : String)
  | unexpected (argument : String)
  | unexpectedValue (value option : String)
  | missingValue (label : String)
  | missingArguments (slots : List Slot)
  | invalidAttribute (value : String)
  deriving DecidableEq, Inhabited

namespace UsageError

/-- What is wrong, with the quoted texts emphasized; the reason against an attribute quotes its text
as it is. -/
def message : UsageError → String
  | .help _ | .noCommand => ""
  | .unknownCommand text => s!"unrecognized subcommand '{Text.emphasized text}'"
  | .unexpected argument => s!"unexpected argument '{Text.emphasized argument}' found"
  | .unexpectedValue value option =>
    s!"unexpected value '{Text.emphasized value}' for '{Text.emphasized option}' found; " ++
    "no more were expected"
  | .missingValue label =>
    s!"a value is required for '{Text.emphasized label}' but none was supplied"
  | .missingArguments slots =>
    "the following required arguments were not provided:" ++
    slots.foldl (fun text s => s!"{text}\n  {Text.emphasized s.label}") ""
  | .invalidAttribute value =>
    s!"invalid value '{Text.emphasized value}' for '{Text.emphasized attributeLabel}': " ++
    s!"expected name=value, got \x60{value}\x60"

end UsageError

def attribute? (text : String) : Option (String × String) :=
  let cs := text.toList
  let name := Text.trimmed (cs.takeWhile (· ≠ '='))
  if cs.contains '=' && !name.isEmpty then
    some (String.ofList name, String.ofList ((cs.dropWhile (· ≠ '=')).drop 1))
  else none

inductive Argument where
  | separator
  | long (name : String) (value : Option String)
  | short (flag : Char)
  | plain (text : String)
  deriving DecidableEq

def Argument.ofText (text : String) : Argument :=
  match text.toList with
  | ['-', '-'] => .separator
  | '-' :: '-' :: cs =>
    let name := String.ofList (cs.takeWhile (· ≠ '='))
    match cs.dropWhile (· ≠ '=') with
    | [] => .long name none
    | _ :: value => .long name (some (String.ofList value))
  | '-' :: c :: _ => .short c
  | _ => .plain text

structure Gathered where
  config : Option String
  method : Option String
  attributes : List (String × String)
  deriving DecidableEq

inductive Pending where
  | nothing
  | slot (s : Slot) (text : String)
  | attribute (value : Option String)
  deriving DecidableEq

namespace Gathered

def addAttribute (g : Gathered) (value : String) : Except UsageError Gathered :=
  match attribute? value with
  | none => .error (.invalidAttribute value)
  | some a => .ok { g with attributes := g.attributes ++ [a] }

def settle (g : Gathered) : Pending → Except UsageError Gathered
  | .nothing => .ok g
  | .slot .config text =>
    if text.isEmpty then .error (.missingValue Slot.config.label)
    else .ok { g with config := some text }
  | .slot .method text => .ok { g with method := some text }
  | .attribute none => .error (.missingValue attributeLabel)
  | .attribute (some value) => g.addAttribute value

def command (g : Gathered) : CommandName → Except UsageError Command
  | .help => .error (.help none)
  | .resolve =>
    match g.config, g.method with
    | some config, some method => .ok (.resolve config method g.attributes)
    | none, some _ => .error (.missingArguments [.config])
    | some _, none => .error (.missingArguments [.method])
    | none, none => .error (.missingArguments [.config, .method])
  | .validate =>
    match g.config with
    | some config => .ok (.validate config)
    | none => .error (.missingArguments [.config])
  | .watch =>
    match g.config with
    | some config => .ok (.watch config)
    | none => .error (.missingArguments [.config])

end Gathered

def takeSlot (text : String) (slots : List Slot) (pending : Pending) (g : Gathered) :
    Except UsageError (List Slot × Pending × Gathered) :=
  match slots with
  | [] => .error (.unexpected text)
  | s :: slots => do
    let g ← g.settle pending
    return (slots, .slot s text, g)

/-- Gathers the values of a command. After a separator every argument is a value with a place. -/
def gather (name : CommandName) :
    List String → Bool → List Slot → Pending → Gathered → Except UsageError Gathered
  | [], _, _, pending, g => g.settle pending
  | text :: rest, true, slots, pending, g => do
    let (slots, pending, g) ← takeSlot text slots pending g
    gather name rest true slots pending g
  | text :: rest, false, slots, pending, g =>
    match Argument.ofText text with
    | .separator => gather name rest true slots pending g
    | .long "help" none => do
      discard (g.settle pending)
      .error (.help (some name))
    | .long "help" (some value) => .error (.unexpectedValue value "--help")
    | .long option value =>
      if name = .resolve ∧ option = "attr" then do
        let g ← g.settle pending
        match value with
        | none => gather name rest false slots (.attribute none) g
        | some value => gather name rest false slots .nothing (← g.addAttribute value)
      else .error (.unexpected s!"--{option}")
    | .short 'h' => do
      discard (g.settle pending)
      .error (.help (some name))
    | .short flag => .error (.unexpected s!"-{flag}")
    | .plain text =>
      if pending = .attribute none then gather name rest false slots (.attribute (some text)) g
      else do
        let (slots, pending, g) ← takeSlot text slots pending g
        gather name rest false slots pending g

def helpOn : List String → UsageError
  | [] => .help none
  | text :: rest =>
    match CommandName.ofText? text, rest with
    | none, _ => .unknownCommand text
    | some name, [] => .help (some name)
    | some _, more :: _ => .unknownCommand more

def Command.ofArguments : List String → Except UsageError Command
  | [] => .error .noCommand
  | text :: rest =>
    match Argument.ofText text with
    | .separator =>
      match rest with
      | [] => .error .noCommand
      | text :: _ =>
        if (CommandName.ofText? text).isSome then .error (.unexpected text)
        else .error (.unknownCommand text)
    | .long "help" none | .short 'h' => .error (.help none)
    | .long "help" (some value) => .error (.unexpectedValue value "--help")
    | .long option _ => .error (.unexpected s!"--{option}")
    | .short flag => .error (.unexpected s!"-{flag}")
    | .plain text =>
      match CommandName.ofText? text with
      | none => .error (.unknownCommand text)
      | some .help => .error (helpOn rest)
      | some name => do
        let g ← gather name rest false name.slots .nothing ⟨none, none, []⟩
        g.command name

example : (Command.ofArguments ["resolve", "c", "--attr", " a =b=c", "m"]).toOption =
    some (.resolve "c" "m" [("a", "b=c")]) := by decide +kernel
example : Command.ofArguments ["resolve", "", "m", "x"] = .error (.missingValue "<CONFIG>") := by
  cbv
example : Command.ofArguments ["validate", "", "x"] = .error (.unexpected "x") := by cbv

end Turnstile
