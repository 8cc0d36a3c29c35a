/-!
What a reader sees of a text that may hold control characters and the control sequences of terminals:
the text without them. Blanks among the control characters stay, wherever they stand. A text of
characters that can be seen is left as it is.
-/
namespace Turnstile.Text

inductive ControlSequence where
  | none
  | escape
  | escapeRest
  | command
  /-- The head of a string for a device: at its start, in its parameters, after them. -/
  | device | deviceParameters | deviceRest
  | string
  /-- A title, which a bell ends too. -/
  | title
  deriving DecidableEq, Inhabited

def isBetween (lo hi c : Char) : Bool := lo ≤ c && c ≤ hi

def isBlankControl (c : Char) : Bool := c == '\t' || c == '\n' || c == '\x0c' || c == '\r'

def isPlain (c : Char) : Bool := isBetween ' ' '~' c || isBlankControl c

def isWide (c : Char) : Bool := 128 ≤ c.toNat

/-- The terminator of a string is a single byte, and is taken for one also inside a character of
several bytes. -/
def isTerminator (c : Char) : Bool := (String.utf8EncodeChar c).tail.contains 0x9C

namespace ControlSequence

def afterEscape (c : Char) : ControlSequence :=
  match c with
  | '[' => .command
  | ']' => .title
  | 'P' => .device
  | 'X' | '^' | '_' => .string
  | c =>
    if isBetween ' ' '/' c then .escapeRest
    else if isBetween '0' '~' c then .none
    else .escape

def next (s : ControlSequence) (c : Char) : ControlSequence :=
  if c = '\x1b' then .escape
  else if c = '\x18' ∨ c = '\x1a' then .none
  else
    match s with
    | .none => .none
    | .escape => afterEscape c
    | .escapeRest => if isBetween '0' '~' c then .none else s
    | .command => if isBetween '@' '~' c then .none else s
    | .device =>
      if isBetween ' ' '/' c then .deviceRest
      else if isBetween '0' '?' c then .deviceParameters
      else if isBetween '@' '~' c then .string
      else s
    | .deviceParameters =>
      if isBetween ' ' '/' c then .deviceRest
      else if isBetween '<' '~' c then .string
      else s
    | .deviceRest => if isBetween '0' '~' c then .string else s
    | .string => if isTerminator c then .none else s
    | .title => if c = '\x07' then .none else s

/-- Whether control characters inside the sequence count for themselves. -/
def isShort : ControlSequence → Bool
  | .escape | .escapeRest | .command => true
  | _ => false

end ControlSequence

structure Reading where
  sequence : ControlSequence
  /-- Whether text is shown: outside of sequences, and in one from a blank on up to the next control
  character. -/
  shown : Bool
  deriving DecidableEq, Inhabited

namespace Reading

def start : Reading := ⟨.none, true⟩

def shows (r : Reading) (c : Char) : Bool :=
  if r.shown then isPlain c || isWide c else r.sequence.isShort && isBlankControl c

def step (r : Reading) (c : Char) : Reading :=
  if r.shows c then ⟨if isWide c then .none else r.sequence, true⟩
  else
    let s := r.sequence.next c
    ⟨s, s == .none⟩

def visible : Reading → List Char → List Char
  | _, [] => []
  | r, c :: cs => if r.shows c then c :: visible (r.step c) cs else visible (r.step c) cs

end Reading

def visible (s : String) : String := String.ofList (Reading.start.visible s.toList)

def emphasized (s : String) : String := "\x1b[1m" ++ s ++ "\x1b[0m"

example : visible (emphasized "a\tb\x01é") = "a\tbé" := by decide +kernel
example : visible (emphasized "a\x1b[" ++ "b\x1b]c\x07d") = "abd" := by decide +kernel
example : visible "\x1b[3\tm\x01mn" = "\tmn" := by decide +kernel

end Turnstile.Text
