import Turnstile.Config.Load
/-!
A tree of files and directories, and what reading a path in it gives. A path is followed name by name,
and the first name that leads nowhere decides what is wrong with it.
-/
namespace Turnstile

inductive FileTree where
  | file (content : String)
  | directory (entries : List (String × FileTree))

namespace FileTree

def pathLimit : Nat := 4096

def nameLimit : Nat := 255

def entry? (name : String) (entries : List (String × FileTree)) : Option FileTree :=
  (entries.find? (·.1 == name)).map (·.2)

/-- Follows one name. The trail is what has been passed on the way, the latest first; the way up from
the top leads nowhere else. -/
def follow (trail : List FileTree) (name : String) : Except FileFault (List FileTree) :=
  match trail with
  | .directory entries :: above =>
    if name = "." then .ok trail
    else if name = ".." then .ok (if above.isEmpty then trail else above)
    else if nameLimit < name.utf8ByteSize then .error .nameTooLong
    else
      match entry? name entries with
      | some tree => .ok (tree :: trail)
      | none => .error .missing
  | _ => .error .notDirectory

def parts : List Char → List (List Char)
  | [] => [[]]
  | c :: cs =>
    if c = '/' then [] :: parts cs
    else
      match parts cs with
      | [] => [[c]]
      | p :: ps => (c :: p) :: ps

def names (path : List Char) : List String :=
  let ps := parts path
  (ps.filter (!·.isEmpty)).map String.ofList ++ (if ps.getLastD [] = [] then ["."] else [])

/-- What reading a path gives. It starts at the end of the trail, or at its top with a slash in
front. -/
def read (trail : List FileTree) (path : String) : FileContent := do
  if path.isEmpty then throw .missing
  if pathLimit ≤ path.utf8ByteSize then throw .nameTooLong
  let cs := path.toList
  let start := if cs.head? = some '/' then trail.getLast?.toList else trail
  match ← (names cs).foldlM follow start with
  | .file content :: _ => return content
  | _ => throw .isDirectory

example : names "./a//b/".toList = [".", "a", "b", "."] := by decide +kernel
example : (read [.directory [("a", .file "x")]] "./a").toOption = some "x" := by decide +kernel
example : (read [.directory [("a", .file "x")]] "b/../a").toOption = none := by decide +kernel

end FileTree
end Turnstile
