/-!
Partition keys. A key is text: attribute values, each closed by a colon, before the name of a method
or of a pattern. The text before the first colon names the tenant.
-/
namespace Turnstile

def unknownAttribute : String := "unknown"

structure Key where
  text : String
  deriving DecidableEq, Inhabited

namespace Key

def tenant (k : Key) : String :=
  let cs := k.text.toList
  let head := cs.takeWhile (· ≠ ':')
  if cs.contains ':' && !head.isEmpty then String.ofList head else unknownAttribute

example : tenant ⟨"acme:m:x"⟩ = "acme" := by decide +kernel
example : tenant ⟨":m"⟩ = "unknown" ∧ tenant ⟨"m"⟩ = "unknown" := by decide +kernel

/-- Attribute segments, each closed by a colon, before the base. -/
def ofSegments (segments : List String) (base : String) : Key :=
  ⟨segments.foldr (fun s rest => s ++ ":" ++ rest) base⟩

end Key

def normalizeMethod (method : String) : String :=
  match method.toList with
  | '/' :: rest => String.ofList rest
  | _ => method

end Turnstile
