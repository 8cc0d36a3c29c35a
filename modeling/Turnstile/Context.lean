import Turnstile.Headers
/-!
The attributes that a call carries. A guard only looks them up by name.
-/
namespace Turnstile

def tenantAttribute : String := "x-tenant-id"

structure RequestContext where
  attributes : List (String × String)
  deriving DecidableEq, Inhabited

namespace RequestContext

def empty : RequestContext := ⟨[]⟩

def insert (c : RequestContext) (name value : String) : RequestContext :=
  ⟨(c.attributes.filter (·.1 != name.toLower)) ++ [(name.toLower, value)]⟩

def ofList (attributes : List (String × String)) : RequestContext :=
  attributes.foldl (fun c a => c.insert a.1 a.2) empty

/-- The readable fields of some headers; of several values under one name the last is kept. -/
def ofHeaders (h : Headers) : RequestContext := ofList (h.fields.filter fun f => isReadable f.2)

def forTenant (tenant : String) : RequestContext := empty.insert tenantAttribute tenant

def get? (c : RequestContext) (name : String) : Option String :=
  (c.attributes.find? (·.1 == name.toLower)).map (·.2)

def tenant? (c : RequestContext) : Option String := c.get? tenantAttribute

end RequestContext

inductive Context where
  | empty
  /-- A map of attributes, later pairs before earlier ones of the same name. -/
  | map (attributes : List (String × String))
  | headers (h : Headers)
  | request (c : RequestContext)
  deriving DecidableEq, Inhabited

namespace Context

/-- The attributes of a map under their exact names; the last of equal names counts. -/
def ofList (attributes : List (String × String)) : Context := .map attributes.reverse

/-- The value of an attribute. Maps tell the cases of names apart, headers and requests do not. -/
def get? (name : String) : Context → Option String
  | .empty => none
  | .map attributes => (attributes.find? (·.1 == name)).map (·.2)
  | .headers h => h.readable? name
  | .request c => c.get? name

end Context
end Turnstile
