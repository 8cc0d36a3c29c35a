import Turnstile.Key
import Turnstile.Time
/-!
State kept per key, and its sweep. A sweep evicts the keys that have been idle for long, and then,
while more keys are left than may be, those used least recently. A key that is held stays.
-/
namespace Turnstile

structure Retention where
  idleEvictionSecs : Nat
  sweepIntervalSecs : Nat
  maxKeys : Nat
  deriving DecidableEq

namespace Retention

def standard : Retention where
  idleEvictionSecs := 3600
  sweepIntervalSecs := 60
  maxKeys := 10000

instance : Inhabited Retention := ⟨standard⟩

def idleEviction (r : Retention) : Span := .ofSecs r.idleEvictionSecs
def sweepInterval (r : Retention) : Span := .ofSecs r.sweepIntervalSecs

end Retention

/-- Values by key, in the order in which the keys came. -/
structure Registry (α : Type) where
  entries : List (Key × α)

namespace Registry

variable {α : Type}

def empty : Registry α := ⟨[]⟩

instance : Inhabited (Registry α) := ⟨empty⟩

def size (r : Registry α) : Nat := r.entries.length

def get? (r : Registry α) (key : Key) : Option α := (r.entries.find? (·.1 == key)).map (·.2)

def contains (r : Registry α) (key : Key) : Bool := (r.get? key).isSome

def insert (r : Registry α) (key : Key) (value : α) : Registry α :=
  if r.contains key then ⟨r.entries.map fun e => if e.1 == key then (key, value) else e⟩
  else ⟨r.entries ++ [(key, value)]⟩

structure Tracking (α : Type) where
  lastAccess : α → Instant
  held : α → Bool

def survives (t : Tracking α) (now : Instant) (idle : Span) (e : Key × α) : Bool :=
  t.held e.2 || now.since (t.lastAccess e.2) < idle

def evictable (t : Tracking α) (entries : List (Key × α)) : List (Key × α) :=
  (entries.filter fun e => !t.held e.2).mergeSort fun a b => t.lastAccess a.2 ≤ t.lastAccess b.2

def live (t : Tracking α) (now : Instant) (idle : Span) (r : Registry α) : List (Key × α) :=
  r.entries.filter (survives t now idle)

def victims (t : Tracking α) (now : Instant) (idle : Span) (maxKeys : Nat) (r : Registry α) :
    List (Key × α) :=
  (evictable t (live t now idle r)).take ((live t now idle r).length - maxKeys)

def without (r : Registry α) (key : Key) : Registry α := ⟨r.entries.filter fun e => e.1 != key⟩

def evict (t : Tracking α) (swept : Registry α × Nat) (key : Key) : Registry α × Nat :=
  if swept.1.entries.any fun e => e.1 == key && !t.held e.2 then
    (swept.1.without key, swept.2 + 1)
  else swept

/-- What a sweep leaves, and the number of evictions: those of idle entries, and then one by one those
for room. -/
def sweep (t : Tracking α) (now : Instant) (idle : Span) (maxKeys : Nat) (r : Registry α) :
    Registry α × Nat :=
  let idlers := r.entries.countP fun e => !survives t now idle e
  ((victims t now idle maxKeys r).map (·.1)).foldl (evict t) (⟨live t now idle r⟩, idlers)

end Registry
end Turnstile
