import Turnstile.Notice
/-!
Metrics of a guard: rejections by reason and tenant, changes of state, outcomes, and the number of
keys in each registry. Tenants are named by the callers, so only a limited number of them get a
series of their own; all later ones share one.
-/
namespace Turnstile

structure Series where
  name : String
  labels : List (String × String)
  deriving DecidableEq, Inhabited

namespace Series

def rejections (reason : Reason) (tenant : String) : Series :=
  ⟨"rpc_guard_rejections_total", [("reason", reason.name), ("tenant", tenant)]⟩

def transitions (change : Transition) : Series :=
  ⟨"rpc_guard_state_transitions_total",
   [("from", change.source.name), ("to", change.target.name)]⟩

def outcomes (outcome : Outcome) : Series :=
  ⟨"rpc_guard_outcomes_total", [("outcome", outcome.name)]⟩

def registryKeys (registry : String) : Series :=
  ⟨"rpc_guard_registry_keys", [("registry", registry)]⟩

/-- Labels before longer lists of labels, and else by the first difference. -/
def labelsBefore : List (String × String) → List (String × String) → Bool
  | [], _ => true
  | _, [] => false
  | a :: as, b :: bs =>
    if a = b then labelsBefore as bs else if a.1 = b.1 then a.2 < b.2 else a.1 < b.1

def before (a b : Series) : Bool :=
  if a.name = b.name then labelsBefore a.labels b.labels else a.name < b.name

end Series

def overflowTenant : String := "other"

def standardTenantLimit : Nat := 100

structure Metrics where
  tenantLimit : Nat
  tenants : List String
  values : List (Series × Nat)
  deriving DecidableEq

namespace Metrics

def ofLimit (tenantLimit : Nat) : Metrics := ⟨tenantLimit, [], []⟩

instance : Inhabited Metrics := ⟨ofLimit standardTenantLimit⟩

def value? (m : Metrics) (s : Series) : Option Nat := (m.values.find? (·.1 == s)).map (·.2)

def set (m : Metrics) (s : Series) (n : Nat) : Metrics :=
  if (m.value? s).isSome then
    { m with values := m.values.map fun v => if v.1 == s then (s, n) else v }
  else { m with values := m.values ++ [(s, n)] }

def increment (m : Metrics) (s : Series) : Metrics := m.set s ((m.value? s).getD 0 + 1)

/-- The label of a tenant. A new tenant gets one of its own while there is room. -/
def labelOf (m : Metrics) (tenant : String) : String × Metrics :=
  if m.tenants.contains tenant then (tenant, m)
  else if m.tenants.length < m.tenantLimit then
    (tenant, { m with tenants := m.tenants ++ [tenant] })
  else (overflowTenant, m)

def recordEvent (m : Metrics) : Event → Metrics
  | .rejected key reason =>
    let (label, m) := m.labelOf key.tenant
    m.increment (.rejections reason label)
  | .transition _ change => m.increment (.transitions change)
  | .outcome _ outcome => m.increment (.outcomes outcome)

def recordNotice (m : Metrics) : Notice → Metrics
  | .event e => m.recordEvent e
  | .log _ => m
  | .registrySize registry keys => m.set (.registryKeys registry) keys

def listing (m : Metrics) : List (Series × Nat) :=
  m.values.mergeSort fun a b => a.1.before b.1

end Metrics
end Turnstile
