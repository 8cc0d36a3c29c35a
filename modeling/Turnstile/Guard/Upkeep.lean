import Turnstile.Config.Load
import Turnstile.Guard.Basic
/-!
Keeping a guard up to date: its configuration is replaced as a whole or not at all, and its
registries are swept by the settings of the configuration in effect.
-/
namespace Turnstile.Guard

variable {α : Type}

/-- Puts a configuration into effect under the next version number, if it is valid. -/
def replace (g : Guard α) (c : Config) : Except (List Violation) Nat × Guard α :=
  match Snapshot.compile (g.snapshot.version + 1) c with
  | .error violations => (.error violations, g)
  | .ok snapshot =>
    (.ok snapshot.version, { g with snapshot }.report
      [.logged .info "Policy snapshot replaced" [("version", toString snapshot.version)]])

def update (g : Guard α) (c : Config) : Guard α :=
  match g.replace c with
  | (.ok _, g) => g
  | (.error violations, g) =>
    g.report (violations.map fun v =>
      .logged .error "Rejected configuration update" [("error", v.message)])

def reload (g : Guard α) (configs : List Config) : Guard α :=
  (configs.foldl update g).report [.logged .debug "Config reloader stopped" []]

def reloadFrom (g : Guard α) : Except LoadError Config → Except LoadError Nat × Guard α
  | .error e => (.error e, g)
  | .ok c =>
    match g.replace c with
    | (.ok version, g) => (.ok version, g)
    | (.error violations, g) => (.error (.invalid violations), g)

def reloadFile (g : Guard α) (file : FileContent) : Except LoadError Nat × Guard α :=
  g.reloadFrom (Config.load file)

def sweepNotices (registry : String) (removed left : Nat) : List Notice :=
  (if removed = 0 then []
   else [.logged .info "Evicted idle keys"
     [("registry", registry), ("removed", toString removed)]]) ++
  [.registrySize registry left]

def sweep [Quantity α] (g : Guard α) : Nat × Guard α :=
  let retention := g.snapshot.config.retention
  let (limiter, buckets) := g.limiter.sweep g.now retention
  let (breakers, circuits) := g.breakers.sweep g.now retention
  (buckets + circuits,
   { g with limiter, breakers }.report
     (sweepNotices Limiter.label buckets limiter.size ++
      sweepNotices Breakers.label circuits breakers.size))

/-- Sweeps whenever the interval in effect at the start has passed, for as long as `wait`. -/
def runSweeper [Quantity α] (g : Guard α) (wait : Span) : Guard α :=
  let interval := g.snapshot.config.retention.sweepInterval
  let g := g.report [.logged .info "Registry sweeper starting"
    [("interval_secs", toString interval.secs)]]
  let g := (wait / interval).repeat (fun g => g.sweep.2) g
  g.report [.logged .info "Registry sweeper received shutdown signal, exiting loop" []]

end Turnstile.Guard
