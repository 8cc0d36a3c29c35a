import Turnstile.Proofs.Guard.Twins
/-!
Upkeep, as the keys see it. New policies reach every facet of a guard at once and change nothing else
there; and a sweep that evicts no key for room treats each key by its own entries alone.
-/
namespace Turnstile

namespace Guard

variable {α : Type} {g g' : Guard α} {key other : Key}

theorem replace_congr (hf : g.facet key = g'.facet key) (c : Config) :
    (g.replace c).1 = (g'.replace c).1 ∧ (g.replace c).2.facet key = (g'.replace c).2.facet key := by
  simp only [replace, snapshot_eq hf]
  cases Snapshot.compile (g'.snapshot.version + 1) c with
  | error violations => exact ⟨rfl, hf⟩
  | ok snapshot =>
    have hinstalled : ({ g with snapshot } : Guard α).facet key =
        ({ g' with snapshot } : Guard α).facet key :=
      facet_congr rfl (bucket_eq hf :) (circuit_eq hf :) (keyEvents_eq hf :)
    exact ⟨rfl, report_congr hinstalled _⟩

theorem update_congr (hf : g.facet key = g'.facet key) (c : Config) :
    (g.update c).facet key = (g'.update c).facet key := by
  obtain ⟨hresult, hreplaced⟩ := replace_congr hf c
  simp only [update]
  generalize g.replace c = answer at hresult hreplaced ⊢
  generalize g'.replace c = answer' at hresult hreplaced ⊢
  obtain ⟨result, replaced⟩ := answer
  obtain ⟨result', replaced'⟩ := answer'
  obtain rfl : result = result' := hresult
  cases result with
  | ok version => exact hreplaced
  | error violations => exact report_congr hreplaced _

theorem reload_congr (hf : g.facet key = g'.facet key) (configs : List Config) :
    (g.reload configs).facet key = (g'.reload configs).facet key := by
  suffices hfold : (configs.foldl update g).facet key = (configs.foldl update g').facet key from
    report_congr hfold _
  induction configs generalizing g g' with
  | nil => exact hf
  | cons c configs ih => exact ih (update_congr hf c)

theorem reloadFrom_congr (hf : g.facet key = g'.facet key) (loaded : Except LoadError Config) :
    (g.reloadFrom loaded).1 = (g'.reloadFrom loaded).1 ∧
      (g.reloadFrom loaded).2.facet key = (g'.reloadFrom loaded).2.facet key := by
  cases loaded with
  | error e => exact ⟨rfl, hf⟩
  | ok c =>
    obtain ⟨hresult, hreplaced⟩ := replace_congr hf c
    dsimp only [reloadFrom]
    generalize g.replace c = answer at hresult hreplaced ⊢
    generalize g'.replace c = answer' at hresult hreplaced ⊢
    obtain ⟨result, replaced⟩ := answer
    obtain ⟨result', replaced'⟩ := answer'
    obtain rfl : result = result' := hresult
    cases result <;> exact ⟨rfl, hreplaced⟩

variable [Quantity α]

theorem available_congr (hf : g.facet key = g'.facet key) (hn : g.now = g'.now) (q : Quota) :
    (g.available key q).1 = (g'.available key q).1 ∧
      (g.available key q).2.facet key = (g'.available key q).2.facet key := by
  have hbucket := bucket_eq hf
  cases hb : g'.limiter.get? key with
  | none =>
    rw [hb] at hbucket
    simp [available, Limiter.available, hb, hbucket, hf]
  | some entry =>
    rw [hb] at hbucket
    refine ⟨by simp [available, Limiter.available, hb, hbucket, hn], ?_⟩
    refine facet_congr (snapshot_eq hf :) ?_ (circuit_eq hf :) (keyEvents_eq hf :)
    simp [available, Limiter.available, hb, hbucket, hn, Registry.get?_insert_self]

theorem facet_available_of_ne (hne : key ≠ other) (q : Quota) :
    (g.available key q).2.facet other = g.facet other := by
  refine facet_congr rfl ?_ rfl rfl
  cases hb : g.limiter.get? key with
  | none => simp [available, Limiter.available, hb]
  | some entry => simp [available, Limiter.available, hb, Registry.get?_insert_of_ne _ _ hne.symm]

structure Distinct (g : Guard α) : Prop where
  limiter : g.limiter.Distinct
  breakers : g.breakers.registry.Distinct

/-- No registry of the guard has more keys than it may have, when those that have been idle for long
are left out: a sweep now evicts none for room. -/
structure Roomy (g : Guard α) : Prop where
  limiter : Registry.Roomy Limiter.tracking g.now g.snapshot.config.retention.idleEviction
    g.snapshot.config.retention.maxKeys g.limiter
  breakers : Registry.Roomy Breakers.tracking g.now g.snapshot.config.retention.idleEviction
    g.snapshot.config.retention.maxKeys g.breakers.registry

instance (g : Guard α) : Decidable g.Roomy :=
  decidable_of_iff (_ ∧ _) ⟨fun h => ⟨h.1, h.2⟩, fun h => ⟨h.limiter, h.breakers⟩⟩

theorem Distinct.sweep (hd : g.Distinct) : g.sweep.2.Distinct :=
  ⟨hd.limiter.sweep _ _ _ _, hd.breakers.sweep _ _ _ _⟩

theorem Roomy.sweep (hr : g.Roomy) : g.sweep.2.Roomy := ⟨hr.limiter.sweep, hr.breakers.sweep⟩

theorem bucket_sweep (hd : g.Distinct) (hr : g.Roomy) (key : Key) :
    g.sweep.2.limiter.get? key = (g.limiter.get? key).filter fun entry =>
      Registry.survives Limiter.tracking g.now g.snapshot.config.retention.idleEviction
        (key, entry) :=
  hd.limiter.get?_sweep hr.limiter key

theorem circuit_sweep (hd : g.Distinct) (hr : g.Roomy) (key : Key) :
    g.sweep.2.breakers.face? key = (g.breakers.face? key).filter fun circuit =>
      circuit.2 != 0 ||
        g.now.since circuit.1.lastAccess < g.snapshot.config.retention.idleEviction := by
  have hentry : g.sweep.2.breakers.entry? key = _ := hd.breakers.get?_sweep hr.breakers key
  rw [Breakers.face?, hentry, Breakers.face?, Option.filter_map]
  rfl

/-- Where there is room, a sweep does the same to a key in every guard. -/
theorem sweep_congr (hf : g.facet key = g'.facet key) (hn : g.now = g'.now)
    (hd : g.Distinct) (hd' : g'.Distinct) (hr : g.Roomy) (hr' : g'.Roomy) :
    g.sweep.2.facet key = g'.sweep.2.facet key := by
  have hsnapshot := snapshot_eq hf
  refine facet_congr hsnapshot ?_ ?_ ?_
  · rw [bucket_sweep hd hr, bucket_sweep hd' hr', bucket_eq hf, hsnapshot, hn]
  · rw [circuit_sweep hd hr, circuit_sweep hd' hr', circuit_eq hf, hsnapshot, hn]
  · rw [Custody.events_sweep, Custody.events_sweep, keyEvents_eq hf]

def sweeps (g : Guard α) (n : Nat) : Guard α := n.repeat (fun g => g.sweep.2) g

theorem sweeps_keep (hd : g.Distinct) (hr : g.Roomy) (n : Nat) :
    (g.sweeps n).now = g.now ∧ (g.sweeps n).Distinct ∧ (g.sweeps n).Roomy := by
  induction n with
  | zero => exact ⟨rfl, hd, hr⟩
  | succ n ih => exact ⟨ih.1, ih.2.1.sweep, ih.2.2.sweep⟩

theorem sweeps_congr (hf : g.facet key = g'.facet key) (hn : g.now = g'.now)
    (hd : g.Distinct) (hd' : g'.Distinct) (hr : g.Roomy) (hr' : g'.Roomy) (n : Nat) :
    (g.sweeps n).facet key = (g'.sweeps n).facet key := by
  induction n with
  | zero => exact hf
  | succ n ih =>
    obtain ⟨hclock, hdistinct, hroomy⟩ := sweeps_keep hd hr n
    obtain ⟨hclock', hdistinct', hroomy'⟩ := sweeps_keep hd' hr' n
    have hthen : (g.sweeps n).now = (g'.sweeps n).now := by rw [hclock, hclock', hn]
    exact sweep_congr ih hthen hdistinct hdistinct' hroomy hroomy'

def sweepsIn (g : Guard α) (wait : Span) : Nat :=
  wait / g.snapshot.config.retention.sweepInterval

theorem runSweeper_congr (hf : g.facet key = g'.facet key) (hn : g.now = g'.now)
    (hd : g.Distinct) (hd' : g'.Distinct) {wait : Span} (hr : g.sweepsIn wait ≠ 0 → g.Roomy)
    (hr' : g'.sweepsIn wait ≠ 0 → g'.Roomy) :
    (g.runSweeper wait).facet key = (g'.runSweeper wait).facet key := by
  have hsame : g.sweepsIn wait = g'.sweepsIn wait := by rw [sweepsIn, snapshot_eq hf, sweepsIn]
  have hstart : ∀ notices, (g.report notices).facet key = (g'.report notices).facet key :=
    report_congr hf
  simp only [runSweeper, snapshot_eq hf]
  apply report_congr
  by_cases hnone : g'.sweepsIn wait = 0
  · rw [sweepsIn] at hnone
    rw [hnone]
    exact hstart _
  · have hroom := hr (by rwa [hsame])
    have hroom' := hr' hnone
    exact sweeps_congr (hstart _) hn ⟨hd.1, hd.2⟩ ⟨hd'.1, hd'.2⟩ ⟨hroom.1, hroom.2⟩
      ⟨hroom'.1, hroom'.2⟩ _

theorem takeTokens_distinct (hd : g.limiter.Distinct) (key : Key) (policy : Policy) :
    (g.takeTokens key policy).2.limiter.Distinct := by
  unfold takeTokens
  cases policy.quota with
  | none => exact hd
  | some q => exact hd.insert key _

theorem Entry.limiter {policy : Policy} {answer : Except Rejection Permit}
    (he : Entry g key policy answer g') : g'.limiter = (g.takeTokens key policy).2.limiter := by
  cases he with
  | throttled => rfl
  | refused _ slot | passed _ slot => exact slot.frame.2.2.1

end Guard

theorem Custody.Step.distinct {α : Type} [Quantity α] {c c' : Custody α} {d : Deed}
    (hs : Step c d c') (hd : c.guard.limiter.Distinct) : c'.guard.limiter.Distinct := by
  cases hs with
  | grant method ctx entered | refuse method ctx entered =>
    rw [(Guard.entry_of_enter entered).limiter]
    exact Guard.takeTokens_distinct hd _ _
  | @settle p _ status _ =>
    rw [(c.guard.complete_frame p status).2.2.1]
    exact hd
  | look key q =>
    cases hb : c.guard.limiter.get? key with
    | none => simpa [Guard.available, Limiter.available, hb] using hd
    | some entry => simpa [Guard.available, Limiter.available, hb] using hd.insert key _
  | sweep => exact hd.sweep _ _ _ _
  | advance | install | note => exact hd

end Turnstile
