import Turnstile.Proofs.Guard.Custody
import Turnstile.Proofs.Guard.FirstCall
/-!
Configurations that are put to a guard, one after the other. The snapshot in effect is that of the last
one without a violation, and its version counts those; nothing else in the guard is touched, but that
it is logged.
-/
namespace Turnstile

namespace Config

def accepted (cs : List Config) : List Config := cs.filter (·.violations = [])

variable {c : Config} {cs : List Config}

theorem accepted_cons_of_valid (hv : c.violations = []) (cs : List Config) :
    accepted (c :: cs) = c :: accepted cs :=
  List.filter_cons_of_pos (by simpa using hv)

theorem accepted_cons_of_invalid (hv : c.violations ≠ []) (cs : List Config) :
    accepted (c :: cs) = accepted cs :=
  List.filter_cons_of_neg (by simpa using hv)

theorem violations_of_mem_accepted (hc : c ∈ accepted cs) : c.violations = [] := by
  simpa using (List.mem_filter.1 hc).2

end Config

namespace Snapshot

open Config (accepted)

def accept (s : Snapshot) (c : Config) : Snapshot :=
  if c.violations = [] then .ofConfig (s.version + 1) c else s

variable {s : Snapshot} {c : Config}

theorem accept_of_valid (hv : c.violations = []) : s.accept c = .ofConfig (s.version + 1) c :=
  if_pos hv

theorem accept_of_invalid (hv : c.violations ≠ []) : s.accept c = s := if_neg hv

theorem foldl_accept_of_none {cs : List Config} (hn : accepted cs = []) : cs.foldl accept s = s := by
  induction cs with
  | nil => rfl
  | cons c cs ih =>
    by_cases hv : c.violations = []
    · simp [Config.accepted_cons_of_valid hv] at hn
    · rw [Config.accepted_cons_of_invalid hv] at hn
      rw [List.foldl_cons, accept_of_invalid hv, ih hn]

/-- The last of the accepted configurations is in effect, and the version counts them all. -/
theorem foldl_accept (version : Nat) (c : Config) (cs : List Config) :
    cs.foldl accept (.ofConfig version c) =
      .ofConfig (version + (accepted cs).length) ((accepted cs).getLastD c) := by
  induction cs generalizing version c with
  | nil => rfl
  | cons d cs ih =>
    by_cases hv : d.violations = []
    · have hversion : (ofConfig version c).version + 1 + (accepted cs).length =
          version + ((accepted cs).length + 1) := Nat.add_right_comm version 1 _
      rw [List.foldl_cons, accept_of_valid hv, ih, Config.accepted_cons_of_valid hv,
        List.length_cons, List.getLastD_cons, hversion]
    · rw [List.foldl_cons, accept_of_invalid hv, ih, Config.accepted_cons_of_invalid hv]

theorem getLastD_accepted_valid {c : Config} (hv : c.violations = []) (cs : List Config) :
    ((accepted cs).getLastD c).violations = [] := by
  cases hl : (accepted cs).getLast? with
  | none =>
    rw [List.getLastD_eq_getLast?, hl]
    exact hv
  | some d =>
    rw [List.getLastD_eq_getLast?, hl]
    exact Config.violations_of_mem_accepted (List.mem_of_getLast? hl)

end Snapshot

namespace Guard

open Config (accepted)

variable {α : Type} {g g' g'' : Guard α} {c : Config} {cs ds : List Config}

theorem replace_of_valid (hv : c.violations = []) (g : Guard α) :
    g.replace c = (.ok (g.snapshot.version + 1),
      { g with snapshot := .ofConfig (g.snapshot.version + 1) c }.report
        [.logged .info "Policy snapshot replaced"
          [("version", toString (g.snapshot.version + 1))]]) := by
  have hs : Snapshot.compile (g.snapshot.version + 1) c = .ok _ :=
    Snapshot.compile_eq_ok.2 ⟨hv, rfl⟩
  rw [replace, hs]
  rfl

theorem replace_of_invalid (hv : c.violations ≠ []) (g : Guard α) :
    g.replace c = (.error c.violations, g) := by
  have hs : Snapshot.compile (g.snapshot.version + 1) c = .error c.violations := by
    unfold Snapshot.compile Config.validate
    rw [if_neg (by simpa using hv)]
    rfl
  rw [replace, hs]

/-- Configurations have been put to the guard: the policies are those of the snapshot that came of it,
something may have been logged, and all else is as it was. -/
structure Told (g : Guard α) (cs : List Config) (g' : Guard α) : Prop where
  snapshot : g'.snapshot = cs.foldl Snapshot.accept g.snapshot
  apart : ∃ notices, Notice.events notices = [] ∧
    g' = { g with snapshot := g'.snapshot }.report notices

theorem told_report (notices : List Notice) (hn : Notice.events notices = []) :
    Told g [] (g.report notices) := ⟨rfl, notices, hn, rfl⟩

theorem told_nothing (g : Guard α) : Told g [] g :=
  ⟨rfl, [], rfl, by rw [report, List.append_nil]⟩

theorem Told.trans (ht : Told g cs g') (ht' : Told g' ds g'') : Told g (cs ++ ds) g'' := by
  obtain ⟨notices, hn, hg⟩ := ht.apart
  obtain ⟨notices', hn', hg'⟩ := ht'.apart
  refine ⟨?_, notices ++ notices', ?_, ?_⟩
  · rw [ht'.snapshot, ht.snapshot, List.foldl_append]
  · rw [Notice.events_append, hn, hn']
    rfl
  · rw [hg', hg]
    simp [report]

theorem Told.frame (ht : Told g cs g') :
    g'.now = g.now ∧ g'.limiter = g.limiter ∧ g'.breakers = g.breakers ∧ g'.events = g.events := by
  obtain ⟨notices, hn, hg⟩ := ht.apart
  rw [hg]
  refine ⟨rfl, rfl, rfl, ?_⟩
  rw [events_report, hn]
  exact List.append_nil _

theorem Told.of_none (ht : Told g cs g') (hn : accepted cs = []) :
    ∃ notices, Notice.events notices = [] ∧ g' = g.report notices := by
  obtain ⟨notices, he, hg⟩ := ht.apart
  rw [ht.snapshot, Snapshot.foldl_accept_of_none hn] at hg
  exact ⟨notices, he, hg⟩

theorem told_replace (g : Guard α) (c : Config) : Told g [c] (g.replace c).2 := by
  by_cases hv : c.violations = []
  · rw [replace_of_valid hv]
    exact ⟨(Snapshot.accept_of_valid hv).symm, _, rfl, rfl⟩
  · rw [replace_of_invalid hv]
    exact ⟨(Snapshot.accept_of_invalid hv).symm, (told_nothing g).apart⟩

theorem told_update (g : Guard α) (c : Config) : Told g [c] (g.update c) := by
  have ht := told_replace g c
  unfold update
  generalize g.replace c = answer at ht ⊢
  obtain ⟨violations | _, g'⟩ := answer
  · refine ht.trans (told_report _ ?_)
    simp [Notice.events, Notice.event?, Notice.logged]
  · exact ht

theorem told_reload (g : Guard α) (cs : List Config) : Told g cs (g.reload cs) := by
  have hfold : ∀ g : Guard α, Told g cs (cs.foldl update g) := by
    induction cs with
    | nil => exact told_nothing
    | cons c cs ih => exact fun g => (told_update g c).trans (ih _)
  have ht := (hfold g).trans (told_report [.logged .debug "Config reloader stopped" []] rfl)
  rwa [List.append_nil] at ht

theorem told_reloadFrom (g : Guard α) (loaded : Except LoadError Config) :
    Told g loaded.toOption.toList (g.reloadFrom loaded).2 := by
  cases loaded with
  | error e => exact told_nothing g
  | ok c =>
    have ht := told_replace g c
    simp only [reloadFrom]
    generalize g.replace c = answer at ht ⊢
    obtain ⟨_ | _, g'⟩ := answer <;> exact ht

/-- What an answer to some configurations tells: an error that nothing has changed, and a number that
it is the version now in effect. -/
def Answers {ε : Type} (g : Guard α) (cs : List Config) : Except ε Nat × Guard α → Prop
  | (.error _, g') => g' = g ∧ accepted cs = []
  | (.ok version, g') => g'.snapshot.version = version

theorem answers_replace (g : Guard α) (c : Config) : g.Answers [c] (g.replace c) := by
  by_cases hv : c.violations = []
  · rw [replace_of_valid hv]
    rfl
  · rw [replace_of_invalid hv]
    exact ⟨rfl, Config.accepted_cons_of_invalid hv []⟩

theorem answers_reloadFrom (g : Guard α) (loaded : Except LoadError Config) :
    g.Answers loaded.toOption.toList (g.reloadFrom loaded) := by
  cases loaded with
  | error e => exact ⟨rfl, rfl⟩
  | ok c =>
    have ha := g.answers_replace c
    simp only [reloadFrom]
    generalize g.replace c = answer at ha ⊢
    obtain ⟨_ | _, g'⟩ := answer <;> exact ha

end Guard
end Turnstile
