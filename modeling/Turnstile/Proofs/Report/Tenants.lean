import Turnstile.Proofs.Report.Metrics
import Mathlib.Data.Finset.Card
import Mathlib.Data.List.Induction
/-!
Tenants in metrics. As many tenants as the limit says, the first ones to be rejected, have a label of
their own, and all others share one. So a tenant has the same label at each of its rejections, the
labels stay few, and every rejection is counted under one of them.
-/
namespace Turnstile

def Event.rejected? : Event → Option (Reason × String)
  | .rejected key reason => some (reason, key.tenant)
  | .transition _ _ | .outcome _ _ => none

def Event.series (label : String → String) : Event → Series
  | .rejected key reason => .rejections reason (label key.tenant)
  | .transition _ change => .transitions change
  | .outcome _ o => .outcomes o

namespace Series

def tenant? (s : Series) : Option String := s.labels.lookup "tenant"

def countsRejections (reason : Reason) (s : Series) : Bool :=
  s.name == "rpc_guard_rejections_total" && s.labels.lookup "reason" == some reason.name

variable {reason : Reason} {label : String → String}

theorem tenant?_series (e : Event) : (e.series label).tenant? = e.rejected?.map (label ·.2) := by
  cases e <;> rfl

theorem countsRejections_series (e : Event) :
    (e.series label).countsRejections reason =
      (e.rejected?.map fun r => decide (r.1 = reason)).getD false := by
  cases e with
  | rejected key r => cases r <;> cases reason <;> rfl
  | transition | outcome => rfl

theorem series_eq_rejections (e : Event) (l : String) :
    decide (e.series label = rejections reason l) =
      (e.rejected?.map fun r => decide (r.1 = reason ∧ label r.2 = l)).getD false := by
  cases e with
  | rejected key r =>
    cases r <;> cases reason <;> simp [Event.series, rejections, Event.rejected?, Reason.name]
  | transition | outcome =>
    simp [Event.series, rejections, transitions, outcomes, Event.rejected?]

end Series

namespace Metrics

def run (m : Metrics) (es : List Event) : Metrics := es.foldl recordEvent m

def rejections (es : List Event) : List (Reason × String) := es.filterMap Event.rejected?

def rejectedTenants (es : List Event) : List String := (rejections es).map (·.2)

def firstTenants (n : Nat) (es : List Event) : List String := (rejectedTenants es).eraseDups.take n

/-- The label that a tenant has throughout `es`. -/
def labelIn (n : Nat) (es : List Event) (tenant : String) : String :=
  if tenant ∈ firstTenants n es then tenant else overflowTenant

def seriesOf (n : Nat) (es : List Event) : List Series := es.map (Event.series (labelIn n es))

def tenantLabels (m : Metrics) : List String := m.listing.filterMap (·.1.tenant?)

variable {n : Nat} {es : List Event}

theorem mem_take_eraseDups_append {as : List String} {a : String} (ha : a ∈ as) (bs : List String) :
    a ∈ (as ++ bs).eraseDups.take n ↔ a ∈ as.eraseDups.take n := by
  have hnew : a ∉ (bs.removeAll as).eraseDups := by
    simpa [List.mem_eraseDups, List.removeAll] using fun _ => ha
  rw [List.eraseDups_append, List.take_append, List.mem_append]
  exact or_iff_left fun h => hnew (List.mem_of_mem_take h)

theorem take_eraseDups_snoc (as : List String) (b : String) (n : Nat) :
    (as ++ [b]).eraseDups.take n =
      if b ∈ as.eraseDups.take n ∨ n ≤ (as.eraseDups.take n).length then as.eraseDups.take n
      else as.eraseDups.take n ++ [b] := by
  rw [List.eraseDups_append]
  -- Without room nothing comes in; with room every old element is among the first ones, so that a new
  -- one is new altogether.
  by_cases hroom : n ≤ as.eraseDups.length
  · have hfull : n ≤ (as.eraseDups.take n).length := by rw [List.length_take, min_eq_left hroom]
    rw [if_pos (.inr hfull), List.take_append_of_le_length hroom]
  · have hall : as.eraseDups.take n = as.eraseDups :=
      List.take_of_length_le (Nat.le_of_not_le hroom)
    rw [hall]
    by_cases hb : b ∈ as
    · have hnone : [b].removeAll as = [] := by simp [List.removeAll, hb]
      rw [if_pos (.inl (List.mem_eraseDups.2 hb)), hnone, List.eraseDups_nil, List.append_nil, hall]
    · have hone : [b].removeAll as = [b] := by simp [List.removeAll, hb]
      have hlen : (as.eraseDups ++ [b]).length ≤ n := by
        rw [List.length_append]
        exact Nat.lt_of_not_le hroom
      rw [if_neg (not_or.2 ⟨mt List.mem_eraseDups.1 hb, hroom⟩), hone, List.eraseDups_cons,
        List.filter_nil, List.eraseDups_nil, List.take_of_length_le hlen]

theorem rejectedTenants_append (es later : List Event) :
    rejectedTenants (es ++ later) = rejectedTenants es ++ rejectedTenants later := by
  simp only [rejectedTenants, rejections, List.filterMap_append, List.map_append]

/-- A label once given is kept. -/
theorem labelIn_append {tenant : String} (ht : tenant ∈ rejectedTenants es) (later : List Event) :
    labelIn n (es ++ later) tenant = labelIn n es tenant := by
  rw [labelIn, firstTenants, rejectedTenants_append]
  exact if_congr (mem_take_eraseDups_append ht _) rfl rfl

theorem mem_rejectedTenants {key : Key} {reason : Reason} (h : .rejected key reason ∈ es) :
    key.tenant ∈ rejectedTenants es :=
  List.mem_map.2 ⟨(reason, key.tenant), List.mem_filterMap.2 ⟨_, h, rfl⟩, rfl⟩

theorem seriesOf_snoc (n : Nat) (es : List Event) (e : Event) :
    seriesOf n (es ++ [e]) = seriesOf n es ++ [e.series (labelIn n (es ++ [e]))] := by
  rw [seriesOf, List.map_append]
  congr 1
  refine List.map_congr_left fun old hold => ?_
  cases old with
  | rejected key reason =>
    rw [Event.series, labelIn_append (mem_rejectedTenants hold), Event.series]
  | transition | outcome => rfl

theorem labelOf_tenants (m : Metrics) (tenant : String) :
    (m.labelOf tenant).2.tenants =
      if tenant ∈ m.tenants ∨ m.tenantLimit ≤ m.tenants.length then m.tenants
      else m.tenants ++ [tenant] := by
  unfold labelOf
  by_cases hknown : tenant ∈ m.tenants
  · simp [hknown]
  · by_cases hroom : m.tenants.length < m.tenantLimit
    · simp [hknown, hroom, Nat.not_le.2 hroom]
    · simp [hknown, hroom, Nat.not_lt.1 hroom]

theorem labelOf_label (m : Metrics) (tenant : String) :
    (m.labelOf tenant).1 =
      if tenant ∈ (m.labelOf tenant).2.tenants then tenant else overflowTenant := by
  unfold labelOf
  by_cases hknown : tenant ∈ m.tenants
  · simp [hknown]
  · by_cases hroom : m.tenants.length < m.tenantLimit <;> simp [hknown, hroom]

theorem labelOf_values (m : Metrics) (tenant : String) :
    (m.labelOf tenant).2.values = m.values := by
  unfold labelOf
  split
  · rfl
  · split <;> rfl

theorem labelOf_tenantLimit (m : Metrics) (tenant : String) :
    (m.labelOf tenant).2.tenantLimit = m.tenantLimit := by
  unfold labelOf
  split
  · rfl
  · split <;> rfl

theorem run_snoc (m : Metrics) (es : List Event) (e : Event) :
    m.run (es ++ [e]) = (m.run es).recordEvent e := by
  rw [run, List.foldl_append]
  rfl

theorem tenants_run (n : Nat) (es : List Event) :
    ((ofLimit n).run es).tenantLimit = n ∧ ((ofLimit n).run es).tenants = firstTenants n es := by
  induction es using List.reverseRecOn with
  | nil => simp [run, ofLimit, firstTenants, rejectedTenants, rejections]
  | append_singleton es e ih =>
    obtain ⟨hlimit, htenants⟩ := ih
    rw [run_snoc, firstTenants, rejectedTenants_append]
    cases e with
    | rejected key reason =>
      have hone : rejectedTenants [.rejected key reason] = [key.tenant] := rfl
      rw [recordEvent, increment_tenantLimit, increment_tenants, labelOf_tenantLimit,
        labelOf_tenants, hlimit, htenants, hone, take_eraseDups_snoc]
      exact ⟨rfl, rfl⟩
    | transition key change | outcome key o =>
      rw [recordEvent, increment_tenantLimit, increment_tenants, hlimit, htenants]
      refine ⟨rfl, ?_⟩
      change firstTenants n es = (rejectedTenants es ++ []).eraseDups.take n
      rw [List.append_nil, firstTenants]

/-- A tenant is labelled by whether it is among the first ones once it has been rejected. -/
theorem label_run (n : Nat) (es : List Event) (key : Key) (reason : Reason) :
    (((ofLimit n).run es).labelOf key.tenant).1 =
      labelIn n (es ++ [.rejected key reason]) key.tenant := by
  have htenants := (tenants_run n (es ++ [.rejected key reason])).2
  rw [run_snoc, recordEvent, increment_tenants] at htenants
  rw [labelOf_label, htenants]
  rfl

theorem label_run_before (n : Nat) (before after : List Event) (key : Key) (reason : Reason) :
    (((ofLimit n).run before).labelOf key.tenant).1 =
      labelIn n (before ++ .rejected key reason :: after) key.tenant := by
  have hknown : key.tenant ∈ rejectedTenants (before ++ [.rejected key reason]) :=
    mem_rejectedTenants (List.mem_append_right before List.mem_cons_self)
  rw [label_run n before key reason, ← labelIn_append hknown after, List.append_assoc]
  rfl

theorem recordEvent_values (n : Nat) (es : List Event) (e : Event) :
    (((ofLimit n).run es).recordEvent e).values =
      (((ofLimit n).run es).increment (e.series (labelIn n (es ++ [e])))).values := by
  cases e with
  | rejected key reason =>
    rw [recordEvent, Event.series, ← label_run n es key reason]
    exact increment_values_congr (labelOf_values _ _) _
  | transition | outcome => rfl

theorem shows_run (n : Nat) (es : List Event) : Shows (seriesOf n es) ((ofLimit n).run es) := by
  induction es using List.reverseRecOn with
  | nil => exact shows_ofLimit n
  | append_singleton es e ih =>
    -- No label changes behind its tenant's back, so the newest event only adds its own series.
    rw [run_snoc, seriesOf_snoc]
    exact (ih.increment _).congr (recordEvent_values n es e).symm

theorem tenantLabels_perm (m : Metrics) :
    m.tenantLabels.Perm (m.series.filterMap Series.tenant?) := by
  rw [series, List.filterMap_map]
  exact m.listing_perm.filterMap _

theorem mem_tenantLabels (n : Nat) (es : List Event) (label : String) :
    label ∈ ((ofLimit n).run es).tenantLabels ↔
      ∃ tenant ∈ rejectedTenants es, labelIn n es tenant = label := by
  have hseries : (seriesOf n es).filterMap Series.tenant? =
      (rejectedTenants es).map (labelIn n es) := by
    rw [seriesOf, rejectedTenants, rejections, List.filterMap_map, List.map_map,
      List.map_filterMap]
    exact List.filterMap_congr fun e _ => Series.tenant?_series e
  rw [(tenantLabels_perm _).mem_iff, ← List.mem_map, ← hseries, List.mem_filterMap,
    List.mem_filterMap]
  exact exists_congr fun s => and_congr_left fun _ => (shows_run n es).mem s

theorem card_tenantLabels_le (n : Nat) (es : List Event) :
    ((ofLimit n).run es).tenantLabels.toFinset.card ≤ n + 1 := by
  have hsub : ((ofLimit n).run es).tenantLabels.toFinset ⊆
      (overflowTenant :: firstTenants n es).toFinset := by
    intro label hlabel
    rw [List.mem_toFinset] at hlabel ⊢
    obtain ⟨tenant, -, rfl⟩ := (mem_tenantLabels n es label).1 hlabel
    unfold labelIn
    split
    · next hfirst => exact List.mem_cons_of_mem _ hfirst
    · exact List.mem_cons_self
  calc ((ofLimit n).run es).tenantLabels.toFinset.card
    _ ≤ (overflowTenant :: firstTenants n es).toFinset.card := Finset.card_le_card hsub
    _ ≤ (firstTenants n es).length + 1 := List.toFinset_card_le _
    _ ≤ n + 1 := Nat.add_le_add_right (List.length_take_le _ _) 1

theorem countP_seriesOf (n : Nat) (es : List Event) {p : Series → Bool}
    {q : Reason × String → Bool}
    (h : ∀ e : Event, p (e.series (labelIn n es)) = (e.rejected?.map q).getD false) :
    (seriesOf n es).countP p = (rejections es).countP q := by
  rw [seriesOf, rejections, List.countP_map, List.countP_filterMap]
  exact List.countP_congr fun e _ => by rw [Function.comp_apply, h]

theorem total_label (n : Nat) (es : List Event) (reason : Reason) (l : String) :
    ((ofLimit n).run es).total (· = .rejections reason l) =
      (rejections es).countP fun r => r.1 = reason ∧ labelIn n es r.2 = l := by
  rw [(shows_run n es).total]
  exact countP_seriesOf n es fun e => Series.series_eq_rejections e l

theorem total_reason (n : Nat) (es : List Event) (reason : Reason) :
    ((ofLimit n).run es).total (·.countsRejections reason) =
      (rejections es).countP (·.1 = reason) := by
  rw [(shows_run n es).total]
  exact countP_seriesOf n es Series.countsRejections_series

theorem count_le_total_own {tenant : String} (ht : tenant ∈ firstTenants n es) (reason : Reason) :
    (rejections es).count (reason, tenant) ≤
      ((ofLimit n).run es).total (· = .rejections reason tenant) := by
  have hown : labelIn n es tenant = tenant := if_pos ht
  rw [total_label, List.count_eq_countP]
  refine List.countP_mono_left fun r _ hr => ?_
  obtain rfl := eq_of_beq hr
  simp [hown]

/-- A tenant has the same label at each of its rejections, its own if it is one of the first `n` and
else the shared one; no more than `n + 1` labels are shown. For each reason the counters add up to
the number of rejections, and the counter of a label is that of all rejections of tenants with it, so
that a tenant with a label of its own finds all of its rejections there. -/
theorem tenant_labels (n : Nat) (es : List Event) :
    let m := (ofLimit n).run es
    let label := labelIn n es
    (m.listing.map (·.1)).Nodup ∧
    (∀ before key reason after, es = before ++ .rejected key reason :: after →
      (((ofLimit n).run before).labelOf key.tenant).1 = label key.tenant) ∧
    (∀ l, l ∈ m.tenantLabels ↔ ∃ tenant ∈ rejectedTenants es, label tenant = l) ∧
    m.tenantLabels.toFinset.card ≤ n + 1 ∧
    ∀ reason,
      m.total (·.countsRejections reason) = (rejections es).countP (·.1 = reason) ∧
      (∀ l, m.total (· = .rejections reason l) =
        (rejections es).countP fun r => r.1 = reason ∧ label r.2 = l) ∧
      ∀ tenant ∈ firstTenants n es,
        (rejections es).count (reason, tenant) ≤ m.total (· = .rejections reason tenant) := by
  intro m label
  have honce : (m.listing.map (·.1)).Nodup :=
    ((m.listing_perm.map _).nodup_iff).2 (shows_run n es).nodup
  refine ⟨honce, ?_, mem_tenantLabels n es, card_tenantLabels_le n es, fun reason =>
    ⟨total_reason n es reason, total_label n es reason, fun _ ht => count_le_total_own ht reason⟩⟩
  rintro before key reason after rfl
  exact label_run_before n before after key reason

/-- A tenant that is called what the shared label is called shares it, among the first ones or not. -/
example :
    let rejected (tenant : String) : Event := .rejected ⟨tenant ++ ":svc/M"⟩ .rateLimited
    ((ofLimit 1).run [rejected "other", rejected "acme", rejected "other"]).values =
        [(.rejections .rateLimited "other", 3)] ∧
      ((ofLimit 1).run [rejected "acme", rejected "other", rejected "acme"]).values =
        [(.rejections .rateLimited "acme", 2), (.rejections .rateLimited "other", 1)] := by
  decide +kernel

end Metrics
end Turnstile
