import Turnstile.Guard.Exchange
import Turnstile.Guard.Stream
import Turnstile.Proofs.Guard.Custody
/-!
The functions of a guard as deeds. A permit is given up together with the report of its call, whatever
it was held by; asking to enter is one attempt; and upkeep attempts no call.
-/
namespace Turnstile

def ExchangeResult.permit? : ExchangeResult → Option Permit
  | .response _ body => body.permit
  | _ => none

namespace Guard

variable {α β ε : Type} {g : Guard α}

/-- What becomes of a permit that may be out: it stays as it is, or its call is reported. -/
inductive Ends (g : Guard α) : Option Permit → Option Permit → Guard α → Prop
  | kept (p : Option Permit) : Ends g p p g
  | reported (p : Permit) (status : CallStatus) : Ends g (some p) none (g.complete p status).2

theorem Ends.of_none {after : Option Permit} {g' : Guard α} (he : Ends g none after g') :
    after = none ∧ g' = g := by
  cases he
  exact ⟨rfl, rfl⟩

theorem ends_abandon (g : Guard α) (p : Permit) : Ends g (some p) none (g.abandon p) :=
  .reported p .cancelled

theorem ends_settle [CallFault ε] (g : Guard α) (p : Permit) (ending : Ending (Except ε β)) :
    Ends g (some p) none (g.settle p ending).2 := by
  cases ending with
  | finished result => cases result <;> exact .reported p _
  | overdue => exact .reported p _
  | abandoned => exact ends_abandon g p

theorem ran_settle [CallFault ε] (g : Guard α) (p : Permit) (ending : Ending (Except ε β)) :
    (g.settle p ending).1.ran = true := by
  cases ending with
  | finished result => cases result <;> rfl
  | overdue | abandoned => rfl

theorem ends_respond (g : Guard α) (p : Permit) (ending : Ending (Except Failure Response)) :
    Ends g (some p) (g.respond p ending).1.permit? (g.respond p ending).2 := by
  cases ending with
  | finished result =>
    cases result with
    | error f => exact .reported p _
    | ok r =>
      simp only [respond, passOn]
      split
      · exact .reported p _
      · exact .kept (some p)
  | overdue => exact .reported p _
  | abandoned => exact ends_abandon g p

theorem ends_finish_stream (s : GuardedStream β ε) (status : CallStatus) (g : Guard α) :
    Ends g s.permit (s.finish status g).1.permit (s.finish status g).2 := by
  obtain ⟨key, items, permit⟩ := s
  cases permit with
  | none => exact .kept none
  | some p => exact .reported p status

theorem ends_poll_stream [CallFault ε] (s : GuardedStream β ε) (g : Guard α) :
    Ends g s.permit (s.poll g).2.1.permit (s.poll g).2.2 := by
  unfold GuardedStream.poll
  split
  · exact ends_finish_stream s _ g
  · exact .kept _
  · exact .kept _
  · next rest _ => exact ends_finish_stream { s with items := rest } _ g

theorem ends_drop_stream (s : GuardedStream β ε) (g : Guard α) :
    Ends g s.permit none (s.drop g) := by
  unfold GuardedStream.drop
  cases s.permit with
  | none => exact .kept none
  | some p => exact ends_abandon g p

theorem ends_finish_body (b : Body) (status : CallStatus) (g : Guard α) :
    Ends g b.permit (b.finish status g).1.permit (b.finish status g).2 := by
  obtain ⟨key, frames, permit⟩ := b
  cases permit with
  | none => exact .kept none
  | some p => exact .reported p status

theorem ends_poll_body (b : Body) (g : Guard α) :
    Ends g b.permit (b.poll g).2.1.permit (b.poll g).2.2 := by
  unfold Body.poll
  split
  · exact ends_finish_body b _ g
  · next f rest _ =>
    dsimp only
    split
    · exact .kept _
    · exact ends_finish_body { b with frames := rest } _ g

theorem ends_drop_body (b : Body) (g : Guard α) : Ends g b.permit none (b.drop g) := by
  unfold Body.drop
  cases b.permit with
  | none => exact .kept none
  | some p => exact ends_abandon g p

end Guard

namespace Custody

variable {α : Type} [Quantity α] {c c' c'' : Custody α} {d : Deed} {g g' : Guard α}
  {attempts admissions : List Key}

/-- Deeds that attempt calls of the first keys, and let in calls of the second, lead from one custody
to the other. -/
def Reaches (c : Custody α) (attempts admissions : List Key) (c' : Custody α) : Prop :=
  ∃ ds, Run c ds c' ∧ ds.filterMap Deed.attempted? = attempts ∧
    ds.filterMap Deed.admitted? = admissions

/-- Deeds that attempt no call lead from one custody to the other. -/
abbrev Aside (c c' : Custody α) : Prop := Reaches c [] [] c'

theorem Reaches.refl (c : Custody α) : Aside c c := ⟨[], .nil c, rfl, rfl⟩

theorem Reaches.trans {attempts' admissions' : List Key} (h : Reaches c attempts admissions c')
    (h' : Reaches c' attempts' admissions' c'') :
    Reaches c (attempts ++ attempts') (admissions ++ admissions') c'' := by
  obtain ⟨ds, hr, rfl, rfl⟩ := h
  obtain ⟨es, hr', rfl, rfl⟩ := h'
  exact ⟨ds ++ es, hr.append hr', List.filterMap_append, List.filterMap_append⟩

theorem Reaches.then (h : Reaches c attempts admissions c') (h' : Aside c' c'') :
    Reaches c attempts admissions c'' := by
  have ht := h.trans h'
  rwa [List.append_nil, List.append_nil] at ht

theorem Step.reaches (hs : Step c d c') :
    Reaches c d.attempted?.toList d.admitted?.toList c' := by
  refine ⟨[d], hs.run, ?_, ?_⟩
  · cases hd : d.attempted? <;> simp [hd]
  · cases hd : d.admitted? <;> simp [hd]

theorem aside_of_ends {before after : Option Permit} (he : Guard.Ends g before after g')
    (rest : Multiset Permit) : Aside ⟨g, before.toList + rest⟩ ⟨g', after.toList + rest⟩ := by
  cases he with
  | kept => exact .refl _
  | reported p status =>
    have hs : Step ⟨g, p ::ₘ rest⟩ _ _ := .settle status rfl
    rw [show ((none : Option Permit).toList : Multiset Permit) + rest = rest from zero_add rest]
    exact hs.reaches

theorem aside_of_end {before : Option Permit} (he : Guard.Ends g before none g')
    (rest : Multiset Permit) : Aside ⟨g, before.toList + rest⟩ ⟨g', rest⟩ := by
  have ha := aside_of_ends he rest
  rwa [Option.toList_none, Multiset.coe_nil, zero_add] at ha

variable (out : Multiset Permit)

theorem reaches_of_admitted {method : String} {ctx : Context} {p : Permit}
    (he : g.enter method ctx = (.ok p, g')) :
    Reaches ⟨g, out⟩ [(g.snapshot.extract method ctx).1] [p.key] ⟨g', p ::ₘ out⟩ := by
  have hs : Step ⟨g, out⟩ (.grant p) ⟨g', p ::ₘ out⟩ := .grant method ctx he
  rw [← (Guard.entry_of_enter he).permit.1]
  exact hs.reaches

theorem reaches_of_rejected {method : String} {ctx : Context} {r : Rejection}
    (he : g.enter method ctx = (.error r, g')) :
    Reaches ⟨g, out⟩ [(g.snapshot.extract method ctx).1] [] ⟨g', out⟩ := by
  have hs : Step ⟨g, out⟩ (.refuse r) ⟨g', out⟩ := .refuse method ctx he
  rw [← (Guard.entry_of_enter he).rejection]
  exact hs.reaches

theorem aside_advance (g : Guard α) (span : Span) : Aside ⟨g, out⟩ ⟨g.advance span, out⟩ :=
  Step.reaches (.advance span)

theorem aside_report (g : Guard α) (notices : List Notice) (hn : Notice.events notices = []) :
    Aside ⟨g, out⟩ ⟨g.report notices, out⟩ :=
  Step.reaches (.note notices hn)

theorem aside_replace (g : Guard α) (config : Config) :
    Aside ⟨g, out⟩ ⟨(g.replace config).2, out⟩ := by
  unfold Guard.replace
  split
  · exact .refl _
  · next compiled =>
    exact (Step.reaches (.install compiled)).then (aside_report out _ _ rfl)

theorem aside_update (g : Guard α) (config : Config) :
    Aside ⟨g, out⟩ ⟨g.update config, out⟩ := by
  have hr := aside_replace out g config
  unfold Guard.update
  generalize g.replace config = answer at hr ⊢
  obtain ⟨_ | _, g'⟩ := answer
  · refine hr.then (aside_report out _ _ ?_)
    simp [Notice.events, Notice.event?, Notice.logged]
  · exact hr

theorem aside_reload (g : Guard α) (configs : List Config) :
    Aside ⟨g, out⟩ ⟨g.reload configs, out⟩ := by
  have hfold : ∀ g : Guard α, Aside ⟨g, out⟩ ⟨configs.foldl Guard.update g, out⟩ := by
    induction configs with
    | nil => exact fun g => .refl _
    | cons config configs ih => exact fun g => (aside_update out g config).then (ih _)
  exact (hfold g).then (aside_report out _ _ rfl)

theorem aside_reloadFrom (g : Guard α) (loaded : Except LoadError Config) :
    Aside ⟨g, out⟩ ⟨(g.reloadFrom loaded).2, out⟩ := by
  unfold Guard.reloadFrom
  split
  · exact .refl _
  · next config =>
    have hr := aside_replace out g config
    generalize g.replace config = answer at hr ⊢
    obtain ⟨_ | _, g'⟩ := answer <;> exact hr

theorem exchange_reaches (g : Guard α) (r : Request) (service : Service) :
    let key := (g.snapshot.extract r.path (.headers r.headers)).1
    let e := g.exchange r service
    Reaches ⟨g, out⟩ (if service.notReady.isNone then some key else none).toList
      (if e.1.called then some key else none).toList ⟨e.2, e.1.result.permit?.toList + out⟩ := by
  cases hn : service.notReady with
  | some f =>
    simp only [Guard.exchange, hn]
    exact (zero_add out).symm ▸ .refl _
  | none =>
    rcases he : g.enter r.path (.headers r.headers) with ⟨rejection | p, g'⟩
    · simp only [Guard.exchange, hn, Guard.forward, he]
      exact (zero_add out).symm ▸ reaches_of_rejected out he
    · have hr := reaches_of_admitted out he
      rw [(Guard.entry_of_enter he).permit.1] at hr
      simp only [Guard.exchange, hn, Guard.forward, he, Guard.awaitResponse, if_true]
      exact (hr.then (aside_advance _ g' service.work.clockShift)).then
        (aside_of_ends (Guard.ends_respond _ p (service.work.course.wait p.policy.deadline)) out)

theorem aside_sweep (g : Guard α) : Aside ⟨g, out⟩ ⟨g.sweep.2, out⟩ := Step.reaches .sweep

theorem aside_runSweeper (g : Guard α) (wait : Span) :
    Aside ⟨g, out⟩ ⟨g.runSweeper wait, out⟩ := by
  have hsweeps : ∀ (n : Nat) (g : Guard α),
      Aside ⟨g, out⟩ ⟨n.repeat (fun g => g.sweep.2) g, out⟩ := by
    intro n g
    induction n with
    | zero => exact .refl _
    | succ n ih => exact ih.then (aside_sweep out _)
  exact ((aside_report out g _ rfl).then (hsweeps _ _)).then (aside_report out _ _ rfl)

end Custody

end Turnstile
