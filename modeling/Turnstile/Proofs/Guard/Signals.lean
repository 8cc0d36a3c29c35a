import Turnstile.Proofs.Guard.Facet
/-!
Streams and bodies that are polled and then given up. The consumer sees what they give, as it is. The call
is completed by the first thing polled that tells its status, or else by the end if that is polled, or
else when the consumer gives up; nothing that comes later makes a difference.
-/
namespace Turnstile

namespace Guard

variable {α : Type}

def through (g : Guard α) (moves : List (Guard α → Guard α)) : Guard α :=
  moves.foldl (fun g move => move g) g

/-- What becomes of a guard through some moves, if a call is completed after the first `k` of them. -/
def completing (g : Guard α) (p : Permit) (status : CallStatus) (k : Nat)
    (moves : List (Guard α → Guard α)) : Guard α :=
  ((g.through (moves.take k)).complete p status).2.through (moves.drop k)

theorem completing_cons (g : Guard α) (p : Permit) (status : CallStatus) (k : Nat)
    (move : Guard α → Guard α) (moves : List (Guard α → Guard α)) :
    g.completing p status (k + 1) (move :: moves) = (move g).completing p status k moves := rfl

theorem through_append (g : Guard α) (moves moves' : List (Guard α → Guard α)) :
    g.through (moves ++ moves') = (g.through moves).through moves' := List.foldl_append

/-- The end of a call has been recorded: its breaker has been told once, and one outcome is told of its
key, after the changes of state that come of it. -/
structure Recorded (g : Guard α) (p : Permit) (status : CallStatus) (g' : Guard α) : Prop where
  now : g'.now = g.now
  snapshot : g'.snapshot = g.snapshot
  limiter : g'.limiter = g.limiter
  breakers : g'.breakers = p.breaker.elim g.breakers fun permit =>
    (g.breakers.complete permit (g.snapshot.classifier.classify status)
      (g.now.since p.startedAt) g.now).2.2
  events : ∃ changes : List Event, changes.filterMap Event.rejection? = [] ∧
    changes.filterMap Event.outcome? = [] ∧
    g'.events = g.events ++ changes ++ [.outcome p.key (g.snapshot.classifier.classify status)]

theorem recorded_complete (g : Guard α) (p : Permit) (status : CallStatus) :
    g.Recorded p status (g.complete p status).2 := by
  obtain ⟨hnow, hsnapshot, hlimiter, hbreakers⟩ := g.complete_frame p status
  have hevents := g.complete_events p status
  rw [complete_outcome] at hbreakers hevents
  exact ⟨hnow, hsnapshot, hlimiter, hbreakers, hevents⟩

/-- A call that is completed on the way is recorded there, and all else goes on as it would. -/
theorem completing_records (g : Guard α) (p : Permit) (status : CallStatus) (k : Nat)
    (moves : List (Guard α → Guard α)) :
    ∃ after, (g.through (moves.take k)).Recorded p status after ∧
      g.completing p status k moves = after.through (moves.drop k) :=
  ⟨_, recorded_complete _ p status, rfl⟩

end Guard

structure Watched (σ ω α : Type) where
  seen : List ω
  left : σ
  guard : Guard α

/-- Polls once after each of some moves. A move is whatever else happens to the guard before the poll. -/
def watch {σ ω α : Type} (poll : σ → Guard α → ω × σ × Guard α) (s : σ) (g : Guard α) :
    List (Guard α → Guard α) → Watched σ ω α
  | [] => ⟨[], s, g⟩
  | move :: moves =>
    let (shown, s, g) := poll s (move g)
    let w := watch poll s g moves
    { w with seen := shown :: w.seen }

theorem watch_map {σ ω σ' ω' α : Type} {poll : σ → Guard α → ω × σ × Guard α}
    {poll' : σ' → Guard α → ω' × σ' × Guard α} {f : σ → σ'} {h : ω → ω'}
    (hpoll : ∀ s g, poll' (f s) g = (h (poll s g).1, f (poll s g).2.1, (poll s g).2.2)) (s : σ)
    (g : Guard α) (moves : List (Guard α → Guard α)) :
    watch poll' (f s) g moves =
      ⟨(watch poll s g moves).seen.map h, f (watch poll s g moves).left,
        (watch poll s g moves).guard⟩ := by
  induction moves generalizing s g with
  | nil => rfl
  | cons move moves ih => simp only [watch, hpoll, ih, List.map_cons]

section Signals

variable {ι : Type}

/-- What is the first to tell the status of a call, and how much comes before it: an item that does,
or the end of all that there is. -/
inductive FirstSignal (tells : ι → CallStatus → Prop) (source : List ι) : Nat → CallStatus → Prop
  | item (quiet : List ι) (i : ι) (rest : List ι) (status : CallStatus) :
      source = quiet ++ i :: rest → (∀ j ∈ quiet, ∀ s, ¬tells j s) → tells i status →
      FirstSignal tells source quiet.length status
  | ended : (∀ j ∈ source, ∀ s, ¬tells j s) → FirstSignal tells source source.length .ok

/-- When a call is completed, and with which status, if its consumer polls a number of times and gives up
then: by the poll that comes to the first signal, or as a cancellation after all polls. -/
inductive Conclusion (tells : ι → CallStatus → Prop) (source : List ι) (polls : Nat) :
    Nat → CallStatus → Prop
  | told {k : Nat} {status : CallStatus} : FirstSignal tells source k status → k < polls →
      Conclusion tells source polls (k + 1) status
  | dropped {k : Nat} {status : CallStatus} : FirstSignal tells source k status → polls ≤ k →
      Conclusion tells source polls (polls + 1) .cancelled

variable {tells : ι → CallStatus → Prop} {source : List ι} {i : ι} {n k polls : Nat}
  {status : CallStatus}

theorem FirstSignal.head (hi : tells i status) (rest : List ι) :
    FirstSignal tells (i :: rest) 0 status :=
  .item [] i rest status rfl (fun _ hj => absurd hj List.not_mem_nil) hi

theorem FirstSignal.cons (hi : ∀ s, ¬tells i s) (hs : FirstSignal tells source k status) :
    FirstSignal tells (i :: source) (k + 1) status := by
  cases hs with
  | item quiet j rest _ hsource hquiet hj =>
    exact .item (i :: quiet) j rest status (by rw [hsource, List.cons_append])
      (List.forall_mem_cons.2 ⟨hi, hquiet⟩) hj
  | ended hquiet => exact .ended (List.forall_mem_cons.2 ⟨hi, hquiet⟩)

theorem exists_firstSignal (tells : ι → CallStatus → Prop) (source : List ι) :
    ∃ k status, FirstSignal tells source k status := by
  induction source with
  | nil => exact ⟨0, .ok, .ended fun _ hj => absurd hj List.not_mem_nil⟩
  | cons i source ih =>
    by_cases hi : ∃ s, tells i s
    · obtain ⟨s, hi⟩ := hi
      exact ⟨0, s, .head hi source⟩
    · obtain ⟨k, status, hs⟩ := ih
      exact ⟨k + 1, status, hs.cons (not_exists.1 hi)⟩

theorem FirstSignal.le_length (hs : FirstSignal tells source k status) : k ≤ source.length := by
  cases hs with
  | item quiet i rest _ hsource => simp [hsource]
  | ended => exact le_rfl

theorem FirstSignal.quiet_take (hs : FirstSignal tells source k status) (hn : n ≤ k) :
    ∀ i ∈ source.take n, ∀ s, ¬tells i s := by
  cases hs with
  | item quiet i rest _ hsource hquiet =>
    rw [hsource, List.take_append_of_le_length hn]
    exact fun j hj => hquiet j (List.mem_of_mem_take hj)
  | ended hquiet => exact fun j hj => hquiet j (List.mem_of_mem_take hj)

theorem FirstSignal.at_place (hs : FirstSignal tells source k status) :
    (∃ i, source[k]? = some i ∧ tells i status) ∨ k = source.length ∧ status = .ok := by
  cases hs with
  | item quiet i rest _ hsource _ hi => exact .inl ⟨i, by simp [hsource], hi⟩
  | ended => exact .inr ⟨rfl, rfl⟩

theorem FirstSignal.ok_of_length (hs : FirstSignal tells source source.length status) :
    status = .ok := by
  rcases hs.at_place with ⟨i, hi, -⟩ | ⟨-, hok⟩
  · simp at hi
  · exact hok

theorem FirstSignal.not_lt {k' : Nat} {status' : CallStatus}
    (hs : FirstSignal tells source k status) (hs' : FirstSignal tells source k' status') :
    ¬k < k' := by
  intro hlt
  rcases hs.at_place with ⟨i, hi, ht⟩ | ⟨rfl, -⟩
  · have hmem : i ∈ source.take k' :=
      List.mem_of_getElem? ((List.getElem?_take_of_lt hlt).trans hi)
    exact hs'.quiet_take le_rfl i hmem status ht
  · exact absurd hs'.le_length (Nat.not_le.2 hlt)

theorem FirstSignal.unique {k' : Nat} {status' : CallStatus}
    (hone : ∀ i s s', tells i s → tells i s' → s = s') (hs : FirstSignal tells source k status)
    (hs' : FirstSignal tells source k' status') : k = k' ∧ status = status' := by
  have hk : k = k' := by
    have hle := hs.not_lt hs'
    have hge := hs'.not_lt hs
    omega
  subst hk
  refine ⟨rfl, ?_⟩
  rcases hs.at_place with ⟨i, hi, ht⟩ | ⟨rfl, rfl⟩
  · rcases hs'.at_place with ⟨i', hi', ht'⟩ | ⟨rfl, -⟩
    · cases hi.symm.trans hi'
      exact hone i status status' ht ht'
    · simp at hi
  · exact hs'.ok_of_length.symm

theorem Conclusion.cons (hi : ∀ s, ¬tells i s) (hc : Conclusion tells source polls k status) :
    Conclusion tells (i :: source) (polls + 1) (k + 1) status := by
  cases hc with
  | told hs hk => exact .told (hs.cons hi) (Nat.succ_lt_succ hk)
  | dropped hs hk => exact .dropped (hs.cons hi) (Nat.succ_le_succ hk)

end Signals

/-- What streams and bodies have in common: things that are still to come, and the permit of the call
until it is completed. -/
structure Feed (ι : Type) where
  items : List ι
  slot : Option Permit

namespace Feed

variable {ι α : Type}

def poll (status? : ι → Option CallStatus) (f : Feed ι) (g : Guard α) :
    Option ι × Feed ι × Guard α :=
  match f.items with
  | [] => (none, ⟨[], none⟩, g.conclude f.slot .ok)
  | i :: rest =>
    match status? i with
    | none => (some i, ⟨rest, f.slot⟩, g)
    | some status => (some i, ⟨rest, none⟩, g.conclude f.slot status)

variable {status? : ι → Option CallStatus} {moves : List (Guard α → Guard α)}

theorem seen_watch (f : Feed ι) (g : Guard α) :
    (watch (poll status?) f g moves).seen =
      (f.items.take moves.length).map some ++
        List.replicate (moves.length - f.items.length) none := by
  induction moves generalizing f g with
  | nil => simp [watch]
  | cons move moves ih =>
    obtain ⟨items, slot⟩ := f
    cases items with
    | nil => simp [watch, poll, ih, List.replicate_succ]
    | cons i rest => cases hi : status? i <;> simp [watch, poll, hi, ih]

theorem items_watch (status? : ι → Option CallStatus) (f : Feed ι) (g : Guard α)
    (moves : List (Guard α → Guard α)) :
    (watch (poll status?) f g moves).left.items = f.items.drop moves.length := by
  induction moves generalizing f g with
  | nil => rfl
  | cons move moves ih =>
    obtain ⟨items, slot⟩ := f
    cases items with
    | nil => simp [watch, poll, ih]
    | cons i rest => cases hi : status? i <;> simp [watch, poll, hi, ih]

theorem watch_of_completed (status? : ι → Option CallStatus) (items : List ι) (g : Guard α)
    (moves : List (Guard α → Guard α)) :
    (watch (poll status?) ⟨items, none⟩ g moves).left.slot = none ∧
      (watch (poll status?) ⟨items, none⟩ g moves).guard = g.through moves := by
  induction moves generalizing items g with
  | nil => exact ⟨rfl, rfl⟩
  | cons move moves ih =>
    cases items with
    | nil => exact ih [] (move g)
    | cons i rest =>
      cases hi : status? i <;> simp only [watch, poll, hi] <;> exact ih rest (move g)

theorem conclude_of_completed (items : List ι) (g : Guard α) (last : Guard α → Guard α) :
    let w := watch (poll status?) ⟨items, none⟩ g moves
    (last w.guard).conclude w.left.slot .cancelled = g.through (moves ++ [last]) := by
  intro w
  obtain ⟨hslot, hguard⟩ := watch_of_completed status? items g moves
  rw [hslot, hguard, Guard.through_append]
  rfl

/-- Polling and giving up completes the call once, as its conclusion says. -/
theorem conclude_watch {tells : ι → CallStatus → Prop}
    (htells : ∀ i s, tells i s ↔ status? i = some s) (items : List ι) (p : Permit) (g : Guard α)
    (moves : List (Guard α → Guard α)) (last : Guard α → Guard α) :
    let w := watch (poll status?) ⟨items, some p⟩ g moves
    ∃ k status, Conclusion tells items moves.length k status ∧
      (last w.guard).conclude w.left.slot .cancelled =
        g.completing p status k (moves ++ [last]) := by
  induction moves generalizing items g with
  | nil =>
    obtain ⟨k, status, hs⟩ := exists_firstSignal tells items
    exact ⟨1, .cancelled, .dropped hs (Nat.zero_le k), rfl⟩
  | cons move moves ih =>
    cases items with
    | nil =>
      -- The end is polled.
      have hs : FirstSignal tells [] 0 .ok := .ended fun _ hj => absurd hj List.not_mem_nil
      exact ⟨1, .ok, .told hs (Nat.succ_pos _), conclude_of_completed [] _ last⟩
    | cons i rest =>
      cases hi : status? i with
      | none =>
        have hquiet : ∀ s, ¬tells i s := fun s hs => by
          rw [htells, hi] at hs
          cases hs
        obtain ⟨k, status, hc, hrest⟩ := ih rest (move g)
        refine ⟨k + 1, status, hc.cons hquiet, ?_⟩
        simp only [watch, poll, hi]
        rw [List.cons_append, Guard.completing_cons]
        exact hrest
      | some status =>
        have hs : FirstSignal tells (i :: rest) 0 status := .head ((htells i status).2 hi) rest
        refine ⟨1, status, .told hs (Nat.succ_pos _), ?_⟩
        simp only [watch, poll, hi]
        exact conclude_of_completed rest _ last

end Feed

/-- An error in a stream tells how the call has ended. -/
inductive StreamItem.Tells {β ε : Type} [CallFault ε] : StreamItem β ε → CallStatus → Prop
  | failure (e : ε) : Tells (.failure e) (CallFault.status e)

/-- Trailers tell it by their status code, and that all went well if there is none that can be read. A
body that fails tells that the callee was not available. -/
inductive Frame.Tells : Frame → CallStatus → Prop
  | code (fields : Headers) (code : Code) : fields.statusCode? = some code →
      Tells (.trailers fields) ⟨code, .callee⟩
  | silent (fields : Headers) : fields.statusCode? = none → Tells (.trailers fields) ⟨.ok, .callee⟩
  | failure (f : Failure) : Tells (.failure f) ⟨.unavailable, .callee⟩

theorem Frame.tells_iff (f : Frame) (status : CallStatus) :
    f.Tells status ↔ f.finalStatus? = some status := by
  constructor
  · rintro (⟨_, _, h⟩ | ⟨_, h⟩ | _) <;> simp [finalStatus?, CallStatus.ofCallee, *]
  · intro h
    cases f with
    | data | pending => cases h
    | failure f =>
      cases h
      exact .failure f
    | trailers fields =>
      cases hc : fields.statusCode? with
      | none =>
        simp only [finalStatus?, hc] at h
        cases h
        exact .silent fields hc
      | some code =>
        simp only [finalStatus?, hc] at h
        cases h
        exact .code fields code hc

theorem Frame.tells_one (f : Frame) (s s' : CallStatus) (hs : f.Tells s) (hs' : f.Tells s') :
    s = s' :=
  Option.some.inj (((tells_iff f s).1 hs).symm.trans ((tells_iff f s').1 hs'))

namespace StreamItem

variable {β ε : Type}

def status? [CallFault ε] : StreamItem β ε → Option CallStatus
  | .failure e => some (CallFault.status e)
  | .item _ | .pending => none

def shown : StreamItem β ε → Polled β ε
  | .item b => .item b
  | .failure e => .failure e
  | .pending => .pending

theorem tells_iff [CallFault ε] (i : StreamItem β ε) (status : CallStatus) :
    i.Tells status ↔ i.status? = some status := by
  constructor
  · rintro ⟨⟩
    rfl
  · intro h
    cases i with
    | item | pending => cases h
    | failure e =>
      cases h
      exact .failure e

end StreamItem

namespace GuardedStream

variable {α β ε : Type}

def ofFeed (key : Key) (f : Feed (StreamItem β ε)) : GuardedStream β ε := ⟨key, f.items, f.slot⟩

variable [CallFault ε]

theorem poll_ofFeed (key : Key) (f : Feed (StreamItem β ε)) (g : Guard α) :
    (ofFeed key f).poll g =
      ((f.poll StreamItem.status? g).1.elim .finished StreamItem.shown,
        ofFeed key (f.poll StreamItem.status? g).2.1, (f.poll StreamItem.status? g).2.2) := by
  obtain ⟨items, slot⟩ := f
  cases items with
  | nil => simp only [poll, ofFeed, finish_eq, Feed.poll, Option.elim]
  | cons i rest =>
    cases i <;> simp only [poll, ofFeed, finish_eq, Feed.poll, StreamItem.status?, Option.elim,
      StreamItem.shown]

theorem watch_ofFeed (key : Key) (f : Feed (StreamItem β ε)) (g : Guard α)
    (moves : List (Guard α → Guard α)) :
    let w := watch (Feed.poll StreamItem.status?) f g moves
    watch poll (ofFeed key f) g moves =
      ⟨w.seen.map (·.elim .finished StreamItem.shown), ofFeed key w.left, w.guard⟩ :=
  watch_map (poll_ofFeed key) f g moves

theorem watch_poll (key : Key) (items : List (StreamItem β ε)) (p : Permit) (g : Guard α)
    (moves : List (Guard α → Guard α)) (last : Guard α → Guard α) :
    let w := watch poll ⟨key, items, some p⟩ g moves
    w.seen = (items.take moves.length).map (·.shown) ++
        List.replicate (moves.length - items.length) .finished ∧
      ∃ k status, Conclusion StreamItem.Tells items moves.length k status ∧
        w.left.drop (last w.guard) = g.completing p status k (moves ++ [last]) := by
  intro w
  have hw : w = _ := watch_ofFeed key ⟨items, some p⟩ g moves
  obtain ⟨k, status, hc, hend⟩ := Feed.conclude_watch StreamItem.tells_iff items p g moves last
  rw [hw]
  refine ⟨?_, k, status, hc, (drop_eq _ _).trans hend⟩
  rw [Feed.seen_watch, List.map_append, List.map_map, List.map_replicate]
  rfl

end GuardedStream

namespace Body

variable {α : Type}

def ofFeed (key : Key) (f : Feed Frame) : Body := ⟨key, f.items, f.slot⟩

theorem poll_ofFeed (key : Key) (f : Feed Frame) (g : Guard α) :
    (ofFeed key f).poll g =
      ((f.poll Frame.finalStatus? g).1.elim .finished .frame,
        ofFeed key (f.poll Frame.finalStatus? g).2.1, (f.poll Frame.finalStatus? g).2.2) := by
  obtain ⟨frames, slot⟩ := f
  cases frames with
  | nil => simp only [poll, ofFeed, finish_eq, Feed.poll, Option.elim]
  | cons f rest =>
    cases hf : f.finalStatus? <;>
      simp only [poll, ofFeed, finish_eq, Feed.poll, hf, Option.elim]

theorem watch_ofFeed (key : Key) (f : Feed Frame) (g : Guard α)
    (moves : List (Guard α → Guard α)) :
    let w := watch (Feed.poll Frame.finalStatus?) f g moves
    watch poll (ofFeed key f) g moves =
      ⟨w.seen.map (·.elim .finished .frame), ofFeed key w.left, w.guard⟩ :=
  watch_map (poll_ofFeed key) f g moves

theorem seen_watch (key : Key) (frames : List Frame) (slot : Option Permit) (g : Guard α)
    (moves : List (Guard α → Guard α)) :
    (watch poll ⟨key, frames, slot⟩ g moves).seen =
      (frames.take moves.length).map .frame ++
        List.replicate (moves.length - frames.length) .finished := by
  have hw : watch poll ⟨key, frames, slot⟩ g moves = _ := watch_ofFeed key ⟨frames, slot⟩ g moves
  rw [hw, Feed.seen_watch, List.map_append, List.map_map, List.map_replicate]
  rfl

theorem drop_watch (key : Key) (frames : List Frame) (p : Permit) (g : Guard α)
    (moves : List (Guard α → Guard α)) (last : Guard α → Guard α) :
    let w := watch poll ⟨key, frames, some p⟩ g moves
    ∃ k status, Conclusion Frame.Tells frames moves.length k status ∧
      w.left.drop (last w.guard) = g.completing p status k (moves ++ [last]) := by
  intro w
  have hw : w = _ := watch_ofFeed key ⟨frames, some p⟩ g moves
  obtain ⟨k, status, hc, hend⟩ := Feed.conclude_watch Frame.tells_iff frames p g moves last
  rw [hw]
  exact ⟨k, status, hc, (drop_eq _ _).trans hend⟩

theorem drop_watch_of_completed (key : Key) (frames : List Frame) (g : Guard α)
    (moves : List (Guard α → Guard α)) (last : Guard α → Guard α) :
    let w := watch poll ⟨key, frames, none⟩ g moves
    w.left.drop (last w.guard) = g.through (moves ++ [last]) := by
  intro w
  have hw : w = _ := watch_ofFeed key ⟨frames, none⟩ g moves
  rw [hw]
  exact (drop_eq _ _).trans (Feed.conclude_of_completed frames g last)

end Body

/-- Whether the status of the call is in the head: there is a code that can be read, or the line does not
say that all went well. -/
def ResponseHead.Final (h : ResponseHead) : Prop :=
  (∃ code, h.headers.statusCode? = some code) ∨ ¬(200 ≤ h.line ∧ h.line < 300)

theorem ResponseHead.isFinal_iff {h : ResponseHead} : h.isFinal = true ↔ h.Final := by
  simp [isFinal, Final, Option.isSome_iff_exists, imp_iff_not_or]

/-- When the call of a response is completed, and with which status, if the body is polled a number of
times and then dropped: at once by a final head, and by the body otherwise. -/
inductive Response.Concludes (r : Response) (polls : Nat) : Nat → CallStatus → Prop
  | head : r.head.Final → Concludes r polls 0 r.head.finalStatus
  | body {k : Nat} {status : CallStatus} : ¬r.head.Final →
      Conclusion Frame.Tells r.frames polls k status → Concludes r polls k status

namespace Guard

variable {α β ε : Type}

theorem respond_of_final {r : Response} (hf : r.head.Final) (g : Guard α) (p : Permit) :
    g.respond p (.finished (.ok r)) =
      (.response r.head ⟨p.key, r.frames, none⟩, (g.complete p r.head.finalStatus).2) := by
  simp only [respond, passOn, if_pos (ResponseHead.isFinal_iff.2 hf)]

theorem respond_of_not_final {r : Response} (hf : ¬r.head.Final) (g : Guard α) (p : Permit) :
    g.respond p (.finished (.ok r)) = (.response r.head ⟨p.key, r.frames, some p⟩, g) := by
  simp only [respond, passOn, if_neg (mt ResponseHead.isFinal_iff.1 hf)]

/-- Streams and responses come to the consumer as they are, however often they are polled; and a call is
completed once, by the first signal polled or, if none is, when the consumer gives up. -/
theorem first_signal_decides [CallFault ε] (g : Guard α) (p : Permit)
    (moves : List (Guard α → Guard α)) (last : Guard α → Guard α) :
    (∀ items : List (StreamItem β ε),
      let w := watch GuardedStream.poll ⟨p.key, items, some p⟩ g moves
      w.seen = (items.take moves.length).map (·.shown) ++
          List.replicate (moves.length - items.length) .finished ∧
        ∃ k status, Conclusion StreamItem.Tells items moves.length k status ∧
          w.left.drop (last w.guard) = g.completing p status k (moves ++ [last])) ∧
    ∀ r : Response, ∃ body after, g.respond p (.finished (.ok r)) = (.response r.head body, after) ∧
      let w := watch Body.poll body after moves
      w.seen = (r.frames.take moves.length).map .frame ++
          List.replicate (moves.length - r.frames.length) .finished ∧
        ∃ k status, r.Concludes moves.length k status ∧
          w.left.drop (last w.guard) = g.completing p status k (moves ++ [last]) := by
  refine ⟨fun items => GuardedStream.watch_poll p.key items p g moves last, fun r => ?_⟩
  by_cases hf : r.head.Final
  · exact ⟨_, _, respond_of_final hf g p, Body.seen_watch _ _ _ _ _, 0, r.head.finalStatus,
      .head hf, Body.drop_watch_of_completed _ _ _ _ _⟩
  · obtain ⟨k, status, hc, hend⟩ := Body.drop_watch p.key r.frames p g moves last
    exact ⟨_, _, respond_of_not_final hf g p, Body.seen_watch _ _ _ _ _, k, status, .body hf hc,
      hend⟩

end Guard
end Turnstile
