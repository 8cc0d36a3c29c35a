import Turnstile.Proofs.Guard.Signals
import Turnstile.Session.Guard
/-!
Bodies that are read as far as they go. A consumer reads until it is given an error or the end, or until
the body says that it is at its end, and drops the body then. A call is completed by what has been polled
alone; so one without trailers and errors is taken for cancelled, if its consumer believes the body.
-/
namespace Turnstile

namespace Body

variable {α : Type}

/-- A consumer has read all that there is: the last poll has come to the end or to an error, or the body
says that nothing is left. -/
inductive ReadUp (w : Watched Body PolledFrame α) : Prop
  | ended : w.seen.getLast? = some .finished → ReadUp w
  | failed (f : Failure) : w.seen.getLast? = some (.frame (.failure f)) → ReadUp w
  | reported : w.left.atEnd = true → ReadUp w

theorem atEnd_watch (key : Key) (frames : List Frame) (slot : Option Permit) (g : Guard α)
    (moves : List (Guard α → Guard α)) :
    (watch poll ⟨key, frames, slot⟩ g moves).left.atEnd = true ↔ frames.length ≤ moves.length := by
  have hw : watch poll ⟨key, frames, slot⟩ g moves = _ := watch_ofFeed key ⟨frames, slot⟩ g moves
  have hitems := Feed.items_watch Frame.finalStatus? ⟨frames, slot⟩ g moves
  rw [hw, atEnd, List.isEmpty_iff]
  exact (hitems ▸ List.drop_eq_nil_iff :)

theorem ReadUp.length_eq {key : Key} {frames : List Frame} {slot : Option Permit} {g : Guard α}
    {moves : List (Guard α → Guard α)} {k : Nat} {status : CallStatus}
    (hr : ReadUp (watch poll ⟨key, frames, slot⟩ g moves))
    (hs : FirstSignal Frame.Tells frames k status) (hk : moves.length ≤ k) :
    k = frames.length ∧ moves.length = frames.length := by
  have hlength := hs.le_length
  cases hr with
  | reported hend =>
    have hall := (atEnd_watch key frames slot g moves).1 hend
    omega
  | ended hlast =>
    have hmem := List.mem_of_getLast? hlast
    rw [seen_watch, List.mem_append, List.mem_map, List.mem_replicate] at hmem
    rcases hmem with ⟨f, -, ⟨⟩⟩ | ⟨hpast, -⟩
    omega
  | failed f hlast =>
    have hmem := List.mem_of_getLast? hlast
    rw [seen_watch, List.mem_append, List.mem_map, List.mem_replicate] at hmem
    rcases hmem with ⟨f', hf, heq⟩ | ⟨-, ⟨⟩⟩
    cases heq
    exact absurd (Frame.Tells.failure f) (hs.quiet_take hk _ hf _)

/-- Of a body that has been read up, the call is completed by the first signal, once that has been polled.
The one case in which it has not is that the consumer has taken every frame and gone by what the body
says of its end: if then no frame has told a status, the call is taken for cancelled. -/
theorem read_up_body_concludes (g : Guard α) (p : Permit) (r : Response)
    (moves : List (Guard α → Guard α)) (last : Guard α → Guard α) (ho : ¬r.head.Final)
    (hr : ReadUp (watch poll ⟨p.key, r.frames, some p⟩ g moves)) :
    g.respond p (.finished (.ok r)) = (.response r.head ⟨p.key, r.frames, some p⟩, g) ∧
      let w := watch poll ⟨p.key, r.frames, some p⟩ g moves
      ∃ k status, FirstSignal Frame.Tells r.frames k status ∧
        (k < moves.length →
          w.left.drop (last w.guard) = g.completing p status (k + 1) (moves ++ [last])) ∧
        (moves.length ≤ k →
          moves.length = r.frames.length ∧ w.left.atEnd = true ∧
            (∀ f ∈ r.frames, ∀ s, ¬f.Tells s) ∧ status = .ok ∧
            w.left.drop (last w.guard) =
              g.completing p .cancelled (moves.length + 1) (moves ++ [last])) := by
  refine ⟨Guard.respond_of_not_final ho g p, ?_⟩
  intro w
  obtain ⟨k, status, hc, hend⟩ := drop_watch p.key r.frames p g moves last
  cases hc with
  | told hs hk => exact ⟨_, status, hs, fun _ => hend, fun hle => absurd hk (not_lt.2 hle)⟩
  | @dropped k status hs hk =>
    obtain ⟨rfl, hall⟩ := hr.length_eq hs hk
    have hquiet := hs.quiet_take le_rfl
    rw [List.take_length] at hquiet
    exact ⟨_, status, hs, fun hlt => absurd hlt (not_lt.2 hk), fun _ =>
      ⟨hall, (atEnd_watch _ _ _ _ _).2 hall.ge, hquiet, hs.ok_of_length, hend⟩⟩

/-- Trailers are the last of a body, and the consumer goes by what the body says then. -/
theorem trailers_end_body :
    let g : Guard Rat := .ofSnapshot (.ofConfig 1 .standard)
    let p : Permit := ⟨⟨"svc/M"⟩, Config.standard.defaultPolicy, none, 0⟩
    let trailers : Headers := .ofList [("grpc-status", "13")]
    let r : Response := ⟨⟨200, .empty⟩, [.data "x", .trailers trailers]⟩
    let moves : List (Guard Rat → Guard Rat) := [id, (·.advance 5)]
    let w := watch poll ⟨p.key, r.frames, some p⟩ g moves
    ¬r.head.Final ∧ w.left.atEnd = true ∧ ReadUp w ∧
      w.left.drop w.guard = ((g.advance 5).complete p (.ofCallee .internal)).2 := by
  intro g p trailers r moves w
  have ho : ¬r.head.Final := by
    rw [← ResponseHead.isFinal_iff]
    decide +kernel
  have hend : w.left.atEnd = true := by decide +kernel
  obtain ⟨-, k, status, hs, hpolled, -⟩ :=
    read_up_body_concludes g p r moves id ho (.reported hend)
  have htold : FirstSignal Frame.Tells r.frames 1 (.ofCallee .internal) := by
    refine .cons (fun s hs => ?_) (.head ((Frame.tells_iff _ _).2 (by decide +kernel)) [])
    cases (Frame.tells_iff _ _).1 hs
  obtain ⟨rfl, rfl⟩ := hs.unique Frame.tells_one htold
  exact ⟨ho, hend, .reported hend, hpolled (by decide)⟩

/-- A body of one frame and no trailers. Its consumer has read it, and the body has said so; but the call,
which has ended well, makes no sample unless the consumer asks once more. -/
theorem believed_end_counts_as_cancelled :
    let r : Response := ⟨⟨200, .empty⟩, [.data "x"]⟩
    let start : Session Rat Unit := .ofGuard (.ofSnapshot (.ofConfig 1 .standard))
    let read := start.run
      [.exchange "a" ⟨"/svc/M", .empty⟩ ⟨none, ⟨0, .ends 0 (.ok r)⟩⟩, .pollBody "a"]
    ¬r.head.Final ∧ (read.bodies.get? "a").map (·.atEnd) = some true ∧
      FirstSignal Frame.Tells r.frames 1 .ok ∧
      (read.run [.dropBody "a"]).guard.events = [.outcome ⟨"svc/M"⟩ .ignored] ∧
      (read.run [.pollBody "a", .dropBody "a"]).guard.events = [.outcome ⟨"svc/M"⟩ .success] := by
  intro r start read
  have ho : ¬r.head.Final := by
    rw [← ResponseHead.isFinal_iff]
    decide +kernel
  have hquiet : ∀ f ∈ r.frames, ∀ s, ¬f.Tells s := by
    intro f hf s hs
    rw [Frame.tells_iff] at hs
    rw [List.mem_singleton.1 hf] at hs
    cases hs
  exact ⟨ho, by decide +kernel, .ended hquiet, by decide +kernel, by decide +kernel⟩

end Body
end Turnstile
