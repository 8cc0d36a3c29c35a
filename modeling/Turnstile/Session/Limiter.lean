import Turnstile.Limiter
/-!
Sessions with a limiter alone.
-/
namespace Turnstile

structure LimiterSession (α : Type) where
  now : Instant
  limiter : Limiter α
  journal : List Notice

inductive LimiterAction where
  | acquire (key : Key) (q : Quota) (permits : Nat)
  | available (key : Key) (q : Quota)
  | look (key : Key)
  | poison (key : Key)
  | advance (span : Span)
  | sweep (retention : Retention)

inductive LimiterReply (α : Type) where
  | granted (b : Bool)
  | tokens (amount : Option α)
  | seen (bucket : Bool)
  | poisoned (b : Bool)
  | evicted (keys : Nat)
  | done

namespace LimiterSession

variable {α : Type}

def start : LimiterSession α := ⟨0, .empty, []⟩

instance : Inhabited (LimiterSession α) := ⟨start⟩

variable [Quantity α]

def step (s : LimiterSession α) : LimiterAction → LimiterReply α × LimiterSession α
  | .acquire key q permits =>
    let (granted, notices, limiter) := s.limiter.acquire key q permits s.now
    (.granted granted, { s with limiter, journal := s.journal ++ notices })
  | .available key q =>
    let (amount, limiter) := s.limiter.available key q s.now
    (.tokens amount, { s with limiter })
  | .look key => (.seen (s.limiter.contains key), s)
  | .poison key =>
    let (marked, limiter) := s.limiter.poison key
    (.poisoned marked, { s with limiter })
  | .advance span => (.done, { s with now := s.now + span })
  | .sweep retention =>
    let (limiter, keys) := s.limiter.sweep s.now retention
    (.evicted keys, { s with limiter })

def run (s : LimiterSession α) (actions : List LimiterAction) : LimiterSession α :=
  actions.foldl (fun s a => (s.step a).2) s

end LimiterSession
end Turnstile
