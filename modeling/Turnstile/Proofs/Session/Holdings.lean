import Turnstile.Proofs.Guard.Deeds
import Turnstile.Session.Guard
import Mathlib.Tactic.Abel
/-!
What a session holds. Every permit that is out stands on one of the shelves of its session, by itself
or inside a stream or a body, and it leaves its shelf together with the report of its call.
-/
namespace Turnstile

inductive Place where
  | permit (name : String)
  | call (name : String)
  | request (name : String)
  | stream (name : String)
  | body (name : String)
  deriving DecidableEq

inductive Held (β : Type) (ε : Type := CallStatus) where
  | permit (p : Permit)
  | stream (s : GuardedStream β ε)
  | body (b : Body)

namespace Held

variable {β ε : Type}

def key : Held β ε → Key
  | .permit p => p.key
  | .stream s => s.key
  | .body b => b.key

def permit? : Held β ε → Option Permit
  | .permit p => some p
  | .stream s => s.permit
  | .body b => b.permit

end Held

/-- Where the things on each rack of a session stand, and what is held there. -/
inductive Rack.Stands {α β ε : Type} :
    {γ : Type} → Rack α β ε γ → (String → Place) → (γ → Held β ε) → Prop
  | permits : Stands .permits .permit .permit
  | calls : Stands .calls .call .permit
  | requests : Stands .requests .request .permit
  | streams : Stands .streams .stream .stream
  | bodies : Stands .bodies .body .body

namespace Shelf

variable {γ : Type}

def Distinct (sh : Shelf γ) : Prop := (sh.items.map (·.1)).Nodup

/-- The permits in the values of a shelf. -/
def held (f : γ → Option Permit) (sh : Shelf γ) : Multiset Permit :=
  (sh.items.filterMap fun e => f e.2 : List Permit)

variable {sh : Shelf γ}

theorem distinct_empty : (empty : Shelf γ).Distinct := List.nodup_nil

theorem Distinct.erase (hd : sh.Distinct) (name : String) : (sh.erase name).Distinct :=
  hd.sublist (List.filter_sublist.map _)

theorem Distinct.put (hd : sh.Distinct) (name : String) (c : γ) : (sh.put name c).Distinct := by
  unfold Distinct Shelf.put
  rw [List.map_append, List.nodup_append']
  refine ⟨hd.erase name, List.nodup_singleton name, ?_⟩
  rw [List.map_singleton, List.disjoint_singleton]
  intro hm
  obtain ⟨e, he, hn⟩ := List.mem_map.1 hm
  simpa [hn] using (List.mem_filter.1 he).2

theorem held_put (f : γ → Option Permit) (sh : Shelf γ) (name : String) (c : γ) :
    (sh.put name c).held f = (f c).toList + (sh.erase name).held f := by
  unfold held put
  rw [List.filterMap_append, ← Multiset.coe_add, add_comm]
  cases hc : f c <;> simp [hc]

theorem Distinct.set (hd : sh.Distinct) (name : String) (left : Option γ) :
    (sh.set name left).Distinct := by
  cases left with
  | none => exact hd.erase name
  | some c => exact hd.put name c

theorem held_set (f : γ → Option Permit) (sh : Shelf γ) (name : String) (left : Option γ) :
    (sh.set name left).held f = (left.bind f).toList + (sh.erase name).held f := by
  cases left with
  | none => exact (zero_add _).symm
  | some c => exact held_put f sh name c

theorem Distinct.held_erase (hd : sh.Distinct) (f : γ → Option Permit) (name : String) :
    sh.held f = ((sh.get? name).bind f).toList + (sh.erase name).held f := by
  obtain ⟨items⟩ := sh
  induction items with
  | nil => rfl
  | cons e rest ih =>
    obtain ⟨hne, hrest⟩ := List.nodup_cons.1 hd
    by_cases hn : e.1 = name
    · have hleft : rest.filter (·.1 != name) = rest := by
        refine List.filter_eq_self.2 fun e' he' => ?_
        have hm : e'.1 ∈ rest.map (·.1) := List.mem_map_of_mem he'
        have hne' : e'.1 ≠ e.1 := fun he => hne (show e.1 ∈ rest.map (·.1) from he ▸ hm)
        simpa [← hn] using hne'
      cases hf : f e.2 <;> simp [held, get?, Shelf.erase, hn, hleft, hf]
    · have ih := ih hrest
      simp only [held, get?, Shelf.erase] at ih ⊢
      rw [List.find?_cons_of_neg (by simpa using hn), List.filter_cons_of_pos (by simpa using hn)]
      cases hf : f e.2 with
      | none => simpa [hf] using ih
      | some p =>
        simp only [List.filterMap_cons, hf, ← Multiset.cons_coe, ih, Multiset.add_cons]

end Shelf

namespace Session

variable {α β ε : Type}

def out (s : Session α β ε) : Multiset Permit :=
  s.permits.held some + s.calls.held some + s.requests.held some +
    s.streams.held (·.permit) + s.bodies.held (·.permit)

def custody (s : Session α β ε) : Custody α := ⟨s.guard, s.out⟩

/-- A session whose shelves hold one value under each name. -/
structure Tidy (s : Session α β ε) : Prop where
  permits : s.permits.Distinct
  calls : s.calls.Distinct
  requests : s.requests.Distinct
  streams : s.streams.Distinct
  bodies : s.bodies.Distinct

theorem tidy_ofGuard (g : Guard α) : (ofGuard g : Session α β ε).Tidy :=
  ⟨Shelf.distinct_empty, Shelf.distinct_empty, Shelf.distinct_empty, Shelf.distinct_empty,
    Shelf.distinct_empty⟩

theorem Tidy.withGuard {s : Session α β ε} (ht : s.Tidy) (guard : Guard α) :
    ({ s with guard } : Session α β ε).Tidy :=
  ⟨ht.permits, ht.calls, ht.requests, ht.streams, ht.bodies⟩

theorem custody_withGuard (s : Session α β ε) (guard : Guard α) :
    ({ s with guard } : Session α β ε).custody = ⟨guard, s.out⟩ := rfl

end Session

namespace Rack

variable {α β ε γ : Type} {rack : Rack α β ε γ} {place : String → Place} {held : γ → Held β ε}
  {s : Session α β ε} {sh : Shelf γ}

theorem Stands.ends_giveUp (hr : rack.Stands place held) (c : γ) (g : Guard α) :
    Guard.Ends g (held c).permit? none (rack.giveUp c g) := by
  cases hr with
  | permits | calls | requests => exact g.ends_abandon c
  | streams => exact Guard.ends_drop_stream c g
  | bodies => exact Guard.ends_drop_body c g

theorem Stands.distinct (hr : rack.Stands place held) (ht : s.Tidy) :
    (rack.shelf s).Distinct := by
  cases hr with
  | permits => exact ht.permits
  | calls => exact ht.calls
  | requests => exact ht.requests
  | streams => exact ht.streams
  | bodies => exact ht.bodies

theorem Stands.tidy (hr : rack.Stands place held) (ht : s.Tidy) (hd : sh.Distinct) (g : Guard α) :
    (rack.refit { s with guard := g } sh).Tidy := by
  cases hr with
  | permits => exact ⟨hd, ht.calls, ht.requests, ht.streams, ht.bodies⟩
  | calls => exact ⟨ht.permits, hd, ht.requests, ht.streams, ht.bodies⟩
  | requests => exact ⟨ht.permits, ht.calls, hd, ht.streams, ht.bodies⟩
  | streams => exact ⟨ht.permits, ht.calls, ht.requests, hd, ht.bodies⟩
  | bodies => exact ⟨ht.permits, ht.calls, ht.requests, ht.streams, hd⟩

theorem Stands.ends_displaced (hr : rack.Stands place held) (g : Guard α) (old : Option γ) :
    Guard.Ends g (old.bind fun c => (held c).permit?) none (old.elim g (rack.giveUp · g)) := by
  cases old with
  | none => exact .kept none
  | some c => exact hr.ends_giveUp c g

theorem Stands.out_refit (hr : rack.Stands place held) (s : Session α β ε) (sh : Shelf γ) :
    (rack.refit s sh).out = (rack.refit s .empty).out + sh.held fun c => (held c).permit? := by
  have hempty : ∀ f : γ → Option Permit, (Shelf.empty : Shelf γ).held f = 0 := fun _ => rfl
  cases hr <;>
    simp only [Session.out, Rack.permits, Rack.calls, Rack.requests, Rack.streams, Rack.bodies,
      Held.permit?, hempty] <;> abel

/-- What is out, as far as one name on a rack goes: the permit there, beside the others. -/
theorem Stands.custody_split (hr : rack.Stands place held) (ht : s.Tidy) (name : String) :
    ∃ rest : Multiset Permit,
      s.custody =
        ⟨s.guard, (((rack.shelf s).get? name).bind fun c => (held c).permit?).toList + rest⟩ ∧
      ∀ g left, (rack.refit { s with guard := g } ((rack.shelf s).set name left)).custody =
        ⟨g, (left.bind fun c => (held c).permit?).toList + rest⟩ := by
  have hcustody : ∀ g sh, (rack.refit { s with guard := g } sh).custody =
      ⟨g, (rack.refit s .empty).out + sh.held fun c => (held c).permit?⟩ := by
    intro g sh
    rw [← hr.out_refit]
    cases hr <;> rfl
  have hself : rack.refit { s with guard := s.guard } (rack.shelf s) = s := by cases hr <;> rfl
  refine ⟨(rack.refit s .empty).out +
    ((rack.shelf s).erase name).held fun c => (held c).permit?, ?_, fun g left => ?_⟩
  · rw [← add_left_comm, ← (hr.distinct ht).held_erase, ← hcustody, hself]
  · rw [hcustody, Shelf.held_set, add_left_comm]

end Rack

namespace Session

open Custody (Aside Reaches)

variable {α β ε γ : Type} {s : Session α β ε} {rack : Rack α β ε γ} {place : String → Place}
  {held : γ → Held β ε}

theorem Tidy.keep (ht : s.Tidy) (hr : rack.Stands place held) (name : String) (c : γ) :
    (s.keep rack name c).Tidy :=
  hr.tidy ht ((hr.distinct ht).put name c) _

theorem Tidy.keepPermit (ht : s.Tidy) (name : String) (p : Permit) :
    (s.keepPermit name p).Tidy := by
  unfold Session.keepPermit
  split
  · exact ht.withGuard _
  · exact ht.keep .permits name p

theorem Tidy.keepResponse (ht : s.Tidy) (name : String) (result : ExchangeResult) :
    (s.keepResponse name result).Tidy := by
  cases result with
  | response head body => exact ht.keep .bodies name body
  | failure | abandoned => exact ht

theorem Tidy.serve (ht : s.Tidy) (hr : rack.Stands place held) (name : String)
    (act : Guard α → γ → Reply α β ε × Option γ × Guard α) : (s.serve rack name act).2.Tidy := by
  unfold Session.serve
  split
  · exact ht
  · exact hr.tidy ht ((hr.distinct ht).set name _) _

variable [Quantity α]

/-- What is put on a rack displaces what stood under its name. -/
theorem Tidy.keep_aside (ht : s.Tidy) (hr : rack.Stands place held) (name : String) (c : γ) :
    Aside ⟨s.guard, (held c).permit?.toList + s.out⟩ (s.keep rack name c).custody := by
  obtain ⟨rest, hsplit, hset⟩ := hr.custody_split ht name
  have hput : (s.keep rack name c).custody = ⟨_, (held c).permit?.toList + rest⟩ :=
    hset _ (some c)
  rw [hput, show s.out = _ from congrArg Custody.out hsplit, add_left_comm]
  exact Custody.aside_of_end (hr.ends_displaced s.guard _) _

theorem Tidy.keepPermit_aside (ht : s.Tidy) (name : String) (p : Permit) :
    Aside ⟨s.guard, p ::ₘ s.out⟩ (s.keepPermit name p).custody := by
  unfold Session.keepPermit
  split
  · exact Custody.aside_of_end (s.guard.ends_abandon p) s.out
  · exact ht.keep_aside .permits name p

theorem Tidy.keepResponse_aside (ht : s.Tidy) (name : String) (result : ExchangeResult) :
    Aside ⟨s.guard, result.permit?.toList + s.out⟩ (s.keepResponse name result).custody := by
  cases result with
  | response head body => exact ht.keep_aside .bodies name body
  | failure | abandoned =>
    rw [show (ExchangeResult.permit? _).toList = [] from rfl, Multiset.coe_nil, zero_add]
    exact .refl _

theorem Tidy.serve_aside (ht : s.Tidy) (hr : rack.Stands place held) (name : String)
    {act : Guard α → γ → Reply α β ε × Option γ × Guard α}
    (hact : ∀ c, Guard.Ends s.guard (held c).permit?
      ((act s.guard c).2.1.bind fun c => (held c).permit?) (act s.guard c).2.2) :
    Aside s.custody (s.serve rack name act).2.custody := by
  unfold Session.serve
  split
  · exact .refl _
  · next c hc =>
    obtain ⟨rest, hsplit, hset⟩ := hr.custody_split ht name
    simp only [about]
    rw [hset, hsplit, hc]
    exact Custody.aside_of_ends (hact c) rest

end Session
end Turnstile
