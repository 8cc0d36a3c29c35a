import Turnstile.Proofs.Config.Repetition
import Turnstile.Proofs.Resolution.Attributes
/-!
Names of attributes in letters of either case. It makes no difference how the rules of a configuration
spell them, nor how headers and requests do. A map is only asked for names in lower case, so that what
it holds under any other spelling is not found.
-/
namespace Turnstile

def lowered (attributes : List (String × String)) : List (String × String) :=
  attributes.map fun a => (a.1.toLower, a.2)

theorem Headers.ofList_congr {as bs : List (String × String)} (h : lowered as = lowered bs) :
    ofList as = ofList bs := by
  have hfields : (ofList as).fields = (ofList bs).fields := by
    rw [fields_ofList, fields_ofList]
    exact h
  exact congrArg Headers.mk hfields

theorem RequestContext.ofList_lowered (attributes : List (String × String)) :
    ofList (lowered attributes) = ofList attributes := by
  unfold ofList lowered
  rw [List.foldl_map]
  simp only [insert, toLower_toLower]

/-- The same attributes in a context of the same kind, under other spellings of their names. A map has
no order, and no two of its names are one name in two spellings. -/
inductive Context.Respelled : Context → Context → Prop
  | empty : Respelled .empty .empty
  | map {as bs : List (String × String)} :
    (lowered as).Perm (lowered bs) → ((lowered as).map (·.1)).Nodup → Respelled (.map as) (.map bs)
  | headers {as bs : List (String × String)} :
    lowered as = lowered bs → Respelled (.headers (.ofList as)) (.headers (.ofList bs))
  | request {as bs : List (String × String)} :
    lowered as = lowered bs → Respelled (.request (.ofList as)) (.request (.ofList bs))
  | copied {as bs : List (String × String)} :
    lowered as = lowered bs →
      Respelled (.request (.ofHeaders (.ofList as))) (.request (.ofHeaders (.ofList bs)))

/-- Whether two maps hold the same attributes under names in lower case. Contexts of other kinds do not
know how a name was spelled. -/
def Context.KeepsLower : Context → Context → Prop
  | .map as, .map bs => ∀ a : String × String, a.1.toLower = a.1 → (a ∈ as ↔ a ∈ bs)
  | _, _ => True

structure Rule.Respelled (a b : Rule) : Prop where
  keyAttributes : a.keyAttributes.map String.toLower = b.keyAttributes.map String.toLower
  required : a.required.Perm b.required
  rest : { a with keyAttributes := b.keyAttributes, matchAttributes := b.matchAttributes } = b

structure Config.Respelled (c c' : Config) : Prop where
  rules : List.Forall₂ Rule.Respelled c.rules c'.rules
  rest : { c with rules := c'.rules } = c'

theorem sortPairs_eq_of_perm {xs ys : List (String × String)} (h : xs.Perm ys) :
    sortPairs xs = sortPairs ys := by
  -- The order by names and then by values is the lexicographic one, which is antisymmetric.
  have hle (a b : String × String) :
      (if a.1 = b.1 then decide (a.2 ≤ b.2) else decide (a.1 ≤ b.1)) =
        decide (toLex a ≤ toLex b) := by
    rw [Bool.eq_iff_iff, decide_eq_true_eq, Prod.Lex.toLex_le_toLex]
    split
    · next heq => simp [heq]
    · next hne => simp [hne, le_iff_lt_or_eq]
  have hsorted (zs : List (String × String)) :
      (sortPairs zs).Pairwise fun a b => toLex a ≤ toLex b := by
    let le (a b : String × String) : Bool := decide (toLex a ≤ toLex b)
    have hpairwise : (zs.mergeSort le).Pairwise fun a b => le a b := List.pairwise_mergeSort
      (fun a b c hab hbc => decide_eq_true ((of_decide_eq_true hab).trans (of_decide_eq_true hbc)))
      (fun a b => by simpa [le] using le_total (toLex a) (toLex b)) zs
    simpa only [sortPairs, hle, le, decide_eq_true_eq] using hpairwise
  have hperm : (sortPairs xs).Perm (sortPairs ys) :=
    (List.mergeSort_perm xs _).trans (h.trans (List.mergeSort_perm ys _).symm)
  exact hperm.eq_of_pairwise (fun a b _ _ hab hba => toLex_inj.1 (le_antisymm hab hba))
    (hsorted xs) (hsorted ys)

namespace Config

theorem Respelled.refl (c : Config) : c.Respelled c where
  rules := List.forall₂_same.2 fun _ _ => ⟨rfl, .refl _, rfl⟩
  rest := rfl

theorem compiled_respelled {a b : Rule} (h : a.Respelled b) (c : Config) :
    c.compiled a = c.compiled b := by
  have hsorted : sortPairs a.required = sortPairs b.required := sortPairs_eq_of_perm h.required
  unfold Rule.required at hsorted
  rw [← h.rest]
  simp only [compiled, policyOf, quotaFor, thresholdsFor, hsorted, h.keyAttributes]

end Config

namespace Snapshot

variable {version version' : Nat} {c c' : Config} {method : String} {ctx : Context}

theorem rules_respelled (h : c.Respelled c') :
    (ofConfig version' c').rules = (ofConfig version c).rules := by
  obtain ⟨hrules, hrest⟩ := h
  have hcompiled : List.Forall₂ (· = ·) (c.rules.map c.compiled) (c'.rules.map c.compiled) := by
    rw [List.forall₂_map_left_iff, List.forall₂_map_right_iff]
    exact hrules.imp fun a b hr => Config.compiled_respelled hr c
  rw [List.forall₂_eq_eq_eq] at hcompiled
  rw [← hrest]
  exact hcompiled.symm

theorem extract_respelled (h : c.Respelled c') :
    (ofConfig version' c').extract method ctx = (ofConfig version c).extract method ctx := by
  have hrules : (ofConfig version' c').rules = (ofConfig version c).rules := rules_respelled h
  have hdefault : (ofConfig version' c').defaultPolicy = (ofConfig version c).defaultPolicy := by
    rw [← h.rest]
    rfl
  simp only [extract, resolve, hrules, hdefault]

end Snapshot

namespace Context

/-- A guard tells two spellings of a map apart by what they hold under names in lower case. -/
theorem interchangeable_map_iff {as bs : List (String × String)} (ha : (as.map (·.1)).Nodup)
    (hb : (bs.map (·.1)).Nodup) :
    (map as).Interchangeable (.map bs) ↔
      ∀ a : String × String, a.1.toLower = a.1 → (a ∈ as ↔ a ∈ bs) := by
  rw [interchangeable_iff]
  constructor
  · intro h a hlower
    have hget := h a.1
    rw [hlower] at hget
    rw [← get?_map_iff ha, ← get?_map_iff hb, hget]
  · intro h name
    refine Option.ext fun value => ?_
    rw [get?_map_iff ha, get?_map_iff hb]
    exact h _ (toLower_toLower name)

theorem Respelled.interchangeable_iff {ctx ctx' : Context} (h : ctx.Respelled ctx') :
    ctx.Interchangeable ctx' ↔ ctx.KeepsLower ctx' := by
  have hsame (ctx : Context) : ctx.Interchangeable ctx := fun _ _ _ _ _ => rfl
  cases h with
  | empty => exact iff_of_true (hsame _) trivial
  | map h hn =>
    have hraw {attributes : List (String × String)} (hl : ((lowered attributes).map (·.1)).Nodup) :
        (attributes.map (·.1)).Nodup := by
      refine List.Nodup.of_map String.toLower ?_
      simpa [lowered, Function.comp_def] using hl
    exact interchangeable_map_iff (hraw hn) (hraw ((h.map _).nodup_iff.1 hn))
  | headers h | copied h =>
    rw [Headers.ofList_congr h]
    exact iff_of_true (hsame _) trivial
  | request h =>
    rw [← RequestContext.ofList_lowered, h, RequestContext.ofList_lowered]
    exact iff_of_true (hsame _) trivial

end Context

namespace Snapshot

/-- How names are spelled, in the rules of a configuration and in the contexts of calls, goes unnoticed
but for maps. There it does if and only if the same attributes are under names in lower case. -/
theorem spelling_unnoticed_iff {ctx ctx' : Context} (h : ctx.Respelled ctx') :
    ctx.KeepsLower ctx' ↔
      ∀ {version version' c c' s s'}, c.Respelled c' → compile version c = .ok s →
        compile version' c' = .ok s' →
        s'.rules = s.rules ∧ ∀ method, s'.extract method ctx' = s.extract method ctx := by
  rw [← h.interchangeable_iff]
  constructor
  · intro hctx version version' c c' s s' hc hs hs'
    obtain rfl := (compile_eq_ok.1 hs').2
    refine ⟨(compile_eq_ok.1 hs).2 ▸ rules_respelled hc, fun method => ?_⟩
    rw [hctx version c s hs, (compile_eq_ok.1 hs).2, extract_respelled hc]
  · intro hall version c s hs method
    exact ((hall (.refl c) hs hs).2 method).symm

/-- A map keeps its region in lower case and spells its tier in two ways: the region is found both times,
however the rule spells it, and the tier neither time. -/
theorem respelled_region_found :
    let r := { Rule.ofPattern "svc/" with
      keyAttributes := ["tier"], matchAttributes := [("region", "eu")] }
    let r' := { Rule.ofPattern "svc/" with
      keyAttributes := ["TIER"], matchAttributes := [("Region", "eu")] }
    let c := { Config.standard with rules := [r] }
    let c' := { Config.standard with rules := [r'] }
    let ctx : Context := .map [("region", "eu"), ("Tier", "gold")]
    let ctx' : Context := .map [("region", "eu"), ("tIER", "gold")]
    ctx.Respelled ctx' ∧ ctx.KeepsLower ctx' ∧ c.Respelled c' ∧
      (ofConfig 2 c').extract "svc/M" ctx' = (ofConfig 1 c).extract "svc/M" ctx ∧
      ((ofConfig 1 c).extract "svc/M" ctx).1 = ⟨"unknown:eu:svc/M"⟩ := by
  intro r r' c c' ctx ctx'
  have hctx : ctx.Respelled ctx' := by
    have hl : lowered [("region", "eu"), ("Tier", "gold")] =
        [("region", "eu"), ("tier", "gold")] := by decide +kernel
    have hl' : lowered [("region", "eu"), ("tIER", "gold")] =
        [("region", "eu"), ("tier", "gold")] := by decide +kernel
    refine .map (.of_eq (hl.trans hl'.symm)) ?_
    rw [hl]
    decide
  have hlower : ctx.KeepsLower ctx' := by
    have htier : "Tier".toLower ≠ "Tier" ∧ "tIER".toLower ≠ "tIER" := by decide +kernel
    intro a ha
    constructor <;> intro hm <;> simp only [List.mem_cons, List.not_mem_nil, or_false] at hm ⊢ <;>
      rcases hm with rfl | rfl <;> simp_all
  have hc : c.Respelled c' := by
    have hkeys : ["tier"].map String.toLower = ["tier"] := by decide +kernel
    have hkeys' : ["TIER"].map String.toLower = ["tier"] := by decide +kernel
    have hrequired : r.required = [("region", "eu")] := by decide +kernel
    have hrequired' : r'.required = [("region", "eu")] := by decide +kernel
    exact ⟨.cons ⟨hkeys.trans hkeys'.symm, .of_eq (hrequired.trans hrequired'.symm), rfl⟩ .nil, rfl⟩
  have hs : compile 1 c = .ok (ofConfig 1 c) := compile_eq_ok.2 ⟨by decide +kernel, rfl⟩
  have hs' : compile 2 c' = .ok (ofConfig 2 c') := compile_eq_ok.2 ⟨by decide +kernel, rfl⟩
  have hsame := ((spelling_unnoticed_iff hctx).1 hlower hc hs hs').2 "svc/M"
  exact ⟨hctx, hlower, hc, hsame, by decide +kernel⟩

/-- A map that holds the tenant under a name with capitals is taken for one without a tenant. -/
theorem capitals_hide_tenant :
    let r := { Rule.ofPattern "svc/" with keyAttributes := ["x-tenant-id"] }
    let c := { Config.standard with rules := [r] }
    c.violations = [] ∧
      ((ofConfig 1 c).extract "svc/M" (.map [("x-tenant-id", "acme")])).1 = ⟨"acme:svc/M"⟩ ∧
      ((ofConfig 1 c).extract "svc/M" (.map [("X-Tenant-Id", "acme")])).1 = ⟨"unknown:svc/M"⟩ := by
  decide +kernel

end Snapshot
end Turnstile
