import Turnstile.Proofs.Key
import Turnstile.Proofs.Resolution
import Turnstile.Proofs.Session.Admission
/-!
Which calls are kept apart. Keys hold values without names, closed by colons that values may hold too,
and a word in place of what is missing: calls that differ in a key attribute, or in what their rules
require, are kept apart as far as a key tells its segments.
-/
namespace Turnstile

def Context.value (ctx : Context) (name : String) : String := (ctx.get? name).getD unknownAttribute

theorem Context.get?_eq_of_value {ctx : Context} {name value : String} (hv : ctx.value name = value)
    (hu : value ≠ unknownAttribute) : ctx.get? name = some value := by
  unfold Context.value at hv
  cases hg : ctx.get? name with
  | none =>
    rw [hg] at hv
    exact absurd hv.symm hu
  | some v =>
    rw [hg] at hv
    exact congrArg some hv

theorem not_mem_normalizeMethod {c : Char} {method : String} (hc : c ∉ method.toList) :
    c ∉ (normalizeMethod method).toList := by
  unfold normalizeMethod
  split
  · next rest h =>
    rw [h] at hc
    rw [String.toList_ofList]
    exact fun hm => hc (List.mem_cons_of_mem _ hm)
  · exact hc

theorem map_eq_of_sum_eq {names : List String} {f g : String → Nat} {name : String}
    (hf : ∀ a ∈ names, a ≠ name → f a = 0) (hg : ∀ a ∈ names, a ≠ name → g a = 0)
    (hs : (names.map f).sum = (names.map g).sum) : names.map f = names.map g := by
  have hsum {h : String → Nat} (hh : ∀ a ∈ names, a ≠ name → h a = 0) :
      (names.map h).sum = names.count name * h name :=
    List.sum_map_eq_nsmul_single name h fun a hne ha => hh a ha hne
  rw [hsum hf, hsum hg] at hs
  refine List.map_congr_left fun a ha => ?_
  by_cases hn : a = name
  · subst hn
    exact Nat.eq_of_mul_eq_mul_left (List.count_pos_iff.2 ha) hs
  · rw [hf a ha hn, hg a ha hn]

namespace Policy

open Key (colons)

def keyValues (p : Policy) (ctx : Context) : List String := p.keyAttributes.map ctx.value

/-- What a policy requires of attributes that are not in its key anyway. -/
def unlisted (p : Policy) : List (String × String) :=
  p.matchAttributes.filter fun a => !p.keyAttributes.contains a.1

theorem keySegments_eq (p : Policy) (ctx : Context) :
    p.keySegments ctx = p.keyValues ctx ++ p.unlisted.map (·.2) := rfl

theorem keyValues_inj {p : Policy} {method : String} {ctx₁ ctx₂ : Context}
    (hc : (p.keyValues ctx₁).map colons = (p.keyValues ctx₂).map colons)
    (hk : p.key method ctx₁ = p.key method ctx₂) : p.keyValues ctx₁ = p.keyValues ctx₂ := by
  have hsegments : p.keySegments ctx₁ = p.keySegments ctx₂ := by
    refine (Key.ofSegments_inj ?_ hk).1
    rw [keySegments_eq, keySegments_eq, List.map_append, List.map_append, hc]
  exact List.append_cancel_right hsegments

theorem colons_keyValues {p : Policy} {method : String} {ctx₁ ctx₂ : Context}
    (hk : p.key method ctx₁ = p.key method ctx₂) :
    ((p.keyValues ctx₁).map colons).sum = ((p.keyValues ctx₂).map colons).sum := by
  have hcount := congrArg (fun k : Key => colons k.text) hk
  simp only [key, keySegments_eq, Key.colons_ofSegments, List.map_append, List.sum_append,
    List.length_append, keyValues, List.length_map] at hcount ⊢
  omega

/-- Under one policy, keys tell the values of key attributes apart if no more than one of these has
values with colons: the colons that are left over are those of that one. -/
theorem keyValues_eq_of_key {p : Policy} {method name : String} {ctx₁ ctx₂ : Context}
    (h₁ : ∀ a ∈ p.keyAttributes, a ≠ name → ':' ∉ (ctx₁.value a).toList)
    (h₂ : ∀ a ∈ p.keyAttributes, a ≠ name → ':' ∉ (ctx₂.value a).toList)
    (hk : p.key method ctx₁ = p.key method ctx₂) : p.keyValues ctx₁ = p.keyValues ctx₂ := by
  have hsum := colons_keyValues hk
  simp only [keyValues, List.map_map] at hsum
  have hcolons : p.keyAttributes.map (colons ∘ ctx₁.value) =
      p.keyAttributes.map (colons ∘ ctx₂.value) :=
    map_eq_of_sum_eq (fun a ha hn => Key.colons_eq_zero.2 (h₁ a ha hn))
      (fun a ha hn => Key.colons_eq_zero.2 (h₂ a ha hn)) hsum
  refine keyValues_inj ?_ hk
  rw [keyValues, keyValues, List.map_map, List.map_map]
  exact hcolons

/-- Policies that agree in all that makes up a key, what they require apart. -/
structure Alike (p q : Policy) : Prop where
  pattern : p.pattern = q.pattern
  partition : p.partition = q.partition
  keyAttributes : p.keyAttributes = q.keyAttributes

/-- A call whose key shows under this policy where its segments end and what was missing. -/
structure Plain (p : Policy) (method : String) (ctx : Context) : Prop where
  method : ':' ∉ method.toList
  segments : ∀ s ∈ p.keySegments ctx, ':' ∉ s.toList
  required : ∀ a ∈ p.matchAttributes, a.1 ∈ p.keyAttributes → a.2 ≠ unknownAttribute

variable {p q : Policy} {method method' : String} {ctx ctx' : Context}

theorem Alike.colons_keyBase (ha : p.Alike q) (hm : ':' ∉ method.toList)
    (hm' : ':' ∉ method'.toList) : colons (p.keyBase method) = colons (q.keyBase method') := by
  have hn := Key.colons_eq_zero.2 (not_mem_normalizeMethod hm)
  have hn' := Key.colons_eq_zero.2 (not_mem_normalizeMethod hm')
  unfold keyBase
  rw [← ha.pattern, ← ha.partition]
  split
  · rfl
  · exact hn.trans hn'.symm

theorem Plain.colons_keySegments (hp : p.Plain method ctx) :
    (p.keySegments ctx).map colons = List.replicate (p.keySegments ctx).length 0 :=
  List.map_eq_replicate_iff.2 fun s hs => Key.colons_eq_zero.2 (hp.segments s hs)

theorem Plain.colons_key (hp : p.Plain method ctx) :
    colons (p.key method ctx).text = (p.keySegments ctx).length + colons (p.keyBase method) := by
  rw [key, Key.colons_ofSegments, hp.colons_keySegments]
  simp

theorem Alike.keySegments_eq (ha : p.Alike q) (hp : p.Plain method ctx) (hq : q.Plain method' ctx')
    (hk : p.key method ctx = q.key method' ctx') : p.keySegments ctx = q.keySegments ctx' := by
  have hbase := ha.colons_keyBase hp.method hq.method
  have hcount : (p.keySegments ctx).length = (q.keySegments ctx').length := by
    have hcolons := congrArg (fun k : Key => colons k.text) hk
    rw [hp.colons_key, hq.colons_key, hbase] at hcolons
    exact Nat.add_right_cancel hcolons
  refine (Key.ofSegments_inj ?_ hk).1
  rw [hp.colons_keySegments, hq.colons_keySegments, hcount]

theorem satisfied_of_agree (hp : p.satisfied ctx = true) (hq : q.satisfied ctx' = true)
    (hu : q.unlisted = p.unlisted) (hv : ∀ a ∈ q.keyAttributes, ctx.value a = ctx'.value a)
    (hr : ∀ a ∈ q.matchAttributes, a.1 ∈ q.keyAttributes → a.2 ≠ unknownAttribute) :
    q.satisfied ctx = true := by
  simp only [satisfied, List.all_eq_true, beq_iff_eq] at hp hq ⊢
  intro a ha
  by_cases hlisted : a.1 ∈ q.keyAttributes
  · have hvalue : ctx'.value a.1 = a.2 := by
      rw [Context.value, hq a ha, Option.getD_some]
    exact Context.get?_eq_of_value ((hv a.1 hlisted).trans hvalue) (hr a ha hlisted)
  · have hmem : a ∈ q.unlisted := List.mem_filter.2 ⟨ha, by simpa using hlisted⟩
    rw [hu] at hmem
    exact hp a (List.mem_of_mem_filter hmem)

end Policy

namespace Guard

section Apart

variable {α : Type} [Quantity α]

/-- Two calls that have nothing to do with each other: when the first asks to enter, the bucket and the
breaker of the second stay as they are. -/
structure Apart (g : Guard α) (method₁ : String) (ctx₁ : Context) (method₂ : String)
    (ctx₂ : Context) : Prop where
  keys : (g.snapshot.extract method₁ ctx₁).1 ≠ (g.snapshot.extract method₂ ctx₂).1
  bucket : (g.enter method₁ ctx₁).2.limiter.get? (g.snapshot.extract method₂ ctx₂).1 =
    g.limiter.get? (g.snapshot.extract method₂ ctx₂).1
  breaker : (g.enter method₁ ctx₁).2.breakers.entry? (g.snapshot.extract method₂ ctx₂).1 =
    g.breakers.entry? (g.snapshot.extract method₂ ctx₂).1

theorem apart_of_keys {g : Guard α} {method₁ method₂ : String} {ctx₁ ctx₂ : Context}
    (hne : (g.snapshot.extract method₁ ctx₁).1 ≠ (g.snapshot.extract method₂ ctx₂).1) :
    g.Apart method₁ ctx₁ method₂ ctx₂ := by
  obtain ⟨hbucket, hbreaker⟩ := (g.enter_spec method₁ ctx₁).frame.2.2 _ hne.symm
  exact ⟨hne, hbucket, hbreaker⟩

/-- Two calls of one method under one policy that differ in the value of a key attribute are apart, if
no more than one of the key attributes has values with colons. -/
theorem tenants_apart (g : Guard α) {method : String} {ctx₁ ctx₂ : Context} {p : Policy}
    (hp₁ : g.snapshot.resolve method ctx₁ = p) (hp₂ : g.snapshot.resolve method ctx₂ = p)
    (hcolon : ∃ name, ∀ a ∈ p.keyAttributes, a ≠ name →
      ':' ∉ (ctx₁.value a).toList ∧ ':' ∉ (ctx₂.value a).toList)
    (hdiff : ∃ a ∈ p.keyAttributes, ctx₁.value a ≠ ctx₂.value a) :
    g.Apart method ctx₁ method ctx₂ := by
  refine apart_of_keys fun hk => ?_
  simp only [Snapshot.extract, hp₁, hp₂] at hk
  obtain ⟨name, hplain⟩ := hcolon
  obtain ⟨a, ha, hne⟩ := hdiff
  have hvalues := Policy.keyValues_eq_of_key (fun b hb hn => (hplain b hb hn).1)
    (fun b hb hn => (hplain b hb hn).2) hk
  exact hne (List.map_inj_left.1 hvalues a ha)

/-- A colon in the tenant is no harm as long as the other key attribute has none. -/
theorem colon_in_tenant_apart :
    let r := { Rule.ofPattern "svc/" with keyAttributes := ["x-tenant-id", "x-user"] }
    let c := { Config.standard with rules := [r] }
    let g : Guard Rat := .ofSnapshot (.ofConfig 1 c)
    let ctx (tenant : String) : Context := .ofList [("x-tenant-id", tenant), ("x-user", "1")]
    g.snapshot.resolve "svc/M" (ctx "acme:eu") = c.policyOf r ∧
      g.snapshot.resolve "svc/M" (ctx "acme") = c.policyOf r ∧
      g.Apart "svc/M" (ctx "acme:eu") "svc/M" (ctx "acme") := by
  intro r c g ctx
  have hp₁ : g.snapshot.resolve "svc/M" (ctx "acme:eu") = c.policyOf r := by decide +kernel
  have hp₂ : g.snapshot.resolve "svc/M" (ctx "acme") = c.policyOf r := by decide +kernel
  have hcolon : ∀ a ∈ (c.policyOf r).keyAttributes, a ≠ "x-tenant-id" →
      ':' ∉ ((ctx "acme:eu").value a).toList ∧ ':' ∉ ((ctx "acme").value a).toList := by
    decide +kernel
  have hdiff : ∃ a ∈ (c.policyOf r).keyAttributes, (ctx "acme:eu").value a ≠ (ctx "acme").value a := by
    decide +kernel
  exact ⟨hp₁, hp₂, tenants_apart g hp₁ hp₂ ⟨"x-tenant-id", hcolon⟩ hdiff⟩

/-- A colon in each of two key attributes can belong to either: two tenants have one key, and one of
them is turned away because of the other. -/
theorem tenants_share_key :
    let r := { Rule.ofPattern "svc/" with
      keyAttributes := ["x-tenant-id", "x-user"], quota := some ⟨1, 1, 60000⟩ }
    let c := { Config.standard with rules := [r] }
    let g : Guard Rat := .ofSnapshot (.ofConfig 1 c)
    let ctx₁ : Context := .ofList [("x-tenant-id", "acme:eu"), ("x-user", "1")]
    let ctx₂ : Context := .ofList [("x-tenant-id", "acme"), ("x-user", "eu:1")]
    let key : Key := ⟨"acme:eu:1:svc/M"⟩
    c.violations = [] ∧ ctx₁.value "x-tenant-id" ≠ ctx₂.value "x-tenant-id" ∧
      g.snapshot.extract "svc/M" ctx₁ = (key, c.policyOf r) ∧
      g.snapshot.extract "svc/M" ctx₂ = (key, c.policyOf r) ∧
      (g.enter "svc/M" ctx₂).1.isOk ∧
      ((g.enter "svc/M" ctx₁).2.enter "svc/M" ctx₂).1 = .error (.rateLimited key) := by
  decide +kernel

/-- Two calls under policies that differ in what they require, but are alike otherwise, are apart, if
both are plain and the policies require equal values of the same attributes only. -/
theorem required_apart {g : Guard α} {version : Nat} {c : Config}
    (hs : Snapshot.compile version c = .ok g.snapshot) {method₁ method₂ : String}
    {ctx₁ ctx₂ : Context} {p₁ p₂ : Policy} (hp₁ : g.snapshot.resolve method₁ ctx₁ = p₁)
    (hp₂ : g.snapshot.resolve method₂ ctx₂ = p₂) (halike : p₁.Alike p₂)
    (hdiff : p₁.matchAttributes ≠ p₂.matchAttributes) (h₁ : p₁.Plain method₁ ctx₁)
    (h₂ : p₂.Plain method₂ ctx₂)
    (hnames : p₁.unlisted.map (·.2) = p₂.unlisted.map (·.2) → p₁.unlisted = p₂.unlisted) :
    g.Apart method₁ ctx₁ method₂ ctx₂ := by
  refine apart_of_keys fun hk => ?_
  simp only [Snapshot.extract, hp₁, hp₂] at hk
  have hsegments := halike.keySegments_eq h₁ h₂ hk
  rw [Policy.keySegments_eq, Policy.keySegments_eq] at hsegments
  have hlength : (p₁.keyValues ctx₁).length = (p₂.keyValues ctx₂).length := by
    rw [Policy.keyValues, Policy.keyValues, List.length_map, List.length_map, halike.keyAttributes]
  obtain ⟨hvalues, hrequired⟩ := List.append_inj hsegments hlength
  rw [Policy.keyValues, Policy.keyValues, halike.keyAttributes] at hvalues
  have hvalue := List.map_inj_left.1 hvalues
  have hunlisted := hnames hrequired
  -- Each call has what the policy of the other requires, so that one rule wins both.
  have hsat₁ := Snapshot.satisfied_of_resolve hs hp₁
  have hsat₂ := Snapshot.satisfied_of_resolve hs hp₂
  refine hdiff (congrArg Policy.matchAttributes ?_)
  refine Snapshot.resolve_unique hs hp₁ hp₂ halike.pattern ?_ ?_
  · exact Policy.satisfied_of_agree hsat₁ hsat₂ hunlisted.symm hvalue h₂.required
  · have hvalue' : ∀ a ∈ p₁.keyAttributes, ctx₂.value a = ctx₁.value a :=
      fun a ha => (hvalue a (halike.keyAttributes ▸ ha)).symm
    exact Policy.satisfied_of_agree hsat₂ hsat₁ hunlisted hvalue' h₁.required

/-- Rules for two tenants that are told apart by a key attribute, in calls of different methods. -/
theorem required_tenant_apart :
    let r (tenant : String) := { Rule.ofPattern "svc/" with
      keyAttributes := ["x-tenant-id"], matchAttributes := [("x-tenant-id", tenant)] }
    let c := { Config.standard with rules := [r "acme", r "globex"] }
    let g : Guard Rat := .ofSnapshot (.ofConfig 1 c)
    let ctx (tenant : String) : Context := .ofList [("x-tenant-id", tenant)]
    g.snapshot.resolve "svc/M" (ctx "acme") = c.policyOf (r "acme") ∧
      g.snapshot.resolve "svc/N" (ctx "globex") = c.policyOf (r "globex") ∧
      g.Apart "svc/M" (ctx "acme") "svc/N" (ctx "globex") := by
  intro r c g ctx
  have hs : Snapshot.compile 1 c = .ok g.snapshot :=
    Snapshot.compile_eq_ok.2 ⟨by decide +kernel, rfl⟩
  have hp₁ : g.snapshot.resolve "svc/M" (ctx "acme") = c.policyOf (r "acme") := by decide +kernel
  have hp₂ : g.snapshot.resolve "svc/N" (ctx "globex") = c.policyOf (r "globex") := by
    decide +kernel
  have h₁ : (c.policyOf (r "acme")).Plain "svc/M" (ctx "acme") :=
    ⟨by decide, by decide +kernel, by decide +kernel⟩
  have h₂ : (c.policyOf (r "globex")).Plain "svc/N" (ctx "globex") :=
    ⟨by decide, by decide +kernel, by decide +kernel⟩
  exact ⟨hp₁, hp₂, required_apart hs hp₁ hp₂ ⟨rfl, rfl, rfl⟩ (by decide +kernel) h₁ h₂
    (by decide +kernel)⟩

/-- Rules that require one value of different attributes share a key, and calls under one are
turned away because of calls under the other. -/
theorem required_names_share_key :
    let r (name : String) := { Rule.ofPattern "svc/" with
      matchAttributes := [(name, "eu")], quota := some ⟨1, 1, 60000⟩ }
    let c := { Config.standard with rules := [r "region", r "zone"] }
    let g : Guard Rat := .ofSnapshot (.ofConfig 1 c)
    let ctx (name : String) : Context := .ofList [(name, "eu")]
    let key : Key := ⟨"eu:svc/M"⟩
    c.violations = [] ∧
      (c.policyOf (r "region")).matchAttributes ≠ (c.policyOf (r "zone")).matchAttributes ∧
      g.snapshot.extract "svc/M" (ctx "region") = (key, c.policyOf (r "region")) ∧
      g.snapshot.extract "svc/M" (ctx "zone") = (key, c.policyOf (r "zone")) ∧
      (g.enter "svc/M" (ctx "zone")).1.isOk ∧
      ((g.enter "svc/M" (ctx "region")).2.enter "svc/M" (ctx "zone")).1 =
        .error (.rateLimited key) := by
  decide +kernel

/-- A rule that requires the word for what is missing shares its key with one that requires nothing. -/
example :
    let r (required : List (String × String)) := { Rule.ofPattern "svc/" with
      keyAttributes := ["region"], matchAttributes := required }
    let c := { Config.standard with rules := [r [("region", "unknown")], r []] }
    let s := Snapshot.ofConfig 1 c
    let ctx : Context := .ofList [("region", "unknown")]
    s.extract "svc/M" ctx = (⟨"unknown:svc/M"⟩, c.policyOf (r [("region", "unknown")])) ∧
      s.extract "svc/M" .empty = (⟨"unknown:svc/M"⟩, c.policyOf (r [])) := by
  decide +kernel

end Apart
end Guard
end Turnstile
