import Turnstile.Proofs.Resolution.Precedence
import Mathlib
/-!
What a guard can tell of the attributes of a call. It looks them up under names in lower case and not
otherwise, so that two contexts with the same values under these names are the same to it. The headers
of a request and a context that has been copied from them are, unless values under one name compete.
-/
namespace Turnstile

theorem toLower_toLower (s : String) : s.toLower.toLower = s.toLower := by
  simp [← String.toList_inj, String.toLower]

/-- The values given under a name, in whatever spellings of it, in the order in which they were given. -/
def valuesOf (attributes : List (String × String)) (name : String) : List String :=
  (attributes.filter fun a => a.1.toLower = name.toLower).map (·.2)

theorem valuesOf_append (as bs : List (String × String)) (name : String) :
    valuesOf (as ++ bs) name = valuesOf as name ++ valuesOf bs name := by
  simp [valuesOf]

theorem valuesOf_toLower (attributes : List (String × String)) (name : String) :
    valuesOf attributes name.toLower = valuesOf attributes name := by
  simp only [valuesOf, toLower_toLower]

theorem Headers.first?_ofList (fields : List (String × String)) (name : String) :
    (ofList fields).first? name = (valuesOf fields name).head? := by
  rw [first?, fields_ofList, List.find?_map, valuesOf, List.head?_map, List.head?_filter,
    Option.map_map]
  rfl

namespace RequestContext

theorem get?_insert (c : RequestContext) (name value other : String) :
    (c.insert name value).get? other =
      if name.toLower = other.toLower then some value else c.get? other := by
  have hlast : [(name.toLower, value)].find? (·.1 == other.toLower) =
      if name.toLower = other.toLower then some (name.toLower, value) else none := by
    simp [List.find?_singleton]
  unfold get? insert
  rw [List.find?_append, hlast]
  by_cases h : name.toLower = other.toLower
  · have hnone : (c.attributes.filter (·.1 != name.toLower)).find? (·.1 == other.toLower) = none :=
      List.find?_eq_none.2 fun a ha => by simpa [h] using (List.mem_filter.1 ha).2
    rw [hnone, if_pos h, if_pos h]
    rfl
  · have hsame : (c.attributes.filter (·.1 != name.toLower)).find? (·.1 == other.toLower) =
        c.attributes.find? (·.1 == other.toLower) := by
      rw [List.find?_filter]
      refine congrArg (c.attributes.find? ·) (funext fun a => ?_)
      by_cases ha : a.1 = other.toLower <;> simp [ha, Ne.symm h]
    rw [hsame, if_neg h, if_neg h, Option.or_none]

theorem get?_ofList (attributes : List (String × String)) (name : String) :
    (ofList attributes).get? name = (valuesOf attributes name).getLast? := by
  -- The last insertion decides, so the list is taken apart from its end.
  induction attributes using List.reverseRecOn with
  | nil => rfl
  | append_singleton attributes a ih =>
    have hfold : ofList (attributes ++ [a]) = (ofList attributes).insert a.1 a.2 := by
      simp [ofList]
    have hlast : valuesOf [a] name = if a.1.toLower = name.toLower then [a.2] else [] := by
      by_cases h : a.1.toLower = name.toLower <;> simp [valuesOf, h]
    rw [hfold, get?_insert, ih, valuesOf_append, List.getLast?_append, hlast]
    split <;> rfl

theorem get?_ofHeaders (fields : List (String × String)) (name : String) :
    (ofHeaders (.ofList fields)).get? name =
      ((valuesOf fields name).filter isReadable).getLast? := by
  have hvalues : valuesOf ((Headers.ofList fields).fields.filter fun f => isReadable f.2) name =
      (valuesOf fields name).filter isReadable := by
    simp only [valuesOf, Headers.fields_ofList, List.filter_map, List.map_map, List.filter_filter,
      Function.comp_def, toLower_toLower, Bool.and_comm]
  rw [ofHeaders, get?_ofList, hvalues]

end RequestContext

/-- Whether it is the same which of several values is taken: none of them can be read, or the first can
and is also the last that can. -/
def Undisputed (values : List String) : Prop :=
  (∀ v ∈ values, isReadable v = false) ∨
    ∃ v, values.head? = some v ∧ isReadable v = true ∧ (values.filter isReadable).getLast? = some v

theorem undisputed_iff {values : List String} :
    Undisputed values ↔
      values.head?.filter isReadable = (values.filter isReadable).getLast? := by
  cases hlast : (values.filter isReadable).getLast? with
  | none =>
    have hnone : ∀ v ∈ values, isReadable v = false := by
      simpa [List.filter_eq_nil_iff] using List.getLast?_eq_none_iff.1 hlast
    refine iff_of_true (.inl hnone) (Option.filter_eq_none_iff.2 fun v hv => ?_)
    simp [hnone v (List.mem_of_head? hv)]
  | some last =>
    have hmem := List.mem_filter.1 (List.mem_of_getLast? hlast)
    rw [Option.filter_eq_some_iff, Undisputed, hlast]
    constructor
    · rintro (hnone | ⟨v, hhead, hread, hv⟩)
      · exact absurd hmem.2 (Bool.eq_false_iff.1 (hnone last hmem.1))
      · cases hv
        exact ⟨hhead, hread⟩
    · exact fun ⟨hhead, hread⟩ => .inr ⟨last, hhead, hread, rfl⟩

def Rule.requiring (name value : String) : Rule :=
  { ofPattern "*" with matchAttributes := [(name, value)] }

def Config.requiring (name value : String) : Config :=
  { standard with rules := [.requiring name value] }

theorem Rule.applies_requiring {name value method : String} {ctx : Context} :
    (requiring name value).Applies method ctx ↔ ctx.get? name.toLower = some value := by
  have hany : Matcher.ofPattern (requiring name value).pattern = .any := by
    have hstar : Matcher.ofPattern "*" = .any := by decide +kernel
    exact hstar
  have hmatches : (requiring name value).Matches (normalizeMethod method) := by
    have hfits := (requiring name value).ofPattern_spec.1 (normalizeMethod method)
    rw [hany] at hfits
    exact of_decide_eq_true hfits.symm
  refine (and_iff_right hmatches).trans ?_
  simp [requiring]

theorem Config.violations_requiring (name value : String) :
    (requiring name value).violations = [] := by
  have hstandard : standard.violations = [] := by decide +kernel
  have hblank : (Text.trimmed "*".toList).isEmpty = false := by decide +kernel
  simp only [violations, List.append_eq_nil_iff] at hstandard ⊢
  refine ⟨hstandard.1, ?_⟩
  simp only [requiring, Rule.listViolations, Rule.isBlank, Rule.requiring, Rule.ofPattern, hblank]
  rfl

theorem Config.mem_candidates_requiring {name value method : String} {ctx : Context} {r : Rule} :
    r ∈ (requiring name value).candidates method ctx ↔
      r = .requiring name value ∧ ctx.get? name.toLower = some value := by
  rw [candidates, List.mem_filter, decide_eq_true_eq, requiring, List.mem_singleton]
  exact and_congr_right fun h => h ▸ Rule.applies_requiring

namespace Snapshot

variable {version : Nat} {c : Config} {ctx ctx' : Context} {method : String}

/-- Which calls are under the one rule of a configuration tells which of them have a value. -/
theorem pattern_requiring {name value : String} :
    ((ofConfig version (.requiring name value)).resolve method ctx).pattern ≠ none ↔
      ctx.get? name.toLower = some value := by
  rcases resolve_ofConfig version (.requiring name value) method ctx with
    ⟨hnone, hd⟩ | ⟨r, hr, hw⟩
  · rw [hd]
    refine iff_of_false (fun h => h rfl) fun h => ?_
    exact List.not_mem_nil (hnone ▸ Config.mem_candidates_requiring.2 ⟨rfl, h⟩)
  · rw [hw]
    exact iff_of_true (Option.some_ne_none _) (Config.mem_candidates_requiring.1 hr.mem).2

theorem resolve_congr (h : ∀ name : String, ctx.get? name.toLower = ctx'.get? name.toLower) :
    (ofConfig version c).resolve method ctx = (ofConfig version c).resolve method ctx' := by
  have hc : c.candidates method ctx = c.candidates method ctx' :=
    List.filter_congr fun r _ => decide_eq_decide.2 (by simp only [Rule.Applies, h])
  rcases resolve_ofConfig version c method ctx with ⟨hnone, hd⟩ | ⟨r, hr, hw⟩
  · rw [hd, resolve_of_none (hc ▸ hnone)]
  · rw [hw, resolve_of_firstGreatest (hc ▸ hr)]

theorem lower_of_mem_keyAttributes {a : String}
    (ha : a ∈ ((ofConfig version c).resolve method ctx).keyAttributes) :
    ∃ name : String, a = name.toLower := by
  rcases resolve_ofConfig version c method ctx with ⟨-, hd⟩ | ⟨r, -, hw⟩
  · rw [hd] at ha
    cases ha
  · rw [hw] at ha
    obtain ⟨name, -, rfl⟩ := List.mem_map.1 ha
    exact ⟨name, rfl⟩

theorem extract_congr (h : ∀ name : String, ctx.get? name.toLower = ctx'.get? name.toLower) :
    (ofConfig version c).extract method ctx = (ofConfig version c).extract method ctx' := by
  have hpolicy : (ofConfig version c).resolve method ctx = (ofConfig version c).resolve method ctx' :=
    resolve_congr h
  have hsegments : ((ofConfig version c).resolve method ctx).keySegments ctx =
      ((ofConfig version c).resolve method ctx).keySegments ctx' := by
    refine congrArg (· ++ _) (List.map_congr_left fun a ha => ?_)
    obtain ⟨name, rfl⟩ := lower_of_mem_keyAttributes ha
    rw [h]
  simp only [extract, Policy.key, ← hpolicy, hsegments]

end Snapshot

/-- Whether every guard gives the same key and the same policy to calls in either context. -/
def Context.Interchangeable (ctx ctx' : Context) : Prop :=
  ∀ version c s, Snapshot.compile version c = .ok s →
    ∀ method, s.extract method ctx = s.extract method ctx'

theorem Context.interchangeable_iff {ctx ctx' : Context} :
    ctx.Interchangeable ctx' ↔ ∀ name : String, ctx.get? name.toLower = ctx'.get? name.toLower := by
  -- If the contexts differ under a name, the configuration that requires the value tells them apart.
  refine ⟨fun h name => Option.ext fun value => ?_, fun h version c s hs method => ?_⟩
  · have hs : Snapshot.compile 1 (.requiring name value) = .ok (.ofConfig 1 (.requiring name value)) :=
      Snapshot.compile_eq_ok.2 ⟨Config.violations_requiring name value, rfl⟩
    have hpolicy := congrArg Prod.snd (h 1 _ _ hs "")
    simp only [Snapshot.extract] at hpolicy
    rw [← Snapshot.pattern_requiring, ← Snapshot.pattern_requiring, hpolicy]
  · rw [(Snapshot.compile_eq_ok.1 hs).2]
    exact Snapshot.extract_congr h

/-- Headers give the first value of a name if that can be read, and a context that has been copied from
them gives the last value that can be read. So every guard takes the one for the other if and only if
no name has values that compete. -/
theorem Context.header_contexts_agree_iff (fields : List (String × String)) :
    (∀ name,
        (headers (.ofList fields)).get? name = (valuesOf fields name).head?.filter isReadable ∧
        (request (.ofHeaders (.ofList fields))).get? name =
          ((valuesOf fields name).filter isReadable).getLast? ∧
        ((headers (.ofList fields)).get? name = (request (.ofHeaders (.ofList fields))).get? name ↔
          Undisputed (valuesOf fields name))) ∧
      ((headers (.ofList fields)).Interchangeable (.request (.ofHeaders (.ofList fields))) ↔
        ∀ name, Undisputed (valuesOf fields name)) := by
  have hdirect (name : String) :
      (headers (.ofList fields)).get? name = (valuesOf fields name).head?.filter isReadable :=
    congrArg (Option.filter isReadable) (Headers.first?_ofList fields name)
  have hcopied (name : String) :
      (request (.ofHeaders (.ofList fields))).get? name =
        ((valuesOf fields name).filter isReadable).getLast? :=
    RequestContext.get?_ofHeaders fields name
  have hagree (name : String) :
      (headers (.ofList fields)).get? name = (request (.ofHeaders (.ofList fields))).get? name ↔
        Undisputed (valuesOf fields name) := by
    rw [hdirect, hcopied, undisputed_iff]
  refine ⟨fun name => ⟨hdirect name, hcopied name, hagree name⟩, ?_⟩
  rw [interchangeable_iff]
  refine forall_congr' fun name => ?_
  rw [hagree, valuesOf_toLower]

/-- A call with two tenants in its headers is partitioned by the first of them, and by the second if
its headers are copied before. -/
theorem Context.repeated_tenant_differs :
    let h := Headers.ofList [("x-tenant-id", "acme"), ("x-tenant-id", "globex")]
    let r := { Rule.ofPattern "svc/" with keyAttributes := ["x-tenant-id"] }
    let c := { Config.standard with rules := [r] }
    c.violations = [] ∧
      ((Snapshot.ofConfig 1 c).extract "svc/M" (.headers h)).1 = ⟨"acme:svc/M"⟩ ∧
      ((Snapshot.ofConfig 1 c).extract "svc/M" (.request (.ofHeaders h))).1 = ⟨"globex:svc/M"⟩ := by
  decide +kernel

end Turnstile
