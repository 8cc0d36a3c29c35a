import Turnstile.Proofs.Partition
/-!
Whom a key names. The tenant is read off a key as the text before its first colon. That is the value of
the first key attribute as long as this value has no colon of its own; in a key without segments the
text before a colon belongs to a method or a pattern, and is taken for a tenant all the same.
-/
namespace Turnstile

namespace Key

def beforeColon (s : String) : String := String.ofList (s.toList.takeWhile (· ≠ ':'))

def orUnknown (s : String) : String := if s = "" then unknownAttribute else s

theorem colon_not_mem_beforeColon (s : String) : ':' ∉ (beforeColon s).toList := by
  intro h
  rw [beforeColon, String.toList_ofList] at h
  simpa using List.mem_takeWhile_imp h

theorem beforeColon_eq_self {s : String} (h : ':' ∉ s.toList) : beforeColon s = s := by
  have hall : s.toList.takeWhile (· ≠ ':') = s.toList :=
    List.takeWhile_eq_self_iff.2 fun c hc => decide_eq_true (ne_of_mem_of_not_mem hc h)
  rw [beforeColon, hall, String.ofList_toList]

theorem colon_not_mem_orUnknown {s : String} (h : ':' ∉ s.toList) : ':' ∉ (orUnknown s).toList := by
  unfold orUnknown
  split
  · decide
  · exact h

theorem tenant_eq (k : Key) :
    k.tenant = if ':' ∈ k.text.toList then orUnknown (beforeColon k.text) else unknownAttribute := by
  obtain ⟨head, hhead⟩ : ∃ head, k.text.toList.takeWhile (· ≠ ':') = head := ⟨_, rfl⟩
  simp only [tenant, beforeColon, hhead]
  by_cases hcolon : ':' ∈ k.text.toList <;> by_cases hnil : head = [] <;>
    simp [orUnknown, hcolon, hnil]

theorem tenant_eq_unknown_iff (k : Key) :
    k.tenant = unknownAttribute ↔
      ':' ∉ k.text.toList ∨ beforeColon k.text ∈ ["", unknownAttribute] := by
  rw [tenant_eq]
  split
  · next hcolon =>
    rw [or_iff_right (not_not.2 hcolon), orUnknown]
    by_cases hnil : beforeColon k.text = "" <;> simp [hnil]
  · next hcolon => exact iff_of_true rfl (.inl hcolon)

theorem beforeColon_ofSegments_cons (s : String) (rest : List String) (base : String) :
    beforeColon (ofSegments (s :: rest) base).text = beforeColon s := by
  rw [beforeColon, ofSegments_cons, List.takeWhile_append]
  -- The scan goes on behind the segment only if it met no colon there, and then stops at once.
  split
  · next hall =>
    have hself := (List.takeWhile_prefix _).eq_of_length hall
    rw [List.takeWhile_cons_of_neg (by simp), List.append_nil, beforeColon, hself]
  · rfl

theorem tenant_ofSegments_cons (s : String) (rest : List String) (base : String) :
    (ofSegments (s :: rest) base).tenant = orUnknown (beforeColon s) := by
  have hcolon : ':' ∈ (ofSegments (s :: rest) base).text.toList := by
    simp [ofSegments_cons]
  rw [tenant_eq, if_pos hcolon, beforeColon_ofSegments_cons]

/-- The whole of the first segment is read back if and only if it has no colon. -/
theorem orUnknown_beforeColon_eq_iff {s : String} :
    orUnknown (beforeColon s) = orUnknown s ↔ ':' ∉ s.toList := by
  refine ⟨fun h hcolon => ?_, fun h => by rw [beforeColon_eq_self h]⟩
  have hne : s ≠ "" := by
    rintro rfl
    simp at hcolon
  -- What is read back has no colon, whatever the segment was.
  have hplain := colon_not_mem_orUnknown (colon_not_mem_beforeColon s)
  rw [h, orUnknown, if_neg hne] at hplain
  exact hplain hcolon

end Key

/-- The tenant of a key is what stands before the first colon of the first value in it, so that the first
key attribute is read back if and only if its value has no colon. A key without segments names no
tenant if and only if nothing stands before a colon in the method or the pattern either. -/
theorem Snapshot.tenant_read_back (s : Snapshot) (method : String) (ctx : Context) :
    let p := s.resolve method ctx
    let tenant := (s.extract method ctx).1.tenant
    (∀ a ∈ p.keyAttributes.head?,
        tenant = Key.orUnknown (Key.beforeColon (ctx.value a)) ∧
        (tenant = Key.orUnknown (ctx.value a) ↔ ':' ∉ (ctx.value a).toList)) ∧
      (p.keyAttributes = [] → ∀ a ∈ p.matchAttributes.head?,
        tenant = Key.orUnknown (Key.beforeColon a.2)) ∧
      (p.keyAttributes = [] → p.matchAttributes = [] →
        (tenant = unknownAttribute ↔
          ':' ∉ (p.keyBase method).toList ∨
            Key.beforeColon (p.keyBase method) ∈ ["", unknownAttribute])) := by
  intro p tenant
  have htenant : tenant = (Key.ofSegments (p.keySegments ctx) (p.keyBase method)).tenant := rfl
  refine ⟨fun a ha => ?_, fun hkeys a ha => ?_, fun hkeys hrequired => ?_⟩
  · obtain ⟨rest, hkeys⟩ := List.head?_eq_some_iff.1 ha
    have hsegments : p.keySegments ctx =
        ctx.value a :: (rest.map ctx.value ++ p.unlisted.map (·.2)) := by
      rw [Policy.keySegments_eq, Policy.keyValues, hkeys]
      rfl
    rw [hsegments, Key.tenant_ofSegments_cons] at htenant
    exact ⟨htenant, htenant ▸ Key.orUnknown_beforeColon_eq_iff⟩
  · obtain ⟨rest, hrequired⟩ := List.head?_eq_some_iff.1 ha
    have hsegments : p.keySegments ctx = a.2 :: rest.map (·.2) := by
      simp [Policy.keySegments_eq, Policy.keyValues, Policy.unlisted, hkeys, hrequired]
    rw [htenant, hsegments, Key.tenant_ofSegments_cons]
  · have hsegments : p.keySegments ctx = [] := by
      simp [Policy.keySegments_eq, Policy.keyValues, Policy.unlisted, hkeys, hrequired]
    rw [htenant, hsegments]
    exact Key.tenant_eq_unknown_iff ⟨p.keyBase method⟩

/-- A colon in the value of a tenant cuts its name off, and a colon in a method makes a tenant of what
stands before it. -/
theorem Snapshot.colon_misnames_tenant :
    let r := { Rule.ofPattern "svc/" with keyAttributes := ["x-tenant-id"] }
    let c := { Config.standard with rules := [r] }
    let s := Snapshot.ofConfig 1 c
    let ctx : Context := .headers (.ofList [("x-tenant-id", "acme:eu")])
    c.violations = [] ∧ ctx.value "x-tenant-id" = "acme:eu" ∧
      (s.extract "svc/M" ctx).1.tenant = "acme" ∧
      (s.extract "other:1/M" ctx).2.keyAttributes = [] ∧
      (s.extract "other:1/M" ctx).2.matchAttributes = [] ∧
      (s.extract "other:1/M" ctx).1.tenant = "other" := by
  decide +kernel

end Turnstile
