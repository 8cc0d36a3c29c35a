import Turnstile.Policy
import Turnstile.Proofs.Config.Validation
import Mathlib.Data.List.MinMax
import Mathlib.Data.Prod.Lex
/-!
How the policy of a call is chosen. Of the rules that apply to a call the one of the highest rank wins,
and of equals the first. Which rules apply depends on the call, but their ranks do not.
-/
namespace Turnstile

def Specificity.rank (s : Specificity) : Bool ×ₗ ℕ ×ₗ ℕ :=
  toLex (s.exact, toLex (s.length, s.required))

theorem Specificity.beats_iff {a b : Specificity} : a.beats b = true ↔ b.rank < a.rank := by
  obtain ⟨e, l, n⟩ := a
  obtain ⟨e', l', n'⟩ := b
  simp only [beats, rank, Prod.Lex.toLex_lt_toLex]
  by_cases he : e = e'
  · by_cases hl : l = l'
    · simp [he, hl]
    · simp [he, hl, Ne.symm hl]
  · cases e <;> cases e' <;> simp_all

namespace Matcher

def fits (method : String) (m : Matcher) : Bool := (m.fit? method).isSome

def closeness : Matcher → Bool × Nat
  | .any => (false, 0)
  | .exact text => (true, text.utf8ByteSize)
  | .beginning text => (false, text.utf8ByteSize)

theorem fit?_eq (method : String) (m : Matcher) :
    m.fit? method = if m.fits method then some m.closeness else none := by
  cases m with
  | any => rfl
  | exact text | beginning text =>
    simp only [fits, fit?, closeness]
    split <;> rfl

end Matcher

namespace CompiledRule

def applies (method : String) (ctx : Context) (r : CompiledRule) : Bool :=
  r.matcher.fits method && r.policy.satisfied ctx

def specificity (r : CompiledRule) : Specificity :=
  ⟨r.matcher.closeness.1, r.matcher.closeness.2, r.policy.matchAttributes.length⟩

def rank (r : CompiledRule) : Bool ×ₗ ℕ ×ₗ ℕ := r.specificity.rank

theorem specificity?_eq (method : String) (ctx : Context) (r : CompiledRule) :
    r.specificity? method ctx = if r.applies method ctx then some r.specificity else none := by
  rw [specificity?, Matcher.fit?_eq, applies]
  cases hf : r.matcher.fits method <;> cases hs : r.policy.satisfied ctx <;> rfl

end CompiledRule

theorem argmax_filter {α β : Type*} [LinearOrder β] {f : α → β} {p : α → Bool}
    {l : List α} {a : α} (ha : a ∈ l.argmax f) (hp : p a = true) : a ∈ (l.filter p).argmax f := by
  induction l using List.reverseRecOn generalizing a with
  | nil => cases ha
  | append_singleton l x ih =>
    rw [List.argmax_concat] at ha
    rw [List.filter_append]
    cases hl : l.argmax f with
    | none =>
      rw [hl] at ha
      cases ha
      simp [List.argmax_eq_none.1 hl, hp]
    | some top =>
      simp only [hl] at ha
      split at ha
      · next hlt =>
        -- `x` is beyond all of `l`, and so beyond what is left of it.
        cases ha
        rw [List.filter_cons_of_pos hp, List.filter_nil, List.argmax_concat]
        cases hf : (l.filter p).argmax f with
        | none => rfl
        | some y =>
          have hy : y ∈ l := List.mem_of_mem_filter (List.argmax_mem hf)
          have hle : f y ≤ f top := List.le_of_mem_argmax hy hl
          simp [hle.trans_lt hlt]
      · next hnlt =>
        cases ha
        have hrest := Option.mem_def.1 (ih hl hp)
        cases hx : p x with
        | false => simpa [hx] using hrest
        | true =>
          rw [List.filter_cons_of_pos hx, List.filter_nil, List.argmax_concat, hrest]
          simp [hnlt]

namespace Snapshot

variable {method : String} {ctx : Context}

theorem foldl_better (method : String) (ctx : Context) (rules : List CompiledRule) :
    rules.foldl (better method ctx) none =
      ((rules.filter (·.applies method ctx)).argmax CompiledRule.rank).map
        fun r => (r.specificity, r) := by
  induction rules using List.reverseRecOn with
  | nil => rfl
  | append_singleton rules r ih =>
    rw [List.foldl_append, List.foldl_cons, List.foldl_nil, ih, better,
      CompiledRule.specificity?_eq, List.filter_append]
    cases ha : r.applies method ctx with
    | false => simp [ha]
    | true =>
      rw [List.filter_cons_of_pos ha, List.filter_nil, List.argmax_concat]
      cases (rules.filter (·.applies method ctx)).argmax CompiledRule.rank with
      | none => rfl
      | some top =>
        have hb := Specificity.beats_iff (a := r.specificity) (b := top.specificity)
        by_cases hlt : top.rank < r.rank
        · simp [hlt, hb.2 hlt]
        · have hn : r.specificity.beats top.specificity = false :=
            Bool.eq_false_iff.2 fun h => hlt (hb.1 h)
          simp [hlt, hn]

def candidates (s : Snapshot) (method : String) (ctx : Context) : List CompiledRule :=
  s.rules.filter (·.applies (normalizeMethod method) ctx)

theorem resolve_eq (s : Snapshot) (method : String) (ctx : Context) :
    s.resolve method ctx =
      ((s.candidates method ctx).argmax CompiledRule.rank).elim s.defaultPolicy (·.policy) := by
  rw [resolve, foldl_better, candidates]
  cases (s.rules.filter _).argmax CompiledRule.rank <;> rfl

/-- The policy of a call is that of the rule that wins it, or the default one if none applies. -/
theorem resolve_cases (s : Snapshot) (method : String) (ctx : Context) :
    s.candidates method ctx = [] ∧ s.resolve method ctx = s.defaultPolicy ∨
      ∃ r ∈ (s.candidates method ctx).argmax CompiledRule.rank, s.resolve method ctx = r.policy := by
  rw [resolve_eq]
  cases hw : (s.candidates method ctx).argmax CompiledRule.rank with
  | none => exact .inl ⟨List.argmax_eq_none.1 hw, rfl⟩
  | some r => exact .inr ⟨r, rfl, rfl⟩

theorem mem_candidates {s : Snapshot} {r : CompiledRule} :
    r ∈ s.candidates method ctx ↔ r ∈ s.rules ∧ r.applies (normalizeMethod method) ctx = true :=
  List.mem_filter

theorem winner_unique {s : Snapshot} {method₁ method₂ : String} {ctx₁ ctx₂ : Context}
    {r₁ r₂ : CompiledRule} (h₁ : r₁ ∈ (s.candidates method₁ ctx₁).argmax CompiledRule.rank)
    (h₂ : r₂ ∈ (s.candidates method₂ ctx₂).argmax CompiledRule.rank)
    (h₁₂ : r₁.applies (normalizeMethod method₂) ctx₂ = true)
    (h₂₁ : r₂.applies (normalizeMethod method₁) ctx₁ = true) : r₁ = r₂ := by
  have hboth : (s.candidates method₁ ctx₁).filter (·.applies (normalizeMethod method₂) ctx₂) =
      (s.candidates method₂ ctx₂).filter (·.applies (normalizeMethod method₁) ctx₁) := by
    unfold candidates
    rw [List.filter_filter, List.filter_filter]
    exact List.filter_congr fun r _ => Bool.and_comm _ _
  have hw₁ := argmax_filter h₁ h₁₂
  have hw₂ := argmax_filter h₂ h₂₁
  rw [hboth] at hw₁
  exact Option.mem_unique hw₁ hw₂

end Snapshot

section Compiled

variable {version : Nat} {c : Config} {s : Snapshot}

theorem Snapshot.compile_eq_ok :
    compile version c = .ok s ↔ c.violations = [] ∧ s = ofConfig version c := by
  rw [← Config.validate_eq_ok, compile]
  cases hv : c.validate with
  | error vs => exact iff_of_false (fun h => nomatch h) (fun h => nomatch h.1)
  | ok u => exact ⟨fun h => ⟨rfl, (Except.ok.inj h).symm⟩, fun h => congrArg Except.ok h.2.symm⟩

theorem Snapshot.mem_rules_of_compile (hs : compile version c = .ok s) {r : CompiledRule} :
    r ∈ s.rules ↔ ∃ rule ∈ c.rules, ⟨.ofPattern rule.pattern, c.policyOf rule⟩ = r := by
  rw [(compile_eq_ok.1 hs).2]
  exact List.mem_map

theorem Snapshot.resolve_source (hs : compile version c = .ok s) (method : String) (ctx : Context) :
    s.resolve method ctx = c.defaultPolicy ∨ ∃ r ∈ c.rules, s.resolve method ctx = c.policyOf r := by
  rcases s.resolve_cases method ctx with ⟨-, hd⟩ | ⟨r, hr, hw⟩
  · rw [(compile_eq_ok.1 hs).2] at hd ⊢
    exact .inl hd
  · obtain ⟨rule, hrule, rfl⟩ := (mem_rules_of_compile hs).1 (mem_candidates.1 (List.argmax_mem hr)).1
    exact .inr ⟨rule, hrule, hw⟩

theorem Matcher.ofPattern_congr {a b : String} (h : normalizePattern a = normalizePattern b) :
    ofPattern a = ofPattern b := by
  unfold ofPattern
  rw [h]

theorem Snapshot.matcher_congr (hs : compile version c = .ok s) {r₁ r₂ : CompiledRule}
    (h₁ : r₁ ∈ s.rules) (h₂ : r₂ ∈ s.rules) (hp : r₁.policy.pattern = r₂.policy.pattern) :
    r₁.matcher = r₂.matcher := by
  obtain ⟨rule₁, -, rfl⟩ := (mem_rules_of_compile hs).1 h₁
  obtain ⟨rule₂, -, rfl⟩ := (mem_rules_of_compile hs).1 h₂
  have hn : normalizePattern rule₁.pattern = normalizePattern rule₂.pattern := by
    simpa only [Config.policyOf, Option.some.injEq] using hp
  dsimp only
  exact Matcher.ofPattern_congr hn

theorem Snapshot.satisfied_of_resolve (hs : compile version c = .ok s) {method : String}
    {ctx : Context} {p : Policy} (hp : s.resolve method ctx = p) : p.satisfied ctx = true := by
  subst hp
  rcases s.resolve_cases method ctx with ⟨-, hd⟩ | ⟨r, hr, hw⟩
  · rw [hd, (compile_eq_ok.1 hs).2]
    rfl
  · rw [hw]
    exact (Bool.and_eq_true_iff.1 (mem_candidates.1 (List.argmax_mem hr)).2).2

theorem Snapshot.default_pattern (hs : compile version c = .ok s) :
    s.defaultPolicy.pattern = none := by
  rw [(compile_eq_ok.1 hs).2]
  rfl

theorem Snapshot.rule_pattern (hs : compile version c = .ok s) {r : CompiledRule}
    (hr : r ∈ s.rules) : r.policy.pattern ≠ none := by
  obtain ⟨rule, -, rfl⟩ := (mem_rules_of_compile hs).1 hr
  exact fun h => nomatch h

/-- Two calls are under one policy if their policies have one pattern and each call has what the policy
of the other requires. -/
theorem Snapshot.resolve_unique (hs : compile version c = .ok s) {method₁ method₂ : String}
    {ctx₁ ctx₂ : Context} {p₁ p₂ : Policy} (hp₁ : s.resolve method₁ ctx₁ = p₁)
    (hp₂ : s.resolve method₂ ctx₂ = p₂) (hp : p₁.pattern = p₂.pattern)
    (h₂₁ : p₂.satisfied ctx₁ = true) (h₁₂ : p₁.satisfied ctx₂ = true) : p₁ = p₂ := by
  subst hp₁ hp₂
  rcases s.resolve_cases method₁ ctx₁ with ⟨-, hw₁⟩ | ⟨r₁, hr₁, hw₁⟩ <;>
    rcases s.resolve_cases method₂ ctx₂ with ⟨-, hw₂⟩ | ⟨r₂, hr₂, hw₂⟩ <;>
    rw [hw₁, hw₂] at hp ⊢
  · have hmem := (mem_candidates.1 (List.argmax_mem hr₂)).1
    exact absurd (hp.symm.trans (default_pattern hs)) (rule_pattern hs hmem)
  · have hmem := (mem_candidates.1 (List.argmax_mem hr₁)).1
    exact absurd (hp.trans (default_pattern hs)) (rule_pattern hs hmem)
  · rw [hw₂] at h₂₁
    rw [hw₁] at h₁₂
    obtain ⟨hmem₁, happ₁⟩ := mem_candidates.1 (List.argmax_mem hr₁)
    obtain ⟨hmem₂, happ₂⟩ := mem_candidates.1 (List.argmax_mem hr₂)
    have hm := matcher_congr hs hmem₁ hmem₂ hp
    have hfit₁ := (Bool.and_eq_true_iff.1 happ₁).1
    have hfit₂ := (Bool.and_eq_true_iff.1 happ₂).1
    refine congrArg CompiledRule.policy (winner_unique hr₁ hr₂ ?_ ?_)
    · exact Bool.and_eq_true_iff.2 ⟨hm ▸ hfit₂, h₁₂⟩
    · exact Bool.and_eq_true_iff.2 ⟨hm ▸ hfit₁, h₂₁⟩

end Compiled
end Turnstile
