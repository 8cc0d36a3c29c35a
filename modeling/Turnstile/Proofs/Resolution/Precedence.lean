import Turnstile.Proofs.Resolution
/-!
Which rule of a configuration a call is under. Of the rules that apply to it the greatest wins, by what
their patterns say and by the number of values they require, and the first of those that are equal.
-/
namespace Turnstile

section FirstGreatest

variable {α β γ : Type*} [LinearOrder γ] {f : β → γ} {l l' : List β} {a a' : β}

/-- One of the greatest in a list, and the first of them. -/
def FirstGreatest (f : β → γ) (l : List β) (a : β) : Prop :=
  ∃ before after, l = before ++ a :: after ∧ (∀ x ∈ before, f x < f a) ∧ ∀ x ∈ after, f x ≤ f a

theorem firstGreatest_of_argmax (ha : a ∈ l.argmax f) : FirstGreatest f l a := by
  induction l using List.reverseRecOn generalizing a with
  | nil => cases ha
  | append_singleton l x ih =>
    rw [List.argmax_concat] at ha
    cases hl : l.argmax f with
    | none =>
      rw [hl] at ha
      cases ha
      rw [List.argmax_eq_none.1 hl]
      exact ⟨[], [], rfl, by simp, by simp⟩
    | some top =>
      simp only [hl] at ha
      split at ha
      · next hlt =>
        cases ha
        exact ⟨l, [], rfl, fun y hy => (List.le_of_mem_argmax hy hl).trans_lt hlt, by simp⟩
      · next hle =>
        cases ha
        obtain ⟨before, after, hsplit, hbefore, hafter⟩ := ih hl
        refine ⟨before, after ++ [x], by simp [hsplit], hbefore, fun y hy => ?_⟩
        rcases List.mem_append.1 hy with hy | hy
        · exact hafter y hy
        · exact List.mem_singleton.1 hy ▸ not_lt.1 hle

theorem firstGreatest_iff :
    FirstGreatest f l a ↔ (∀ x ∈ l, f x ≤ f a) ∧ l.find? (fun x => f x = f a) = some a := by
  refine ⟨fun ⟨before, after, hsplit, hbefore, hafter⟩ => ⟨fun x hx => ?_, ?_⟩,
    fun ⟨hle, hfind⟩ => ?_⟩
  · rcases List.mem_append.1 (hsplit ▸ hx) with hx | hx
    · exact (hbefore x hx).le
    · rcases List.mem_cons.1 hx with rfl | hx
      · exact le_rfl
      · exact hafter x hx
  · exact List.find?_eq_some_iff_append.2
      ⟨by simp, before, after, hsplit, fun x hx => by simpa using (hbefore x hx).ne⟩
  · obtain ⟨-, before, after, rfl, hbefore⟩ := List.find?_eq_some_iff_append.1 hfind
    refine ⟨before, after, rfl, fun x hx => (hle x (by simp [hx])).lt_of_ne ?_,
      fun x hx => hle x (by simp [hx])⟩
    simpa using hbefore x hx

theorem FirstGreatest.mem (h : FirstGreatest f l a) : a ∈ l :=
  List.mem_of_find?_eq_some (firstGreatest_iff.1 h).2

theorem mem_of_same (hsame : ∀ v, (l.filter fun x => f x = v) = l'.filter fun x => f x = v)
    {x : β} (hx : x ∈ l') : x ∈ l := by
  have hx' : x ∈ l'.filter fun y => f y = f x := by simpa using hx
  exact List.mem_of_mem_filter (hsame (f x) ▸ hx')

theorem FirstGreatest.of_same (h : FirstGreatest f l a)
    (hsame : ∀ v, (l.filter fun x => f x = v) = l'.filter fun x => f x = v) :
    FirstGreatest f l' a := by
  obtain ⟨hle, hfind⟩ := firstGreatest_iff.1 h
  refine firstGreatest_iff.2 ⟨fun x hx => hle x (mem_of_same hsame hx), ?_⟩
  rw [← List.head?_filter, ← hsame, List.head?_filter, hfind]

theorem FirstGreatest.unique (h : FirstGreatest f l a) (h' : FirstGreatest f l a') : a = a' := by
  obtain ⟨hle, hfind⟩ := firstGreatest_iff.1 h
  obtain ⟨hle', hfind'⟩ := firstGreatest_iff.1 h'
  rw [le_antisymm (hle' a h.mem) (hle a' h'.mem), hfind'] at hfind
  exact (Option.some.inj hfind).symm

theorem FirstGreatest.without {xs ys : List β} {y : β} (h : FirstGreatest f (xs ++ y :: ys) a)
    (hy : ∃ x ∈ xs, f y ≤ f x) : FirstGreatest f (xs ++ ys) a := by
  obtain ⟨x, hx, hyx⟩ := hy
  obtain ⟨hle, hfind⟩ := firstGreatest_iff.1 h
  refine firstGreatest_iff.2 ⟨fun z hz => hle z ?_, ?_⟩
  · rcases List.mem_append.1 hz with hz | hz <;> simp [hz]
  · rw [List.find?_append] at hfind ⊢
    by_cases hya : f y = f a
    · have hxa : f x = f a := le_antisymm (hle x (by simp [hx])) (hya ▸ hyx)
      obtain ⟨first, hfirst⟩ : ∃ first, xs.find? (fun x => f x = f a) = some first :=
        Option.isSome_iff_exists.1 (List.find?_isSome.2 ⟨x, hx, by simpa using hxa⟩)
      rw [hfirst] at hfind ⊢
      exact hfind
    · rwa [List.find?_cons_of_neg (by simpa using hya)] at hfind

theorem FirstGreatest.of_map {g : α → β} {l : List α} (h : FirstGreatest f (l.map g) a) :
    ∃ r, g r = a ∧ FirstGreatest (f ∘ g) l r := by
  obtain ⟨before, after, hsplit, hbefore, hafter⟩ := h
  obtain ⟨xs, rest, rfl, rfl, hrest⟩ := List.map_eq_append_iff.1 hsplit
  obtain ⟨r, ys, rfl, rfl, rfl⟩ := List.map_eq_cons_iff.1 hrest
  exact ⟨r, rfl, xs, ys, rfl, List.forall_mem_map.1 hbefore, List.forall_mem_map.1 hafter⟩

end FirstGreatest

namespace Matcher

theorem fits_exact (text method : String) :
    (exact text).fits method = decide (text.toList = method.toList) := by
  unfold fits fit?
  by_cases h : text = method
  · simp [h]
  · simp [h, String.toList_inj]

theorem fits_beginning (text method : String) :
    (beginning text).fits method = decide (text.toList <+: method.toList) := by
  unfold fits fit?
  by_cases h : text.toList <+: method.toList
  · simp [h, List.isPrefixOf_iff_prefix.2 h]
  · simp [h, mt List.isPrefixOf_iff_prefix.1 h]

end Matcher

namespace Rule

def text (r : Rule) : List Char := (normalizePattern r.pattern).toList

/-- Whether a pattern stands for all that begins with it. It is closed by a star or a slash then. -/
def isOpen (r : Rule) : Bool := r.text.getLast? == some '*' || r.text.getLast? == some '/'

def stem (r : Rule) : List Char :=
  if r.text.getLast? = some '*' then r.text.dropLast else r.text

def Matches (r : Rule) (method : String) : Prop :=
  if r.isOpen then r.stem <+: method.toList else r.stem = method.toList

instance (r : Rule) (method : String) : Decidable (r.Matches method) :=
  inferInstanceAs (Decidable (ite _ _ _))

/-- Whether a rule applies to a call: its pattern matches, and the call has all values required. -/
def Applies (r : Rule) (method : String) (ctx : Context) : Prop :=
  r.Matches (normalizeMethod method) ∧
    ∀ a ∈ r.matchAttributes, ctx.get? a.1.toLower = some a.2

instance (r : Rule) (method : String) (ctx : Context) : Decidable (r.Applies method ctx) :=
  inferInstanceAs (Decidable (_ ∧ _))

/-- A pattern for one method goes before one for several; then the longer one, in bytes; then the rule
that requires more values. -/
def score (r : Rule) : Bool ×ₗ ℕ ×ₗ ℕ :=
  toLex (!r.isOpen, toLex ((String.ofList r.stem).utf8ByteSize, r.matchAttributes.length))

section Last

variable {r : Rule} {front : List Char} {last : Char}

theorem isOpen_of_text (ht : r.text = front ++ [last]) :
    r.isOpen = (last == '*' || last == '/') := by
  simp [isOpen, ht]

theorem stem_of_text (ht : r.text = front ++ [last]) :
    r.stem = if last = '*' then front else front ++ [last] := by
  simp [stem, ht]

end Last

theorem ofPattern_eq (r : Rule) :
    Matcher.ofPattern r.pattern =
      if r.stem = [] ∧ r.isOpen then .any
      else if r.isOpen then .beginning (String.ofList r.stem) else .exact (String.ofList r.stem) := by
  obtain ⟨t, ht⟩ : ∃ t, normalizePattern r.pattern = t := ⟨_, rfl⟩
  have htext : r.text = t.toList := congrArg String.toList ht
  have hstar : t = "*" ↔ t.toList = ['*'] := String.toList_inj.symm
  unfold Matcher.ofPattern
  rw [ht]
  cases hrev : t.toList.reverse with
  | nil =>
    have hnil : t = "" := String.toList_eq_nil_iff.1 (List.reverse_eq_nil_iff.1 hrev)
    simp [isOpen, stem, htext, hnil]
  | cons last rest =>
    have hchars : t.toList = rest.reverse ++ [last] := by
      rw [← List.reverse_reverse t.toList, hrev, List.reverse_cons]
    have hback : String.ofList (rest.reverse ++ [last]) = t := hchars ▸ String.ofList_toList
    rw [isOpen_of_text (htext.trans hchars), stem_of_text (htext.trans hchars)]
    by_cases hl : last = '*'
    · subst hl
      by_cases hrest : rest = [] <;> simp [hstar, hchars, hrest]
    · have hne : t ≠ "*" := fun h => hl (by simpa [h] using (congrArg List.getLast? hchars).symm)
      by_cases hs : last = '/'
      · subst hs
        simp [hne, hrev, hback]
      · simp [hne, hrev, hback, hl, hs]

-- From here on a pattern is known by its stem and its end.
attribute [irreducible] text

/-- What a pattern is compiled to matches what the pattern says. -/
theorem ofPattern_spec (r : Rule) :
    (∀ method, (Matcher.ofPattern r.pattern).fits method = decide (r.Matches method)) ∧
      (Matcher.ofPattern r.pattern).closeness =
        (!r.isOpen, (String.ofList r.stem).utf8ByteSize) := by
  rw [ofPattern_eq]
  cases ho : r.isOpen with
  | true =>
    by_cases hs : r.stem = []
    · rw [if_pos ⟨hs, rfl⟩]
      refine ⟨fun method => ?_, ?_⟩
      · simp [Matcher.fits, Matcher.fit?, Matches, ho, hs]
      · simp [Matcher.closeness, hs]
    · rw [if_neg fun h => hs h.1, if_pos rfl]
      refine ⟨fun method => ?_, ?_⟩
      · rw [Matcher.fits_beginning]
        simp [Matches, ho]
      · simp [Matcher.closeness]
  | false =>
    rw [if_neg fun h => Bool.noConfusion h.2, if_neg Bool.false_ne_true]
    refine ⟨fun method => ?_, ?_⟩
    · rw [Matcher.fits_exact]
      simp [Matches, ho]
    · simp [Matcher.closeness]

end Rule

namespace Config

def compiled (c : Config) (r : Rule) : CompiledRule := ⟨.ofPattern r.pattern, c.policyOf r⟩

def candidates (c : Config) (method : String) (ctx : Context) : List Rule :=
  c.rules.filter fun r => r.Applies method ctx

variable {c : Config} {method : String} {ctx : Context}

theorem satisfied_policyOf (c : Config) (r : Rule) (ctx : Context) :
    (c.policyOf r).satisfied ctx =
      decide (∀ a ∈ r.matchAttributes, ctx.get? a.1.toLower = some a.2) := by
  rw [Bool.eq_iff_iff]
  simp only [Policy.satisfied, policyOf, sortPairs, List.all_eq_true, List.mem_mergeSort,
    List.forall_mem_map, beq_iff_eq, decide_eq_true_eq]

theorem applies_compiled (c : Config) (r : Rule) (method : String) (ctx : Context) :
    (c.compiled r).applies (normalizeMethod method) ctx = decide (r.Applies method ctx) := by
  rw [CompiledRule.applies, compiled, r.ofPattern_spec.1, satisfied_policyOf]
  exact (Bool.decide_and _ _).symm

theorem rank_compiled (c : Config) (r : Rule) : (c.compiled r).rank = r.score := by
  have hlength : (c.policyOf r).matchAttributes.length = r.matchAttributes.length := by
    simp [policyOf, sortPairs]
  rw [CompiledRule.rank, CompiledRule.specificity, compiled, r.ofPattern_spec.2, hlength]
  simp only [Specificity.rank, Rule.score]

end Config

namespace Snapshot

theorem candidates_ofConfig (version : Nat) (c : Config) (method : String) (ctx : Context) :
    (ofConfig version c).candidates method ctx = (c.candidates method ctx).map c.compiled := by
  have happlies : (·.applies (normalizeMethod method) ctx) ∘ c.compiled =
      fun r => decide (r.Applies method ctx) := by
    funext r
    rw [Function.comp_apply, Config.applies_compiled]
  have hrules : (ofConfig version c).rules = c.rules.map c.compiled := rfl
  rw [candidates, hrules, List.filter_map, happlies, Config.candidates]

theorem resolve_ofConfig (version : Nat) (c : Config) (method : String) (ctx : Context) :
    c.candidates method ctx = [] ∧ (ofConfig version c).resolve method ctx = c.defaultPolicy ∨
      ∃ r, FirstGreatest Rule.score (c.candidates method ctx) r ∧
        (ofConfig version c).resolve method ctx = c.policyOf r := by
  rcases (ofConfig version c).resolve_cases method ctx with ⟨hnone, hd⟩ | ⟨r, hr, hw⟩
  · rw [candidates_ofConfig, List.map_eq_nil_iff] at hnone
    exact .inl ⟨hnone, hd⟩
  · rw [candidates_ofConfig] at hr
    obtain ⟨rule, rfl, hrule⟩ := (firstGreatest_of_argmax hr).of_map
    have hscore : CompiledRule.rank ∘ c.compiled = Rule.score := funext c.rank_compiled
    exact .inr ⟨rule, hscore ▸ hrule, hw⟩

variable {version : Nat} {c : Config} {method : String} {ctx : Context}

theorem resolve_of_none (hnone : c.candidates method ctx = []) :
    (ofConfig version c).resolve method ctx = c.defaultPolicy := by
  rcases resolve_ofConfig version c method ctx with ⟨-, hd⟩ | ⟨r, hr, -⟩
  · exact hd
  · exact absurd hr.mem (hnone ▸ List.not_mem_nil)

theorem resolve_of_firstGreatest {r : Rule}
    (hr : FirstGreatest Rule.score (c.candidates method ctx) r) :
    (ofConfig version c).resolve method ctx = c.policyOf r := by
  rcases resolve_ofConfig version c method ctx with ⟨hnone, -⟩ | ⟨r', hr', hw⟩
  · exact absurd hr.mem (hnone ▸ List.not_mem_nil)
  · rw [hw, hr'.unique hr]

/-- A call is under the default policy if and only if no rule applies to it, and else under the policy
of the first of the greatest rules that do. Other rules may be added, left out or moved, and rules that
apply may change places with those of another score: the call stays under the same policy. -/
theorem most_specific_wins {s : Snapshot} (hs : compile version c = .ok s) (method : String)
    (ctx : Context) :
    (s.resolve method ctx = c.defaultPolicy ↔ c.candidates method ctx = []) ∧
      (c.candidates method ctx ≠ [] →
        ∃ r, FirstGreatest Rule.score (c.candidates method ctx) r ∧
          s.resolve method ctx = c.policyOf r) ∧
      ∀ (rules : List Rule) (version' : Nat) (s' : Snapshot),
        compile version' { c with rules } = .ok s' →
        (∀ score, (Config.candidates { c with rules } method ctx).filter (·.score = score) =
          (c.candidates method ctx).filter (·.score = score)) →
        s'.resolve method ctx = s.resolve method ctx := by
  obtain rfl := (compile_eq_ok.1 hs).2
  have hcases := resolve_ofConfig version c method ctx
  have hapart (r : Rule) : c.policyOf r ≠ c.defaultPolicy := fun h =>
    nomatch congrArg Policy.pattern h
  refine ⟨⟨fun hd => ?_, resolve_of_none⟩, fun hsome => hcases.resolve_left fun h => hsome h.1,
    fun rules version' s' hs' hsame => ?_⟩
  · rcases hcases with ⟨hnone, -⟩ | ⟨r, -, hw⟩
    · exact hnone
    · exact absurd (hw.symm.trans hd) (hapart r)
  · obtain rfl := (compile_eq_ok.1 hs').2
    rcases hcases with ⟨hnone, hd⟩ | ⟨r, hr, hw⟩
    · have hnone' : Config.candidates { c with rules } method ctx = [] :=
        List.eq_nil_iff_forall_not_mem.2 fun r hr =>
          absurd (mem_of_same (fun score => (hsame score).symm) hr) (hnone ▸ List.not_mem_nil)
      exact (resolve_of_none hnone').trans hd.symm
    · exact (resolve_of_firstGreatest (hr.of_same fun score => (hsame score).symm)).trans hw.symm

/-- Two rules mean the same in two spellings, and the first of them wins over a star. It still does when
the star moves to the end and a rule for another method makes way for one more. -/
theorem spellings_tie :
    let r (pattern name : String) : Rule :=
      { Rule.ofPattern pattern with matchAttributes := [(name, "eu")] }
    let star := Rule.ofPattern " * "
    let c := { Config.standard with
      rules := [star, r "svc/*" "Region", r "/svc/" "region", .ofPattern "svc/N"] }
    let rules := [r "svc/*" "Region", .ofPattern "/other*", r "/svc/" "region", star]
    let s := Snapshot.ofConfig 1 c
    let s' := Snapshot.ofConfig 2 { c with rules }
    let ctx : Context := .ofList [("region", "eu")]
    s.resolve "/svc/M" ctx ≠ c.defaultPolicy ∧
      s.resolve "/svc/M" ctx = c.policyOf (r "svc/*" "Region") ∧
      s.resolve "/svc/M" ctx ≠ c.policyOf (r "/svc/" "region") ∧
      s'.resolve "/svc/M" ctx = s.resolve "/svc/M" ctx := by
  intro r star c rules s s' ctx
  have hs : compile 1 c = .ok s := compile_eq_ok.2 ⟨by decide +kernel, rfl⟩
  have hs' : compile 2 { c with rules } = .ok s' := compile_eq_ok.2 ⟨by decide +kernel, rfl⟩
  have hc : c.candidates "/svc/M" ctx = [star, r "svc/*" "Region", r "/svc/" "region"] := by
    decide +kernel
  have hc' : Config.candidates { c with rules } "/svc/M" ctx =
      [r "svc/*" "Region", r "/svc/" "region", star] := by decide +kernel
  have htie : (r "/svc/" "region").score = (r "svc/*" "Region").score := by decide +kernel
  have key := most_specific_wins hs "/svc/M" ctx
  refine ⟨fun hd => ?_, by decide +kernel, by decide +kernel,
    key.2.2 rules 2 s' hs' fun score => ?_⟩
  · exact List.cons_ne_nil _ _ (hc.symm.trans (key.1.1 hd))
  rw [hc, hc']
  by_cases h : star.score = score
  · subst h
    decide +kernel
  · simp [List.filter_cons, h, htie]

end Snapshot
end Turnstile
