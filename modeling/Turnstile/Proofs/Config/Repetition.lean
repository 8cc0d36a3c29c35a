import Turnstile.Proofs.Resolution.Precedence
import Mathlib.Data.List.Nodup
import Mathlib.Data.List.Perm.Subperm
import Mathlib.Data.String.Basic
/-!
Rules that repeat others. What an accepted configuration does not repeat is the spelling of a rule; two
spellings of one rule are accepted, and the second of them is never used.
-/
namespace Turnstile

namespace Context

theorem get?_map_iff {attributes : List (String × String)} (hn : (attributes.map (·.1)).Nodup)
    {name value : String} :
    (Context.map attributes).get? name = some value ↔ (name, value) ∈ attributes := by
  refine ⟨fun hg => ?_, fun hm => ?_⟩
  · obtain ⟨e, he, rfl⟩ := Option.map_eq_some_iff.1 hg
    have hname : e.1 = name := by simpa using List.find?_some he
    exact hname ▸ List.mem_of_find?_eq_some he
  · obtain ⟨e, he⟩ : ∃ e, attributes.find? (·.1 == name) = some e :=
      Option.isSome_iff_exists.1 (List.find?_isSome.2 ⟨_, hm, beq_self_eq_true name⟩)
    have hname : e.1 = name := by simpa using List.find?_some he
    have heq : e = (name, value) :=
      List.inj_on_of_nodup_map hn (List.mem_of_find?_eq_some he) hm hname
    exact Option.map_eq_some_iff.2 ⟨e, he, congrArg Prod.snd heq⟩

end Context

namespace Rule

/-- The values that a rule requires, under their names in lower case. -/
def required (r : Rule) : List (String × String) :=
  r.matchAttributes.map fun a => (a.1.toLower, a.2)

/-- Whether one rule goes before another in every call that the other applies to, if it stands first. -/
def Shadows (a b : Rule) : Prop :=
  ∀ method ctx, b.Applies method ctx → a.Applies method ctx ∧ b.score ≤ a.score

/-- Whether two rules mean the same, however they are spelled. -/
structure Alike (a b : Rule) : Prop where
  isOpen : a.isOpen = b.isOpen
  stem : a.stem = b.stem
  required : a.required.Perm b.required

variable {a b r : Rule}

theorem applies_iff {method : String} {ctx : Context} :
    r.Applies method ctx ↔
      r.Matches (normalizeMethod method) ∧ ∀ p ∈ r.required, ctx.get? p.1 = some p.2 := by
  rw [Applies, required, List.forall_mem_map]

theorem Alike.shadows (h : a.Alike b) : a.Shadows b := by
  have hmatches (method : String) : a.Matches method ↔ b.Matches method := by
    rw [Matches, Matches, h.isOpen, h.stem]
  have hlength : a.matchAttributes.length = b.matchAttributes.length := by
    simpa [Rule.required] using h.required.length_eq
  have hscore : b.score = a.score := by simp only [score, h.isOpen, h.stem, hlength]
  intro method ctx happ
  rw [applies_iff] at happ
  exact ⟨applies_iff.2 ⟨(hmatches _).2 happ.1, fun p hp => happ.2 p (h.required.mem_iff.1 hp)⟩,
    le_of_eq hscore⟩

theorem score_le_iff :
    b.score ≤ a.score ↔
      (!b.isOpen) < (!a.isOpen) ∨ (!b.isOpen) = (!a.isOpen) ∧
        ((String.ofList b.stem).utf8ByteSize < (String.ofList a.stem).utf8ByteSize ∨
          (String.ofList b.stem).utf8ByteSize = (String.ofList a.stem).utf8ByteSize ∧
            b.matchAttributes.length ≤ a.matchAttributes.length) := by
  simp only [score, Prod.Lex.toLex_le_toLex]

theorem eq_of_prefix_of_size_le {xs ys : List Char} (hp : xs <+: ys)
    (hs : (String.ofList ys).utf8ByteSize ≤ (String.ofList xs).utf8ByteSize) : xs = ys := by
  obtain ⟨rest, rfl⟩ := hp
  rw [String.ofList_append, String.utf8ByteSize_append] at hs
  have hrest : (String.ofList rest).utf8ByteSize = 0 := by omega
  have hnil : rest = [] := by simpa using String.utf8ByteSize_eq_zero_iff.1 hrest
  rw [hnil, List.append_nil]

theorem matches_of_open {cs : List Char} (ho : r.isOpen = true) :
    r.Matches (String.ofList cs) ↔ r.stem <+: cs := by
  rw [Matches, if_pos ho, String.toList_ofList]

theorem matches_of_closed {cs : List Char} (ho : r.isOpen = false) :
    r.Matches (String.ofList cs) ↔ r.stem = cs := by
  rw [Matches, if_neg (Bool.eq_false_iff.1 ho), String.toList_ofList]

/-- Some method is matched by a pattern, and by no other that goes before it. -/
theorem exists_matches_alone (a b : Rule) :
    ∃ cs, b.Matches (String.ofList cs) ∧
      (a.Matches (String.ofList cs) → b.score ≤ a.score →
        a.isOpen = b.isOpen ∧ a.stem = b.stem) := by
  rw [score_le_iff]
  cases hb : b.isOpen with
  | false =>
    refine ⟨b.stem, (matches_of_closed hb).2 rfl, fun hm hs => ?_⟩
    cases ha : a.isOpen with
    | false => exact ⟨rfl, (matches_of_closed ha).1 hm⟩
    | true =>
      rw [ha] at hs
      rcases hs with hlt | ⟨heq, -⟩
      · exact absurd hlt (by decide)
      · cases heq
  | true =>
    cases ha : a.isOpen with
    | false =>
      by_cases hstem : a.stem = b.stem
      · -- One character more is too much for the closed pattern.
        refine ⟨b.stem ++ ['.'], (matches_of_open hb).2 (List.prefix_append _ _), fun hm => ?_⟩
        have hlong := (matches_of_closed ha).1 hm
        simp [hstem] at hlong
      · exact ⟨b.stem, (matches_of_open hb).2 (List.prefix_refl _), fun hm =>
          absurd ((matches_of_closed ha).1 hm) hstem⟩
    | true =>
      refine ⟨b.stem, (matches_of_open hb).2 (List.prefix_refl _), fun hm hs => ⟨rfl, ?_⟩⟩
      refine eq_of_prefix_of_size_le ((matches_of_open ha).1 hm) ?_
      rcases hs.resolve_left (lt_irrefl _) with ⟨-, hlt | ⟨heq, -⟩⟩
      · exact hlt.le
      · exact heq.le

/-- A rule goes before another only if they mean the same. -/
theorem Shadows.alike (h : a.Shadows b) (ha : (a.required.map (·.1)).Nodup)
    (hb : (b.required.map (·.1)).Nodup) : a.Alike b := by
  obtain ⟨cs, hm, hsame⟩ := exists_matches_alone a b
  have hmethod : normalizeMethod (String.ofList ('/' :: cs)) = String.ofList cs := by
    simp [normalizeMethod]
  -- The call has what `b` requires and nothing else.
  have happ : b.Applies (String.ofList ('/' :: cs)) (.map b.required) :=
    applies_iff.2 ⟨hmethod ▸ hm, fun p hp => (Context.get?_map_iff hb).2 hp⟩
  obtain ⟨happ', hscore⟩ := h _ _ happ
  rw [applies_iff, hmethod] at happ'
  obtain ⟨hopen, hstem⟩ := hsame happ'.1 hscore
  have hsub : a.required ⊆ b.required := fun p hp =>
    (Context.get?_map_iff hb).1 (happ'.2 p hp)
  have hlength : b.required.length ≤ a.required.length := by
    simpa [score_le_iff, hopen, hstem, required] using hscore
  exact ⟨hopen, hstem,
    (List.subperm_of_subset (List.Nodup.of_map _ ha) hsub).perm_of_length_le hlength⟩

/-- A rule that is spelled as it is compiled, and not with a star where a slash says it already. -/
structure Plain (r : Rule) : Prop where
  pattern : normalizePattern r.pattern = r.pattern
  closed_once : ¬['/', '*'] <:+ r.pattern.toList
  names : ∀ a ∈ r.matchAttributes, a.1.toLower = a.1
  sorted : r.matchAttributes.Pairwise fun a b => a.1 < b.1

instance (r : Rule) : Decidable r.Plain :=
  decidable_of_iff
    (normalizePattern r.pattern = r.pattern ∧ ¬['/', '*'] <:+ r.pattern.toList ∧
      (∀ a ∈ r.matchAttributes, a.1.toLower = a.1) ∧
      r.matchAttributes.Pairwise fun a b => a.1 < b.1)
    ⟨fun ⟨hp, hc, hn, hs⟩ => ⟨hp, hc, hn, hs⟩,
      fun h => ⟨h.pattern, h.closed_once, h.names, h.sorted⟩⟩

namespace Plain

theorem required_eq (hr : r.Plain) : r.required = r.matchAttributes := by
  unfold required
  refine (List.map_congr_left fun p hp => ?_).trans (List.map_id _)
  rw [hr.names p hp]
  rfl

theorem required_nodup (hr : r.Plain) : (r.required.map (·.1)).Nodup := by
  rw [hr.required_eq]
  exact List.pairwise_map.2 (hr.sorted.imp ne_of_lt)

theorem policyOf_matchAttributes (hr : r.Plain) (c : Config) :
    (c.policyOf r).matchAttributes = r.matchAttributes := by
  change sortPairs r.required = r.matchAttributes
  rw [hr.required_eq]
  refine List.mergeSort_of_pairwise (hr.sorted.imp fun {p q} hlt => ?_)
  rw [if_neg hlt.ne]
  simpa using hlt.le

theorem text_eq (hr : r.Plain) : r.text = r.pattern.toList := by
  unfold text
  rw [hr.pattern]

theorem text_of_stem (hr : r.Plain) :
    r.text = if r.isOpen = true ∧ r.stem.getLast? ≠ some '/' then r.stem ++ ['*'] else r.stem := by
  by_cases hstar : r.text.getLast? = some '*'
  · obtain ⟨front, htext⟩ := List.getLast?_eq_some_iff.1 hstar
    have hslash : front.getLast? ≠ some '/' := fun h => by
      obtain ⟨start, hfront⟩ := List.getLast?_eq_some_iff.1 h
      exact hr.closed_once ⟨start, by rw [← hr.text_eq, htext, hfront]; simp⟩
    rw [isOpen_of_text htext, stem_of_text htext, if_pos rfl, if_pos ⟨by decide, hslash⟩, htext]
  · have hstem : r.stem = r.text := if_neg hstar
    rw [hstem, if_neg]
    rintro ⟨hopen, hslash⟩
    simp [isOpen, hstar, hslash] at hopen

theorem pattern_eq (ha : a.Plain) (hb : b.Plain) (ho : a.isOpen = b.isOpen)
    (hs : a.stem = b.stem) : a.pattern = b.pattern := by
  rw [← String.toList_inj, ← ha.text_eq, ← hb.text_eq, ha.text_of_stem, hb.text_of_stem, ho, hs]

theorem identity_eq (ha : a.Plain) (hb : b.Plain) (h : a.Alike b) : a.identity = b.identity := by
  have hperm : a.matchAttributes.Perm b.matchAttributes := by
    rw [← ha.required_eq, ← hb.required_eq]
    exact h.required
  have hattributes : a.matchAttributes = b.matchAttributes :=
    hperm.eq_of_pairwise (fun p q _ _ hpq hqp => absurd hpq hqp.not_gt) ha.sorted hb.sorted
  rw [identity, identity, ha.pattern_eq hb h.isOpen h.stem, hattributes]

end Plain

theorem identity_of_listViolations {before rules : List Rule}
    (hv : listViolations before rules = []) :
    (rules.map identity).Nodup ∧ ∀ b ∈ before, ∀ r ∈ rules, b.identity ≠ r.identity := by
  induction rules generalizing before with
  | nil => exact ⟨List.nodup_nil, fun b _ r hr => absurd hr List.not_mem_nil⟩
  | cons r rest ih =>
    unfold listViolations at hv
    split at hv
    · cases hv
    · obtain ⟨hfirst, hrest⟩ := List.append_eq_nil_iff.1 hv
      have hrepeat := violationIf_eq_nil.1 (List.append_eq_nil_iff.1 hfirst).1
      obtain ⟨hnodup, hapart⟩ := ih hrest
      refine ⟨List.nodup_cons.2 ⟨fun hm => ?_, hnodup⟩, fun b hb r' hr' => ?_⟩
      · obtain ⟨r', hr', hsame⟩ := List.mem_map.1 hm
        exact hapart r (by simp) r' hr' hsame.symm
      · rcases List.mem_cons.1 hr' with rfl | hr'
        · simpa using List.any_eq_false.1 hrepeat b hb
        · exact hapart b (by simp [hb]) r' hr'

end Rule

theorem Config.identity_nodup {c : Config} (hv : c.violations = []) :
    (c.rules.map Rule.identity).Nodup := by
  simp only [violations, List.append_eq_nil_iff] at hv
  exact (Rule.identity_of_listViolations hv.2).1

namespace Snapshot

variable {c : Config} {before after : List Rule} {r : Rule}

theorem resolve_without (version : Nat) (hrules : c.rules = before ++ r :: after)
    (hr : ∃ a ∈ before, a.Shadows r) (method : String) (ctx : Context) :
    (ofConfig version { c with rules := before ++ after }).resolve method ctx =
      (ofConfig version c).resolve method ctx := by
  obtain ⟨a, ha, hshadow⟩ := hr
  let applies : Rule → Bool := fun r => r.Applies method ctx
  have hleft : Config.candidates { c with rules := before ++ after } method ctx =
      before.filter applies ++ after.filter applies := List.filter_append _ _
  have hall : c.candidates method ctx = before.filter applies ++ (r :: after).filter applies := by
    rw [Config.candidates, hrules, List.filter_append]
  by_cases happ : r.Applies method ctx
  · have hmem : a ∈ before.filter applies :=
      List.mem_filter.2 ⟨ha, decide_eq_true (hshadow method ctx happ).1⟩
    have hr : applies r = true := decide_eq_true happ
    rw [List.filter_cons_of_pos hr] at hall
    rcases resolve_ofConfig version c method ctx with ⟨hnone, -⟩ | ⟨w, hw, hresolve⟩
    · simp [hall] at hnone
    · rw [hall] at hw
      have hw' := hw.without ⟨a, hmem, (hshadow method ctx happ).2⟩
      exact (resolve_of_firstGreatest (hleft ▸ hw')).trans hresolve.symm
  · have hr : ¬applies r = true := by simpa [applies] using happ
    rw [List.filter_cons_of_neg hr, ← hleft] at hall
    rcases resolve_ofConfig version c method ctx with ⟨hnone, hd⟩ | ⟨w, hw, hresolve⟩
    · exact (resolve_of_none (hall ▸ hnone)).trans hd.symm
    · exact (resolve_of_firstGreatest (hall ▸ hw)).trans hresolve.symm

/-- An accepted configuration has no rule twice in the same spelling, and no blank pattern. So among rules
that are spelled as they are compiled no two are compiled alike and none to an empty pattern, and none
goes before a later one in all its calls. A rule that does go before a later one, in whatever spellings,
leaves no call to it: the later one may be left out. -/
theorem plain_rules_differ {version : Nat} {s : Snapshot} (hs : compile version c = .ok s) :
    (c.rules.map Rule.identity).Nodup ∧
      (∀ r ∈ c.rules, Text.trim r.pattern ≠ "") ∧
      ((∀ r ∈ c.rules, r.Plain) →
        (s.rules.map fun r => (r.policy.pattern, r.policy.matchAttributes)).Nodup ∧
          (∀ r ∈ s.rules, r.policy.pattern ≠ some "") ∧
          c.rules.Pairwise fun a b => ¬a.Shadows b) ∧
      ∀ before r after, c.rules = before ++ r :: after → (∃ a ∈ before, a.Shadows r) →
        ∀ method ctx, (ofConfig version { c with rules := before ++ after }).resolve method ctx =
          s.resolve method ctx := by
  obtain ⟨hv, rfl⟩ := compile_eq_ok.1 hs
  have hnodup := Config.identity_nodup hv
  have hblank : ∀ r ∈ c.rules, Text.trim r.pattern ≠ "" := by
    intro r hr hempty
    have hb := (Config.rule_of_violations_eq_nil hv hr).1
    have htrimmed : Text.trimmed r.pattern.toList = [] := by simpa [Text.trim] using hempty
    simp [Rule.isBlank, htrimmed] at hb
  refine ⟨hnodup, hblank, fun hplain => ⟨?_, ?_, ?_⟩, fun before r after hrules hr =>
    resolve_without version hrules hr⟩
  · have hsame : (ofConfig version c).rules.map
        (fun r => (r.policy.pattern, r.policy.matchAttributes)) =
        (c.rules.map Rule.identity).map fun i => (some i.1, i.2) := by
      rw [ofConfig, List.map_map, List.map_map]
      refine List.map_congr_left fun r hr => Prod.ext ?_ ?_
      · exact congrArg some (hplain r hr).pattern
      · exact (hplain r hr).policyOf_matchAttributes c
    rw [hsame]
    refine hnodup.map fun i j hij => ?_
    simpa [Prod.ext_iff] using hij
  · intro r hr hempty
    obtain ⟨rule, hrule, rfl⟩ := (mem_rules_of_compile hs).1 hr
    have hpattern : rule.pattern = "" :=
      (hplain rule hrule).pattern.symm.trans (Option.some.inj hempty)
    exact hblank rule hrule (by rw [hpattern]; decide)
  · refine (List.pairwise_map.1 hnodup).imp_of_mem fun {a b} ha hb hne hshadow => hne ?_
    have hpa := hplain a ha
    have hpb := hplain b hb
    exact hpa.identity_eq hpb (hshadow.alike hpa.required_nodup hpb.required_nodup)

/-- Rules for two tenants, for one method and for all differ; with a star too many one of them is never
used. -/
theorem tenant_rules_differ :
    let r (tenant : String) := { Rule.ofPattern "svc/" with
      matchAttributes := [("region", "eu"), ("x-tenant-id", tenant)] }
    let starred := { r "acme" with pattern := "svc/*" }
    let c := { Config.standard with
      rules := [.ofPattern "*", r "acme", .ofPattern "svc/M", r "globex"] }
    let s := ofConfig 1 c
    let c' := { Config.standard with rules := [r "acme", starred] }
    (s.rules.map fun r => (r.policy.pattern, r.policy.matchAttributes)).Nodup ∧
      (∀ r ∈ s.rules, r.policy.pattern ≠ some "") ∧
      (c.rules.Pairwise fun a b => ¬a.Shadows b) ∧
      ∀ method ctx, (ofConfig 1 { c' with rules := [r "acme"] }).resolve method ctx =
        (ofConfig 1 c').resolve method ctx := by
  intro r starred c s c'
  have hs : compile 1 c = .ok s := compile_eq_ok.2 ⟨by decide +kernel, rfl⟩
  have hs' : compile 1 c' = .ok (ofConfig 1 c') := compile_eq_ok.2 ⟨by decide +kernel, rfl⟩
  have hplain : ∀ rule ∈ c.rules, rule.Plain := by decide +kernel
  have hshadow : (r "acme").Shadows starred :=
    Rule.Alike.shadows ⟨by decide +kernel, by decide +kernel, by decide +kernel⟩
  obtain ⟨hnodup, hpattern, hapart⟩ := (plain_rules_differ hs).2.2.1 hplain
  exact ⟨hnodup, hpattern, hapart, (plain_rules_differ hs').2.2.2 [r "acme"] starred [] rfl
    ⟨r "acme", List.mem_singleton_self _, hshadow⟩⟩

/-- A slash in front is enough for one rule to be accepted twice, and then no call is under the second;
and one slash alone is accepted as the empty pattern. -/
theorem slash_hides_repetition :
    let first := Rule.ofPattern "svc/"
    let second := { Rule.ofPattern "/svc/" with tokenCost := 5 }
    let c := { Config.standard with rules := [first, second, .ofPattern "/"] }
    c.violations = [] ∧
      (c.policyOf first).pattern = (c.policyOf second).pattern ∧
      (c.policyOf first).matchAttributes = (c.policyOf second).matchAttributes ∧
      (∀ method ctx, (ofConfig 1 c).resolve method ctx ≠ c.policyOf second) ∧
      (c.policyOf (.ofPattern "/")).pattern = some "" := by
  intro first second c
  have hshadow : first.Shadows second :=
    Rule.Alike.shadows ⟨by decide +kernel, by decide +kernel, by decide⟩
  have hnever (method : String) (ctx : Context) :
      (ofConfig 1 c).resolve method ctx ≠ c.policyOf second := by
    have hrules : c.rules = [first] ++ second :: [.ofPattern "/"] := rfl
    have hdefault : c.defaultPolicy ≠ c.policyOf second := by decide +kernel
    have hother : ∀ r ∈ [first] ++ [.ofPattern "/"], c.policyOf r ≠ c.policyOf second := by
      decide +kernel
    rw [← resolve_without 1 hrules ⟨first, List.mem_singleton_self _, hshadow⟩]
    rcases resolve_ofConfig 1 { c with rules := [first] ++ [.ofPattern "/"] } method ctx with
      ⟨-, hd⟩ | ⟨r, hr, hw⟩
    · exact fun h => hdefault (hd.symm.trans h)
    · exact fun h => hother r (List.mem_of_mem_filter hr.mem) (hw.symm.trans h)
  exact ⟨by decide +kernel, by decide +kernel, by decide +kernel, hnever, by decide +kernel⟩

end Snapshot
end Turnstile
