import Turnstile.Proofs.Config.Validation
import Mathlib.Data.List.Nodup
import Mathlib.Data.List.TakeWhile
/-!
What validation reports. A configuration may break a constraint in its defaults or in one of its rules,
and each constraint has its violation. A report names every broken constraint once, apart from those of
rules with a blank pattern: of such a rule it tells nothing but the pattern.
-/
namespace Turnstile

theorem mem_violationIf {broken : Bool} {v w : Violation} :
    w ∈ violationIf broken v ↔ broken = true ∧ w = v := by
  cases broken <;> simp [violationIf]

theorem nodup_append_violationIf {vs : List Violation} {broken : Bool} {v : Violation} :
    (vs ++ violationIf broken v).Nodup ↔ vs.Nodup ∧ (broken = true → v ∉ vs) := by
  cases broken <;> simp [violationIf, List.nodup_append']

theorem nodup_violationIf (broken : Bool) (v : Violation) : (violationIf broken v).Nodup := by
  cases broken <;> simp [violationIf]

/-- The constraints on a quota, each with the violation for a quota that breaks it. -/
inductive Quota.Breaks (scope : String) (q : Quota) : Violation → Prop
  | capacity : q.capacity ≤ 0 → Breaks scope q (.nonPositiveCapacity scope q.capacity)
  | refillTokens : q.refillTokens ≤ 0 → Breaks scope q (.nonPositiveRefill scope q.refillTokens)
  | refillInterval : q.refillIntervalMs = 0 → Breaks scope q (.zeroRefillInterval scope)

/-- The constraints on thresholds. Whether the minimum fits into the window is a question only when
neither of them is zero. -/
inductive Thresholds.Breaks (scope : String) (t : Thresholds) : Violation → Prop
  | failureRate : ¬(0 < t.failureRate ∧ t.failureRate ≤ 100) →
      Breaks scope t (.rateOutOfRange scope "failure_rate_threshold")
  | slowCallRate : ¬(0 < t.slowCallRate ∧ t.slowCallRate ≤ 100) →
      Breaks scope t (.rateOutOfRange scope "slow_call_rate_threshold")
  | windowSize : t.windowSize = 0 → Breaks scope t (.emptyWindow scope)
  | minimumCalls : t.minimumCalls = 0 → Breaks scope t (.zeroMinimumCalls scope)
  | minimumAboveWindow : 0 < t.minimumCalls → 0 < t.windowSize → t.windowSize < t.minimumCalls →
      Breaks scope t (.minimumExceedsWindow scope t.minimumCalls t.windowSize)
  | cooldown : t.cooldownMs = 0 → Breaks scope t (.zeroCooldown scope)
  | probePermits : t.probePermits = 0 → Breaks scope t (.zeroProbePermits scope)
  | successThreshold : t.successThreshold = 0 → Breaks scope t (.zeroSuccessThreshold scope)
  | probeGrace : t.probeGraceMs = 0 → Breaks scope t (.zeroProbeGrace scope)

inductive Rule.Breaks (before : List Rule) (r : Rule) : Violation → Prop
  | pattern : (∀ ch ∈ r.pattern.toList, Text.isBlank ch = true) → Breaks before r .emptyPattern
  | repetition (earlier : Rule) : earlier ∈ before → earlier.pattern = r.pattern →
      earlier.matchAttributes = r.matchAttributes →
      Breaks before r (.duplicatePattern r.pattern)
  | quota (q : Quota) (v : Violation) : r.quota = some q → q.Breaks r.pattern v → Breaks before r v
  | thresholds (t : Thresholds) (v : Violation) : r.thresholds = some t → t.Breaks r.pattern v →
      Breaks before r v
  | tokenCost : r.tokenCost = 0 → Breaks before r (.zeroTokenCost r.pattern)
  | deadline : r.deadlineMs = some 0 → Breaks before r (.zeroDeadline r.pattern)

inductive Config.DefaultsBreak (c : Config) : Violation → Prop
  | quota (v : Violation) : c.rateLimiting.quota.Breaks "default" v → DefaultsBreak c v
  | thresholds (v : Violation) : c.circuitBreaking.thresholds.Breaks "default" v →
      DefaultsBreak c v
  | deadline : c.defaultDeadlineMs = some 0 → DefaultsBreak c (.zeroDeadline "default")
  | conflict (code : Code) : code ∈ c.classifier.failureCodes → code ∈ c.classifier.ignoredCodes →
      DefaultsBreak c (.conflictingCode code)
  | sweepInterval : c.retention.sweepIntervalSecs = 0 → DefaultsBreak c .zeroSweepInterval
  | maxKeys : c.retention.maxKeys = 0 → DefaultsBreak c .zeroMaxKeys

namespace Config

/-- Where a configuration breaks a constraint: outside of its rules, or at the rule with an index. -/
inductive Site where
  | defaults
  | rule (index : Nat)
  deriving DecidableEq

inductive Breaks (c : Config) : Site → Violation → Prop
  | defaults (v : Violation) : c.DefaultsBreak v → Breaks c .defaults v
  | rule (before : List Rule) (r : Rule) (after : List Rule) (v : Violation) :
      c.rules = before ++ r :: after → r.Breaks before v → Breaks c (.rule before.length) v

/-- What is not looked at: all of a rule with a blank pattern but the pattern. -/
def Masked (c : Config) (site : Site) (v : Violation) : Prop :=
  c.Breaks site .emptyPattern ∧ v ≠ .emptyPattern

end Config

namespace Quota
variable {scope : String} {q : Quota} {v : Violation}

theorem mem_violations : v ∈ q.violations scope ↔ q.Breaks scope v := by
  simp only [violations, List.mem_append, mem_violationIf, decide_eq_true_eq, beq_iff_eq]
  constructor
  · rintro ((⟨h, rfl⟩ | ⟨h, rfl⟩) | ⟨h, rfl⟩)
    · exact .capacity h
    · exact .refillTokens h
    · exact .refillInterval h
  · rintro (h | h | h) <;> simp [h]

theorem nodup_violations : (q.violations scope).Nodup := by
  simp [violations, nodup_append_violationIf, nodup_violationIf, mem_violationIf,
    -List.append_assoc]

end Quota

theorem isShare_iff {rate : Float} : isShare rate = true ↔ 0 < rate ∧ rate ≤ 100 := by
  simp only [isShare, Bool.and_eq_true, decide_eq_true_eq]

namespace Thresholds
variable {scope : String} {t : Thresholds} {v : Violation}

theorem mem_violations : v ∈ t.violations scope ↔ t.Breaks scope v := by
  simp only [violations, List.mem_append, mem_violationIf, Bool.not_eq_true', ← Bool.not_eq_true,
    isShare_iff, beq_iff_eq, Bool.and_eq_true, bne_iff_ne, decide_eq_true_eq, and_assoc]
  constructor
  · rintro ((((((((⟨h, rfl⟩ | ⟨h, rfl⟩) | ⟨h, rfl⟩) | ⟨h, rfl⟩) | ⟨hm, hw, h, rfl⟩) | ⟨h, rfl⟩) |
      ⟨h, rfl⟩) | ⟨h, rfl⟩) | ⟨h, rfl⟩)
    · exact .failureRate h
    · exact .slowCallRate h
    · exact .windowSize h
    · exact .minimumCalls h
    · exact .minimumAboveWindow (Nat.pos_of_ne_zero hm) (Nat.pos_of_ne_zero hw) h
    · exact .cooldown h
    · exact .probePermits h
    · exact .successThreshold h
    · exact .probeGrace h
  · rintro (h | h | h | h | ⟨hm, hw, h⟩ | h | h | h | h)
    case minimumAboveWindow => simp [Nat.pos_iff_ne_zero.1 hm, Nat.pos_iff_ne_zero.1 hw, h]
    all_goals simp [h]

theorem nodup_violations : (t.violations scope).Nodup := by
  simp [violations, nodup_append_violationIf, nodup_violationIf, mem_violationIf,
    -List.append_assoc]

end Thresholds

namespace Rule
variable {before rules : List Rule} {r : Rule} {v : Violation}

theorem isBlank_iff : r.isBlank = true ↔ ∀ ch ∈ r.pattern.toList, Text.isBlank ch = true := by
  simp only [isBlank, Text.trimmed, List.isEmpty_iff, List.reverse_eq_nil_iff,
    List.dropWhile_eq_nil_iff, List.mem_reverse]
  refine ⟨fun h ch hch => ?_, fun h ch hch => h ch ((List.dropWhile_sublist _).subset hch)⟩
  rw [← List.takeWhile_append_dropWhile (p := Text.isBlank) (l := r.pattern.toList)] at hch
  exact (List.mem_append.1 hch).elim List.mem_takeWhile_imp (h ch)

def reported (before : List Rule) (r : Rule) : List Violation :=
  if r.isBlank then [.emptyPattern]
  else violationIf (before.any (·.identity == r.identity)) (.duplicatePattern r.pattern) ++
    r.violations

theorem mem_violations : v ∈ r.violations ↔
    (∃ q, r.quota = some q ∧ q.Breaks r.pattern v) ∨
    (∃ t, r.thresholds = some t ∧ t.Breaks r.pattern v) ∨
    r.tokenCost = 0 ∧ v = .zeroTokenCost r.pattern ∨
    r.deadlineMs = some 0 ∧ v = .zeroDeadline r.pattern := by
  simp only [violations, List.mem_append, List.mem_flatMap, Option.mem_toList,
    Quota.mem_violations, Thresholds.mem_violations, mem_violationIf, beq_iff_eq, or_assoc]

theorem breaks_emptyPattern : r.Breaks before .emptyPattern ↔ r.isBlank = true := by
  rw [isBlank_iff]
  constructor
  · rintro (hp | _ | ⟨q, _, -, h⟩ | ⟨t, _, -, h⟩)
    · exact hp
    · cases h
    · cases h
  · exact .pattern

theorem mem_reported : v ∈ r.reported before ↔
    r.Breaks before v ∧ (r.isBlank = true → v = .emptyPattern) := by
  unfold reported
  split
  · next hb => 
    rw [List.mem_singleton]
    exact ⟨fun hv => ⟨hv ▸ .pattern (isBlank_iff.1 hb), fun _ => hv⟩, fun h => h.2 hb⟩
  · next hb =>
    simp only [List.mem_append, mem_violationIf, mem_violations, List.any_eq_true, beq_iff_eq]
    constructor
    · refine fun h => ⟨?_, fun hblank => absurd hblank hb⟩
      obtain ⟨⟨earlier, he, hi⟩, rfl⟩ | ⟨q, hq, hv⟩ | ⟨t, ht, hv⟩ | ⟨hc, rfl⟩ | ⟨hd, rfl⟩ := h
      · exact .repetition earlier he (congrArg Prod.fst hi) (congrArg Prod.snd hi)
      · exact .quota q v hq hv
      · exact .thresholds t v ht hv
      · exact .tokenCost hc
      · exact .deadline hd
    · rintro ⟨h, -⟩
      cases h with
      | pattern hp => exact absurd (isBlank_iff.2 hp) hb
      | repetition earlier he hp ha => exact .inl ⟨⟨earlier, he, Prod.ext hp ha⟩, rfl⟩
      | quota q _ hq hv => exact .inr (.inl ⟨q, hq, hv⟩)
      | thresholds t _ ht hv => exact .inr (.inr (.inl ⟨t, ht, hv⟩))
      | tokenCost hc => exact .inr (.inr (.inr (.inl ⟨hc, rfl⟩)))
      | deadline hd => exact .inr (.inr (.inr (.inr ⟨hd, rfl⟩)))

theorem nodup_violations : r.violations.Nodup := by
  have hq : (r.quota.toList.flatMap fun q => q.violations r.pattern).Nodup := by
    cases r.quota <;> simp [Quota.nodup_violations]
  have ht : (r.thresholds.toList.flatMap fun t => t.violations r.pattern).Nodup := by
    cases r.thresholds <;> simp [Thresholds.nodup_violations]
  rw [violations, nodup_append_violationIf, nodup_append_violationIf, List.nodup_append']
  simp only [List.Disjoint, List.mem_append, List.mem_flatMap, Quota.mem_violations,
    Thresholds.mem_violations, mem_violationIf]
  refine ⟨⟨⟨hq, ht, ?_⟩, fun _ => ?_⟩, fun _ => ?_⟩
  · rintro v ⟨q, -, hvq⟩ ⟨t, -, hvt⟩
    cases hvq <;> cases hvt
  · rintro (⟨q, -, ⟨⟩⟩ | ⟨t, -, ⟨⟩⟩)
  · rintro ((⟨q, -, ⟨⟩⟩ | ⟨t, -, ⟨⟩⟩) | ⟨-, ⟨⟩⟩)

theorem nodup_reported : (r.reported before).Nodup := by
  unfold reported
  split
  · exact List.nodup_singleton _
  · refine (nodup_violationIf _ _).append nodup_violations fun v hd hv => ?_
    obtain ⟨-, rfl⟩ := mem_violationIf.1 hd
    rcases mem_violations.1 hv with ⟨q, -, ⟨⟩⟩ | ⟨t, -, ⟨⟩⟩ | ⟨-, ⟨⟩⟩ | ⟨-, ⟨⟩⟩

/-- What is reported of rules that come after the rules `before`, each violation with the index of its
rule. -/
def listBreaches (before : List Rule) : List Rule → List (Nat × Violation)
  | [] => []
  | r :: rest => (r.reported before).map (before.length, ·) ++ listBreaches (before ++ [r]) rest

/-- A rule with a blank pattern is no repetition of one without, so it need not be remembered. -/
theorem map_snd_listBreaches :
    (listBreaches before rules).map (·.2) =
      listViolations (before.filter (!·.isBlank)) rules := by
  induction rules generalizing before with
  | nil => rfl
  | cons r rest ih =>
    have hmap : ((r.reported before).map (before.length, ·)).map (·.2) = r.reported before := by
      simp [List.map_map, Function.comp_def]
    rw [listBreaches, List.map_append, hmap, ih, List.filter_append, reported, listViolations]
    cases hb : r.isBlank with
    | true => simp [hb]
    | false =>
      have hseen : (before.filter (!·.isBlank)).any (·.identity == r.identity) =
          before.any (·.identity == r.identity) := by
        rw [List.any_filter]
        congr 1
        funext a
        by_cases hi : a.identity = r.identity
        · have hp : a.pattern = r.pattern := congrArg Prod.fst hi
          have ha : a.isBlank = false := by rw [isBlank, hp, ← isBlank, hb]
          simp [ha]
        · simp [hi]
      simp [hb, hseen]

theorem mem_listBreaches {i : Nat} : (i, v) ∈ listBreaches before rules ↔
    ∃ front r back, rules = front ++ r :: back ∧ i = (before ++ front).length ∧
      v ∈ r.reported (before ++ front) := by
  induction rules generalizing before with
  | nil => simp [listBreaches]
  | cons r rest ih =>
    rw [listBreaches, List.mem_append, ih]
    constructor
    · rintro (hv | ⟨front, r', back, rfl, hi, hv⟩)
      · obtain ⟨w, hw, hpair⟩ := List.mem_map.1 hv
        cases hpair
        exact ⟨[], r, rest, rfl, by simp, by simpa using hw⟩
      · exact ⟨r :: front, r', back, rfl, by simpa using hi, by simpa using hv⟩
    · rintro ⟨front, r', back, hrules, hi, hv⟩
      cases front with
      | nil =>
        cases hrules
        exact .inl (List.mem_map.2 ⟨v, by simpa using hv, by simp [hi]⟩)
      | cons first front =>
        cases hrules
        exact .inr ⟨front, r', back, rfl, by simpa using hi, by simpa using hv⟩

theorem nodup_listBreaches : (listBreaches before rules).Nodup := by
  induction rules generalizing before with
  | nil => exact List.nodup_nil
  | cons r rest ih =>
    refine (nodup_reported.map fun _ _ h => (Prod.mk.inj h).2).append ih ?_
    rintro ⟨i, v⟩ hfirst hrest
    obtain ⟨w, -, hpair⟩ := List.mem_map.1 hfirst
    obtain ⟨front, r', back, -, hi, -⟩ := mem_listBreaches.1 hrest
    cases hpair
    simp at hi

end Rule

namespace Config
variable {c : Config} {site : Site} {v : Violation}

def defaultViolations (c : Config) : List Violation :=
  c.rateLimiting.quota.violations "default" ++
  c.circuitBreaking.thresholds.violations "default" ++
  violationIf (c.defaultDeadlineMs == some 0) (.zeroDeadline "default") ++
  (c.classifier.failureCodes.filter (· ∈ c.classifier.ignoredCodes)).map .conflictingCode ++
  violationIf (c.retention.sweepIntervalSecs == 0) .zeroSweepInterval ++
  violationIf (c.retention.maxKeys == 0) .zeroMaxKeys

theorem mem_defaultViolations : v ∈ c.defaultViolations ↔ c.DefaultsBreak v := by
  simp only [defaultViolations, List.mem_append, Quota.mem_violations, Thresholds.mem_violations,
    mem_violationIf, beq_iff_eq, List.mem_map, List.mem_filter, decide_eq_true_eq]
  constructor
  · rintro (((((h | h) | ⟨h, rfl⟩) | ⟨code, ⟨hf, hi⟩, rfl⟩) | ⟨h, rfl⟩) | ⟨h, rfl⟩)
    · exact .quota v h
    · exact .thresholds v h
    · exact .deadline h
    · exact .conflict code hf hi
    · exact .sweepInterval h
    · exact .maxKeys h
  · rintro (⟨_, h⟩ | ⟨_, h⟩ | h | ⟨code, hf, hi⟩ | h | h)
    case conflict => simp [hf, hi]
    all_goals simp [h]

theorem nodup_defaultViolations (hn : c.classifier.failureCodes.Nodup) :
    c.defaultViolations.Nodup := by
  have hcodes : ((c.classifier.failureCodes.filter (· ∈ c.classifier.ignoredCodes)).map
      Violation.conflictingCode).Nodup :=
    (hn.filter _).map fun _ _ h => Violation.conflictingCode.inj h
  rw [defaultViolations, nodup_append_violationIf, nodup_append_violationIf, List.nodup_append',
    nodup_append_violationIf, List.nodup_append']
  simp only [List.Disjoint, List.mem_append, List.mem_map, Quota.mem_violations,
    Thresholds.mem_violations, mem_violationIf]
  refine ⟨⟨⟨⟨⟨Quota.nodup_violations, Thresholds.nodup_violations, ?_⟩, fun _ => ?_⟩, hcodes, ?_⟩,
    fun _ => ?_⟩, fun _ => ?_⟩
  · rintro v hq ht
    cases hq <;> cases ht
  · rintro (h | h) <;> cases h
  · rintro _ ((h | h) | ⟨-, h⟩) ⟨code, -, rfl⟩ <;> cases h
  · rintro (((h | h) | ⟨-, h⟩) | ⟨code, -, h⟩) <;> cases h
  · rintro ((((h | h) | ⟨-, h⟩) | ⟨code, -, h⟩) | ⟨-, h⟩) <;> cases h

def breaches (c : Config) : List (Site × Violation) :=
  c.defaultViolations.map (.defaults, ·) ++
  (Rule.listBreaches [] c.rules).map fun b => (.rule b.1, b.2)

theorem map_snd_breaches : c.breaches.map (·.2) = c.violations := by
  have hrules : (Rule.listBreaches [] c.rules).map (·.2) = Rule.listViolations [] c.rules :=
    Rule.map_snd_listBreaches
  simp [breaches, ← hrules, violations, defaultViolations, Function.comp_def]

theorem breaks_rule {before after : List Rule} {r : Rule} (hrules : c.rules = before ++ r :: after) :
    c.Breaks (.rule before.length) v ↔ r.Breaks before v := by
  refine ⟨fun h => ?_, .rule before r after v hrules⟩
  generalize hsite : Site.rule before.length = site at h
  cases h with
  | defaults => cases hsite
  | rule before' r' after' _ hrules' hv =>
    obtain ⟨rfl, hrest⟩ := List.append_inj (hrules.symm.trans hrules') (Site.rule.inj hsite)
    cases hrest
    exact hv

theorem not_masked_defaults : ¬c.Masked .defaults v := by
  rintro ⟨⟨_, ⟨_, h⟩ | ⟨_, h⟩⟩, -⟩ <;> cases h

theorem mem_breaches : (site, v) ∈ c.breaches ↔ c.Breaks site v ∧ ¬c.Masked site v := by
  rw [breaches, List.mem_append, List.mem_map, List.mem_map]
  constructor
  · rintro (⟨_, hv, ⟨⟩⟩ | ⟨⟨i, _⟩, hv, ⟨⟩⟩)
    · exact ⟨.defaults _ (mem_defaultViolations.1 hv), not_masked_defaults⟩
    · obtain ⟨before, r, after, hrules, rfl, hr⟩ := Rule.mem_listBreaches.1 hv
      obtain ⟨hbreaks, hblank⟩ := Rule.mem_reported.1 hr
      refine ⟨.rule before r after _ hrules hbreaks, fun ⟨he, hne⟩ => hne (hblank ?_)⟩
      exact Rule.breaks_emptyPattern.1 ((breaks_rule hrules).1 he)
  · rintro ⟨h, hmasked⟩
    cases h with
    | defaults _ h => exact .inl ⟨v, mem_defaultViolations.2 h, rfl⟩
    | rule before r after _ hrules h =>
      refine .inr ⟨(before.length, v), Rule.mem_listBreaches.2 ?_, rfl⟩
      refine ⟨before, r, after, hrules, rfl, Rule.mem_reported.2 ⟨h, fun hb => ?_⟩⟩
      by_contra hne
      exact hmasked ⟨(breaks_rule hrules).2 (Rule.breaks_emptyPattern.2 hb), hne⟩

theorem nodup_breaches (hn : c.classifier.failureCodes.Nodup) : c.breaches.Nodup := by
  refine ((nodup_defaultViolations hn).map fun _ _ h => (Prod.mk.inj h).2).append
    (Rule.nodup_listBreaches.map fun a b h => ?_) fun b hd hr => ?_
  · obtain ⟨hi, hv⟩ := Prod.mk.inj h
    exact Prod.ext (Site.rule.inj hi) hv
  · obtain ⟨v, -, rfl⟩ := List.mem_map.1 hd
    obtain ⟨b, -, hb⟩ := List.mem_map.1 hr
    cases hb

/-- Something that is broken is reported, be it only the blank pattern that hides it. -/
theorem breaches_eq_nil : c.breaches = [] ↔ ∀ site v, ¬c.Breaks site v := by
  refine ⟨fun hnil site v hv => ?_, fun h => List.eq_nil_iff_forall_not_mem.2 fun ⟨site, v⟩ hb =>
    h site v (mem_breaches.1 hb).1⟩
  have hnone (w : Violation) (hw : c.Breaks site w) : c.Masked site w := by
    by_contra hm
    have hmem := mem_breaches.2 ⟨hw, hm⟩
    rw [hnil] at hmem
    cases hmem
  exact (hnone .emptyPattern (hnone v hv).1).2 rfl

/-- A report tells one for one what is broken, and where, of all that is looked at; and a configuration is
accepted when nothing is broken at all. -/
theorem violations_one_for_one (c : Config) :
    ∃ breaches : List (Site × Violation),
      (∀ site v, (site, v) ∈ breaches ↔ c.Breaks site v ∧ ¬c.Masked site v) ∧
      (c.classifier.failureCodes.Nodup → breaches.Nodup) ∧
      c.validate = (if breaches.isEmpty then .ok () else .error (breaches.map (·.2))) ∧
      (c.validate = .ok () ↔ ∀ site v, ¬c.Breaks site v) := by
  have hvalidate : c.validate =
      if c.breaches.isEmpty then .ok () else .error (c.breaches.map (·.2)) := by
    rw [validate, ← map_snd_breaches, List.isEmpty_map]
  refine ⟨c.breaches, fun site v => mem_breaches, nodup_breaches, hvalidate, ?_⟩
  rw [validate_eq_ok, ← map_snd_breaches, List.map_eq_nil_iff, breaches_eq_nil]

/-- A rule with a blank pattern hides that its calls cost nothing, which is reported of any other. -/
theorem blank_pattern_hides_cost :
    let costless (pattern : String) := { Rule.ofPattern pattern with tokenCost := 0 }
    let c := { Config.standard with rules := [costless " ", costless "svc/"] }
    c.Breaks (.rule 0) (.zeroTokenCost " ") ∧ c.Breaks (.rule 1) (.zeroTokenCost "svc/") ∧
      c.validate = .error [.emptyPattern, .zeroTokenCost "svc/"] := by
  intro costless c
  refine ⟨.rule [] (costless " ") [costless "svc/"] _ rfl (.tokenCost rfl),
    .rule [costless " "] (costless "svc/") [] _ rfl (.tokenCost rfl), ?_⟩
  decide +kernel

end Config
end Turnstile
