import Telemetry.Proofs.Assembly.Growth
import Telemetry.Proofs.Assembly.Stages

/-! # What merging leaves registered

Merging plugins can fail at either load and at any of the plugins that register customizers, and what
was registered by then stays. A `Merger` says what that is. -/

namespace Telemetry

open Assembly

section
variable {W : Outside}

/-- What came of an attempt to merge plugins: what was registered while each group was loaded, the
configurers, the other plugins, and what those registered, up to the one that raised. -/
structure Merger (W : Outside) where
  early : List (Addition W)
  configurers : List W.Plugin := []
  late : List (Addition W) := []
  providers : List W.Plugin := []
  contributed : List (Addition W) := []

namespace Merger

def wrapped (plugins : List W.Plugin) : List (Addition W) :=
  plugins.map fun plugin => .customizer .tracerProvider (.configurer plugin)

def additions (m : Merger W) : List (Addition W) := m.early ++ wrapped m.configurers ++ m.late ++ m.contributed

def links (m : Merger W) (k : Kind) : List (Link W) :=
  customizersOf k m.early ++ (if k = .tracerProvider then m.configurers.map .configurer else []) ++
    customizersOf k m.late ++ customizersOf k m.contributed

def suppliers (m : Merger W) : List W.Supplier :=
  suppliersOf m.early ++ suppliersOf m.late ++ suppliersOf m.contributed

theorem customizersOf_wrapped (k : Kind) (plugins : List W.Plugin) :
    customizersOf k (wrapped plugins) = if k = .tracerProvider then plugins.map .configurer else [] := by
  induction plugins with
  | nil => simp [wrapped, customizersOf]
  | cons plugin plugins ih =>
    have h : wrapped (plugin :: plugins) = [.customizer .tracerProvider (.configurer plugin)] ++ wrapped plugins := rfl
    rw [h, customizersOf_append, ih]
    by_cases h : k = .tracerProvider
    · subst h
      simp [customizersOf]
    · simp [customizersOf, h, Ne.symm h]

theorem suppliersOf_wrapped (plugins : List W.Plugin) : suppliersOf (wrapped plugins) = [] := by
  simp [suppliersOf, wrapped]

theorem customizersOf_additions (m : Merger W) (k : Kind) : customizersOf k m.additions = m.links k := by
  simp only [additions, links, customizersOf_append, customizersOf_wrapped]

theorem suppliersOf_additions (m : Merger W) : suppliersOf m.additions = m.suppliers := by
  simp only [additions, suppliers, suppliersOf_append, suppliersOf_wrapped, List.append_nil]

end Merger

/-! ## Attempts -/

/-- Plugins are asked one after the other to register what they like, up to the first that raises. Each is
handed the registry with all that was registered before. -/
inductive Contributes : Registry W → List W.Plugin → List (Turn W) → Except Fault Unit → Prop
  | done {registry : Registry W} : Contributes registry [] [] (.ok ())
  | next {registry : Registry W} {plugin : W.Plugin} {plugins : List W.Plugin} {added : List (Addition W)}
    {ts : List (Turn W)} {r : Except Fault Unit} :
    Contributes (registry.extend added) plugins ts r →
      Contributes registry (plugin :: plugins) (.asked (.contribute plugin) registry (.ok ()) added :: ts) r
  | stop {registry : Registry W} {plugin : W.Plugin} {plugins : List W.Plugin} {added : List (Addition W)} {f : Fault} :
    Contributes registry (plugin :: plugins) [.asked (.contribute plugin) registry (.error f) added] (.error f)

/-- An attempt to merge plugins ends at the first load, at the second, or among the plugins that the
second has found. -/
inductive Merger.Attempt (loader : W.Loader) (registry : Registry W) :
    Merger W → List (Turn W) → Except Fault Unit → Prop
  | unloaded {f : Fault} {early : List (Addition W)} :
    Attempt loader registry { early } [.asked (.load loader Names.tracerProviderConfigurers) () (.error f) early] (.error f)
  | halfLoaded {configurers : List W.Plugin} {f : Fault} {early late : List (Addition W)} :
    Attempt loader registry { early, configurers, late }
      [.asked (.load loader Names.tracerProviderConfigurers) () (.ok configurers) early,
        .asked (.load loader Names.customizerProviders) () (.error f) late] (.error f)
  | loaded {configurers providers : List W.Plugin} {early late : List (Addition W)} {ts : List (Turn W)}
    {r : Except Fault Unit} :
    Contributes (registry.extend (early ++ Merger.wrapped configurers ++ late)) providers ts r →
      Attempt loader registry { early, configurers, late, providers, contributed := ts.flatMap Turn.added }
        (.asked (.load loader Names.tracerProviderConfigurers) () (.ok configurers) early ::
          .asked (.load loader Names.customizerProviders) () (.ok providers) late :: ts) r

/-! ## At most once -/

def Turn.loads (group : String) : Turn W → Bool
  | .asked (.load _ loaded) _ _ _ => loaded == group
  | _ => false

def Turn.contributor? : Turn W → Option W.Plugin
  | .asked (.contribute plugin) _ _ _ => some plugin
  | _ => none

section
variable {loader : W.Loader} {registry : Registry W} {m : Merger W} {plugins : List W.Plugin} {ts : List (Turn W)} {r : Except Fault Unit}
  {group : String}

theorem Turn.loads_of_not_merges {t : Turn W} (h : t.merges = false) (hg : group ∈ Names.merged) :
    t.loads group = false := by
  cases t with
  | checked c fault => rfl
  | asked req input answer added =>
    cases req with
    | load loader loaded =>
      have h : loaded ∉ Names.merged := by simpa [Turn.merges, Request.merges] using h
      rw [Turn.loads, beq_eq_false_iff_ne]
      rintro rfl
      exact h hg
    | _ => rfl

theorem Turn.contributor?_of_not_merges {t : Turn W} (h : t.merges = false) : t.contributor? = none := by
  cases t with
  | checked c fault => rfl
  | asked req input answer added =>
    cases req with
    | contribute plugin => cases h
    | _ => rfl

theorem countP_loads_of_not_merges (h : ∀ t ∈ ts, t.merges = false) (hg : group ∈ Names.merged) :
    ts.countP (Turn.loads group) = 0 := by
  rw [List.countP_eq_zero]
  intro t ht
  rw [Turn.loads_of_not_merges (h t ht) hg]
  exact Bool.false_ne_true

theorem contributors_of_not_merges (h : ∀ t ∈ ts, t.merges = false) : ts.filterMap Turn.contributor? = [] := by
  rw [List.filterMap_eq_nil_iff]
  exact fun t ht => Turn.contributor?_of_not_merges (h t ht)

theorem Contributes.countP_loads (h : Contributes registry plugins ts r) : ts.countP (Turn.loads group) = 0 := by
  induction h with
  | done => rfl
  | next _ ih => simpa [Turn.loads] using ih
  | stop => rfl

theorem Contributes.contributors (h : Contributes registry plugins ts r) : ts.filterMap Turn.contributor? <+: plugins := by
  induction h with
  | done => exact List.nil_prefix
  | next _ ih => simpa [Turn.contributor?] using ih
  | stop => simp [Turn.contributor?]

theorem countP_loads_both {found providers : Except Fault (List W.Plugin)} {early late : List (Addition W)}
    (h : ts.countP (Turn.loads group) = 0) :
    (.asked (.load loader Names.tracerProviderConfigurers) () found early ::
      .asked (.load loader Names.customizerProviders) () providers late :: ts : List (Turn W)).countP
        (Turn.loads group) ≤ 1 := by
  by_cases hg : group = Names.customizerProviders
  · have hne : Names.tracerProviderConfigurers ≠ Names.customizerProviders := by decide
    subst hg
    simp [Turn.loads, h, hne]
  · simp only [List.countP_cons, h, Turn.loads, beq_iff_eq, if_neg (Ne.symm hg)]
    split <;> omega

theorem Merger.Attempt.countP_loads (h : m.Attempt loader registry ts r) : ts.countP (Turn.loads group) ≤ 1 := by
  cases h with
  | unloaded => exact List.countP_le_length
  | halfLoaded => exact countP_loads_both List.countP_nil
  | loaded hc => exact countP_loads_both hc.countP_loads

theorem Contributes.applied {k : Kind} (h : Contributes registry plugins ts r) : ts.filterMap (Turn.applied? k) = [] := by
  induction h with
  | done => rfl
  | next _ ih => simpa [Turn.applied?, Request.applied?] using ih
  | stop => rfl

theorem Merger.Attempt.applied {k : Kind} (h : m.Attempt loader registry ts r) : ts.filterMap (Turn.applied? k) = [] := by
  cases h with
  | unloaded => rfl
  | halfLoaded => rfl
  | loaded hc => exact hc.applied

theorem Contributes.merges (h : Contributes registry plugins ts r) : ∀ t ∈ ts, t.merges = true := by
  induction h with
  | done => exact fun t ht => absurd ht List.not_mem_nil
  | next _ ih => exact List.forall_mem_cons.mpr ⟨rfl, ih⟩
  | stop => exact List.forall_mem_singleton.mpr rfl

theorem Merger.Attempt.merges (h : m.Attempt loader registry ts r) : ∀ t ∈ ts, t.merges = true := by
  cases h with
  | unloaded => exact List.forall_mem_singleton.mpr rfl
  | halfLoaded => exact List.forall_mem_cons.mpr ⟨rfl, List.forall_mem_singleton.mpr rfl⟩
  | loaded hc => exact List.forall_mem_cons.mpr ⟨rfl, List.forall_mem_cons.mpr ⟨rfl, hc.merges⟩⟩

theorem Merger.Attempt.suppliers (h : m.Attempt loader registry ts r) : suppliersOf (ts.flatMap Turn.added) = m.suppliers := by
  cases h <;> simp [Merger.suppliers, suppliersOf, Turn.added]

theorem Merger.Attempt.contributors (h : m.Attempt loader registry ts r) :
    ts.filterMap Turn.contributor? <+: m.providers := by
  cases h with
  | unloaded => exact List.nil_prefix
  | halfLoaded => exact List.nil_prefix
  | loaded hc => exact hc.contributors

end

/-! ## Running the merge -/

section
variable (host : Host W)

theorem run_mergeProvider (plugin : W.Plugin) (s : Scene W) :
    ∃ (answer : Except Fault Unit) (added : List (Addition W)) (s' : Scene W),
      run (Discovery.mergeProvider host plugin) s = (answer, s') ∧
      s'.turns = s.turns ++ [.asked (.contribute plugin) s.registry answer added] ∧
      s'.registry = s.registry.extend added := by
  obtain ⟨answer, v, -, h⟩ := run_ask host (.contribute plugin) s.registry s
  cases answer with
  | ok a => exact ⟨.ok (), v.added, _, (run_bind_ok h _).trans (run_emit _ _), rfl, rfl⟩
  | error f => exact ⟨.error f, v.added, _, run_bind_error h _, rfl, rfl⟩

theorem run_mergeProviders : ∀ (plugins : List W.Plugin) (s : Scene W),
    ∃ (r : Except Fault Unit) (ts : List (Turn W)) (s' : Scene W),
      run (plugins.forM (Discovery.mergeProvider host)) s = (r, s') ∧ Contributes s.registry plugins ts r ∧
      s'.turns = s.turns ++ ts ∧ s'.registry = s.registry.extend (ts.flatMap Turn.added)
  | [], s => ⟨.ok (), [], s, rfl, .done, (List.append_nil _).symm, rfl⟩
  | plugin :: plugins, s => by
    obtain ⟨answer, added, s₁, h, ht, hg⟩ := run_mergeProvider host plugin s
    cases answer with
    | error f =>
      refine ⟨.error f, _, s₁, run_bind_error h _, .stop, ht, ?_⟩
      rw [hg, List.flatMap_singleton]
      rfl
    | ok a =>
      obtain ⟨r, ts, s₂, h', hc, ht', hg'⟩ := run_mergeProviders plugins s₁
      refine ⟨r, .asked (.contribute plugin) s.registry (.ok a) added :: ts, s₂, (run_bind_ok h _).trans h',
        .next (hg ▸ hc), ?_, ?_⟩
      · rw [ht', ht, List.append_assoc, List.singleton_append]
      · rw [hg', hg, ← Registry.extend_append]
        rfl

theorem run_configurers (plugins : List W.Plugin) (s : Scene W) :
    ∃ s', run (plugins.forM (Discovery.mergeConfigurer host)) s = (.ok (), s') ∧ s'.turns = s.turns ∧
      s'.registry = s.registry.extend (Merger.wrapped plugins) := by
  obtain ⟨s', hr, hl, hg⟩ := run_mergeConfigurers host plugins s
  refine ⟨s', hr, ?_, ?_⟩
  · rw [hl.turns, List.append_nil]
  · rw [hg, Merger.wrapped, Registry.extend, List.foldl_map]
    rfl

/-- Wherever merging ends, the registry holds what was there before and then what the attempt brought. -/
theorem run_merge (loader : W.Loader) (s : Scene W) :
    ∃ (r : Except Fault Unit) (m : Merger W) (ts : List (Turn W)) (s' : Scene W),
      run (Discovery.merge host loader) s = (r, s') ∧ m.Attempt loader s.registry ts r ∧
      s'.turns = s.turns ++ ts ∧ s'.registry = s.registry.extend m.additions := by
  obtain ⟨answer, v, -, h⟩ := run_ask host (.load loader Names.tracerProviderConfigurers) () s
  unfold Discovery.merge Discovery.discover
  cases answer with
  | error f =>
    refine ⟨.error f, { early := v.added }, _, _, run_bind_error h _, .unloaded, rfl, ?_⟩
    simp [Merger.additions, Merger.wrapped]
  | ok configurers =>
    obtain ⟨s₁, h₁, ht₁, hg₁⟩ := run_configurers host configurers
      ⟨v.own, s.registry.extend v.added, s.journal ++ v.events, s.turns ++
        [.asked (.load loader Names.tracerProviderConfigurers) () (.ok configurers) v.added]⟩
    obtain ⟨answer', v', -, h'⟩ := run_ask host (.load loader Names.customizerProviders) () s₁
    rw [run_bind_ok h, run_bind_ok h₁]
    cases answer' with
    | error f =>
      refine ⟨.error f, { early := v.added, configurers, late := v'.added }, _, _, run_bind_error h' _, .halfLoaded,
        ?_, ?_⟩
      · simp [ht₁]
      · simp [hg₁, Merger.additions, Registry.extend_append]
    | ok providers =>
      obtain ⟨r, ts, s₂, h₂, hc, ht₂, hg₂⟩ := run_mergeProviders host providers _
      refine ⟨r, ⟨v.added, configurers, v'.added, providers, ts.flatMap Turn.added⟩, _, s₂,
        (run_bind_ok h' _).trans h₂, .loaded ?_, ?_, ?_⟩
      · simpa [hg₁, Registry.extend_append] using hc
      · simp [ht₂, ht₁]
      · simp [hg₂, hg₁, Merger.additions, Registry.extend_append]

theorem run_merging (b : Builder W) (s : Scene W) :
    ∃ (r : Except Fault Unit) (ts : List (Turn W)) (s' : Scene W),
      run (unless b.pluginsMerged do Discovery.merge host b.loader) s = (r, s') ∧ s'.turns = s.turns ++ ts ∧
      (∀ t ∈ ts, t.merges = true) ∧
      s'.registry.suppliers = s.registry.suppliers ++ suppliersOf (ts.flatMap Turn.added) := by
  cases b.pluginsMerged with
  | true =>
    refine ⟨.ok (), [], s, rfl, (List.append_nil _).symm, fun t ht => absurd ht List.not_mem_nil, ?_⟩
    exact (List.append_nil _).symm
  | false =>
    obtain ⟨r, m, ts, s', hr, ha, ht, hg⟩ := run_merge host b.loader s
    refine ⟨r, ts, s', hr, ht, ha.merges, ?_⟩
    rw [hg, Registry.suppliers_extend, Merger.suppliersOf_additions, ha.suppliers]

end

end

end Telemetry
