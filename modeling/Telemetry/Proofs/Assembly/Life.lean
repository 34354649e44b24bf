import Telemetry.Proofs.Assembly.Build
import Telemetry.Proofs.Assembly.Merge

/-! # The life of a builder

A builder is changed and builds, in any order, and any build may fail anywhere. Its plugins are merged
at the start of its first build and never again, whatever came of that. Later builds start from the
registry that the attempt left, with what was registered since. -/

namespace Telemetry

open Assembly

section
variable {W : Outside}

namespace Builder

inductive Change (W : Outside)
  | add (kind : Datum) (customizer : Offer W.Customizer)
  | addTyped (kind : Kind) (customizer : Offer W.Customizer)
  | addSupplier (supplier : Offer W.Supplier)
  | setLoader (loader : Option W.Loader)
  | setProperties (p : Option Properties)
  | setProcessProperties (properties : Source)
  | registerHook (register : Bool)
  | installGlobally (install : Bool)

def change (b : Builder W) : Change W → Except Fault (Builder W)
  | .add kind customizer => (b.registry.offer kind customizer).map fun registry => { b with registry }
  | .addTyped kind customizer => (b.registry.offerTyped kind customizer).map fun registry => { b with registry }
  | .addSupplier supplier => (b.registry.offerSupplier supplier).map fun registry => { b with registry }
  | .setLoader loader => b.setLoader loader
  | .setProperties p => b.setProperties p
  | .setProcessProperties properties => .ok { b with processProperties := properties }
  | .registerHook register => .ok { b with registersHook := register }
  | .installGlobally install => .ok { b with installsGlobally := install }

def Change.added : Change W → List (Addition W)
  | .add kind customizer => (Addition.ofCustomizer kind customizer).toOption.toList
  | .addTyped kind customizer =>
    ((customizer.accept "customizer").map fun c => .customizer kind (.customizer c)).toOption.toList
  | .addSupplier supplier => (Addition.ofSupplier supplier).toOption.toList
  | _ => []

inductive Command (W : Outside)
  | change (c : Change W)
  | build (own : W.State) (estate : Estate)

structure Round (W : Outside) where
  added : List (Addition W)
  start : Builder W
  own : W.State
  estate : Estate

namespace Round
variable (host : Host W) (r : Round W)

def built : Built W := r.start.build host r.own r.estate

def turns : List (Turn W) := (r.built host).turns

/-- The customizers of the tracer provider that the build applies are those of a chain in its order, all
of them unless the build fails. -/
def Applies (chain : List (Link W)) : Prop :=
  (r.turns host).filterMap (Turn.applied? .tracerProvider) <+: chain ∧
    ∀ made, (r.built host).outcome = .ok made → (r.turns host).filterMap (Turn.applied? .tracerProvider) = chain

def merge : Except Fault Unit × Scene W :=
  (Discovery.merge host r.start.loader).run { own := r.own, registry := r.start.registry }

end Round

structure Life (W : Outside) where
  builder : Builder W
  rounds : List (Round W) := []
  recent : List (Addition W) := []

namespace Life
variable (host : Host W)

def step (l : Life W) : Command W → Life W
  | .change c =>
    match l.builder.change c with
    | .ok builder => { l with builder, recent := l.recent ++ c.added }
    | .error _ => l
  | .build own estate =>
    let round : Round W := ⟨l.recent, l.builder, own, estate⟩
    { builder := (round.built host).builder, rounds := l.rounds ++ [round] }

def run (l : Life W) (commands : List (Command W)) : Life W := commands.foldl (step host) l

def turns (l : Life W) : List (Turn W) := l.rounds.flatMap (Round.turns host)

end Life

/-! ## One build -/

theorem record_ok {b b' : Builder W} {a : Except Fault (Addition W)}
    (h : ((a.map b.registry.record).map fun registry => { b with registry }) = .ok b') :
    b'.registry = b.registry.extend a.toOption.toList ∧ b'.pluginsMerged = b.pluginsMerged := by
  cases a with
  | error f => cases h
  | ok a =>
    cases h
    exact ⟨rfl, rfl⟩

theorem change_ok {b b' : Builder W} {c : Change W} (h : b.change c = .ok b') :
    b'.registry = b.registry.extend c.added ∧ b'.pluginsMerged = b.pluginsMerged := by
  cases c with
  | add kind customizer =>
    rw [change, Registry.offer_eq] at h
    exact record_ok h
  | addTyped kind customizer =>
    rw [change, Registry.offerTyped_eq] at h
    exact record_ok h
  | addSupplier supplier =>
    rw [change, Registry.offerSupplier_eq] at h
    exact record_ok h
  | setLoader loader => cases loader <;> cases h; exact ⟨rfl, rfl⟩
  | setProperties p => cases p <;> cases h; exact ⟨rfl, rfl⟩
  | setProcessProperties properties => cases h; exact ⟨rfl, rfl⟩
  | registerHook register => cases h; exact ⟨rfl, rfl⟩
  | installGlobally install => cases h; exact ⟨rfl, rfl⟩

section
variable (host : Host W)

theorem build_scene (b : Builder W) (own : W.State) (estate : Estate) :
    let x := run (b.assemble host) { own, registry := b.registry }
    let built := b.build host own estate
    built.turns = x.2.turns ∧ built.builder.registry = x.2.registry ∧ built.builder.pluginsMerged = true ∧
      ∀ made, built.outcome = .ok made → ∃ bundle, x.1 = .ok bundle := by
  cases hr : run (b.assemble host) { own, registry := b.registry } with
  | mk r s =>
    cases r with
    | error f =>
      obtain ⟨estate', hb⟩ := build_error estate hr
      rw [hb]
      exact ⟨rfl, rfl, rfl, nofun⟩
    | ok bundle =>
      obtain ⟨n, estate', hb⟩ := build_ok estate hr
      rw [hb]
      exact ⟨rfl, rfl, rfl, fun _ _ => ⟨bundle, rfl⟩⟩

structure Round.Resumes (r : Round W) : Prop where
  unmerged : ∀ t ∈ r.turns host, t.merges = false
  left : (r.built host).builder.registry = r.start.registry.extend ((r.turns host).flatMap Turn.added)
  applies : ∃ more, r.Applies host (r.start.registry.chains .tracerProvider ++ more)

theorem Round.resumes {r : Round W} (h : r.start.pluginsMerged = true) : r.Resumes host := by
  obtain ⟨ht, hg, -, hok⟩ := build_scene host r.start r.own r.estate
  obtain ⟨ts, ho⟩ := keepsOrder_settled host r.start { own := r.own, registry := r.start.registry }
  have he : r.start.assemble host = r.start.snapshot host >>= assembleFrom host r.start.loader := by
    rw [assemble_eq, h]
    rfl
  rw [he] at ht hg hok
  have ht : r.turns host = ts := ht.trans (ho.grew.turns.trans (List.nil_append ts))
  subst ht
  obtain ⟨more, hp, hw⟩ := ho.applied
  refine ⟨ho.grew.unmerged, hg.trans ho.grew.registry, more, hp, fun made hm => ?_⟩
  obtain ⟨bundle, hb⟩ := hok made hm
  exact hw bundle hb

structure Round.Merges (r : Round W) (m : Merger W) (rest : List (Turn W)) : Prop where
  attempt : m.Attempt r.start.loader r.start.registry (r.merge host).2.turns (r.merge host).1
  merged : (r.merge host).2.registry = r.start.registry.extend m.additions
  turns : r.turns host = (r.merge host).2.turns ++ rest
  cut : (∃ f, (r.merge host).1 = .error f) → rest = []
  unmerged : ∀ t ∈ rest, t.merges = false
  left : (r.built host).builder.registry = (r.merge host).2.registry.extend (rest.flatMap Turn.added)
  applies : ∃ more, r.Applies host ((r.merge host).2.registry.chains .tracerProvider ++ more)

theorem Round.attempt (r : Round W) :
    ∃ m : Merger W, m.Attempt r.start.loader r.start.registry (r.merge host).2.turns (r.merge host).1 ∧
      (r.merge host).2.registry = r.start.registry.extend m.additions := by
  obtain ⟨outcome, m, ts, s, hr, ha, hts, hm⟩ :=
    run_merge host r.start.loader { own := r.own, registry := r.start.registry }
  have hmerge : r.merge host = (outcome, s) := hr
  rw [List.nil_append] at hts
  rw [hmerge, hts]
  exact ⟨m, ha, hm⟩

theorem Round.exists_rest {r : Round W} (h : r.start.pluginsMerged = false) :
    ∃ rest, Orderly (r.merge host).2 rest
        (run (r.start.assemble host) { own := r.own, registry := r.start.registry }) ∧
      ((∃ f, (r.merge host).1 = .error f) → rest = []) := by
  have he : r.start.assemble host = Discovery.merge host r.start.loader >>= fun _ =>
      r.start.snapshot host >>= assembleFrom host r.start.loader := by
    rw [assemble_eq, h]
    rfl
  rw [he]
  rcases run_bind_cases (Discovery.merge host r.start.loader)
    (fun _ => r.start.snapshot host >>= assembleFrom host r.start.loader)
    { own := r.own, registry := r.start.registry } with ⟨f, s, hr, h⟩ | ⟨a, s, hr, h⟩
  · rw [h, Round.merge, hr]
    exact ⟨[], .error (.none rfl rfl) f, fun _ => rfl⟩
  · obtain ⟨rest, ho⟩ := keepsOrder_settled host r.start s
    rw [h, Round.merge, hr]
    refine ⟨rest, ho, ?_⟩
    rintro ⟨f, hf⟩
    cases hf

theorem Round.merges {r : Round W} (h : r.start.pluginsMerged = false) : ∃ m rest, r.Merges host m rest := by
  obtain ⟨ht, hg, -, hok⟩ := build_scene host r.start r.own r.estate
  obtain ⟨m, ha, hm⟩ := r.attempt host
  obtain ⟨rest, ho, hcut⟩ := Round.exists_rest host h
  have ht : r.turns host = (r.merge host).2.turns ++ rest := ht.trans ho.grew.turns
  have hf : (r.turns host).filterMap (Turn.applied? .tracerProvider) =
      rest.filterMap (Turn.applied? .tracerProvider) := by
    rw [ht, List.filterMap_append, ha.applied, List.nil_append]
  obtain ⟨more, hp, hw⟩ := ho.applied
  refine ⟨m, rest, ha, hm, ht, hcut, ho.grew.unmerged, hg.trans ho.grew.registry, more, ?_, fun made hmade => ?_⟩
  · rw [hf]
    exact hp
  · obtain ⟨bundle, hb⟩ := hok made hmade
    rw [hf]
    exact hw bundle hb

end

/-! ## All builds -/

/-- Later builds, each of which merges nothing and starts from the registry that the one before it left,
with what was registered since. -/
inductive Resumed (host : Host W) : Registry W → List (Round W) → Registry W → Prop
  | nil (r : Registry W) : Resumed host r [] r
  | snoc {r r' : Registry W} {rounds : List (Round W)} {round : Round W} :
    Resumed host r rounds r' → round.start.registry = r'.extend round.added →
      (∀ t ∈ round.turns host, t.merges = false) →
      Resumed host r (rounds ++ [round]) (round.start.registry.extend ((round.turns host).flatMap Turn.added))

section
variable {host : Host W} {r r' : Registry W} {rounds : List (Round W)}

theorem Resumed.extends (h : Resumed host r rounds r') : ∃ added, r' = r.extend added := by
  induction h with
  | nil => exact ⟨[], rfl⟩
  | snoc _ hs _ ih =>
    obtain ⟨added, rfl⟩ := ih
    exact ⟨_, by rw [hs, ← Registry.extend_append, ← Registry.extend_append]⟩

theorem Resumed.unmerged (h : Resumed host r rounds r') :
    ∀ t ∈ rounds.flatMap (Round.turns host), t.merges = false := by
  induction h with
  | nil => exact fun t ht => absurd ht List.not_mem_nil
  | snoc _ _ hu ih =>
    intro t ht
    rw [List.flatMap_append, List.flatMap_singleton, List.mem_append] at ht
    rcases ht with ht | ht
    · exact ih t ht
    · exact hu t ht

end

namespace Life
variable {host : Host W}

structure Young (l : Life W) : Prop where
  rounds : l.rounds = []
  registry : l.builder.registry = Registry.extend {} l.recent
  unmerged : l.builder.pluginsMerged = false

/-- A builder that has built: what the first build merged is what the chains gained, and later builds
come after that. -/
structure Merged (host : Host W) (l : Life W) (first : Round W) (later : List (Round W)) (m : Merger W) : Prop where
  rounds : l.rounds = first :: later
  start : first.start.registry = Registry.extend {} first.added
  chains : ∀ k, (first.merge host).2.registry.chains k = customizersOf k first.added ++ m.links k
  suppliers : (first.merge host).2.registry.suppliers = suppliersOf first.added ++ m.suppliers
  resumed : ∃ rest left, first.Merges host m rest ∧
    Resumed host ((first.merge host).2.registry.extend (rest.flatMap Turn.added)) later left ∧
    l.builder.registry = left.extend l.recent
  applies : ∀ round ∈ l.rounds, ∃ more,
    round.Applies host ((first.merge host).2.registry.chains .tracerProvider ++ more)
  merged : l.builder.pluginsMerged = true

theorem Young.change {l : Life W} {b : Builder W} {c : Change W} (h : l.Young) (hb : l.builder.change c = .ok b) :
    Young { l with builder := b, recent := l.recent ++ c.added } where
  rounds := h.rounds
  registry := by rw [(change_ok hb).1, h.registry, Registry.extend_append]
  unmerged := (change_ok hb).2.trans h.unmerged

section
variable {l : Life W} {first : Round W} {later : List (Round W)} {m : Merger W}

theorem Merged.change {b : Builder W} {c : Change W} (h : l.Merged host first later m)
    (hb : l.builder.change c = .ok b) :
    Merged host { l with builder := b, recent := l.recent ++ c.added } first later m where
  rounds := h.rounds
  start := h.start
  chains := h.chains
  suppliers := h.suppliers
  resumed := by
    obtain ⟨rest, left, hm, hr, hg⟩ := h.resumed
    exact ⟨rest, left, hm, hr, by rw [(change_ok hb).1, hg, Registry.extend_append]⟩
  applies := h.applies
  merged := (change_ok hb).2.trans h.merged

theorem Young.build (h : l.Young) (own : W.State) (estate : Estate) :
    ∃ m, (l.step host (.build own estate)).Merged host ⟨l.recent, l.builder, own, estate⟩ [] m := by
  obtain ⟨m, rest, hm⟩ := Round.merges host (r := ⟨l.recent, l.builder, own, estate⟩) h.unmerged
  obtain ⟨-, -, hp, -⟩ := build_scene host l.builder own estate
  refine ⟨m, ?_, h.registry, ?_, ?_, ⟨rest, _, hm, .nil _, hm.left⟩, ?_, hp⟩
  · rw [step, h.rounds]
    rfl
  · intro k
    rw [hm.merged, Registry.chains_extend, h.registry, Registry.chains_extend, m.customizersOf_additions]
    rfl
  · rw [hm.merged, Registry.suppliers_extend, h.registry, Registry.suppliers_extend, m.suppliersOf_additions]
    rfl
  · intro round hr
    rw [step, h.rounds] at hr
    cases List.mem_singleton.mp hr
    exact hm.applies

theorem Merged.build (h : l.Merged host first later m) (own : W.State) (estate : Estate) :
    (l.step host (.build own estate)).Merged host first (later ++ [⟨l.recent, l.builder, own, estate⟩]) m := by
  obtain ⟨rest, left, hm, hr, hg⟩ := h.resumed
  obtain ⟨-, -, hp, -⟩ := build_scene host l.builder own estate
  have ho := Round.resumes host (r := ⟨l.recent, l.builder, own, estate⟩) h.merged
  refine ⟨?_, h.start, h.chains, h.suppliers, ⟨rest, _, hm, .snoc hr hg ho.unmerged, ho.left⟩, ?_, hp⟩
  · rw [step, h.rounds]
    rfl
  · intro round hround
    rcases List.mem_append.mp hround with hround | hround
    · exact h.applies round hround
    · cases List.mem_singleton.mp hround
      -- What the chain has gained since the merge stands behind what the merge left in it.
      obtain ⟨added, rfl⟩ := hr.extends
      obtain ⟨more, ha⟩ := ho.applies
      simp only [hg, ← Registry.extend_append, Registry.chains_extend, List.append_assoc] at ha
      exact ⟨_, ha⟩

theorem Merged.turns (h : l.Merged host first later m) :
    ∃ others, l.turns host = (first.merge host).2.turns ++ others ∧ ∀ t ∈ others, t.merges = false := by
  obtain ⟨rest, left, hm, hr, -⟩ := h.resumed
  refine ⟨rest ++ later.flatMap (Round.turns host), ?_, ?_⟩
  · rw [Life.turns, h.rounds, List.flatMap_cons, hm.turns, List.append_assoc]
  · intro t ht
    rcases List.mem_append.mp ht with ht | ht
    · exact hm.unmerged t ht
    · exact hr.unmerged t ht

theorem Merged.attempt (h : l.Merged host first later m) :
    m.Attempt first.start.loader first.start.registry (first.merge host).2.turns (first.merge host).1 := by
  obtain ⟨rest, left, hm, -⟩ := h.resumed
  exact hm.attempt

theorem Merged.countP_loads (h : l.Merged host first later m) {group : String} (hg : group ∈ Names.merged) :
    (l.turns host).countP (Turn.loads group) ≤ 1 := by
  obtain ⟨others, ht, hu⟩ := h.turns
  rw [ht, List.countP_append, countP_loads_of_not_merges hu hg, Nat.add_zero]
  exact h.attempt.countP_loads

theorem Merged.contributors (h : l.Merged host first later m) :
    (l.turns host).filterMap Turn.contributor? <+: m.providers := by
  obtain ⟨others, ht, hu⟩ := h.turns
  rw [ht, List.filterMap_append, contributors_of_not_merges hu, List.append_nil]
  exact h.attempt.contributors

end

def Coherent (host : Host W) (l : Life W) : Prop := l.Young ∨ ∃ first later m, l.Merged host first later m

theorem Coherent.step {l : Life W} (h : l.Coherent host) (c : Command W) : (l.step host c).Coherent host := by
  cases c with
  | change c =>
    rw [Life.step]
    cases hb : l.builder.change c with
    | error f => exact h
    | ok b =>
      rcases h with h | ⟨first, later, m, h⟩
      · exact .inl (h.change hb)
      · exact .inr ⟨first, later, m, h.change hb⟩
  | build own estate =>
    rcases h with h | ⟨first, later, m, h⟩
    · obtain ⟨m, hm⟩ := h.build own estate
      exact .inr ⟨_, [], m, hm⟩
    · exact .inr ⟨first, _, m, h.build own estate⟩

theorem Coherent.run {l : Life W} (h : l.Coherent host) (commands : List (Command W)) :
    (l.run host commands).Coherent host := by
  induction commands generalizing l with
  | nil => exact h
  | cons c commands ih => exact ih (h.step c)

/-- Whatever is done with a builder, and whatever fails meanwhile, each group of plugins is loaded at most
once and each of the plugins found is asked at most once to register what it likes. From the first build
on the chains hold what was registered before, then what merging brought, and then what was registered
later, and the tracer provider is customized in that order. -/
theorem merges_once (host : Host W) (loader : W.Loader) (commands : List (Command W)) :
    let l := Life.run host { builder := { loader } } commands
    (∀ group ∈ Names.merged, (l.turns host).countP (Turn.loads group) ≤ 1) ∧
      (l.Young ∨ ∃ first later m, l.Merged host first later m ∧
        (l.turns host).filterMap Turn.contributor? <+: m.providers) := by
  intro l
  have hk : l.Coherent host := Coherent.run (.inl ⟨rfl, rfl, rfl⟩) commands
  rcases hk with h | ⟨first, later, m, h⟩
  · refine ⟨fun group _ => ?_, .inl h⟩
    rw [turns, h.rounds]
    exact Nat.zero_le 1
  · exact ⟨fun group hg => h.countP_loads hg, .inr ⟨first, later, m, h, h.contributors⟩⟩

end Life

end Builder

end

end Telemetry
