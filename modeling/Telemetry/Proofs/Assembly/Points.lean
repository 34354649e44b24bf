import Telemetry.Proofs.Assembly.Announcement
import Telemetry.Proofs.Assembly.Clearing
import Telemetry.Proofs.Assembly.Life

/-! # When a registration takes effect

Customizers register further customizers while an assembly runs. A build applies what was registered
before the point at which a kind is looked up, and nothing that was registered behind it. What came too
late is there for the next build, in its place. -/

namespace Telemetry

open Assembly

section
variable {W : Outside}

/-! ## Merging -/

section
variable {loader : W.Loader} {m : Merger W} {plugins : List W.Plugin} {ts : List (Turn W)} {r : Except Fault Unit}

theorem Contributes.idle (h : Contributes registry plugins ts r) : ∀ t ∈ ts, t.application? = none ∧ t.opens? = none := by
  induction h with
  | done => exact fun t ht => absurd ht List.not_mem_nil
  | next _ ih => exact List.forall_mem_cons.mpr ⟨⟨rfl, rfl⟩, ih⟩
  | stop => exact List.forall_mem_singleton.mpr ⟨rfl, rfl⟩

theorem Contributes.registrations (h : Contributes registry plugins ts r) : registrations ts = ts.flatMap Turn.added :=
  List.flatMap_congr fun t ht => Turn.registered_of_not_loads
    (Bool.eq_false_iff.mpr (List.countP_eq_zero.mp h.countP_loads t ht))

theorem Merger.Attempt.idle (h : m.Attempt loader registry ts r) : ∀ t ∈ ts, t.application? = none ∧ t.opens? = none := by
  cases h with
  | unloaded => exact List.forall_mem_singleton.mpr ⟨rfl, rfl⟩
  | halfLoaded => exact List.forall_mem_cons.mpr ⟨⟨rfl, rfl⟩, List.forall_mem_singleton.mpr ⟨rfl, rfl⟩⟩
  | loaded hc => exact List.forall_mem_cons.mpr ⟨⟨rfl, rfl⟩, List.forall_mem_cons.mpr ⟨⟨rfl, rfl⟩, hc.idle⟩⟩

theorem registrations_both {configurers : List W.Plugin} {providers : Except Fault (List W.Plugin)}
    {early late : List (Addition W)} :
    registrations (.asked (.load loader Names.tracerProviderConfigurers) () (.ok configurers) early ::
      .asked (.load loader Names.customizerProviders) () providers late :: ts) =
        early ++ Merger.wrapped configurers ++ late ++ registrations ts := by
  have hne : (Names.customizerProviders == Names.tracerProviderConfigurers) = false := by decide
  simp [Telemetry.registrations, Turn.registered, Turn.added, Turn.loads, Turn.found, hne]

theorem Merger.Attempt.registrations (h : m.Attempt loader registry ts r) : registrations ts = m.additions := by
  cases h with
  | unloaded =>
    simp [Telemetry.registrations, additions, Turn.registered, Turn.added, Turn.found, wrapped]
  | halfLoaded => exact registrations_both
  | loaded hc => rw [registrations_both, hc.registrations, additions]

end

/-! ## Builds -/

namespace Builder

section
variable (host : Host W)

theorem clears_settled (b : Builder W) (s : Scene W) :
    ∃ p, Clears p (b.snapshot host >>= assembleFrom host b.loader) s .initial
      (Leaving .finished fun bundle => bundle.properties = p) := by
  cases h : run (b.snapshot host) s with
  | mk r s' =>
    cases r with
    | error f =>
      refine ⟨⟨.empty⟩, (clears_snapshot host _ b s .initial).ends.bind fun p a s₁ hx => ?_⟩
      cases h.symm.trans hx.2
    | ok p =>
      refine ⟨p, (clears_snapshot host p b s .initial).ends.bind fun p' a s₁ hx => ?_⟩
      obtain ⟨⟨rfl, -⟩, hx⟩ := hx
      cases h.symm.trans hx
      exact clears_assembleFrom host b.loader p _

/-- All turns of an assembly keep to the agenda, and it ends with what they registered. -/
def Accounts (r : Registry W) (x : Except Fault (Bundle W) × Scene W) : Prop :=
  ∃ p left, Keeps p r .initial x.2.turns left ∧ x.2.registry = r.extend (registrations x.2.turns) ∧
    ∀ bundle, x.1 = .ok bundle → left = .finished ∧ bundle.properties = p

theorem accounts_settled (b : Builder W) {r : Registry W} {s : Scene W}
    (hi : ∀ t ∈ s.turns, t.application? = none ∧ t.opens? = none) (hs : s.registry = r.extend (registrations s.turns)) :
    Accounts r (run (b.snapshot host >>= assembleFrom host b.loader) s) := by
  obtain ⟨p, ts, left, hg, hk, hq⟩ := clears_settled host b s
  have ha : registrations ts = ts.flatMap Turn.added := registrations_of_not_merges hg.unmerged
  rw [hs] at hk
  refine ⟨p, left, ?_, ?_, hq⟩
  · rw [hg.turns]
    exact (Keeps.idle p r .initial hi).append hk
  · rw [hg.registry, hg.turns, hs, ← ha, ← Registry.extend_append]
    exact congrArg r.extend List.flatMap_append.symm

theorem accounts_assemble (b : Builder W) (own : W.State) :
    Accounts b.registry (run (b.assemble host) { own, registry := b.registry }) := by
  rw [assemble_eq]
  cases b.pluginsMerged with
  | true => exact accounts_settled host b (fun t ht => absurd ht List.not_mem_nil) rfl
  | false =>
    simp only [Bool.false_eq_true, if_false]
    obtain ⟨r, m, ts, s, hr, ha, ht, hs⟩ := run_merge host b.loader { own, registry := b.registry }
    rw [List.nil_append] at ht
    rw [← ha.registrations, ← ht] at hs
    cases r with
    | error f =>
      rw [run_bind_error hr]
      exact ⟨⟨.empty⟩, .initial, .idle _ _ _ (ht ▸ ha.idle), hs, nofun⟩
    | ok _ =>
      rw [run_bind_ok hr]
      exact accounts_settled host b (ht ▸ ha.idle) hs

end

/-! ## The life of a builder -/

theorem ok_of_outcome {host : Host W} {b : Builder W} {own : W.State} {estate : Estate} {n : Nat} {bundle : Bundle W}
    (h : (b.build host own estate).outcome = .ok (n, bundle)) :
    (run (b.assemble host) { own, registry := b.registry }).1 = .ok bundle := by
  rcases b.build_cases host own estate with ⟨f, s, hr, hb⟩ | ⟨bundle, s, hr, hb⟩
  · rw [hb] at h
    cases h
  · rw [hb] at h
    cases h
    rw [hr]

namespace Round
variable (host : Host W) (round : Round W)

def registered : List (Addition W) := round.added ++ registrations (round.turns host)

/-- A chain at the point where the build looks it up: what was registered when the build began, and what
was registered since. -/
def chain (k : Kind) : List (Link W) :=
  round.start.registry.chains k ++ customizersOf k (registrations (before k.stage (round.turns host)))

/-- What a build has applied when it ends, and when it comes to each of the four points. -/
structure Resolves (p : Properties) : Prop where
  applied : applications (round.turns host) <+: Stage.all.flatMap (Stage.uses p (round.chain host))
  points : ∀ σ, Reaches σ (round.turns host) →
    applications (before σ (round.turns host)) = σ.earlier.flatMap (Stage.uses p (round.chain host))
  complete : ∀ n bundle, (round.built host).outcome = .ok (n, bundle) → bundle.properties = p ∧
    (∀ σ, Reaches σ (round.turns host)) ∧
    applications (round.turns host) = Stage.all.flatMap (Stage.uses p (round.chain host))

theorem uses_atPoint (p : Properties) (σ : Stage) :
    σ.uses p (round.start.registry.atPoint (round.turns host) σ).chains = σ.uses p (round.chain host) := by
  refine Stage.uses_congr fun k hk => ?_
  subst hk
  exact Registry.chains_extend ..

theorem applied_of_keeps {p : Properties} {left : Agenda W}
    (h : Keeps p round.start.registry .initial (round.turns host) left) :
    Stage.all.flatMap (Stage.uses p (round.chain host)) =
      applications (round.turns host) ++ (left.due ++ left.ahead.flatMap (Stage.uses p (round.chain host))) := by
  have hc := h.conserves Stage.nodup_all
  simp only [uses_atPoint] at hc
  exact hc

theorem resolves : (∃ p, round.Resolves host p) ∧
    (round.built host).builder.registry = round.start.registry.extend (registrations (round.turns host)) := by
  obtain ⟨p, left, hk, hr, hq⟩ := accounts_assemble host round.start round.own
  obtain ⟨ht, hg, -, -⟩ := build_scene host round.start round.own round.estate
  rw [← ht] at hk hr
  rw [← hg] at hr
  have ha := round.applied_of_keeps host hk
  refine ⟨⟨p, ⟨_, ha.symm⟩, fun σ hσ => ?_, fun n bundle ho => ?_⟩, hr⟩
  · refine (hk.applications_before hσ).trans (List.flatMap_congr fun τ _ => round.uses_atPoint host p τ)
  · obtain ⟨rfl, hp⟩ : left = .finished ∧ bundle.properties = p := hq bundle (ok_of_outcome ho)
    refine ⟨hp, fun σ => hk.reaches (Stage.mem_all σ) List.not_mem_nil, ?_⟩
    rw [ha]
    exact (List.append_nil _).symm

end Round

namespace Life
variable {host : Host W}

def registered (host : Host W) (l : Life W) : List (Addition W) := l.rounds.flatMap (Round.registered host) ++ l.recent

/-- Each build starts with everything that was registered before it, also by builds that failed, in the
order of registration, and uses what was registered before its points. -/
inductive Remembers (host : Host W) (r : Registry W) : List (Round W) → Prop
  | nil : Remembers host r []
  | snoc {rounds : List (Round W)} {round : Round W} {p : Properties} :
    Remembers host r rounds →
      round.start.registry = r.extend (rounds.flatMap (Round.registered host) ++ round.added) →
      round.Resolves host p → Remembers host r (rounds ++ [round])

structure Accounted (host : Host W) (r : Registry W) (l : Life W) : Prop where
  registry : l.builder.registry = r.extend (l.registered host)
  rounds : Remembers host r l.rounds

theorem Accounted.step {r : Registry W} {l : Life W} (h : l.Accounted host r) (c : Command W) :
    (l.step host c).Accounted host r := by
  cases c with
  | change c =>
    rw [Life.step]
    cases hb : l.builder.change c with
    | error f => exact h
    | ok b =>
      refine ⟨?_, h.rounds⟩
      rw [(change_ok hb).1, h.registry, ← Registry.extend_append]
      exact congrArg r.extend (List.append_assoc ..)
  | build own estate =>
    obtain ⟨⟨p, hp⟩, hr⟩ := Round.resolves host ⟨l.recent, l.builder, own, estate⟩
    refine ⟨?_, h.rounds.snoc h.registry hp⟩
    have hs : (l.step host (.build own estate)).registered host =
        l.registered host ++ registrations (Round.turns host ⟨l.recent, l.builder, own, estate⟩) := by
      simp [Life.step, registered, Round.registered]
    rw [hs, Registry.extend_append, ← h.registry]
    exact hr

theorem Accounted.run {r : Registry W} {l : Life W} (h : l.Accounted host r) (commands : List (Command W)) :
    (l.run host commands).Accounted host r := by
  induction commands generalizing l with
  | nil => exact h
  | cons c commands ih => exact ih (h.step c)

/-- Whatever is done with a builder, and whatever customizers register while they run, every build looks
up its chains at the four points, each behind all that the stages before have applied, and applies just
what was registered by then. The registry keeps everything that was ever registered, in order, and each
later build starts with it. -/
theorem registered_at_points (host : Host W) (b : Builder W) (commands : List (Command W)) :
    let l := Life.run host { builder := b } commands
    l.builder.registry = b.registry.extend (l.registered host) ∧ Remembers host b.registry l.rounds := by
  intro l
  have h : l.Accounted host b.registry := Accounted.run ⟨rfl, .nil⟩ commands
  exact ⟨h.registry, h.rounds⟩

end Life

end Builder

end

end Telemetry
