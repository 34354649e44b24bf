import Telemetry.Proofs.Assembly.Stages

/-! # Builds take their course

The stages make up an assembly, and an assembly a build. -/

namespace Telemetry

open Assembly

section
variable {W : Outside} (host : Host W)

theorem tracks_assembleFrom (loader : W.Loader) (p : Properties) (s : Scene W) :
    Tracks host (Builder.assembleFrom host loader p) s (Builder.assembling host p loader s.registry)
      fun _ => True := by
  unfold Builder.assembleFrom Builder.assembling
  refine Tracks.resolve (Tracks.bind (walks_configureResource host p _ s) fun resource s₁ _ => ?_)
  refine Tracks.bind (tracks_configureMeter host loader resource p s₁) fun meter s₂ _ => ?_
  refine Tracks.resolve (Tracks.resolve ?_)
  refine Tracks.bind (tracks_configureTracer host loader p _ s₂) fun settings s₃ _ => ?_
  refine Tracks.resolve (Tracks.bind (walks_runChain host .tracerProvider p _ _ s₃) fun customized s₄ _ => ?_)
  refine Tracks.bind (Walks.check _ _) fun tracer s₅ _ => ?_
  refine Tracks.bind (tracks_configureLogger host loader resource p s₅) fun logger s₆ _ => ?_
  exact Tracks.resolve ((tracks_configurePropagators host _ p loader s₆).map fun _ _ => trivial)

theorem Builder.assemble_eq (b : Builder W) :
    b.assemble host = (unless b.pluginsMerged do Discovery.merge host b.loader) >>= fun _ =>
      b.snapshot host >>= Builder.assembleFrom host b.loader := by
  unfold Builder.assemble
  cases b.pluginsMerged with
  | true => rfl
  | false => rfl

theorem tracks_assemble (b : Builder W) {s : Scene W} (hs : s.registry = b.registry) :
    Tracks host (b.assemble host) s (b.course host) fun _ => True := by
  rw [Builder.assemble_eq, Builder.course]
  refine Tracks.bind (tracks_merge host b hs) fun _ s₁ _ => ?_
  refine Carries.bind (carries_snapshot host b s₁) fun p settled s₂ hq => ?_
  obtain ⟨p, r⟩ := settled
  obtain ⟨rfl, rfl⟩ := hq
  exact tracks_assembleFrom host b.loader p s₂

section
variable {host} {b : Builder W} {own : W.State} {s : Scene W} (estate : Estate)

theorem Builder.build_ok {bundle : Bundle W}
    (h : (b.assemble host).run { own, registry := b.registry } = (.ok bundle, s)) :
    ∃ n estate', b.build host own estate =
      ⟨.ok (n, bundle), { b with registry := s.registry, pluginsMerged := true }, s.own, estate', s.turns⟩ := by
  rw [Builder.build, h]
  exact ⟨_, _, rfl⟩

theorem Builder.build_error {f : Fault}
    (h : (b.assemble host).run { own, registry := b.registry } = (.error f, s)) :
    ∃ estate', b.build host own estate =
      ⟨.error f, { b with registry := s.registry, pluginsMerged := true }, s.own, estate', s.turns⟩ := by
  rw [Builder.build, h]
  exact ⟨_, rfl⟩

end

/-- A build asks what its course says, in that order and up to the first step that raises, and ends
with the fault of that step. What was answered is what outside code answers from one state to the
next. The course of a build that succeeds ends at the registry that the builder keeps. In the course
of its next build no plugins are merged. -/
theorem Builder.build_follows_course (b : Builder W) (own : W.State) (estate : Estate) :
    let built := b.build host own estate
    (b.course host).Follows built.turns (built.outcome.map fun _ => built.builder.registry) ∧
      Conversed host own built.turns built.own ∧ built.builder.merging = .done built.builder.registry := by
  intro built
  cases tracks_assemble host b (s := { own, registry := b.registry }) rfl with
  | ok hr hl hf hq =>
    obtain ⟨n, estate', hb⟩ := Builder.build_ok estate hr
    rw [show built = _ from hb]
    obtain ⟨rfl, -⟩ := hq
    have ht := hl.turns
    rw [List.nil_append] at ht
    subst ht
    exact ⟨hf, hl.own, rfl⟩
  | error hr hl hf =>
    obtain ⟨estate', hb⟩ := Builder.build_error estate hr
    rw [show built = _ from hb]
    have ht := hl.turns
    rw [List.nil_append] at ht
    subst ht
    exact ⟨hf, hl.own, rfl⟩

end

end Telemetry
