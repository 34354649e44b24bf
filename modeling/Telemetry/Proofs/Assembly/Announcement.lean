import Telemetry.Proofs.Assembly.Build
import Telemetry.Proofs.Installation

/-! # What a build does process-wide

A build can fail at every step of its assembly, in code of its own or from outside. All of these
steps come before the first thing that is done process-wide, so a build that fails leaves the process
as it was. One that succeeds enrolls its coordinator, and registers that for the exit and installs
its bundle just if it is to do so. -/

namespace Telemetry

open Assembly

section
variable {W : Outside}

/-! ## Steps of an announcement -/

namespace Estate

def freshCoordinator : Coordinator := .ofProviders providerNames defaultShutdownTimeout

theorem armed_freshCoordinator_arm : freshCoordinator.arm.armed = true := by decide

theorem coordinators_enroll (s : Estate) : s.enroll.2.coordinators = s.coordinators ++ [freshCoordinator] := rfl

theorem registerShutdown_enroll (s : Estate) :
    s.enroll.2.registerShutdown s.enroll.1 =
      { s with
        coordinators := s.coordinators ++ [freshCoordinator.arm]
        exits := s.exits ++ [s.coordinators.length] }.log [.hookRegistered freshCoordinator.timeout.toDatum] := by
  have hc : s.enroll.2.coordinators[s.enroll.1]? = some freshCoordinator := by
    rw [coordinators_enroll]
    exact List.getElem?_concat_length
  have hs : s.enroll.2.coordinators.set s.enroll.1 freshCoordinator.arm = s.coordinators ++ [freshCoordinator.arm] := by
    rw [coordinators_enroll]
    exact (List.set_append_right _ _ (Nat.le_refl _)).trans (by rw [Nat.sub_self, List.set_cons_zero])
  rw [registerShutdown, hc]
  simp only [setCoordinator, hs]
  rfl

end Estate

namespace Builder

/-- A bundle is all its parts by itself, and its resource is what an install reports. -/
def parts (resource : Resource) : Parts Owner where
  tracer := id
  meter := id
  logger := id
  propagator := id
  resource _ := resource.attributes

def claims (b : Builder W) (n : Nat) : List (Claiming Owner) :=
  if b.installsGlobally then [.install (.bundle n)] else []

/-- All that has changed in a process when a bundle has been announced. What was logged before that was
logged by the assembly. -/
structure Announces (b : Builder W) (resource : Resource) (n : Nat) (before after : Estate) : Prop where
  number : n = before.coordinators.length
  coordinators : ∃ c : Coordinator, after.coordinators = before.coordinators ++ [c] ∧ c.providers = providerNames ∧
    c.armed = b.registersHook ∧ c.triggered = false
  exits : after.exits = before.exits ++ if b.registersHook then [n] else []
  globals : after.globals = (before.globals.run (parts resource) [] (b.claims n)).1
  journal : ∃ logged, after.journal = before.journal ++ logged ++
    (if b.registersHook then [.hookRegistered defaultShutdownTimeout.toDatum] else []) ++
    (before.globals.run (parts resource) [] (b.claims n)).2 ++
    [.assembled ((resource.get? Names.serviceNameAttribute).getD .null)]

theorem announce_installs (b : Builder W) (resource : Resource) (n : Nat) (s : Estate) :
    (if b.installsGlobally then (s.install n resource.attributes).2 else s) =
      { s with globals := (s.globals.run (parts resource) [] (b.claims n)).1 }.log
        (s.globals.run (parts resource) [] (b.claims n)).2 := by
  unfold claims
  cases b.installsGlobally with
  | true => rfl
  | false => exact congrArg (Estate.mk _ _ _) (List.append_nil _).symm

theorem announce_announces (b : Builder W) (resource : Resource) (s : Estate) (logged : List Event) :
    b.Announces resource (b.announce resource (s.log logged)).1 s (b.announce resource (s.log logged)).2 := by
  unfold announce
  cases hh : b.registersHook with
  | true =>
    simp only [if_true, Estate.registerShutdown_enroll, announce_installs]
    refine ⟨rfl, ⟨Estate.freshCoordinator.arm, rfl, rfl, ?_, rfl⟩, ?_, rfl, logged, ?_⟩
    · exact hh ▸ Estate.armed_freshCoordinator_arm
    · rw [hh]
      rfl
    · rw [hh]
      rfl
  | false =>
    simp only [Bool.false_eq_true, if_false, announce_installs]
    refine ⟨rfl, ⟨Estate.freshCoordinator, rfl, rfl, hh.symm, rfl⟩, ?_, rfl, logged, ?_⟩
    · simp only [hh, Bool.false_eq_true, if_false, List.append_nil]
      rfl
    · simp only [hh, Bool.false_eq_true, if_false, List.append_nil]
      rfl

/-! ## All of a build -/

section
variable (host : Host W)

theorem build_cases (b : Builder W) (own : W.State) (estate : Estate) :
    (∃ f s, run (b.assemble host) { own, registry := b.registry } = (.error f, s) ∧
      b.build host own estate =
        ⟨.error f, { b with registry := s.registry, pluginsMerged := true }, s.own, estate.log s.journal, s.turns⟩) ∨
    ∃ bundle s, run (b.assemble host) { own, registry := b.registry } = (.ok bundle, s) ∧
      b.build host own estate =
        ⟨.ok ((b.announce bundle.resource (estate.log s.journal)).1, bundle),
          { b with registry := s.registry, pluginsMerged := true }, s.own,
          (b.announce bundle.resource (estate.log s.journal)).2, s.turns⟩ := by
  cases hr : run (b.assemble host) { own, registry := b.registry } with
  | mk r s =>
    cases r with
    | error f =>
      refine .inl ⟨f, s, rfl, ?_⟩
      rw [build, hr]
    | ok bundle =>
      refine .inr ⟨bundle, s, rfl, ?_⟩
      rw [build, hr]

/-- A build that fails does so at its last step, the only one that has raised, and by then nothing has
been done process-wide. A build that succeeds had no step that raised; its bundle has a coordinator of
its own, which is armed and called at exit just if the builder registers it, once, and an install is
attempted just if the builder installs globally, once. -/
theorem build_announces_last (b : Builder W) (own : W.State) (estate : Estate) :
    let built := b.build host own estate
    match built.outcome with
    | .error f =>
      (∃ before t, built.turns = before ++ [t] ∧ t.fault? = some f ∧ ∀ u ∈ before, u.fault? = none) ∧
        built.estate.exits = estate.exits ∧ built.estate.coordinators = estate.coordinators ∧
        built.estate.globals = estate.globals
    | .ok (n, bundle) =>
      (∀ t ∈ built.turns, t.fault? = none) ∧ b.Announces bundle.resource n estate built.estate := by
  intro built
  have hc := tracks_assemble host b (s := { own, registry := b.registry }) rfl
  rcases build_cases host b own estate with ⟨f, s, hr, hb⟩ | ⟨bundle, s, hr, hb⟩
  · rw [show built = _ from hb]
    cases hc with
    | ok hr' hl hf hq => exact absurd (hr.symm.trans hr') nofun
    | error hr' hl hf =>
      cases hr.symm.trans hr'
      have ht := hl.turns
      rw [List.nil_append] at ht
      exact ⟨ht ▸ hf.raised, rfl, rfl, rfl⟩
  · rw [show built = _ from hb]
    cases hc with
    | error hr' hl hf => exact absurd (hr.symm.trans hr') nofun
    | ok hr' hl hf hq =>
      cases hr.symm.trans hr'
      have ht := hl.turns
      rw [List.nil_append] at ht
      exact ⟨ht ▸ hf.unraised, announce_announces b bundle.resource estate s.journal⟩

end

end Builder

end

end Telemetry
