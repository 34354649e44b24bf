import Telemetry.Proofs.Assembly.Announcement
import Telemetry.Proofs.Assembly.Life
import Telemetry.Proofs.Assembly.Mirror

/-! # Building again

A builder builds for a second time. It starts from the registry that the first build left, in an outside that
the first build left. If outside code answers what it was asked the same in every state and registers nothing
when it does, nothing of the first build shows in the second, wherever the first has ended. -/

namespace Telemetry

open Assembly

section
variable {W : Outside}

/-! ## Steady answers -/

def Host.Steady (host : Host W) (r : Request W) (input : r.Input) : Prop :=
  ∃ answer : Except Fault r.Answer, ∀ own, ∃ v : Visit W, (host.answer r input).run { own } = (answer, v) ∧ v.added = []

def Turn.Steady (host : Host W) : Turn W → Prop
  | .asked r input _ _ => host.Steady r input
  | .checked _ _ => True

theorem Turn.steady_of_host {host : Host W} (h : ∀ r input, r.merges = false → host.Steady r input) {t : Turn W}
    (ht : t.merges = false) : t.Steady host := by
  cases t with
  | checked c fault => exact trivial
  | asked r input answer added => exact h r input ht

/-- Turns show as they are if they are steady, from scenes that have one registry. -/
def Mirror.again (host : Host W) (r : Registry W) : Mirror W where
  turn t := t
  clear t := t.Steady host
  alike s s' := s.registry = r ∧ s'.registry = r
  checked _ _ := rfl
  chains h := by rw [h.1, h.2]
  said _ h := h
  taken _ _ h := h

section
variable (host : Host W) (r : Registry W)

theorem mirrors_ask (request : Request W) (input : request.Input) :
    (Mirror.again host r).Mirrors (ask host request input) (ask host request input) := by
  intro s
  obtain ⟨answer, v, hv, hr⟩ := run_ask host request input s
  rw [hr]
  refine ⟨_, rfl, fun hc s' hs => ?_⟩
  obtain ⟨fixed, hf⟩ : host.Steady request input := hc _ (List.mem_singleton_self _)
  obtain ⟨w, hw, hadded⟩ := hf s.own
  obtain ⟨w', hw', hadded'⟩ := hf s'.own
  obtain ⟨answer', v', hv', hr'⟩ := run_ask host request input s'
  cases hv.symm.trans hw
  cases hv'.symm.trans hw'
  rw [hr']
  refine ⟨rfl, ?_, ?_, ?_⟩
  · rw [hadded, hadded']
    rfl
  · exact (congrArg s.registry.extend hadded).trans hs.1
  · exact (congrArg s'.registry.extend hadded').trans hs.2

theorem reflects_again (p : Properties) : (Mirror.again host r).Reflects host host p p where
  load loader group := mirrors_ask host r (.load loader group) ()
  apply k link value := mirrors_ask host r (.apply k link p) value
  createExporter plugin := mirrors_ask host r (.createExporter plugin p) ()
  createPropagator plugin := mirrors_ask host r (.createPropagator plugin p) ()

theorem mirrors_supplied : (Mirror.again host r).Mirrors (Builder.supplied host) (Builder.supplied host) := by
  intro s
  have hm : (Mirror.again host r).Mirrors (Builder.consult host s.registry.suppliers)
      (Builder.consult host s.registry.suppliers) :=
    .bind (.mapM (fun supplier => mirrors_ask host r (.supply supplier) ()) _) fun _ => .pure _
  obtain ⟨ts, ht, hs⟩ := hm s
  refine ⟨ts, ht, fun hc s' ha => ?_⟩
  -- Both runs find the same suppliers registered.
  have hr : s'.registry = s.registry := ha.2.trans ha.1.symm
  rw [Builder.run_supplied, Builder.run_supplied, hr]
  exact hs hc s' ha

theorem mirrors_snapshot (b : Builder W) : (Mirror.again host r).Mirrors (b.snapshot host) (b.snapshot host) := by
  unfold Builder.snapshot
  cases b.properties with
  | some p => exact .pure p
  | none => exact (mirrors_supplied host r).bind fun _ => (mirrors_ask host r .environment ()).bind fun _ => .pure _

theorem mirrors_settled (b : Builder W) :
    (Mirror.again host r).Mirrors (b.snapshot host >>= Builder.assembleFrom host b.loader)
      (b.snapshot host >>= Builder.assembleFrom host b.loader) :=
  (mirrors_snapshot host r b).bind fun p => (twins_self host b.loader p).mirrors (reflects_again host r p)

end

namespace Builder

/-! ## Two builds -/

theorem outcome_build (host : Host W) (b : Builder W) (own : W.State) (estate : Estate) :
    (b.build host own estate).outcome.map Prod.snd = (run (b.assemble host) { own, registry := b.registry }).1 := by
  rcases b.build_cases host own estate with ⟨f, s, hr, hb⟩ | ⟨bundle, s, hr, hb⟩
  · rw [hb, hr]
    rfl
  · rw [hb, hr]
    rfl

theorem builder_build (host : Host W) (b : Builder W) (own : W.State) (estate : Estate) :
    (b.build host own estate).builder = { b with
      registry := (run (b.assemble host) { own, registry := b.registry }).2.registry, pluginsMerged := true } := by
  rcases b.build_cases host own estate with ⟨f, s, hr, hb⟩ | ⟨bundle, s, hr, hb⟩
  · rw [hb, hr]
  · rw [hb, hr]

structure Built.Repeats (built again : Built W) : Prop where
  outcome : again.outcome.map Prod.snd = built.outcome.map Prod.snd
  turns : again.turns = built.turns.filter fun t => !t.merges
  builder : again.builder = built.builder

theorem unmerged_append {ts us : List (Turn W)} (ht : ∀ t ∈ ts, t.merges = true) (hu : ∀ t ∈ us, t.merges = false) :
    (ts ++ us).filter (fun t => !t.merges) = us := by
  have hts : ts.filter (fun t => !t.merges) = [] := by
    rw [List.filter_eq_nil_iff]
    intro t h
    simp [ht t h]
  have hus : us.filter (fun t => !t.merges) = us := by
    rw [List.filter_eq_self]
    intro t h
    simp [hu t h]
  rw [List.filter_append, hts, hus, List.nil_append]

theorem run_assemble_merged {host : Host W} {b : Builder W} {s : Scene W}
    (hm : b.pluginsMerged = false → (run (Discovery.merge host b.loader) s).1 = .ok ()) :
    ∃ ts s₁, s₁.turns = s.turns ++ ts ∧ (∀ t ∈ ts, t.merges = true) ∧
      run (b.assemble host) s = run (b.snapshot host >>= assembleFrom host b.loader) s₁ := by
  obtain ⟨r, ts, s₁, hr, ht, hts, -⟩ := run_merging host b s
  have hok : r = .ok () := by
    cases hb : b.pluginsMerged with
    | true =>
      rw [hb] at hr
      cases hr
      rfl
    | false =>
      rw [hb] at hr
      have h := hm hb
      rw [show run (Discovery.merge host b.loader) s = (r, s₁) from hr] at h
      exact h
  subst hok
  refine ⟨ts, s₁, ht, hts, ?_⟩
  rw [assemble_eq, run_bind_ok hr]

theorem repeats_of_steady {host : Host W} {b : Builder W} {own : W.State} {estate : Estate}
    (hm : b.pluginsMerged = false →
      (run (Discovery.merge host b.loader) { own, registry := b.registry }).1 = .ok ())
    (hs : ∀ t ∈ (b.build host own estate).turns, t.merges = false → t.Steady host) (own' : W.State)
    (estate' : Estate) :
    (b.build host own estate).Repeats ((b.build host own estate).builder.build host own' estate') := by
  obtain ⟨ts, s, ht, hts, hrun⟩ := run_assemble_merged hm
  obtain ⟨us, hus, hmirror⟩ := mirrors_settled host s.registry b s
  obtain ⟨us', ho⟩ := keepsOrder_settled host b s
  obtain rfl : us = us' := List.append_cancel_left (hus.symm.trans ho.grew.turns)
  have ht : s.turns = ts := ht.trans (List.nil_append ts)
  have hturns : (b.build host own estate).turns = ts ++ us := by
    rw [(build_scene host b own estate).1, hrun, hus, ht]
  have hc : ∀ t ∈ us, t.Steady host := by
    intro t h
    exact hs t (hturns ▸ List.mem_append_right _ h) (ho.grew.unmerged t h)
  -- The first build shows in itself, so nothing was registered in it behind the merge.
  have hleft := (hmirror hc s ⟨rfl, rfl⟩).alike.2
  have hb : (b.build host own estate).builder = { b with registry := s.registry, pluginsMerged := true } := by
    rw [builder_build, hrun, hleft]
  have hagain := hmirror hc { own := own', registry := s.registry } ⟨rfl, rfl⟩
  have hrun' : run ((b.build host own estate).builder.assemble host) { own := own', registry := s.registry } =
      run (b.snapshot host >>= assembleFrom host b.loader) { own := own', registry := s.registry } := by
    rw [hb, assemble_eq]
    rfl
  have hregistry : (b.build host own estate).builder.registry = s.registry := by rw [hb]
  refine ⟨?_, ?_, ?_⟩
  · rw [outcome_build, outcome_build, hrun, hregistry, hrun']
    exact hagain.outcome
  · rw [(build_scene host _ own' estate').1, hregistry, hrun', hagain.turns, hturns,
      unmerged_append hts ho.grew.unmerged]
    exact List.map_id us
  · rw [builder_build, hregistry, hrun', hagain.alike.2, hb]

/-! ## All later builds -/

namespace Life

theorem run_builds (host : Host W) {b : Builder W} (hb : ∀ own estate, (b.build host own estate).builder = b)
    (rounds : List (Round W)) : ∀ later : List (W.State × Estate),
    run host { builder := b, rounds } (later.map fun x => .build x.1 x.2) =
      { builder := b, rounds := rounds ++ later.map fun x => ⟨[], b, x.1, x.2⟩ }
  | [] => by
    rw [List.map_nil, List.map_nil, List.append_nil]
    rfl
  | (own, estate) :: later => by
    have hstep : step host { builder := b, rounds } (.build own estate) =
        { builder := b, rounds := rounds ++ [⟨[], b, own, estate⟩] } := by
      have h : (Round.built host ⟨[], b, own, estate⟩).builder = b := hb own estate
      rw [step, h]
    have hrun : run host { builder := b, rounds } (.build own estate :: later.map fun x => .build x.1 x.2) =
        run host (step host { builder := b, rounds } (.build own estate)) (later.map fun x => .build x.1 x.2) := rfl
    rw [List.map_cons, hrun, hstep, run_builds host hb, List.map_cons, List.append_assoc, List.singleton_append]

/-- Suppose that merging plugins does not fail in a builder's first build, and that everything else it asks of
outside code has a steady answer. Then every later build starts from the builder that the first one left,
takes the same turns except for the merging, comes to the same bundle or fault, and leaves that builder
again, in whatever states it finds the outside and the process. -/
theorem repeats_first (host : Host W) (b : Builder W) (own : W.State) (estate : Estate)
    (hm : b.pluginsMerged = false → ((⟨[], b, own, estate⟩ : Round W).merge host).1 = .ok ())
    (hs : ∀ t ∈ (b.build host own estate).turns, t.merges = false → t.Steady host)
    (later : List (W.State × Estate)) :
    let first : Round W := ⟨[], b, own, estate⟩
    let left := (first.built host).builder
    let rounds : List (Round W) := later.map fun x => ⟨[], left, x.1, x.2⟩
    Life.run host { builder := b } (.build own estate :: later.map fun x => .build x.1 x.2) =
        { builder := left, rounds := first :: rounds } ∧
      ∀ round ∈ rounds, (first.built host).Repeats (round.built host) := by
  intro first left rounds
  have hr : ∀ own' estate', (first.built host).Repeats (left.build host own' estate') :=
    fun own' estate' => repeats_of_steady hm hs own' estate'
  refine ⟨?_, ?_⟩
  · have hrun : Life.run host { builder := b } (.build own estate :: later.map fun x => .build x.1 x.2) =
        Life.run host { builder := left, rounds := [first] } (later.map fun x => .build x.1 x.2) := rfl
    rw [hrun, run_builds host (fun own' estate' => (hr own' estate').builder) [first] later]
    rfl
  · intro round h
    obtain ⟨x, -, rfl⟩ := List.mem_map.mp h
    exact hr x.1 x.2

end Life

end Builder

end

/-! ## A loader that counts -/

def Outside.tallied : Outside where
  Customizer := Unit
  Supplier := Unit
  Plugin := Unit
  Loader := Unit
  Exporter := Empty
  IdGenerator := Empty
  Thing := Empty
  State := Nat

def Host.tallied : Host .tallied where
  customize _ _ value _ := pure value
  supply _ := pure .empty
  environment := pure .empty
  load _ group := do
    modify fun v => { v with own := Nat.succ v.own }
    return if group = Names.customizerProviders then [()] else []
  typeName _ := "Plugin"
  nameOf _ := .ok "plugin"
  contribute _ _ := modify fun v => { v with added := [.customizer .resource (.customizer ()), .supplier ()] }
  configure _ value _ := pure value
  createExporter _ _ := pure (.console .traces)
  createPropagator _ _ := pure .baggage
  channel _ := .improper "Empty"
  metricChannel _ := .improper "Empty"
  traceId _ := pure 0

theorem Host.steady_tallied (r : Request .tallied) (input : r.Input) (h : r.merges = false) :
    Host.tallied.Steady r input := by
  cases r with
  | load loader group => exact ⟨_, fun own => ⟨_, rfl, rfl⟩⟩
  | contribute plugin => cases h
  | supply supplier => exact ⟨_, fun own => ⟨_, rfl, rfl⟩⟩
  | environment => exact ⟨_, fun own => ⟨_, rfl, rfl⟩⟩
  | apply k link p =>
    refine ⟨.ok input, fun own => ⟨{ own }, ?_, rfl⟩⟩
    cases link <;> cases k <;> rfl
  | createExporter plugin p => exact ⟨_, fun own => ⟨_, rfl, rfl⟩⟩
  | createPropagator plugin p => exact ⟨_, fun own => ⟨_, rfl, rfl⟩⟩

namespace Builder

def ofPlugin : Builder .tallied := { loader := () }

theorem ofPlugin_builds : (ofPlugin.build Host.tallied (0 : Nat) {}).outcome.isOk = true := by
  decide +kernel

theorem ofPlugin_merges : (Round.merge Host.tallied ⟨[], ofPlugin, (0 : Nat), {}⟩).1 = .ok () := by
  rfl

namespace Life

theorem repeats_first_ofPlugin :
    (Round.merge Host.tallied ⟨[], ofPlugin, (0 : Nat), {}⟩).1 = .ok () ∧
      (ofPlugin.build Host.tallied (0 : Nat) {}).outcome.isOk = true ∧
      (Round.built Host.tallied ⟨[], ofPlugin, (0 : Nat), {}⟩).Repeats
        (Round.built Host.tallied ⟨[], (ofPlugin.build Host.tallied (0 : Nat) {}).builder, (7 : Nat), {}⟩) := by
  refine ⟨ofPlugin_merges, ofPlugin_builds, ?_⟩
  have h := repeats_first Host.tallied ofPlugin (0 : Nat) {} (fun _ => ofPlugin_merges)
    (fun t _ ht => Turn.steady_of_host Host.steady_tallied ht) [((7 : Nat), {})]
  have hr := h.2 ⟨[], (ofPlugin.build Host.tallied (0 : Nat) {}).builder, (7 : Nat), {}⟩ (List.mem_singleton_self _)
  exact hr

end Life

end Builder

end Telemetry
