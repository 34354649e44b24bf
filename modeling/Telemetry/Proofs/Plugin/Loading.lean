import Telemetry.Plugin.EntryPoint
import Telemetry.Proofs.Assembly.Choice
import Telemetry.Proofs.Assembly.InStep
import Telemetry.Proofs.Assembly.Routine
import Telemetry.Proofs.Processor.Conveying

/-! # Groups that do not load

The entry points of a group are loaded in order, up to the first that raises. Then whoever has asked for the
group raises too, before anything is done with the plugins that were loaded by then. -/

namespace Telemetry

open Assembly

theorem run_tryCatch_state {σ α : Type} (act : ExceptT Fault (StateM σ) α) (k : Fault → ExceptT Fault (StateM σ) α)
    (s : σ) : (tryCatch act k).run s = match act.run s with
      | (.ok a, s') => (.ok a, s')
      | (.error f, s') => (k f).run s' := by
  rw [ExceptT.run_tryCatch]
  simp only [bind, StateT.bind]
  obtain ⟨r, s'⟩ := act.run s
  cases r <;> rfl

section
variable {W : Outside}

/-! ## Entry points -/

namespace EntryPoint

/-- What comes of one entry point: a plugin as it was loaded, or what the class that was loaded makes. -/
inductive Brings (e : EntryPoint W) (v : Visit W) : Except Fault W.Plugin → Visit W → Prop
  | plugin {plugin : W.Plugin} {v' : Visit W} : e.load.run v = (.ok (.plugin plugin), v') → Brings e v (.ok plugin) v'
  | made {make : Foreign W W.Plugin} {v₁ v' : Visit W} {r : Except Fault W.Plugin} :
    e.load.run v = (.ok (.class make), v₁) → make.run v₁ = (r, v') → Brings e v r v'
  | unloaded {f : Fault} {v' : Visit W} : e.load.run v = (.error f, v') → Brings e v (.error f) v'

section
variable (group : String)

def noted (e : EntryPoint W) (v : Visit W) : Visit W := { v with events := v.events ++ [.pluginLoaded group e.name] }

inductive Loads : List (EntryPoint W) → Visit W → List W.Plugin → Visit W → Prop
  | done {v : Visit W} : Loads [] v [] v
  | next {e : EntryPoint W} {entries : List (EntryPoint W)} {plugin : W.Plugin} {plugins : List W.Plugin}
    {v v₁ v₂ : Visit W} :
    e.Brings v (.ok plugin) v₁ → Loads entries (e.noted group v₁) plugins v₂ → Loads (e :: entries) v (plugin :: plugins) v₂

/-- The first entry point that raises is also the last that is loaded. Its fault is told with its name, unless it asks
to leave the program. -/
inductive Fails (entries : List (EntryPoint W)) (v : Visit W) : Fault → Visit W → Prop
  | intro {before after : List (EntryPoint W)} {e : EntryPoint W} {plugins : List W.Plugin} {v₁ v' : Visit W} {f : Fault} :
    entries = before ++ e :: after → Loads group before v plugins v₁ → e.Brings v₁ (.error f) v' →
      Fails entries v (if f.exits then f else .pluginLoad group e.name f) v'

end

section
variable {group : String} {e : EntryPoint W} {entries : List (EntryPoint W)} {plugin : W.Plugin}
  {plugins : List W.Plugin} {r : Except Fault W.Plugin} {f : Fault} {v v' : Visit W}

theorem brings_iff : e.Brings v r v' ↔ e.resolve.run v = (r, v') := by
  unfold resolve
  rw [run_bind_state]
  constructor
  · intro h
    cases h with
    | plugin hl =>
      rw [hl]
      rfl
    | made hl hm =>
      rw [hl]
      exact hm
    | unloaded hl => rw [hl]
  · intro h
    cases hl : e.load.run v with
    | mk loaded v₁ =>
      rw [hl] at h
      cases loaded with
      | error f =>
        cases h
        exact .unloaded hl
      | ok loaded =>
        cases loaded with
        | plugin plugin =>
          cases h
          exact .plugin hl
        | «class» make => exact .made hl h

theorem run_loadGroup_ok {v₁ : Visit W} (h : e.Brings v (.ok plugin) v₁) (entries : List (EntryPoint W)) :
    (loadGroup group (e :: entries)).run v =
      match (loadGroup group entries).run (e.noted group v₁) with
      | (.ok plugins, v') => (.ok (plugin :: plugins), v')
      | (.error f, v') => (.error f, v') := by
  rw [loadGroup, run_bind_state, run_tryCatch_state, brings_iff.mp h]
  simp only [run_bind_state]
  have hnote : (modify fun v => { v with events := v.events ++ [.pluginLoaded group e.name] } : Foreign W PUnit).run v₁ =
      (.ok ⟨⟩, e.noted group v₁) := rfl
  rw [hnote]
  simp only
  obtain ⟨r, v₂⟩ := (loadGroup group entries).run (e.noted group v₁)
  cases r <;> rfl

theorem run_loadGroup_error (h : e.Brings v (.error f) v') (entries : List (EntryPoint W)) :
    (loadGroup group (e :: entries)).run v = (.error (if f.exits then f else .pluginLoad group e.name f), v') := by
  rw [loadGroup, run_bind_state, run_tryCatch_state, brings_iff.mp h]
  rfl

theorem run_of_loads (h : Loads group entries v plugins v') : (loadGroup group entries).run v = (.ok plugins, v') := by
  induction h with
  | done => rfl
  | next hb _ ih => rw [run_loadGroup_ok hb, ih]

theorem run_of_fails (h : Fails group entries v f v') : (loadGroup group entries).run v = (.error f, v') := by
  obtain ⟨rfl, hl, hb⟩ := h
  induction hl with
  | done => exact run_loadGroup_error hb _
  | next he _ ih => rw [List.cons_append, run_loadGroup_ok he, ih hb]

theorem loads_or_fails (group : String) (entries : List (EntryPoint W)) (v : Visit W) :
    (∃ plugins v', Loads group entries v plugins v') ∨ ∃ f v', Fails group entries v f v' := by
  induction entries generalizing v with
  | nil => exact .inl ⟨[], v, .done⟩
  | cons e entries ih =>
    cases hr : e.resolve.run v with
    | mk r v₁ =>
      cases r with
      | error f => exact .inr ⟨_, v₁, .intro (List.nil_append _).symm .done (brings_iff.mpr hr)⟩
      | ok plugin =>
        rcases ih (e.noted group v₁) with ⟨plugins, v₂, hl⟩ | ⟨f, v₂, hf⟩
        · exact .inl ⟨plugin :: plugins, v₂, .next (brings_iff.mpr hr) hl⟩
        · obtain ⟨rfl, hl, hb⟩ := hf
          exact .inr ⟨_, v₂, .intro (List.cons_append).symm (.next (brings_iff.mpr hr) hl) hb⟩

theorem run_loadGroup_ok_iff : (loadGroup group entries).run v = (.ok plugins, v') ↔ Loads group entries v plugins v' := by
  refine ⟨fun h => ?_, run_of_loads⟩
  rcases loads_or_fails group entries v with ⟨plugins', v₁, hl⟩ | ⟨f, v₁, hf⟩
  · cases h.symm.trans (run_of_loads hl)
    exact hl
  · cases h.symm.trans (run_of_fails hf)

theorem run_loadGroup_error_iff : (loadGroup group entries).run v = (.error f, v') ↔ Fails group entries v f v' := by
  refine ⟨fun h => ?_, run_of_fails⟩
  rcases loads_or_fails group entries v with ⟨plugins', v₁, hl⟩ | ⟨f', v₁, hf⟩
  · cases h.symm.trans (run_of_loads hl)
  · cases h.symm.trans (run_of_fails hf)
    exact hf

end

end EntryPoint

/-! ## Groups -/

def Host.lookingUp (host : Host W) (table : W.State → String → List (EntryPoint W)) : Host W :=
  { host with load := fun _ group => do EntryPoint.loadGroup group (table (← get).own group) }

section
variable (host : Host W) (table : W.State → String → List (EntryPoint W)) (loader : W.Loader)

/-- After some turns a group is asked for, and one of its entry points raises. This is the end. What is registered is
what was by then, and what its entry points have registered by themselves. -/
inductive Refused {α : Type} (group : String) (s : Scene W) (ts : List (Turn W)) (kept : List (Addition W)) :
    Except Fault α × Scene W → Prop
  | intro {own : W.State} {f : Fault} {v : Visit W} {s' : Scene W} :
    Conversed (host.lookingUp table) s.own ts own → EntryPoint.Fails group (table own group) { own } f v →
      s'.own = v.own → s'.registry = s.registry.extend (kept ++ v.added) →
      s'.turns = s.turns ++ (ts ++ [.asked (.load loader group) () (.error f) v.added]) →
      Refused group s ts kept (.error f, s')

end

structure Turn.Refuses (group : String) (t : Turn W) : Prop where
  loads : t.loads group = true
  raised : t.fault?.isSome = true

section
variable {host : Host W} {table : W.State → String → List (EntryPoint W)} {loader : W.Loader} {group : String}
  {s s' : Scene W} {t : Turn W} {ts : List (Turn W)} {kept added : List (Addition W)} {f : Fault}

theorem Refused.of_leads {α : Type}
    (hl : Leads (host.lookingUp table) s (ts ++ [.asked (.load loader group) () (.error f) added]) s')
    (hg : s'.registry = s.registry.extend (kept ++ added)) :
    Refused host table loader group s ts kept ((.error f : Except Fault α), s') := by
  obtain ⟨own, hts, hlast⟩ := hl.own.of_append
  generalize ho : s'.own = own' at hlast
  cases hlast with
  | @asked _ _ _ _ _ v _ hv hn =>
    cases hn
    exact .intro hts (EntryPoint.run_loadGroup_error_iff.mp hv) ho hg hl.turns

theorem Turn.not_refuses (h : ts.countP (Turn.loads group) = 0) : ∀ t ∈ ts, ¬ t.Refuses group :=
  fun t ht hr => List.countP_eq_zero.mp h t ht hr.loads

end

/-! ## Merging -/

section
variable {loader : W.Loader} {group : String} {t : Turn W} {ts : List (Turn W)} {m : Merger W} {r : Except Fault Unit}

theorem Merger.Attempt.of_refusal (h : m.Attempt loader registry ts r) (ht : t ∈ ts) (hr : t.Refuses group) :
    (group = Names.tracerProviderConfigurers ∧ ∃ f, r = .error f ∧
      ts = [.asked (.load loader group) () (.error f) m.early] ∧ m.additions = m.early) ∨
    group = Names.customizerProviders ∧ ∃ f, r = .error f ∧
      ts = [.asked (.load loader Names.tracerProviderConfigurers) () (.ok m.configurers) m.early,
        .asked (.load loader group) () (.error f) m.late] ∧
      m.additions = m.early ++ Merger.wrapped m.configurers ++ m.late := by
  cases h with
  | unloaded =>
    cases List.mem_singleton.mp ht
    cases beq_iff_eq.mp hr.loads
    exact .inl ⟨rfl, _, rfl, rfl, by simp [Merger.additions, Merger.wrapped]⟩
  | halfLoaded =>
    rcases List.mem_cons.mp ht with rfl | ht
    · cases hr.raised
    · cases List.mem_singleton.mp ht
      cases beq_iff_eq.mp hr.loads
      exact .inr ⟨rfl, _, rfl, rfl, by simp [Merger.additions]⟩
  | loaded hc =>
    rcases List.mem_cons.mp ht with rfl | ht
    · cases hr.raised
    · rcases List.mem_cons.mp ht with rfl | ht
      · cases hr.raised
      · exact absurd hr (Turn.not_refuses hc.countP_loads t ht)

end

/-! ## Selecting exporters -/

namespace ExporterCatalogue

section
variable {α : Type} {host : Host W} {loader : W.Loader} {catalogue : ExporterCatalogue W α} {p : Properties}
  {group : String} {plugins : List W.Plugin} {known : Option (List W.Plugin)} {name : String} {names : List String}
  {t : Turn W} {ts : List (Turn W)} {x : α} {made : List (String × α)} {fault : Option Fault} {f : Fault}

theorem Creates.of_builtin (h : Creates host catalogue p plugins name ts (.ok x))
    (hb : (catalogue.builtin? name).isSome) : ts = [.checked (.builtin catalogue.key name) none] := by
  generalize hr : (Except.ok x : Except Fault α) = r at h
  cases h with
  | builtin => rfl
  | spoilt => cases hr
  | plugin hn => simp [hn] at hb
  | unknown => cases hr

theorem Loads.of_refusal (h : Loads host loader catalogue.group ts (.error f)) (ht : t ∈ ts) (hr : t.Refuses group) :
    group = catalogue.group ∧ ∃ added, ts = [.asked (.load loader catalogue.group) () (.error f) added] := by
  cases h with
  | refused =>
    cases List.mem_singleton.mp ht
    exact ⟨(beq_iff_eq.mp hr.loads).symm, _, rfl⟩
  | nameless =>
    rcases List.mem_append.mp ht with ht | ht
    · rcases List.mem_cons.mp ht with rfl | ht
      · cases hr.raised
      · exact absurd hr (Turn.not_refuses (countP_nameOf _) t ht)
    · cases List.mem_singleton.mp ht
      cases hr.loads

theorem Loads.not_refuses (h : Loads host loader catalogue.group ts (.ok plugins)) (ht : t ∈ ts) : ¬ t.Refuses group := by
  intro hr
  cases h with
  | loaded =>
    rcases List.mem_cons.mp ht with rfl | ht
    · cases hr.raised
    · exact absurd hr (Turn.not_refuses (countP_nameOf _) t ht)

theorem Selects.of_refusal (h : Selects host loader catalogue p known names ts made fault) (ht : t ∈ ts)
    (hr : t.Refuses group) : known = none ∧ group = catalogue.group ∧
      ∃ (before : List String) (f : Fault) (added : List (Addition W)), fault = some f ∧
        ts = before.map (fun name => .checked (.builtin catalogue.key name) none) ++
          [.asked (.load loader catalogue.group) () (.error f) added] := by
  -- By induction on the names that were taken. As long as the plugins are not loaded, every name is built in.
  induction h with
  | done => cases ht
  | @next known name names ts us x made fault hb hc _ ih =>
    rcases List.mem_append.mp ht with ht | ht
    · exact absurd hr (Turn.not_refuses hc.countP t ht)
    · obtain ⟨rfl, hg, before, f, added, hf, rfl⟩ := ih ht
      refine ⟨rfl, hg, name :: before, f, added, hf, ?_⟩
      rw [hc.of_builtin (hb.resolve_left Bool.false_ne_true)]
      rfl
  | stop _ hc => exact absurd hr (Turn.not_refuses hc.countP t ht)
  | load _ hl _ ih =>
    rcases List.mem_append.mp ht with ht | ht
    · exact absurd hr (hl.not_refuses ht)
    · cases (ih ht).1
  | refused _ hl =>
    obtain ⟨hg, added, rfl⟩ := hl.of_refusal ht hr
    exact ⟨rfl, hg, [], _, added, rfl, rfl⟩

end

end ExporterCatalogue

/-! ## Selecting propagators -/

section
variable {host : Host W} {loader : W.Loader} {asked group : String} {chain : List (Link W)} {p : Properties}
  {known : Option (Selection.Table W)} {table : Selection.Table W} {name : String} {names : List String}
  {t creation : Turn W} {ts : List (Turn W)} {q : Propagator} {plugin : W.Plugin} {seg : Segment W}
  {segs : List (Segment W)} {fault : Option Fault}

theorem Tables.of_refusal {r : Except Fault (Selection.Table W)} (h : Tables host loader asked ts r) (ht : t ∈ ts)
    (hr : t.Refuses group) : group = asked ∧ ∃ f added, r = .error f ∧ ts = [.asked (.load loader asked) () (.error f) added] := by
  cases h with
  | refused =>
    cases List.mem_singleton.mp ht
    exact ⟨(beq_iff_eq.mp hr.loads).symm, _, _, rfl, rfl⟩
  | loaded hn =>
    rcases List.mem_cons.mp ht with rfl | ht
    · cases hr.raised
    · exact absurd hr (Turn.not_refuses hn.loads t ht)

namespace Segment

section
variable {r : Except Fault (Segment W)}

theorem Follows.loads (h : Follows chain p name q creation ts r) (hc : creation.loads group = false) :
    ts.countP (Turn.loads group) = 0 := by
  cases h with
  | intro hp => rw [List.countP_cons_of_neg (by simp [hc]), hp.loads]

theorem Native.loads (h : Native chain p name ts r) : ts.countP (Turn.loads group) = 0 := by
  cases h with
  | intro _ hf => exact hf.loads rfl

theorem Foreign.loads (h : Foreign chain p name plugin ts r) : ts.countP (Turn.loads group) = 0 := by
  cases h with
  | refused => rfl
  | created hf => exact hf.loads rfl

theorem Finds.loads (h : Offering.propagators.Finds (Native chain p) (Foreign chain p) table name ts r) :
    ts.countP (Turn.loads group) = 0 := by
  cases h with
  | native _ hn => exact hn.loads
  | foreign _ _ hf => rw [List.countP_cons_of_neg Bool.false_ne_true, hf.loads]
  | unknown => rfl

end

theorem Finds.of_builtin (h : Offering.propagators.Finds (Native chain p) (Foreign chain p) table name ts (.ok seg))
    (hb : (Offering.propagators : Offering W).builtin.contains name) : Native chain p name ts (.ok seg) := by
  generalize hr : (Except.ok seg : Except Fault (Segment W)) = r at h
  cases h with
  | native _ hn => exact hr ▸ hn
  | foreign hb' => exact absurd hb hb'
  | unknown => cases hr

theorem Native.turns (h : Native chain p name ts (.ok seg)) : ts = seg.turns ∧ seg.name = name := by
  generalize hr : (Except.ok seg : Except Fault (Segment W)) = r at h
  cases h with
  | intro _ hf =>
    cases hf with
    | @intro us image =>
      cases image with
      | ok image =>
        cases hr
        exact ⟨rfl, rfl⟩
      | error f => cases hr

theorem Succeeds.of_refusal (h : Segment.Succeeds chain p host loader known names ts segs fault) (ht : t ∈ ts)
    (hr : t.Refuses group) : known = none ∧ group = Names.propagatorPlugins ∧
      (∀ seg ∈ segs, Native chain p seg.name seg.turns (.ok seg)) ∧ ∃ f added, fault = some f ∧
      ts = segs.flatMap turns ++ [.asked (.load loader Names.propagatorPlugins) () (.error f) added] := by
  induction h with
  | done => cases ht
  | @next known name names ts us seg segs fault hb hx _ ih =>
    rcases List.mem_append.mp ht with ht | ht
    · exact absurd hr (Turn.not_refuses (Finds.loads hx) t ht)
    · obtain ⟨rfl, hg, hsegs, f, added, hf, rfl⟩ := ih ht
      have hn := Finds.of_builtin hx (hb.resolve_left Bool.false_ne_true)
      obtain ⟨rfl, rfl⟩ := hn.turns
      exact ⟨rfl, hg, List.forall_mem_cons.mpr ⟨hn, hsegs⟩, f, added, hf, by simp⟩
  | stop _ hx => exact absurd hr (Turn.not_refuses (Finds.loads hx) t ht)
  | load _ hl _ ih =>
    rcases List.mem_append.mp ht with ht | ht
    · obtain ⟨-, f, added, hf, -⟩ := hl.of_refusal ht hr
      cases hf
    · cases (ih ht).1
  | refused _ hl =>
    obtain ⟨hg, f, added, hf, rfl⟩ := hl.of_refusal ht hr
    cases hf
    exact ⟨rfl, hg, fun seg hs => absurd hs List.not_mem_nil, _, added, rfl, rfl⟩

end Segment

end

/-! ## All or nothing -/

theorem Passive.registered {α : Type} {host : Host W} {P : Request W → Prop} {act : Assembly W α} {s : Scene W}
    {ts : List (Turn W)} (h : Passive host P act) (ht : (run act s).2.turns = s.turns ++ ts) :
    (run act s).2.registry = s.registry.extend (ts.flatMap Turn.added) := by
  obtain ⟨us, hg⟩ := h.grows s
  cases List.append_cancel_left (ht.symm.trans hg.turns)
  exact hg.registry

section
variable {host : Host W} {table : W.State → String → List (EntryPoint W)} {loader : W.Loader} {group : String}
  {chain : List (Link W)} {p : Properties} {s : Scene W} {t : Turn W} {ts : List (Turn W)}

theorem merge_refused (ht : (run (Discovery.merge (host.lookingUp table) loader) s).2.turns = s.turns ++ ts)
    (hm : t ∈ ts) (hr : t.Refuses group) :
    (group = Names.tracerProviderConfigurers ∧
      Refused host table loader group s [] [] (run (Discovery.merge (host.lookingUp table) loader) s)) ∨
    group = Names.customizerProviders ∧ ∃ configurers early, Refused host table loader group s
      [.asked (.load loader Names.tracerProviderConfigurers) () (.ok configurers) early]
      (early ++ Merger.wrapped configurers) (run (Discovery.merge (host.lookingUp table) loader) s) := by
  obtain ⟨us, hl⟩ := Routine.leads (host.lookingUp table) (Apart.merge (host.lookingUp table) loader).routine s
  rw [(Apart.merge (host.lookingUp table) loader).sound] at hl
  cases List.append_cancel_left (ht.symm.trans hl.turns)
  obtain ⟨r, m, us, s', hrun, ha, hts, hg⟩ := run_merge (host.lookingUp table) loader s
  rw [hrun] at ht hl ⊢
  cases List.append_cancel_left (ht.symm.trans hts)
  rcases ha.of_refusal hm hr with ⟨rfl, f, rfl, rfl, hadd⟩ | ⟨rfl, f, rfl, rfl, hadd⟩
  · exact .inl ⟨rfl, .of_leads hl (by rw [hg, hadd, List.nil_append])⟩
  · exact .inr ⟨rfl, m.configurers, m.early, .of_leads hl (by rw [hg, hadd])⟩

theorem exporters_refused {signal : Signal}
    (ht : (run (configureExporters (host.lookingUp table) loader (exporterCatalogue W signal) p) s).2.turns = s.turns ++ ts)
    (hm : t ∈ ts) (hr : t.Refuses group) : group = (exporterCatalogue W signal).group ∧ ∃ names : List String,
      Refused host table loader group s (.checked (.names (exporterCatalogue W signal).key) none ::
        names.map fun name => .checked (.builtin (exporterCatalogue W signal).key name) none) []
        (run (configureExporters (host.lookingUp table) loader (exporterCatalogue W signal) p) s) := by
  have hg := (quiet_configureExporters (host.lookingUp table) loader p signal).registered ht
  obtain ⟨us, r, s', hrun, hl, h⟩ :=
    ExporterCatalogue.proceeds_configureExporters (host.lookingUp table) loader (exporterCatalogue W signal) p s
  rw [hrun] at ht hg ⊢
  cases List.append_cancel_left (ht.symm.trans hl.turns)
  rcases h with ⟨f, -, rfl, -⟩ | ⟨names, us, made, fault, -, rfl, rfl, h⟩
  · cases List.mem_singleton.mp hm
    cases hr.loads
  · rcases List.mem_cons.mp hm with rfl | hm
    · cases hr.loads
    · obtain ⟨-, rfl, before, f, added, rfl, rfl⟩ := h.of_refusal hm hr
      refine ⟨rfl, before, .of_leads hl ?_⟩
      have hchecks : ∀ name ∈ before, (.checked (.builtin (exporterCatalogue W signal).key name) none : Turn W).added = [] :=
        fun _ _ => rfl
      rw [hg, List.flatMap_cons, List.flatMap_append, List.flatMap_map, List.flatMap_eq_nil_iff.mpr hchecks,
        List.flatMap_singleton]
      rfl

theorem propagators_refused
    (ht : (run (configurePropagators (host.lookingUp table) loader chain p) s).2.turns = s.turns ++ ts)
    (hm : t ∈ ts) (hr : t.Refuses group) : group = Names.propagatorPlugins ∧ ∃ segs : List (Segment W),
      (∀ seg ∈ segs, Segment.Native chain p seg.name seg.turns (.ok seg)) ∧
      Refused host table loader group s (.checked (.names Names.propagators) none :: segs.flatMap Segment.turns)
        ((segs.flatMap Segment.turns).flatMap Turn.added)
        (run (configurePropagators (host.lookingUp table) loader chain p) s) := by
  have hg := (quiet_configurePropagators (host.lookingUp table) loader p chain).registered ht
  obtain ⟨us, r, s', hrun, hl, h⟩ :=
    (Segment.proceeds_configurePropagators chain p loader : Proceeds (host.lookingUp table) _ _) s
  rw [hrun] at ht hg ⊢
  cases List.append_cancel_left (ht.symm.trans hl.turns)
  rcases h with ⟨f, -, rfl, -⟩ | ⟨names, us, segs, fault, -, rfl, rfl, h⟩
  · cases List.mem_singleton.mp hm
    cases hr.loads
  · rcases List.mem_cons.mp hm with rfl | hm
    · cases hr.loads
    · obtain ⟨-, rfl, hsegs, f, added, rfl, rfl⟩ := h.of_refusal hm hr
      refine ⟨rfl, segs, hsegs, .of_leads hl ?_⟩
      rw [hg, List.flatMap_cons, List.flatMap_append, List.flatMap_singleton]
      rfl

end

/-- A group loads whole and in order, or its first entry point that raises is the last that is loaded. Merging plugins,
selecting exporters and selecting propagators then end with that fault, and nothing has been made of the group: what
was merged is of the other group, and what was created is built in. -/
theorem groups_load_or_fail (host : Host W) (table : W.State → String → List (EntryPoint W)) (loader : W.Loader) :
    (∀ (group : String) (entries : List (EntryPoint W)) (v v' : Visit W),
      (∀ plugins, (EntryPoint.loadGroup group entries).run v = (.ok plugins, v') ↔
        EntryPoint.Loads group entries v plugins v') ∧
      ∀ f, (EntryPoint.loadGroup group entries).run v = (.error f, v') ↔ EntryPoint.Fails group entries v f v') ∧
    ∀ (s : Scene W) (ts : List (Turn W)) (t : Turn W) (group : String), t ∈ ts → t.Refuses group →
      (let merged := run (Discovery.merge (host.lookingUp table) loader) s
       merged.2.turns = s.turns ++ ts →
        (group = Names.tracerProviderConfigurers ∧ Refused host table loader group s [] [] merged) ∨
        group = Names.customizerProviders ∧ ∃ configurers early, Refused host table loader group s
          [.asked (.load loader Names.tracerProviderConfigurers) () (.ok configurers) early]
          (early ++ Merger.wrapped configurers) merged) ∧
      (∀ signal p,
        let catalogue := exporterCatalogue W signal
        let exporters := run (configureExporters (host.lookingUp table) loader catalogue p) s
        exporters.2.turns = s.turns ++ ts → group = catalogue.group ∧ ∃ names : List String,
          Refused host table loader group s (.checked (.names catalogue.key) none ::
            names.map fun name => .checked (.builtin catalogue.key name) none) [] exporters) ∧
      ∀ chain p,
        let propagators := run (configurePropagators (host.lookingUp table) loader chain p) s
        propagators.2.turns = s.turns ++ ts → group = Names.propagatorPlugins ∧ ∃ segs : List (Segment W),
          (∀ seg ∈ segs, Segment.Native chain p seg.name seg.turns (.ok seg)) ∧
          Refused host table loader group s (.checked (.names Names.propagators) none :: segs.flatMap Segment.turns)
            ((segs.flatMap Segment.turns).flatMap Turn.added) propagators := by
  refine ⟨fun group entries v v' => ⟨fun plugins => ?_, fun f => ?_⟩, fun s ts t group hm hr => ⟨fun ht => ?_, ?_, ?_⟩⟩
  · exact EntryPoint.run_loadGroup_ok_iff
  · exact EntryPoint.run_loadGroup_error_iff
  · exact merge_refused ht hm hr
  · exact fun signal p ht => exporters_refused ht hm hr
  · exact fun chain p ht => propagators_refused ht hm hr

def EntryPoint.rehearsed : List (EntryPoint .rehearsal) :=
  [⟨"a", pure (.plugin "a")⟩, ⟨"b", pure (.class (throw (.raised "RuntimeError" "x" false)))⟩, ⟨"c", pure (.plugin "c")⟩]

theorem merge_refused_rehearsed :
    let table : Unit → String → List (EntryPoint .rehearsal) := fun _ _ => EntryPoint.rehearsed
    let group := Names.tracerProviderConfigurers
    let s : Scene .rehearsal := { own := () }
    EntryPoint.Fails group EntryPoint.rehearsed { own := s.own } (.pluginLoad group "b" (.raised "RuntimeError" "x" false))
        { own := s.own, events := [.pluginLoaded group "a"] } ∧
      Refused .rehearsal table () group s [] [] (run (Discovery.merge (Host.rehearsal.lookingUp table) ()) s) := by
  intro table group s
  obtain ⟨hload, hask⟩ := groups_load_or_fail .rehearsal table ()
  refine ⟨((hload group EntryPoint.rehearsed _ _).2 _).mp rfl, ?_⟩
  have h := (hask s _ _ group (List.mem_singleton_self _) ⟨rfl, rfl⟩).1 rfl
  exact (h.resolve_right fun hg => absurd hg.1 (by decide)).2

end

end Telemetry
