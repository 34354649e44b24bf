import Telemetry.Proofs.Assembly.Pipelines
import Telemetry.Proofs.Assembly.Twins

/-! # Threads of values

A value is threaded through the links of a kind: each gets what the one before it has answered. What the
thread of the resource ends with is handed on to everything that has a resource, and the thread of the tracer
settings starts with it. -/

namespace Telemetry

open Assembly

section
variable {W : Outside}

/-- A value goes through the links of a kind in some turns, each of which is handed what the one before it
has answered. -/
inductive Threads (k : Kind) : Artifact W k → List (Turn W) → Artifact W k → Prop
  | done (v : Artifact W k) : Threads k v [] v
  | apply {link : Link W} {p : Properties} {v v' v'' : Artifact W k} {added : List (Addition W)} {ts : List (Turn W)} :
    Threads k v' ts v'' → Threads k v (.asked (.apply k link p) v (.ok v') added :: ts) v''
  | pass {v v' : Artifact W k} {t : Turn W} {ts : List (Turn W)} :
    t.applied? k = none → Threads k v ts v' → Threads k v (t :: ts) v'

/-- What a tracer provider would be made with as its resource, and whether that is another one than at first. -/
def heldResource? : Artifact W .tracerProvider → Option (Option Resource × Bool)
  | .proper settings => some (settings.resource, settings.resourceReplaced)
  | .stray _ => none

def Turn.KeepsResource : Turn W → Prop
  | .asked (.apply .tracerProvider _ _) input (.ok answer) _ => heldResource? answer = heldResource? input
  | _ => True

section
variable {k : Kind} {v v' v'' : Artifact W k} {ts us : List (Turn W)}

theorem Threads.append (h : Threads k v ts v') (h' : Threads k v' us v'') : Threads k v (ts ++ us) v'' := by
  induction h with
  | done _ => exact h'
  | apply _ ih => exact .apply (ih h')
  | pass ht _ ih => exact .pass ht (ih h')

theorem Threads.idle (v : Artifact W k) (h : ∀ t ∈ ts, t.applied? k = none) : Threads k v ts v := by
  induction ts with
  | nil => exact .done v
  | cons t ts ih =>
    obtain ⟨ht, hts⟩ := List.forall_mem_cons.mp h
    exact .pass ht (ih hts)

theorem Threads.kept {v v' : Artifact W .tracerProvider} (h : Threads .tracerProvider v ts v')
    (hk : ∀ t ∈ ts, t.KeepsResource) : heldResource? v' = heldResource? v := by
  induction h with
  | done v => rfl
  | apply _ ih =>
    obtain ⟨ht, hk⟩ := List.forall_mem_cons.mp hk
    exact (ih hk).trans ht
  | pass _ _ ih => exact ih (List.forall_mem_cons.mp hk).2

end

/-! ## Turns of actions that succeed -/

section
variable {α : Type} {host : Host W} {P : Request W → Prop} {s s' : Scene W} {ts : List (Turn W)} {p : Properties}

theorem Passive.ok {act : Assembly W α} {a : α} (h : Passive host P act) (hr : run act s = (.ok a, s')) :
    ∃ ts, Grew P s ts s' := by
  have hg := h.grows s
  rwa [hr] at hg

theorem grew_of_check {c : Check W} {r : Except Fault α} {a : α} (h : run (check c r) s = (.ok a, s')) :
    Grew P s [.checked c none] s' := by
  obtain rfl := ok_of_check h
  cases h
  exact ⟨rfl, rfl, List.forall_mem_singleton.mpr trivial⟩

theorem Request.Within.mono {K K' : Kind → Prop} (hK : ∀ k, K k → K' k) {r : Request W} (h : r.Within p K) :
    r.Within p K' := by
  cases r with
  | apply k link q => exact ⟨hK k h.1, h.2⟩
  | _ => exact h

theorem unapplied_of_grew {K : Kind → Prop} {k : Kind} (h : Grew (Request.Within p K) s ts s') (hk : ¬ K k) :
    ∀ t ∈ ts, t.applied? k = none := by
  intro t ht
  have ha := h.asks t ht
  cases t with
  | checked c fault => rfl
  | asked r input answer added =>
    cases r with
    | apply kind link q =>
      have hne : kind ≠ k := by
        rintro rfl
        exact hk ha.1
      exact if_neg hne
    | _ => rfl

theorem threads_runChain (k : Kind) : ∀ {links : List (Link W)} {v v' : Artifact W k} {s s' : Scene W},
    run (runChain host k links p v) s = (.ok v', s') →
      ∃ ts, Grew (Request.Within p (· = k)) s ts s' ∧ Threads k v ts v'
  | [], v, v', s, s', h => by
    cases h
    exact ⟨[], .none rfl rfl, .done v⟩
  | link :: links, v, v', s, s', h => by
    rw [runChain_cons] at h
    obtain ⟨v₁, s₁, h₁, h⟩ := ok_of_bind h
    obtain ⟨answer, visit, -, hr⟩ := run_ask host (.apply k link p) v s
    cases hr.symm.trans h₁
    have hg : Grew (Request.Within p (· = k)) s [.asked (.apply k link p) v (.ok v₁) visit.added]
        ⟨visit.own, s.registry.extend visit.added, s.journal ++ visit.events,
          s.turns ++ [.asked (.apply k link p) v (.ok v₁) visit.added]⟩ := by
      refine ⟨rfl, ?_, List.forall_mem_singleton.mpr ⟨rfl, rfl⟩⟩
      rw [List.flatMap_singleton]
      rfl
    obtain ⟨ts, hg', ht⟩ := threads_runChain k h
    exact ⟨_, hg.append hg', .apply ht⟩

/-! ### The resource -/

theorem threads_configureResource {chain : List (Link W)} {resource : Resource}
    (h : run (configureResource host chain p) s = (.ok resource, s')) :
    ∃ ts initial, Grew (Request.Within p (· = .resource)) s ts s' ∧ configuredResource p = .ok initial ∧
      Threads .resource (.proper initial) ts (.proper resource) := by
  unfold configureResource at h
  obtain ⟨initial, s₁, h₁, h⟩ := ok_of_bind h
  obtain ⟨customized, s₂, h₂, h⟩ := ok_of_bind h
  obtain ⟨settled, s₃, h₃, hend⟩ := ok_of_bind h
  rw [run_bind_ok (run_emit _ s₃), run_pure] at hend
  cases hend
  obtain rfl := Customized.proper_of_use (ok_of_check h₃)
  obtain ⟨ts, hg, ht⟩ := threads_runChain .resource h₂
  have hc := grew_of_check (P := Request.Within p (· = .resource)) h₁
  have hc' := grew_of_check (P := Request.Within p (· = .resource)) h₃
  refine ⟨_, initial, hc.append (hg.append (hc'.append (.none rfl rfl))), ok_of_check h₁, ?_⟩
  exact .pass rfl (ht.append (.pass rfl (.done _)))

theorem resource_configureMeter {loader : W.Loader} {resource : Resource} {meter : MeterProvider W.Exporter}
    (h : run (configureMeter host loader resource p) s = (.ok meter, s')) : meter.resource = resource := by
  unfold configureMeter at h
  obtain ⟨asked, s₁, -, h⟩ := ok_of_bind h
  obtain ⟨exporters, s₂, -, h⟩ := ok_of_bind h
  obtain ⟨readers, s₃, -, h⟩ := ok_of_bind h
  obtain ⟨-, s₄, -, h⟩ := ok_of_bind h
  cases h
  rfl

theorem resource_configureLogger {loader : W.Loader} {resource : Resource} {logger : LoggerProvider W.Exporter W.Thing}
    (h : run (configureLogger host loader resource p) s = (.ok logger, s')) : logger.resource = resource := by
  unfold configureLogger at h
  obtain ⟨created, s₁, -, h⟩ := ok_of_bind h
  obtain ⟨processors, s₂, -, h⟩ := ok_of_bind h
  obtain ⟨-, s₃, -, h⟩ := ok_of_bind h
  cases h
  rfl

theorem heldResource?_addProcessors (ps : List (Processor W.Exporter W.Thing))
    (settings : TracerSettings W.Exporter W.IdGenerator W.Thing) :
    heldResource? (W := W) (.proper (ps.foldl TracerSettings.addProcessor settings)) =
      heldResource? (W := W) (.proper settings) := by
  induction ps generalizing settings with
  | nil => rfl
  | cons p ps ih => exact (ih _).trans rfl

theorem heldResource?_configureTracer {loader : W.Loader} {exporterChain samplerChain : List (Link W)}
    {resource : Resource} {settings : TracerSettings W.Exporter W.IdGenerator W.Thing}
    (h : run (configureTracer host loader p exporterChain samplerChain (.ofResource resource)) s = (.ok settings, s')) :
    heldResource? (W := W) (.proper settings) = some (some resource, false) := by
  unfold configureTracer at h
  obtain ⟨initial, s₁, -, h⟩ := ok_of_bind h
  obtain ⟨sampler, s₂, -, h⟩ := ok_of_bind h
  obtain ⟨created, s₃, -, h⟩ := ok_of_bind h
  obtain ⟨customized, s₄, -, h⟩ := ok_of_bind h
  obtain ⟨processors, s₅, -, h⟩ := ok_of_bind h
  obtain ⟨-, s₆, -, h⟩ := ok_of_bind h
  cases h
  exact heldResource?_addProcessors processors _

structure Threaded (p : Properties) (ts : List (Turn W)) (bundle : Bundle W) : Prop where
  resource : ∃ initial, configuredResource p = .ok initial ∧
    Threads .resource (.proper initial) ts (.proper bundle.resource)
  meter : bundle.meter.resource = bundle.resource
  logger : bundle.logger.resource = bundle.resource
  tracer : ∃ start settings, heldResource? (W := W) (.proper start) = some (some bundle.resource, false) ∧
    Threads .tracerProvider (.proper start) ts (.proper settings) ∧ bundle.tracer = settings.build

theorem Threaded.after {us : List (Turn W)} {bundle : Bundle W} (h : Threaded p ts bundle)
    (hu : ∀ t ∈ us, ∀ k, t.applied? k = none) : Threaded p (us ++ ts) bundle where
  resource := by
    obtain ⟨initial, hi, ht⟩ := h.resource
    exact ⟨initial, hi, .append (.idle _ fun t ht => hu t ht _) ht⟩
  meter := h.meter
  logger := h.logger
  tracer := by
    obtain ⟨start, settings, hs, ht, hb⟩ := h.tracer
    exact ⟨start, settings, hs, .append (.idle _ fun t ht => hu t ht _) ht, hb⟩

theorem Threaded.kept {bundle : Bundle W} (h : Threaded p ts bundle)
    (hk : ∀ t ∈ ts, t.KeepsResource) :
    bundle.tracer.resource = bundle.resource ∧ bundle.tracer.resourceReplaced = false := by
  obtain ⟨start, settings, hs, ht, hb⟩ := h.tracer
  have hh : some (settings.resource, settings.resourceReplaced) = some (some bundle.resource, false) :=
    (ht.kept hk).trans hs
  obtain ⟨hr, hf⟩ := Prod.ext_iff.mp (Option.some.inj hh)
  dsimp only at hr hf
  rw [hb, TracerSettings.build, hr, hf]
  exact ⟨rfl, rfl⟩

theorem threaded_assembleFrom {loader : W.Loader} {bundle : Bundle W}
    (h : run (Builder.assembleFrom host loader p) s = (.ok bundle, s')) :
    bundle.properties = p ∧ ∃ ts, Grew (Request.Within p fun _ => True) s ts s' ∧ Threaded p ts bundle := by
  unfold Builder.assembleFrom at h
  replace h := ok_of_resolve h
  obtain ⟨resource, s₁, h₁, h⟩ := ok_of_bind h
  obtain ⟨meter, s₂, h₂, h⟩ := ok_of_bind h
  replace h := ok_of_resolve h
  replace h := ok_of_resolve h
  obtain ⟨start, s₃, h₃, h⟩ := ok_of_bind h
  replace h := ok_of_resolve h
  obtain ⟨customized, s₄, h₄, h⟩ := ok_of_bind h
  obtain ⟨settings, s₅, h₅, h⟩ := ok_of_bind h
  dsimp only at h
  obtain ⟨logger, s₆, h₆, h⟩ := ok_of_bind h
  replace h := ok_of_resolve h
  obtain ⟨propagators, s₇, h₇, hend⟩ := ok_of_bind h
  cases hend
  obtain rfl := Customized.proper_of_use (ok_of_check h₅)
  obtain ⟨ts₁, initial, hg₁, hi, ht₁⟩ := threads_configureResource h₁
  obtain ⟨ts₂, hg₂⟩ := (twins_configureMeter (K := fun _ => False) loader (.refl p) rfl resource).passive.ok h₂
  obtain ⟨ts₃, hg₃⟩ := (twins_configureTracer (K := fun k => k = .sampler ∨ k = .spanExporter) loader (.refl p) rfl
    (.inl rfl) (.inr rfl) _ _ _).passive.ok h₃
  obtain ⟨ts₄, hg₄, ht₄⟩ := threads_runChain .tracerProvider h₄
  obtain ⟨ts₆, hg₆⟩ := (twins_configureLogger (K := fun _ => False) loader (.refl p) rfl resource).passive.ok h₆
  obtain ⟨ts₇, hg₇⟩ := (twins_configurePropagators (K := (· = .propagator)) loader (.refl p) rfl rfl _).passive.ok h₇
  -- What comes between the resource and the chain of the tracer provider, and what comes behind that.
  have hmid := (hg₂.mono fun _ => Request.Within.mono nofun).append hg₃
  have hlast := (grew_of_check h₅).append ((hg₆.mono fun _ => Request.Within.mono nofun).append hg₇)
  refine ⟨rfl, ts₁ ++ ((ts₂ ++ ts₃) ++ (ts₄ ++ ([.checked .settings none] ++ (ts₆ ++ ts₇)))), ?_, ?_, ?_, ?_, ?_⟩
  · refine (hg₁.mono fun _ => .mono fun _ _ => trivial).append ?_
    refine (hmid.mono fun _ => .mono fun _ _ => trivial).append ?_
    exact (hg₄.mono fun _ => .mono fun _ _ => trivial).append (hlast.mono fun _ => .mono fun _ _ => trivial)
  · refine ⟨initial, hi, ht₁.append (.append (.idle _ (unapplied_of_grew hmid nofun)) ?_)⟩
    exact .append (.idle _ (unapplied_of_grew hg₄ nofun)) (.idle _ (unapplied_of_grew hlast nofun))
  · exact resource_configureMeter h₂
  · exact resource_configureLogger h₆
  · refine ⟨start, settings, heldResource?_configureTracer h₃, ?_, rfl⟩
    refine .append (.idle _ (unapplied_of_grew hg₁ nofun)) (.append (.idle _ (unapplied_of_grew hmid nofun)) ?_)
    exact ht₄.append (.idle _ (unapplied_of_grew hlast nofun))

end

end

end Telemetry
