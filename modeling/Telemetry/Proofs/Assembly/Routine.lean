import Telemetry.Assembly.Builder
import Telemetry.Proofs.Assembly.Carries

/-! # Actions taken apart

An action of an assembly is run as a whole. A `Routine` is such an action as a sequence of atomic steps,
each of which asks outside code, checks, logs, registers something, or looks at what is registered. Others
may come in between two steps, and also between what one call of outside code registers. `Routine.act` puts
the steps together again, and an `Apart` is a routine of which an action is made in this way. -/

namespace Telemetry

open Assembly

inductive Routine (W : Outside) (α : Type)
  | done (a : α)
  | raise (f : Fault)
  | ask (r : Request W) (input : Registry W → r.Input) (next : r.Answer → Routine W α)
  | pass (c : Check W) (next : Routine W α)
  | fail (c : Check W) (f : Fault)
  | emit (e : Event) (next : Routine W α)
  | add (a : Addition W) (next : Routine W α)
  | resolve (k : Kind) (next : List (Link W) → Routine W α)
  | suppliers (next : List W.Supplier → Routine W α)

namespace Routine
variable {W : Outside} {α β : Type}

protected def bind : Routine W α → (α → Routine W β) → Routine W β
  | done a, k => k a
  | raise f, _ => raise f
  | ask r input next, k => ask r input fun a => (next a).bind k
  | pass c next, k => pass c (next.bind k)
  | fail c f, _ => fail c f
  | emit e next, k => emit e (next.bind k)
  | add a next, k => add a (next.bind k)
  | resolve kind next, k => resolve kind fun links => (next links).bind k
  | suppliers next, k => suppliers fun registered => (next registered).bind k

/-- Whatever a call has registered comes one by one, and then its answer. -/
def adding (next : Routine W α) : List (Addition W) → Routine W α
  | [] => next
  | a :: added => add a (adding next added)

def answered {r : Request W} (next : r.Answer → Routine W α) : Except Fault r.Answer → Routine W α
  | .ok a => next a
  | .error f => raise f

variable (host : Host W)

/-- The action that a routine amounts to if nobody comes in between. -/
def act : Routine W α → Assembly W α
  | done a => pure a
  | raise f => throw f
  | ask r input next => get >>= fun s => Assembly.ask host r (input s.registry) >>= fun a => (next a).act
  | pass c next => check c (.ok ()) >>= fun _ => next.act
  | fail c f => check c (.error f)
  | emit e next => Assembly.emit e >>= fun _ => next.act
  | add a next => modify (fun s => { s with registry := s.registry.record a }) >>= fun _ => next.act
  | resolve k next => Assembly.resolve k >>= fun links => (next links).act
  | suppliers next => get >>= fun s => (next s.registry.suppliers).act

theorem act_bind (x : Routine W α) (k : α → Routine W β) :
    (x.bind k).act host = x.act host >>= fun a => (k a).act host := by
  induction x with
  | done a => rw [act, pure_bind]; rfl
  | raise f => rfl
  | fail c f => rfl
  | ask r input next ih => simp only [Routine.bind, act, ih, bind_assoc]
  | pass c next ih => simp only [Routine.bind, act, ih, bind_assoc]
  | emit e next ih => simp only [Routine.bind, act, ih, bind_assoc]
  | add a next ih => simp only [Routine.bind, act, ih, bind_assoc]
  | resolve kind next ih => simp only [Routine.bind, act, ih, bind_assoc]
  | suppliers next ih => simp only [Routine.bind, act, ih, bind_assoc]

/-! ## Stepping -/

def step : Routine W α → Scene W → Except Fault α ⊕ (Routine W α × Scene W)
  | done a, _ => .inl (.ok a)
  | raise f, _ => .inl (.error f)
  | ask r input next, s =>
    let (answer, v) := (host.answer r (input s.registry)).run { own := s.own }
    .inr (adding (answered next answer) v.added,
      { s with
        own := v.own
        journal := s.journal ++ v.events
        turns := s.turns ++ [.asked r (input s.registry) answer v.added] })
  | pass c next, s => .inr (next, { s with turns := s.turns ++ [.checked c none] })
  | fail c f, s => .inr (raise f, { s with turns := s.turns ++ [.checked c (some f)] })
  | emit e next, s => .inr (next, { s with journal := s.journal ++ [e] })
  | add a next, s => .inr (next, { s with registry := s.registry.record a })
  | resolve k next, s => .inr (next (s.registry.resolve k), s)
  | suppliers next, s => .inr (next s.registry.suppliers, s)

section
variable {host} {x x' : Routine W α} {s s' : Scene W} {result : Except Fault α}

theorem run_adding (next : Routine W α) : ∀ (added : List (Addition W)) (s : Scene W),
    run ((next.adding added).act host) s = run (next.act host) { s with registry := s.registry.extend added }
  | [], s => rfl
  | a :: added, s => by
    have hadd : run ((add a (next.adding added)).act host) s =
        run ((next.adding added).act host) { s with registry := s.registry.record a } := rfl
    rw [adding, hadd, run_adding next added]
    rfl

theorem step_ask {r : Request W} {input : Registry W → r.Input} {next : r.Answer → Routine W α}
    {answer : Except Fault r.Answer} {v : Visit W}
    (h : (host.answer r (input s.registry)).run { own := s.own } = (answer, v)) :
    (ask r input next).step host s = .inr (adding (answered next answer) v.added,
      { s with
        own := v.own
        journal := s.journal ++ v.events
        turns := s.turns ++ [.asked r (input s.registry) answer v.added] }) := by
  rw [step, h]

theorem run_of_ended (h : x.step host s = .inl result) : run (x.act host) s = (result, s) := by
  cases x with
  | done a => cases h; rfl
  | raise f => cases h; rfl
  | _ => cases h

theorem run_of_step (h : x.step host s = .inr (x', s')) : run (x.act host) s = run (x'.act host) s' := by
  cases x with
  | done a => cases h
  | raise f => cases h
  | ask r input next =>
    obtain ⟨answer, v, hv, hr⟩ := run_ask host r (input s.registry) s
    rw [step_ask hv] at h
    cases h
    rw [run_adding, act]
    cases answer with
    | ok a => exact run_bind_ok hr _
    | error f => exact run_bind_error hr _
  | _ => cases h; rfl

/-- What holds where a routine ends, and before a step if after it, holds from the start. -/
theorem ends (host : Host W) {P : Routine W α → Scene W → Prop}
    (hend : ∀ x s result, x.step host s = .inl result → P x s)
    (hstep : ∀ x s x' s', x.step host s = .inr (x', s') → P x' s' → P x s) : ∀ x s, P x s := by
  have hadding (next : Routine W α) (h : ∀ s, P next s) : ∀ (added : List (Addition W)) (s : Scene W),
      P (next.adding added) s := by
    intro added
    induction added with
    | nil => exact h
    | cons a added ih => exact fun s => hstep _ s _ _ rfl (ih _)
  intro x
  induction x with
  | done a => exact fun s => hend _ s _ rfl
  | raise f => exact fun s => hend _ s _ rfl
  | ask r input next ih =>
    intro s
    obtain ⟨answer, v, hv, -⟩ := run_ask host r (input s.registry) s
    refine hstep _ s _ _ (step_ask hv) (hadding _ (fun s => ?_) _ _)
    cases answer with
    | ok a => exact ih a s
    | error f => exact hend _ s _ rfl
  | pass c next ih => exact fun s => hstep _ s _ _ rfl (ih _)
  | fail c f => exact fun s => hstep _ s _ _ rfl (hend _ _ _ rfl)
  | emit e next ih => exact fun s => hstep _ s _ _ rfl (ih _)
  | add a next ih => exact fun s => hstep _ s _ _ rfl (ih _)
  | resolve k next ih => exact fun s => hstep _ s _ _ rfl (ih _ _)
  | suppliers next ih => exact fun s => hstep _ s _ _ rfl (ih _ _)

theorem leads_of_step (h : x.step host s = .inr (x', s')) : ∃ ts, Leads host s ts s' := by
  cases x with
  | done a => cases h
  | raise f => cases h
  | ask r input next =>
    obtain ⟨answer, v, hv, -⟩ := run_ask host r (input s.registry) s
    rw [step_ask hv] at h
    cases h
    exact ⟨_, rfl, .asked hv (.nil _)⟩
  | pass c next =>
    cases h
    exact ⟨_, rfl, .checked (.nil _)⟩
  | fail c f =>
    cases h
    exact ⟨_, rfl, .checked (.nil _)⟩
  | _ =>
    cases h
    exact ⟨_, .none rfl rfl⟩

theorem leads (host : Host W) : ∀ (x : Routine W α) (s : Scene W), ∃ ts, Leads host s ts (run (x.act host) s).2 := by
  refine ends host (fun x s result h => ?_) fun x s x' s' h hx => ?_
  · rw [run_of_ended h]
    exact ⟨[], .none rfl rfl⟩
  · obtain ⟨ts, hl⟩ := leads_of_step h
    obtain ⟨us, hl'⟩ := hx
    rw [run_of_step h]
    exact ⟨ts ++ us, hl.append hl'⟩

end

end Routine

structure Apart {W : Outside} (host : Host W) {α : Type} (action : Assembly W α) where
  routine : Routine W α
  sound : routine.act host = action

namespace Apart

section
variable {W : Outside} {host : Host W} {α β : Type}

def of {action action' : Assembly W α} (h : action' = action) (x : Apart host action) : Apart host action' :=
  ⟨x.routine, x.sound.trans h.symm⟩

def pure (a : α) : Apart host (Pure.pure a) := ⟨.done a, rfl⟩

def bind {action : Assembly W α} {k : α → Assembly W β} (x : Apart host action) (y : ∀ a, Apart host (k a)) :
    Apart host (action >>= k) where
  routine := x.routine.bind fun a => (y a).routine
  sound := by
    rw [Routine.act_bind, x.sound]
    exact congrArg _ (funext fun a => (y a).sound)

def ask (r : Request W) (input : r.Input) : Apart host (Assembly.ask host r input) :=
  ⟨.ask r (fun _ => input) .done, bind_pure (Assembly.ask host r input)⟩

def check (c : Check W) : (r : Except Fault α) → Apart host (Assembly.check c r)
  | .ok a => ⟨.pass c (.done a), rfl⟩
  | .error f => ⟨.fail c f, rfl⟩

def emit (e : Event) : Apart host (Assembly.emit e) := ⟨.emit e (.done ()), bind_pure _⟩

def resolve (k : Kind) : Apart host (Assembly.resolve k) := ⟨.resolve k .done, bind_pure _⟩

def suppliers {k : List W.Supplier → Assembly W α} (x : ∀ registered, Apart host (k registered)) :
    Apart host ((get : Assembly W (Scene W)) >>= fun s => k s.registry.suppliers) where
  routine := .suppliers fun registered => (x registered).routine
  sound := congrArg _ (funext fun s : Scene W => (x s.registry.suppliers).sound)

def mapM {f : α → Assembly W β} (x : ∀ a, Apart host (f a)) : ∀ as : List α, Apart host (as.mapM f)
  | [] => of List.mapM_nil (pure [])
  | a :: as => of List.mapM_cons ((x a).bind fun b => (mapM x as).bind fun bs => pure (b :: bs))

def forM {f : α → Assembly W Unit} (x : ∀ a, Apart host (f a)) : ∀ as : List α, Apart host (as.forM f)
  | [] => pure ()
  | a :: as => (x a).bind fun _ => forM x as

def runChain (k : Kind) (p : Properties) : ∀ (links : List (Link W)) (value : Artifact W k),
    Apart host (Assembly.runChain host k links p value)
  | [], value => pure value
  | link :: links, value =>
    of (runChain_cons host k link links p value) ((ask (.apply k link p) value).bind (runChain k p links))

end

/-! ## The parts of an assembly -/

section
variable {W : Outside} (host : Host W) (loader : W.Loader) (p : Properties)

def mergeConfigurer (plugin : W.Plugin) : Apart host (Discovery.mergeConfigurer host plugin) where
  routine := .add (.customizer .tracerProvider (.configurer plugin))
    (.emit (.configurerMerged (host.typeName plugin)) (.done ()))
  sound := rfl

def mergeProvider (plugin : W.Plugin) : Apart host (Discovery.mergeProvider host plugin) where
  routine := .ask (.contribute plugin) id fun _ => .emit (.providerApplied (host.typeName plugin)) (.done ())
  sound := rfl

def merge : Apart host (Discovery.merge host loader) :=
  (ask (.load loader Names.tracerProviderConfigurers) ()).bind fun configurers =>
    (forM (mergeConfigurer host) configurers).bind fun _ =>
      (ask (.load loader Names.customizerProviders) ()).bind fun providers => forM (mergeProvider host) providers

def supplied : Apart host (Builder.supplied host) :=
  suppliers fun registered =>
    (mapM (fun supplier => ask (.supply supplier) ()) registered).bind fun sources => pure (Source.layer sources)

def snapshot (b : Builder W) : Apart host (b.snapshot host) :=
  match h : b.properties with
  | some p => of (by rw [Builder.snapshot, h]) (pure p)
  | none => of (by rw [Builder.snapshot, h]) <| (supplied host).bind fun supplied =>
    (ask .environment ()).bind fun environment => pure (.create supplied environment b.processProperties)

def configureResource (chain : List (Link W)) : Apart host (Telemetry.configureResource host chain p) :=
  (check .attributes _).bind fun initial => (runChain .resource p chain (.proper initial)).bind fun _ =>
    (check .resource _).bind fun resource => (emit _).bind fun _ => pure resource

def load (group : String) : Apart host (Selection.load host loader group) :=
  (ask (.load loader group) ()).bind fun plugins =>
    (mapM (fun plugin => (check _ _).bind fun name => pure (name, plugin)) plugins).bind fun named =>
      pure (OrderedMap.ofList named)

def loaded (group : String) : ∀ known : Option (Selection.Table W),
    Apart host (Selection.loaded host loader group known)
  | some table => pure table
  | none => load host loader group

def createExporters {α : Type} (catalogue : ExporterCatalogue W α) :
    ∀ (names : List String) (known : Option (Selection.Table W)),
      Apart host (Telemetry.createExporters host loader catalogue p names known)
  | [], _ => pure []
  | name :: names, known =>
    match h : catalogue.builtin? name with
    | some make => of (by rw [Telemetry.createExporters, h]) <|
      (check (.builtin catalogue.key name) (make p)).bind fun e => (emit _).bind fun _ =>
        (createExporters catalogue names known).bind fun rest => pure ((name, e) :: rest)
    | none => of (by rw [Telemetry.createExporters, h]) <|
      (loaded host loader catalogue.group known).bind fun table => (check _ _).bind fun plugin =>
        (ask (.createExporter plugin p) ()).bind fun e => (emit _).bind fun _ =>
          (createExporters catalogue names (some table)).bind fun rest => pure ((name, catalogue.ofPlugin e) :: rest)

def configureExporters {α : Type} (catalogue : ExporterCatalogue W α) :
    Apart host (Telemetry.configureExporters host loader catalogue p) :=
  (check _ _).bind fun names => (createExporters host loader p catalogue names none).bind fun made =>
    pure (OrderedMap.ofList made)

def configureMeter (resource : Resource) : Apart host (Telemetry.configureMeter host loader resource p) :=
  (check .interval _).bind fun _ => (configureExporters host loader p (exporterCatalogue W .metrics)).bind fun _ =>
    (check .readers _).bind fun readers => (emit _).bind fun _ =>
      pure ({ resource, readers } : MeterProvider W.Exporter)

def customizeExporters (chain : List (Link W)) : ∀ created : List (String × Exporter W.Exporter),
    Apart host (Telemetry.customizeExporters host chain p created)
  | [] => pure []
  | (name, e) :: created => (runChain .spanExporter p chain (.proper e)).bind fun customized =>
    (customizeExporters chain created).bind fun rest => pure ((name, customized) :: rest)

def configureTracer (exporterChain samplerChain : List (Link W)) (settings : Component W .tracerProvider) :
    Apart host (Telemetry.configureTracer host loader p exporterChain samplerChain settings) :=
  (check .sampler _).bind fun initial => (runChain .sampler p samplerChain (.proper initial)).bind fun _ =>
    (configureExporters host loader p (exporterCatalogue W .traces)).bind fun created =>
      (customizeExporters host p exporterChain created.entries).bind fun _ => (check (.processors .traces) _).bind fun _ =>
        (emit _).bind fun _ => pure _

def configureLogger (resource : Resource) : Apart host (Telemetry.configureLogger host loader resource p) :=
  (configureExporters host loader p (exporterCatalogue W .logs)).bind fun _ =>
    (check (.processors .logs) _).bind fun _ => (emit _).bind fun _ => pure _

def createPropagators (chain : List (Link W)) : ∀ (names : List String) (known : Option (Selection.Table W)),
    Apart host (Telemetry.createPropagators host loader chain p names known)
  | [], _ => pure []
  | name :: names, known =>
    match h : Propagator.builtin? name with
    | some builtin => of (by rw [Telemetry.createPropagators, h]) <|
      (check (.builtin Names.propagators name) (.ok builtin)).bind fun made =>
        (runChain .propagator p chain (.proper made)).bind fun customized =>
          (createPropagators chain names known).bind fun rest => pure (customized :: rest)
    | none => of (by rw [Telemetry.createPropagators, h]) <|
      (loaded host loader Names.propagatorPlugins known).bind fun table => (check _ _).bind fun plugin =>
        (ask (.createPropagator plugin p) ()).bind fun made =>
          (runChain .propagator p chain (.proper made)).bind fun customized =>
            (createPropagators chain names (some table)).bind fun rest => pure (customized :: rest)

def configurePropagators (chain : List (Link W)) : Apart host (Telemetry.configurePropagators host loader chain p) :=
  (check _ _).bind fun names => (createPropagators host loader p chain names none).bind fun made =>
    (emit _).bind fun _ => pure made

def assembleFrom : Apart host (Builder.assembleFrom host loader p) :=
  (resolve .resource).bind fun chain => (configureResource host p chain).bind fun resource =>
    (configureMeter host loader p resource).bind fun meter =>
    (resolve .spanExporter).bind fun exporterChain => (resolve .sampler).bind fun samplerChain =>
    (configureTracer host loader p exporterChain samplerChain (.ofResource resource)).bind fun initial =>
    (resolve .tracerProvider).bind fun chain => (runChain .tracerProvider p chain (.proper initial)).bind fun customized =>
    (check .settings (customized.use "build")).bind fun settings =>
    (configureLogger host loader p resource).bind fun logger =>
    (resolve .propagator).bind fun chain => (configurePropagators host loader p chain).bind fun propagators =>
    pure ({ properties := p, resource, meter, tracer := TracerSettings.build settings, logger, propagators } : Bundle W)

def assembling (b : Builder W) : Apart host (b.snapshot host >>= Builder.assembleFrom host b.loader) :=
  (snapshot host b).bind fun p => assembleFrom host b.loader p

end

end Apart

end Telemetry
