import Telemetry.Proofs.Assembly.Stages

/-! # Components one after the other

What the loop over names does, said of its turns. A component comes from what is built in or else from the
plugin of its name, and the plugins are loaded right before the first name that needs one. A propagator also
passes through the links of its chain, before the next name is taken. -/

namespace Telemetry

open Assembly

def Fault.orElse {α : Type} (fault : Option Fault) (made : α) : Except Fault α := fault.elim (.ok made) .error

section
variable {W : Outside} {α β γ : Type} {host : Host W}

/-! ## Turns of actions -/

/-- From every scene an action takes some turns, and these and its result are so related. -/
def Proceeds (host : Host W) (act : Assembly W α) (P : List (Turn W) → Except Fault α → Prop) : Prop :=
  ∀ s, ∃ ts r s', run act s = (r, s') ∧ Leads host s ts s' ∧ P ts r

namespace Proceeds
variable {P : List (Turn W) → Except Fault α → Prop} {R : List (Turn W) → Except Fault β → Prop} {act : Assembly W α}
  {k : α → Assembly W β}

theorem pure {a : α} (h : P [] (.ok a)) : Proceeds host (pure a) P :=
  fun s => ⟨[], .ok a, s, rfl, .none rfl rfl, h⟩

theorem bind (h : Proceeds host act P) (he : ∀ ts f, P ts (.error f) → R ts (.error f))
    (ho : ∀ ts a, P ts (.ok a) → Proceeds host (k a) fun us r => R (ts ++ us) r) : Proceeds host (act >>= k) R := by
  intro s
  obtain ⟨ts, r, s₁, hr, hl, hp⟩ := h s
  cases r with
  | error f => exact ⟨ts, .error f, s₁, run_bind_error hr k, hl, he ts f hp⟩
  | ok a =>
    obtain ⟨us, r, s₂, hr', hl', hq⟩ := ho ts a hp s₁
    exact ⟨ts ++ us, r, s₂, (run_bind_ok hr k).trans hr', hl.append hl', hq⟩

theorem mono {R : List (Turn W) → Except Fault α → Prop} (h : Proceeds host act P) (hR : ∀ ts r, P ts r → R ts r) :
    Proceeds host act R := by
  intro s
  obtain ⟨ts, r, s', hr, hl, hp⟩ := h s
  exact ⟨ts, r, s', hr, hl, hR ts r hp⟩

theorem ran {s : Scene W} {ts : List (Turn W)} (h : Proceeds host act P) (ht : (run act s).2.turns = s.turns ++ ts) :
    P ts (run act s).1 := by
  obtain ⟨us, r, s', hr, hl, hp⟩ := h s
  rw [hr] at ht ⊢
  rwa [List.append_cancel_left (ht.symm.trans hl.turns)]

theorem map {k : α → β} (h : Proceeds host act P) (hR : ∀ ts r, P ts r → R ts (r.map k)) :
    Proceeds host (act >>= fun a => Pure.pure (k a)) R := by
  refine h.bind (fun ts f => hR ts (.error f)) fun ts a hp => pure ?_
  rw [List.append_nil]
  exact hR ts (.ok a) hp

theorem ask {r : Request W} {input : r.Input} {k : r.Answer → Assembly W β}
    (he : ∀ f added, R [.asked r input (.error f) added] (.error f))
    (ho : ∀ answer added, Proceeds host (k answer) fun us b => R (.asked r input (.ok answer) added :: us) b) :
    Proceeds host (Assembly.ask host r input >>= k) R := by
  have h : Proceeds host (Assembly.ask host r input) fun ts answer => ∃ added, ts = [.asked r input answer added] := by
    intro s
    obtain ⟨answer, v, hv, hr⟩ := run_ask host r input s
    exact ⟨_, answer, _, hr, ⟨rfl, .asked hv (.nil _)⟩, v.added, rfl⟩
  refine h.bind ?_ ?_
  · rintro _ f ⟨added, rfl⟩
    exact he f added
  · rintro _ answer ⟨added, rfl⟩
    exact ho answer added

theorem check_ok {c : Check W} {a : α} (h : Proceeds host (k a) fun us b => R (.checked c none :: us) b) :
    Proceeds host (Assembly.check c (.ok a) >>= k) R := by
  intro s
  obtain ⟨us, r, s', hr, hl, hp⟩ := h { s with turns := s.turns ++ [.checked c none] }
  exact ⟨_, r, s', hr, ⟨by rw [hl.turns, List.append_assoc]; rfl, .checked hl.own⟩, hp⟩

theorem check_error {c : Check W} {f : Fault} (h : R [.checked c (some f)] (.error f)) :
    Proceeds host (Assembly.check c (.error f) >>= k) R :=
  fun _ => ⟨_, _, _, rfl, ⟨rfl, .checked (.nil _)⟩, h⟩

theorem check {c : Check W} {result : Except Fault α}
    (he : ∀ f, result = .error f → R [.checked c (some f)] (.error f))
    (ho : ∀ a, result = .ok a → Proceeds host (k a) fun us b => R (.checked c none :: us) b) :
    Proceeds host (Assembly.check c result >>= k) R := by
  cases result with
  | error f => exact check_error (he f rfl)
  | ok a => exact check_ok (ho a rfl)

theorem emit {e : Event} {act : Assembly W β} (h : Proceeds host act R) :
    Proceeds host (Assembly.emit e >>= fun _ => act) R := by
  intro s
  obtain ⟨ts, r, s', hr, hl, hp⟩ := h { s with journal := s.journal ++ [e] }
  exact ⟨ts, r, s', hr, ⟨hl.turns, hl.own⟩, hp⟩

end Proceeds

/-! ## Plugins -/

section
variable (host)

inductive TellsNames : List W.Plugin → List (Turn W) → Except Fault (List (String × W.Plugin)) → Prop
  | done : TellsNames [] [] (.ok [])
  | next {plugin : W.Plugin} {name : String} {plugins : List W.Plugin} {ts : List (Turn W)}
    {r : Except Fault (List (String × W.Plugin))} :
    host.nameOf plugin = .ok name → TellsNames plugins ts r →
      TellsNames (plugin :: plugins) (.checked (.nameOf plugin) none :: ts) (r.map ((name, plugin) :: ·))
  | stop {plugin : W.Plugin} {plugins : List W.Plugin} {f : Fault} :
    host.nameOf plugin = .error f → TellsNames (plugin :: plugins) [.checked (.nameOf plugin) (some f)] (.error f)

variable (loader : W.Loader) (group : String)

inductive Tables : List (Turn W) → Except Fault (Selection.Table W) → Prop
  | refused {f : Fault} {added : List (Addition W)} : Tables [.asked (.load loader group) () (.error f) added] (.error f)
  | loaded {plugins : List W.Plugin} {added : List (Addition W)} {ts : List (Turn W)}
    {r : Except Fault (List (String × W.Plugin))} :
    TellsNames host plugins ts r → Tables (.asked (.load loader group) () (.ok plugins) added :: ts) (r.map .ofList)

theorem proceeds_names : ∀ plugins : List W.Plugin,
    Proceeds host (plugins.mapM fun plugin => do return (← check (.nameOf plugin) (host.nameOf plugin), plugin))
      (TellsNames host plugins)
  | [] => .pure .done
  | plugin :: plugins => by
    rw [List.mapM_cons]
    cases hn : host.nameOf plugin with
    | error f =>
      rw [bind_assoc]
      exact .check_error (.stop hn)
    | ok name =>
      rw [bind_assoc]
      simp only [pure_bind]
      exact .check_ok ((proceeds_names plugins).map fun ts r h => .next hn h)

theorem proceeds_load : Proceeds host (Selection.load host loader group) (Tables host loader group) :=
  .ask (fun _ _ => .refused) fun plugins _ => (proceeds_names host plugins).map fun _ _ h => .loaded h

/-! ## Components -/

namespace Offering
variable {host} (o : Offering W) (native : String → List (Turn W) → Except Fault γ → Prop)
  (foreign : String → W.Plugin → List (Turn W) → Except Fault γ → Prop)

inductive Finds (table : Selection.Table W) (name : String) : List (Turn W) → Except Fault γ → Prop
  | native {ts : List (Turn W)} {r : Except Fault γ} : o.builtin.contains name → native name ts r → Finds table name ts r
  | foreign {plugin : W.Plugin} {ts : List (Turn W)} {r : Except Fault γ} :
    ¬ o.builtin.contains name → table.get? name = some plugin → foreign name plugin ts r →
      Finds table name (.checked (.lookup o.key name) none :: ts) r
  | unknown {f : Fault} :
    ¬ o.builtin.contains name → table.get? name = none → f = .configuration (.unrecognized o.key name) →
      Finds table name [.checked (.lookup o.key name) (some f)] (.error f)

variable (host)

inductive Succeeds : Option (Selection.Table W) → List String → List (Turn W) → List γ → Option Fault → Prop
  | done {known : Option (Selection.Table W)} : Succeeds known [] [] [] none
  | next {known : Option (Selection.Table W)} {name : String} {names : List String} {ts us : List (Turn W)} {x : γ}
    {made : List γ} {fault : Option Fault} :
    known.isSome ∨ o.builtin.contains name → Finds o native foreign (known.getD .empty) name ts (.ok x) →
      Succeeds known names us made fault → Succeeds known (name :: names) (ts ++ us) (x :: made) fault
  | stop {known : Option (Selection.Table W)} {name : String} {names : List String} {ts : List (Turn W)} {f : Fault} :
    known.isSome ∨ o.builtin.contains name → Finds o native foreign (known.getD .empty) name ts (.error f) →
      Succeeds known (name :: names) ts [] (some f)
  | load {name : String} {names : List String} {table : Selection.Table W} {ts us : List (Turn W)} {made : List γ}
    {fault : Option Fault} :
    ¬ o.builtin.contains name → Tables host loader o.group ts (.ok table) →
      Succeeds (some table) (name :: names) us made fault → Succeeds none (name :: names) (ts ++ us) made fault
  | refused {name : String} {names : List String} {ts : List (Turn W)} {f : Fault} :
    ¬ o.builtin.contains name → Tables host loader o.group ts (.error f) → Succeeds none (name :: names) ts [] (some f)

section
variable {host loader o native foreign} {known : Option (Selection.Table W)} {name : String} {names : List String}
  {us : List (Turn W)} {made : List γ} {fault : Option Fault}

theorem Succeeds.reached (h : Succeeds host loader o native foreign known (name :: names) us made fault)
    (hk : known.isSome ∨ o.builtin.contains name) :
    (∃ ts us' x made', us = ts ++ us' ∧ made = x :: made' ∧ Finds o native foreign (known.getD .empty) name ts (.ok x) ∧
      Succeeds host loader o native foreign known names us' made' fault) ∨
    ∃ f, made = [] ∧ fault = some f ∧ Finds o native foreign (known.getD .empty) name us (.error f) := by
  cases h with
  | next _ hx hs => exact .inl ⟨_, _, _, _, rfl, rfl, hx, hs⟩
  | stop _ hx => exact .inr ⟨_, rfl, rfl, hx⟩
  | load hb => exact absurd (hk.resolve_left Bool.false_ne_true) hb
  | refused hb => exact absurd (hk.resolve_left Bool.false_ne_true) hb

theorem Succeeds.unloaded (h : Succeeds host loader o native foreign none (name :: names) us made fault)
    (hb : ¬ o.builtin.contains name) :
    (∃ ts us' table, us = ts ++ us' ∧ Tables host loader o.group ts (.ok table) ∧
      Succeeds host loader o native foreign (some table) (name :: names) us' made fault) ∨
    ∃ f, made = [] ∧ fault = some f ∧ Tables host loader o.group us (.error f) := by
  cases h with
  | next hk => exact absurd (hk.resolve_left Bool.false_ne_true) hb
  | stop hk => exact absurd (hk.resolve_left Bool.false_ne_true) hb
  | load _ ht hs => exact .inl ⟨_, _, _, rfl, ht, hs⟩
  | refused _ ht => exact .inr ⟨_, rfl, rfl, ht⟩

end

section
variable {β : Type} (view : γ → β)

def Creates (known : Option (Selection.Table W)) (names : List String) (ts : List (Turn W))
    (r : Except Fault (List β)) : Prop :=
  ∃ made fault, r = Fault.orElse fault (made.map view) ∧ Succeeds host loader o native foreign known names ts made fault

variable (native' : String → Assembly W β) (foreign' : String → W.Plugin → Assembly W β)

def createOne (table : Selection.Table W) (name : String) : Assembly W β :=
  if o.builtin.contains name then native' name
  else do
    let plugin ← check (.lookup o.key name) (Selection.plugin table o.key name)
    foreign' name plugin

theorem creating_next {known : Option (Selection.Table W)} {name : String}
    (h : known.isSome ∨ o.builtin.contains name) (names : List String) :
    creating host loader o native' foreign' (name :: names) known = (do
      let x ← createOne o native' foreign' (known.getD .empty) name
      return x :: (← creating host loader o native' foreign' names known)) := by
  by_cases hb : o.builtin.contains name
  · rw [creating_builtin host loader o native' foreign' hb, createOne, if_pos hb]
  · obtain ⟨table, rfl⟩ := Option.isSome_iff_exists.mp (h.resolve_right hb)
    simp only [creating, createOne, if_neg hb, Selection.loaded, Option.getD_some, bind_assoc, pure_bind]

variable {host loader o native foreign view native' foreign'}
  (hn : ∀ name, o.builtin.contains name →
    Proceeds host (native' name) fun ts r => ∃ r', r = r'.map view ∧ native name ts r')
  (hf : ∀ name plugin,
    Proceeds host (foreign' name plugin) fun ts r => ∃ r', r = r'.map view ∧ foreign name plugin ts r')
include hn hf

theorem proceeds_createOne (table : Selection.Table W) (name : String) :
    Proceeds host (createOne o native' foreign' table name) fun ts r =>
      ∃ r', r = r'.map view ∧ Finds o native foreign table name ts r' := by
  unfold createOne
  by_cases hb : o.builtin.contains name
  · rw [if_pos hb]
    refine (hn name hb).mono fun ts r h => ?_
    obtain ⟨r', hr, h⟩ := h
    exact ⟨r', hr, .native hb h⟩
  · rw [if_neg hb, Selection.plugin]
    cases hg : table.get? name with
    | none => exact .check_error ⟨.error _, rfl, .unknown hb hg rfl⟩
    | some plugin =>
      refine .check_ok ((hf name plugin).mono fun ts r h => ?_)
      obtain ⟨r', hr, h⟩ := h
      exact ⟨r', hr, .foreign hb hg h⟩

theorem proceeds_next {known : Option (Selection.Table W)} (name : String) {names : List String}
    (hk : known.isSome ∨ o.builtin.contains name)
    (ih : Proceeds host (creating host loader o native' foreign' names known)
      (Creates host loader o native foreign view known names)) :
    Proceeds host (creating host loader o native' foreign' (name :: names) known)
      (Creates host loader o native foreign view known (name :: names)) := by
  rw [creating_next host loader o native' foreign' hk]
  refine (proceeds_createOne hn hf _ name).bind ?_ ?_
  · rintro ts f ⟨r', hr, h⟩
    cases r' with
    | ok x => cases hr
    | error g =>
      cases hr
      exact ⟨[], some _, rfl, .stop hk h⟩
  · rintro ts x ⟨r', hr, h⟩
    cases r' with
    | error f => cases hr
    | ok x =>
      cases hr
      refine ih.map fun us r => ?_
      rintro ⟨made, fault, rfl, hs⟩
      refine ⟨x :: made, fault, ?_, .next hk h hs⟩
      cases fault <;> rfl

theorem proceeds_creating : ∀ (names : List String) (known : Option (Selection.Table W)),
    Proceeds host (creating host loader o native' foreign' names known)
      (Creates host loader o native foreign view known names)
  | [], _ => .pure ⟨[], none, rfl, .done⟩
  | name :: names, some table => proceeds_next hn hf name (.inl rfl) (proceeds_creating names (some table))
  | name :: names, none => by
    by_cases hb : o.builtin.contains name
    · exact proceeds_next hn hf name (.inr hb) (proceeds_creating names none)
    · rw [creating_load host loader o native' foreign' hb]
      refine (proceeds_load host loader o.group).bind ?_ ?_
      · exact fun ts f h => ⟨[], some f, rfl, .refused hb h⟩
      · intro ts table h
        have hs := proceeds_next hn hf name (.inl rfl) (proceeds_creating names (some table))
        exact hs.mono fun us r ⟨made, fault, hr, hs⟩ => ⟨made, fault, hr, .load hb h hs⟩

end

end Offering

end

/-! ## Propagators -/

inductive Passes {k : Kind} (p : Properties) :
    List (Link W) → Artifact W k → List (Turn W) → Except Fault (Artifact W k) → Prop
  | done {v : Artifact W k} : Passes p [] v [] (.ok v)
  | next {link : Link W} {links : List (Link W)} {v v' : Artifact W k} {added : List (Addition W)} {ts : List (Turn W)}
    {r : Except Fault (Artifact W k)} :
    Passes p links v' ts r → Passes p (link :: links) v (.asked (.apply k link p) v (.ok v') added :: ts) r
  | stop {link : Link W} {links : List (Link W)} {v : Artifact W k} {f : Fault} {added : List (Addition W)} :
    Passes p (link :: links) v [.asked (.apply k link p) v (.error f) added] (.error f)

theorem proceeds_runChain (k : Kind) (p : Properties) : ∀ (links : List (Link W)) (v : Artifact W k),
    Proceeds host (runChain host k links p v) (Passes p links v)
  | [], _ => .pure .done
  | link :: links, v => by
    rw [runChain_cons]
    exact .ask (fun _ _ => .stop) fun v' _ => (proceeds_runChain k p links v').mono fun _ _ h => .next h

structure Segment (W : Outside) where
  name : String
  propagator : Propagator
  creation : Turn W
  pass : List (Turn W)
  image : Artifact W .propagator

namespace Segment

def turns (seg : Segment W) : List (Turn W) := seg.creation :: seg.pass

section
variable (chain : List (Link W)) (p : Properties)

inductive Follows (name : String) (q : Propagator) (creation : Turn W) : List (Turn W) → Except Fault (Segment W) → Prop
  | intro {us : List (Turn W)} {r : Except Fault (Artifact W .propagator)} :
    Passes p chain (.proper q) us r →
      Follows name q creation (creation :: us) (r.map fun image => ⟨name, q, creation, us, image⟩)

inductive Native (name : String) : List (Turn W) → Except Fault (Segment W) → Prop
  | intro {q : Propagator} {ts : List (Turn W)} {r : Except Fault (Segment W)} :
    Propagator.builtin? name = some q → Follows chain p name q (.checked (.builtin Names.propagators name) none) ts r →
      Native name ts r

inductive Foreign (name : String) (plugin : W.Plugin) : List (Turn W) → Except Fault (Segment W) → Prop
  | refused {f : Fault} {added : List (Addition W)} :
    Foreign name plugin [.asked (.createPropagator plugin p) () (.error f) added] (.error f)
  | created {q : Propagator} {added : List (Addition W)} {ts : List (Turn W)} {r : Except Fault (Segment W)} :
    Follows chain p name q (.asked (.createPropagator plugin p) () (.ok q) added) ts r → Foreign name plugin ts r

abbrev Succeeds (host : Host W) (loader : W.Loader) :=
  Offering.Succeeds host loader .propagators (Native chain p) (Foreign chain p)

theorem proceeds_createPropagators (loader : W.Loader) (names : List String) :
    Proceeds host (createPropagators host loader chain p names none) fun ts r => ∃ made fault,
      r = Fault.orElse fault (made.map image) ∧ Succeeds chain p host loader none names ts made fault := by
  have hpass : ∀ name q (creation : Turn W), Proceeds host (runChain host .propagator chain p (.proper q)) fun us r =>
      ∃ r', r = r'.map image ∧ Follows chain p name q creation (creation :: us) r' := by
    intro name q creation
    refine (proceeds_runChain .propagator p chain (.proper q)).mono fun us r h => ⟨_, ?_, .intro h⟩
    cases r <;> rfl
  rw [createPropagators_eq]
  refine Offering.proceeds_creating (fun name hb => ?_) (fun name plugin => ?_) names none
  · rw [propagators_builtin] at hb
    obtain ⟨q, hq⟩ := Option.isSome_iff_exists.mp hb
    unfold nativePropagator
    rw [hq]
    exact .check_ok ((hpass name q _).mono fun us r ⟨r', hr, h⟩ => ⟨r', hr, .intro hq h⟩)
  · refine .ask (fun f added => ⟨.error f, rfl, .refused⟩) fun q added => ?_
    exact (hpass name q _).mono fun us r ⟨r', hr, h⟩ => ⟨r', hr, .created h⟩

theorem proceeds_configurePropagators (loader : W.Loader) :
    Proceeds host (configurePropagators host loader chain p) fun ts r =>
      let chosen := Selection.names p Names.propagators "propagators" Names.defaultPropagators
      (∃ f, chosen = .error f ∧ ts = [.checked (.names Names.propagators) (some f)] ∧ r = .error f) ∨
        ∃ names us made fault, chosen = .ok names ∧ ts = .checked (.names Names.propagators) none :: us ∧
          r = Fault.orElse fault (made.map image) ∧ Succeeds chain p host loader none names us made fault := by
  refine .check (fun f hn => .inl ⟨f, hn, rfl, rfl⟩) fun names hn => ?_
  refine (proceeds_createPropagators chain p loader names).bind ?_ ?_
  · exact fun us f ⟨made, fault, hr, hs⟩ => .inr ⟨names, us, made, fault, hn, rfl, hr, hs⟩
  · refine fun us images ⟨made, fault, hr, hs⟩ => .emit (.pure (.inr ?_))
    rw [List.append_nil]
    exact ⟨names, us, made, fault, hn, rfl, hr, hs⟩

end

end Segment

end

end Telemetry
