import Telemetry.Proofs.Assembly.Merge
import Telemetry.Proofs.Assembly.Succession

/-! # What names choose

A component comes from the table of those that are built in, or else from the last plugin with its name;
the plugins are loaded when the first name is reached that is not built in. Names are taken in order, and
what has been created when one fails is what the names before it stand for. -/

namespace Telemetry

open Assembly

inductive Maker (W : Outside)
  | builtin (name : String)
  | plugin (plugin : W.Plugin)

def Turn.maker? {W : Outside} : Turn W → Option (Maker W)
  | .checked (.builtin _ name) none => some (.builtin name)
  | .asked (.createExporter plugin _) _ (.ok _) _ => some (.plugin plugin)
  | _ => none

section
variable {W : Outside} {α : Type} (host : Host W) (loader : W.Loader) (catalogue : ExporterCatalogue W α)
  (p : Properties)

namespace ExporterCatalogue

def maker? (plugins : List W.Plugin) (name : String) : Option (Maker W) :=
  if (catalogue.builtin? name).isSome then some (.builtin name)
  else (Offering.pluginNamed host plugins name).map .plugin

/-! ## Steps -/

/-- Loading a group asks for its plugins, and then each for its name, up to the first without one. -/
inductive Loads (group : String) : List (Turn W) → Except Fault (List W.Plugin) → Prop
  | refused {f : Fault} {added : List (Addition W)} :
    Loads group [.asked (.load loader group) () (.error f) added] (.error f)
  | nameless {before after : List W.Plugin} {plugin : W.Plugin} {f : Fault} {added : List (Addition W)} :
    host.nameOf plugin = .error f →
      Loads group (.asked (.load loader group) () (.ok (before ++ plugin :: after)) added ::
        before.map (fun q => .checked (.nameOf q) none) ++ [.checked (.nameOf plugin) (some f)]) (.error f)
  | loaded {plugins : List W.Plugin} {added : List (Addition W)} :
    Loads group (.asked (.load loader group) () (.ok plugins) added ::
      plugins.map fun q => .checked (.nameOf q) none) (.ok plugins)

/-- The exporter of one name, created from what is built in or else from these plugins. -/
inductive Creates (plugins : List W.Plugin) (name : String) : List (Turn W) → Except Fault α → Prop
  | builtin {make : Properties → Except Fault α} {x : α} :
    catalogue.builtin? name = some make → make p = .ok x →
      Creates plugins name [.checked (.builtin catalogue.key name) none] (.ok x)
  | spoilt {make : Properties → Except Fault α} {f : Fault} :
    catalogue.builtin? name = some make → make p = .error f →
      Creates plugins name [.checked (.builtin catalogue.key name) (some f)] (.error f)
  | plugin {plugin : W.Plugin} {answer : Except Fault (Exporter W.Exporter)} {added : List (Addition W)} :
    catalogue.builtin? name = none → Offering.pluginNamed host plugins name = some plugin →
      Creates plugins name [.checked (.lookup catalogue.key name) none,
        .asked (.createExporter plugin p) () answer added] (answer.map catalogue.ofPlugin)
  | unknown {f : Fault} :
    catalogue.builtin? name = none → Offering.pluginNamed host plugins name = none →
      f = .configuration (.unrecognized catalogue.key name) →
      Creates plugins name [.checked (.lookup catalogue.key name) (some f)] (.error f)

/-- Names are taken in order, with plugins that are loaded or are still to be; what has been made stands with
its names, and there may be a fault that ended it. -/
inductive Selects : Option (List W.Plugin) → List String → List (Turn W) → List (String × α) → Option Fault → Prop
  | done {known : Option (List W.Plugin)} : Selects known [] [] [] none
  | next {known : Option (List W.Plugin)} {name : String} {names : List String} {ts us : List (Turn W)} {x : α}
    {made : List (String × α)} {fault : Option Fault} :
    known.isSome ∨ (catalogue.builtin? name).isSome → Creates host catalogue p (known.getD []) name ts (.ok x) →
      Selects known names us made fault → Selects known (name :: names) (ts ++ us) ((name, x) :: made) fault
  | stop {known : Option (List W.Plugin)} {name : String} {names : List String} {ts : List (Turn W)} {f : Fault} :
    known.isSome ∨ (catalogue.builtin? name).isSome → Creates host catalogue p (known.getD []) name ts (.error f) →
      Selects known (name :: names) ts [] (some f)
  | load {name : String} {names : List String} {plugins : List W.Plugin} {ts us : List (Turn W)}
    {made : List (String × α)} {fault : Option Fault} :
    catalogue.builtin? name = none → Loads host loader catalogue.group ts (.ok plugins) →
      Selects (some plugins) (name :: names) us made fault → Selects none (name :: names) (ts ++ us) made fault
  | refused {name : String} {names : List String} {ts : List (Turn W)} {f : Fault} :
    catalogue.builtin? name = none → Loads host loader catalogue.group ts (.error f) →
      Selects none (name :: names) ts [] (some f)

/-! ## Running -/

theorem run_check_ok (c : Check W) (a : α) (s : Scene W) :
    run (check c (.ok a)) s = (.ok a, { s with turns := s.turns ++ [.checked c none] }) := rfl

theorem run_names : ∀ (plugins : List W.Plugin) (s : Scene W),
    let names : Assembly W (List (String × W.Plugin)) := plugins.mapM fun plugin => do
      return (← check (.nameOf plugin) (host.nameOf plugin), plugin)
    (∃ named s', run names s = (.ok named, s') ∧ Named host plugins named ∧
      Leads host s (plugins.map fun q => .checked (.nameOf q) none) s') ∨
    ∃ before plugin after f s', plugins = before ++ plugin :: after ∧ host.nameOf plugin = .error f ∧
      run names s = (.error f, s') ∧
      Leads host s (before.map (fun q => .checked (.nameOf q) none) ++ [.checked (.nameOf plugin) (some f)]) s'
  | [], s => .inl ⟨[], s, rfl, .nil, .none rfl rfl⟩
  | plugin :: plugins, s => by
    simp only [List.mapM_cons]
    cases hn : host.nameOf plugin with
    | error f =>
      refine .inr ⟨[], plugin, plugins, f, _, rfl, hn, run_bind_error rfl _, ⟨rfl, .checked (.nil _)⟩⟩
    | ok name =>
      have hl : Leads host s [.checked (.nameOf plugin) none]
          { s with turns := s.turns ++ [.checked (.nameOf plugin) none] } := ⟨rfl, .checked (.nil _)⟩
      rw [run_bind_ok (run_bind_ok (run_check_ok _ name s) _)]
      rcases run_names plugins { s with turns := s.turns ++ [.checked (.nameOf plugin) none] } with
        ⟨named, s', hr, hnamed, h⟩ | ⟨before, q, after, f, s', rfl, hq, hr, h⟩
      · exact .inl ⟨(name, plugin) :: named, s', run_bind_ok hr _, .cons ⟨hn, rfl⟩ hnamed, hl.append h⟩
      · exact .inr ⟨plugin :: before, q, after, f, s', rfl, hq, run_bind_error hr _, hl.append h⟩

theorem run_load (group : String) (s : Scene W) : ∃ ts s', Leads host s ts s' ∧
    ((∃ f, run (Selection.load host loader group) s = (.error f, s') ∧ Loads host loader group ts (.error f)) ∨
      ∃ table plugins, run (Selection.load host loader group) s = (.ok table, s') ∧
        Loads host loader group ts (.ok plugins) ∧ Tabulates host table plugins) := by
  obtain ⟨answer, v, hv, hr⟩ := run_ask host (.load loader group) () s
  have hl : Leads host s [.asked (.load loader group) () answer v.added]
      ⟨v.own, s.registry.extend v.added, s.journal ++ v.events,
        s.turns ++ [.asked (.load loader group) () answer v.added]⟩ := ⟨rfl, .asked hv (.nil _)⟩
  unfold Selection.load
  cases answer with
  | error f => exact ⟨_, _, hl, .inl ⟨f, run_bind_error hr _, .refused⟩⟩
  | ok plugins =>
    rw [run_bind_ok hr]
    rcases run_names host plugins _ with ⟨named, s', hr', hnamed, h⟩ | ⟨before, q, after, f, s', rfl, hq, hr', h⟩
    · exact ⟨_, s', hl.append h, .inr ⟨.ofList named, plugins, run_bind_ok hr' _, .loaded, hnamed.tabulates⟩⟩
    · exact ⟨_, s', hl.append h, .inl ⟨f, run_bind_error hr' _, .nameless hq⟩⟩

def createExporter (table : Selection.Table W) (name : String) : Assembly W α :=
  match catalogue.builtin? name with
  | some make => do
    let e ← check (.builtin catalogue.key name) (make p)
    emit (.exporterConfigured catalogue.key name)
    return e
  | none => do
    let plugin ← check (.lookup catalogue.key name) (Selection.plugin table catalogue.key name)
    let e ← ask host (.createExporter plugin p) ()
    emit (.exporterConfigured catalogue.key name)
    return catalogue.ofPlugin e

theorem run_createExporter {table : Selection.Table W} {plugins : List W.Plugin} (ht : Tabulates host table plugins)
    (name : String) (s : Scene W) : ∃ ts r s', run (createExporter host catalogue p table name) s = (r, s') ∧
      Leads host s ts s' ∧ Creates host catalogue p plugins name ts r := by
  unfold createExporter
  cases hb : catalogue.builtin? name with
  | some make =>
    simp only
    cases hm : make p with
    | ok x => exact ⟨_, .ok x, _, rfl, ⟨rfl, .checked (.nil _)⟩, .builtin hb hm⟩
    | error f => exact ⟨_, .error f, _, rfl, ⟨rfl, .checked (.nil _)⟩, .spoilt hb hm⟩
  | none =>
    simp only [Selection.plugin, ht name]
    cases hp : Offering.pluginNamed host plugins name with
    | none => exact ⟨_, .error _, _, rfl, ⟨rfl, .checked (.nil _)⟩, .unknown hb hp rfl⟩
    | some plugin =>
      rw [run_bind_ok (run_check_ok _ plugin s)]
      obtain ⟨answer, v, hv, hr⟩ := run_ask host (.createExporter plugin p) ()
        { s with turns := s.turns ++ [.checked (.lookup catalogue.key name) none] }
      have hl : Conversed host s.own [.checked (.lookup catalogue.key name) none,
        .asked (.createExporter plugin p) () answer v.added] v.own := .checked (.asked hv (.nil _))
      cases answer with
      | error f =>
        exact ⟨_, .error f, _, run_bind_error hr _, ⟨List.append_assoc .., hl⟩, .plugin hb hp⟩
      | ok e =>
        exact ⟨_, .ok (catalogue.ofPlugin e), _, run_bind_ok hr _, ⟨List.append_assoc .., hl⟩, .plugin hb hp⟩

theorem createExporters_next {known : Option (Selection.Table W)} {name : String}
    (h : known.isSome ∨ (catalogue.builtin? name).isSome) (names : List String) :
    createExporters host loader catalogue p (name :: names) known = (do
      let x ← createExporter host catalogue p (known.getD .empty) name
      return (name, x) :: (← createExporters host loader catalogue p names known)) := by
  rw [createExporters, createExporter]
  cases hb : catalogue.builtin? name with
  | some make => simp only [bind_assoc, pure_bind]
  | none =>
    cases known with
    | none => simp [hb] at h
    | some table => simp only [Selection.loaded, Option.getD_some, bind_assoc, pure_bind]

theorem createExporters_load {name : String} (h : catalogue.builtin? name = none) (names : List String) :
    createExporters host loader catalogue p (name :: names) none =
      Selection.load host loader catalogue.group >>= fun table =>
        createExporters host loader catalogue p (name :: names) (some table) := by
  simp only [createExporters, h, Selection.loaded, pure_bind]

def outcome (made : List (String × α)) (fault : Option Fault) : Except Fault (List (String × α)) :=
  fault.elim (.ok made) .error

def RunsAsSelected (names : List String) (known : Option (Selection.Table W)) (plugins : Option (List W.Plugin))
    (s : Scene W) : Prop :=
  ∃ ts made fault s', run (createExporters host loader catalogue p names known) s = (outcome made fault, s') ∧
    Leads host s ts s' ∧ Selects host loader catalogue p plugins names ts made fault

theorem runsAsSelected_next {names : List String} {known : Option (Selection.Table W)}
    {plugins : Option (List W.Plugin)} (ht : Option.Rel (Tabulates host) known plugins)
    (ih : ∀ s, RunsAsSelected host loader catalogue p names known plugins s) {name : String}
    (hb : known.isSome ∨ (catalogue.builtin? name).isSome) (s : Scene W) :
    RunsAsSelected host loader catalogue p (name :: names) known plugins s := by
  have ht' : Tabulates host (known.getD .empty) (plugins.getD []) := by
    cases ht with
    | none => exact fun _ => rfl
    | some h => exact h
  have hb' : plugins.isSome ∨ (catalogue.builtin? name).isSome := by
    cases ht with
    | none => exact hb
    | some _ => exact .inl rfl
  obtain ⟨ts, r, s₁, hr, hl, hc⟩ := run_createExporter host catalogue p ht' name s
  unfold RunsAsSelected
  rw [createExporters_next host loader catalogue p hb]
  cases r with
  | error f => exact ⟨ts, [], some f, s₁, run_bind_error hr _, hl, .stop hb' hc⟩
  | ok x =>
    obtain ⟨us, made, fault, s₂, hr', hl', hs⟩ := ih s₁
    refine ⟨ts ++ us, (name, x) :: made, fault, s₂, ?_, hl.append hl', .next hb' hc hs⟩
    rw [run_bind_ok hr]
    cases fault with
    | none => exact run_bind_ok hr' _
    | some f => exact run_bind_error hr' _

theorem runsAsSelected (names : List String) : ∀ {known : Option (Selection.Table W)}
    {plugins : Option (List W.Plugin)}, Option.Rel (Tabulates host) known plugins →
    ∀ s, RunsAsSelected host loader catalogue p names known plugins s := by
  induction names with
  | nil => exact fun _ s => ⟨[], [], none, s, rfl, .none rfl rfl, .done⟩
  | cons name names ih =>
    intro known plugins ht s
    cases ht with
    | some h => exact runsAsSelected_next host loader catalogue p (.some h) (ih (.some h)) (.inl rfl) s
    | none =>
      cases hb : catalogue.builtin? name with
      | some make =>
        exact runsAsSelected_next host loader catalogue p .none (ih .none) (.inr (by rw [hb]; rfl)) s
      | none =>
        -- This name has the plugins loaded, and is then taken up with the table of their names.
        obtain ⟨ts, s₁, hl, ⟨f, hr, hload⟩ | ⟨table, plugins, hr, hload, h⟩⟩ := run_load host loader catalogue.group s
        · refine ⟨ts, [], some f, s₁, ?_, hl, .refused hb hload⟩
          rw [createExporters_load host loader catalogue p hb]
          exact run_bind_error hr _
        · obtain ⟨us, made, fault, s₂, hr', hl', hs⟩ :=
            runsAsSelected_next host loader catalogue p (.some h) (ih (.some h)) (.inl rfl) s₁
          refine ⟨ts ++ us, made, fault, s₂, ?_, hl.append hl', .load hb hload hs⟩
          rw [createExporters_load host loader catalogue p hb, run_bind_ok hr]
          exact hr'

theorem proceeds_configureExporters : Proceeds host (configureExporters host loader catalogue p) fun ts r =>
    let chosen := Selection.names p catalogue.key "exporters" [catalogue.default]
    (∃ f, chosen = .error f ∧ ts = [.checked (.names catalogue.key) (some f)] ∧ r = .error f) ∨
      ∃ names us made fault, chosen = .ok names ∧ ts = .checked (.names catalogue.key) none :: us ∧
        r = (outcome made fault).map .ofList ∧ Selects host loader catalogue p none names us made fault := by
  refine .check (fun f hn => .inl ⟨f, hn, rfl, rfl⟩) fun names hn => ?_
  have h : Proceeds host (createExporters host loader catalogue p names none) fun us r =>
      ∃ made fault, r = outcome made fault ∧ Selects host loader catalogue p none names us made fault := by
    intro s
    obtain ⟨us, made, fault, s', hr, hl, hs⟩ := runsAsSelected host loader catalogue p names .none s
    exact ⟨us, _, s', hr, hl, made, fault, rfl, hs⟩
  exact h.map fun us r ⟨made, fault, hr, hs⟩ => .inr ⟨names, us, made, fault, hn, rfl, congrArg _ hr, hs⟩

/-! ## What was loaded and made -/

variable {host loader catalogue p} {group : String} {plugins : List W.Plugin} {known : Option (List W.Plugin)}
  {name : String} {names : List String} {ts : List (Turn W)} {x : α} {made : List (String × α)} {f : Fault}
  {fault : Option Fault}

theorem countP_nameOf (plugins : List W.Plugin) :
    (plugins.map fun q => (.checked (.nameOf q) none : Turn W)).countP (Turn.loads group) = 0 := by
  rw [List.countP_map, List.countP_eq_zero]
  exact fun _ _ => Bool.false_ne_true

theorem found_nameOf (plugins : List W.Plugin) :
    (plugins.map fun q => (.checked (.nameOf q) none : Turn W)).flatMap Turn.found = [] := by
  rw [List.flatMap_map, List.flatMap_eq_nil_iff]
  exact fun _ _ => rfl

theorem makers_nameOf (plugins : List W.Plugin) :
    (plugins.map fun q => (.checked (.nameOf q) none : Turn W)).filterMap Turn.maker? = [] := by
  rw [List.filterMap_map, List.filterMap_eq_nil_iff]
  exact fun _ _ => rfl

theorem Loads.found (h : Loads host loader group ts (.ok plugins)) : ts.flatMap Turn.found = plugins := by
  cases h with
  | loaded =>
    rw [List.flatMap_cons, found_nameOf, List.append_nil]
    rfl

theorem Loads.countP {r : Except Fault (List W.Plugin)} (h : Loads host loader group ts r) :
    ts.countP (Turn.loads group) = 1 := by
  have hload : ∀ answer added, (.asked (.load loader group) () answer added : Turn W).loads group = true :=
    fun _ _ => beq_self_eq_true group
  cases h with
  | refused => rw [List.countP_singleton, hload, if_pos rfl]
  | nameless =>
    rw [List.cons_append, List.countP_cons_of_pos (hload ..), List.countP_append, countP_nameOf]
    rfl
  | loaded => rw [List.countP_cons_of_pos (hload ..), countP_nameOf]

theorem Loads.makers {r : Except Fault (List W.Plugin)} (h : Loads host loader group ts r) :
    ts.filterMap Turn.maker? = [] := by
  cases h with
  | refused => rfl
  | nameless =>
    rw [List.cons_append, List.filterMap_cons_none rfl, List.filterMap_append, makers_nameOf]
    rfl
  | loaded => rw [List.filterMap_cons_none rfl, makers_nameOf]

theorem Creates.found {r : Except Fault α} (h : Creates host catalogue p plugins name ts r) :
    ts.flatMap Turn.found = [] := by
  cases h <;> rfl

theorem Creates.countP {r : Except Fault α} (h : Creates host catalogue p plugins name ts r) :
    ts.countP (Turn.loads group) = 0 := by
  cases h <;> rfl

theorem Creates.makers_error (h : Creates host catalogue p plugins name ts (.error f)) :
    ts.filterMap Turn.maker? = [] := by
  generalize hr : (Except.error f : Except Fault α) = r at h
  cases h with
  | builtin => cases hr
  | spoilt => rfl
  | @plugin plugin answer added =>
    cases answer with
    | ok e => cases hr
    | error g => rfl
  | unknown => rfl

theorem Creates.makers_ok (h : Creates host catalogue p plugins name ts (.ok x)) :
    ∃ maker, catalogue.maker? host plugins name = some maker ∧ ts.filterMap Turn.maker? = [maker] := by
  unfold maker?
  generalize hr : (Except.ok x : Except Fault α) = r at h
  cases h with
  | builtin hb => exact ⟨.builtin name, by rw [hb, if_pos Option.isSome_some], rfl⟩
  | spoilt => cases hr
  | @plugin plugin answer added hb hp =>
    cases answer with
    | ok e => exact ⟨.plugin plugin, by rw [hb, hp]; rfl, rfl⟩
    | error g => cases hr
  | unknown => cases hr

theorem maker?_builtin (h : (catalogue.builtin? name).isSome) (plugins : List W.Plugin) :
    catalogue.maker? host plugins name = some (.builtin name) := by
  rw [maker?, if_pos h]

/-! ## What came of the names -/

section
variable (host catalogue p) (plugins : List W.Plugin) (ts : List (Turn W)) (name : String)

inductive Yields : α → Prop
  | builtin {make : Properties → Except Fault α} {x : α} :
    catalogue.builtin? name = some make → make p = .ok x → Yields x
  | plugin {plugin : W.Plugin} {e : Exporter W.Exporter} {added : List (Addition W)} :
    catalogue.builtin? name = none → Offering.pluginNamed host plugins name = some plugin →
      .asked (.createExporter plugin p) () (.ok e) added ∈ ts → Yields (catalogue.ofPlugin e)

variable (loader)

inductive Blocks : Fault → Prop
  | builtin {make : Properties → Except Fault α} {f : Fault} :
    catalogue.builtin? name = some make → make p = .error f → .checked (.builtin catalogue.key name) (some f) ∈ ts →
      Blocks f
  | load {f : Fault} {added : List (Addition W)} :
    catalogue.builtin? name = none → .asked (.load loader catalogue.group) () (.error f) added ∈ ts → Blocks f
  | nameless {plugin : W.Plugin} {f : Fault} :
    catalogue.builtin? name = none → plugin ∈ plugins → host.nameOf plugin = .error f →
      .checked (.nameOf plugin) (some f) ∈ ts → Blocks f
  | unknown {f : Fault} :
    catalogue.maker? host plugins name = none → f = .configuration (.unrecognized catalogue.key name) →
      .checked (.lookup catalogue.key name) (some f) ∈ ts → Blocks f
  | plugin {plugin : W.Plugin} {f : Fault} {added : List (Addition W)} :
    catalogue.builtin? name = none → Offering.pluginNamed host plugins name = some plugin →
      .asked (.createExporter plugin p) () (.error f) added ∈ ts → Blocks f

end

theorem Creates.yields (h : Creates host catalogue p plugins name ts (.ok x)) :
    Yields host catalogue p plugins ts name x := by
  generalize hr : (Except.ok x : Except Fault α) = r at h
  cases h with
  | builtin hb hm =>
    cases hr
    exact .builtin hb hm
  | spoilt => cases hr
  | @plugin plugin answer added hb hp =>
    cases answer with
    | ok e =>
      cases hr
      exact .plugin hb hp (List.mem_cons_of_mem _ List.mem_cons_self)
    | error g => cases hr
  | unknown => cases hr

theorem Creates.blocks (h : Creates host catalogue p plugins name ts (.error f)) :
    Blocks host loader catalogue p plugins ts name f := by
  generalize hr : (Except.error f : Except Fault α) = r at h
  cases h with
  | builtin => cases hr
  | spoilt hb hm =>
    cases hr
    exact .builtin hb hm List.mem_cons_self
  | @plugin plugin answer added hb hp =>
    cases answer with
    | ok e => cases hr
    | error g =>
      cases hr
      exact .plugin hb hp (List.mem_cons_of_mem _ List.mem_cons_self)
  | unknown hb hp hf =>
    cases hr
    refine .unknown ?_ hf List.mem_cons_self
    rw [maker?, hb, hp]
    rfl

theorem Loads.blocks (hb : catalogue.builtin? name = none)
    (h : Loads host loader catalogue.group ts (.error f)) :
    Blocks host loader catalogue p (ts.flatMap Turn.found) ts name f := by
  cases h with
  | refused => exact .load hb List.mem_cons_self
  | @nameless before after plugin _ added hn =>
    refine .nameless hb ?_ hn (List.mem_append_right _ List.mem_cons_self)
    refine List.mem_flatMap.mpr ⟨_, List.mem_append_left _ List.mem_cons_self, ?_⟩
    exact List.mem_append_right _ List.mem_cons_self

section
variable {plugins' : List W.Plugin} {us : List (Turn W)}
  (hp : plugins' = plugins ∨ (catalogue.builtin? name).isSome)
include hp

theorem maker?_of_settled : catalogue.maker? host plugins' name = catalogue.maker? host plugins name := by
  rcases hp with rfl | hb
  · rfl
  · rw [maker?_builtin hb, maker?_builtin hb]

theorem Yields.mono (h : Yields host catalogue p plugins ts name x) (hs : ts ⊆ us) :
    Yields host catalogue p plugins' us name x := by
  cases h with
  | builtin hb hm => exact .builtin hb hm
  | plugin hb hn ha =>
    rcases hp with rfl | hb'
    · exact .plugin hb hn (hs ha)
    · rw [hb] at hb'
      cases hb'

end

theorem Blocks.mono {us : List (Turn W)} (h : Blocks host loader catalogue p plugins ts name f) (hs : ts ⊆ us) :
    Blocks host loader catalogue p plugins us name f := by
  cases h with
  | builtin hb hm ht => exact .builtin hb hm (hs ht)
  | load hb ht => exact .load hb (hs ht)
  | nameless hb hq hn ht => exact .nameless hb hq hn (hs ht)
  | unknown hm hf ht => exact .unknown hm hf (hs ht)
  | plugin hb hn ht => exact .plugin hb hn (hs ht)

namespace Selects

theorem found_of_known (h : Selects host loader catalogue p known names ts made fault) (hk : known.isSome) :
    ts.flatMap Turn.found = [] := by
  induction h with
  | done => rfl
  | next _ hc _ ih => rw [List.flatMap_append, hc.found, ih hk, List.append_nil]
  | stop _ hc => exact hc.found
  | load => cases hk
  | refused => cases hk

theorem settled (h : Selects host loader catalogue p known names ts made fault)
    (hb : known.isSome ∨ (catalogue.builtin? name).isSome) :
    known.getD [] ++ ts.flatMap Turn.found = known.getD [] ∨ (catalogue.builtin? name).isSome := by
  rcases hb with hk | hb
  · rw [h.found_of_known hk, List.append_nil]
    exact .inl rfl
  · exact .inr hb

theorem makers (h : Selects host loader catalogue p known names ts made fault) :
    made.map (fun e => catalogue.maker? host (known.getD [] ++ ts.flatMap Turn.found) e.1) =
      (ts.filterMap Turn.maker?).map some := by
  induction h with
  | done => rfl
  | next hb hc hs ih =>
    obtain ⟨maker, hm, ht⟩ := hc.makers_ok
    rw [List.flatMap_append, hc.found, List.nil_append, List.filterMap_append, ht, List.map_cons, ih,
      maker?_of_settled (hs.settled hb), hm]
    rfl
  | stop _ hc => rw [hc.makers_error]; rfl
  | load _ hl _ ih =>
    rw [List.flatMap_append, hl.found, List.filterMap_append, hl.makers]
    exact ih
  | refused _ hl => rw [hl.makers]; rfl

theorem yields (h : Selects host loader catalogue p known names ts made fault) :
    ∀ e ∈ made, Yields host catalogue p (known.getD [] ++ ts.flatMap Turn.found) ts e.1 e.2 := by
  induction h with
  | done => exact nofun
  | next hb hc hs ih =>
    rw [List.flatMap_append, hc.found, List.nil_append]
    refine List.forall_mem_cons.mpr ⟨?_, fun e he => ?_⟩
    · exact hc.yields.mono (hs.settled hb) (List.subset_append_left _ _)
    · exact (ih e he).mono (.inl rfl) (List.subset_append_right _ _)
  | stop => exact nofun
  | load _ hl _ ih =>
    rw [List.flatMap_append, hl.found]
    exact fun e he => (ih e he).mono (.inl rfl) (List.subset_append_right _ _)
  | refused => exact nofun

theorem ended (h : Selects host loader catalogue p known names ts made fault) :
    (fault = none ∧ names = made.map Prod.fst) ∨
      ∃ f name rest, fault = some f ∧ names = made.map Prod.fst ++ name :: rest ∧
        Blocks host loader catalogue p (known.getD [] ++ ts.flatMap Turn.found) ts name f := by
  induction h with
  | done => exact .inl ⟨rfl, rfl⟩
  | next _ hc _ ih =>
    rw [List.flatMap_append, hc.found, List.nil_append]
    rcases ih with ⟨rfl, rfl⟩ | ⟨f, name, rest, rfl, rfl, hb⟩
    · exact .inl ⟨rfl, rfl⟩
    · exact .inr ⟨f, name, rest, rfl, rfl, hb.mono (List.subset_append_right _ _)⟩
  | stop _ hc =>
    rw [hc.found, List.append_nil]
    exact .inr ⟨_, _, _, rfl, rfl, hc.blocks⟩
  | load _ hl _ ih =>
    rw [List.flatMap_append, hl.found]
    rcases ih with ih | ⟨f, name, rest, rfl, he, hb⟩
    · exact .inl ih
    · exact .inr ⟨f, name, rest, rfl, he, hb.mono (List.subset_append_right _ _)⟩
  | refused hb hl => exact .inr ⟨_, _, _, rfl, rfl, hl.blocks hb⟩

theorem loads (h : Selects host loader catalogue p known names ts made fault) :
    ts.countP (Turn.loads catalogue.group) =
      if known.isSome || (names.take (made.length + 1)).all fun name => (catalogue.builtin? name).isSome
      then 0 else 1 := by
  induction h with
  | done => simp
  | next hb hc hs ih =>
    rw [List.countP_append, hc.countP, Nat.zero_add, ih, List.length_cons, List.take_succ_cons, List.all_cons]
    rcases hb with hk | hb
    · rw [hk, Bool.true_or, Bool.true_or]
    · rw [hb, Bool.true_and]
  | stop hb hc =>
    rw [hc.countP, List.length_nil, Nat.zero_add, List.take_succ_cons, List.take_zero, List.all_cons, List.all_nil,
      Bool.and_true, Bool.or_eq_true _ _ |>.mpr hb, if_pos rfl]
  | load hb hl hs ih =>
    rw [List.countP_append, hl.countP, ih, List.take_succ_cons, List.all_cons, hb]
    rfl
  | refused hb hl =>
    rw [hl.countP, List.take_succ_cons, List.all_cons, hb]
    rfl

end Selects

/-! ## From the setting to the map -/

def listed (catalogue : ExporterCatalogue W α) (p : Properties) : List String :=
  ((p.list? catalogue.key).getD [catalogue.default]).eraseDups

theorem nodup_listed (catalogue : ExporterCatalogue W α) (p : Properties) : (catalogue.listed p).Nodup :=
  nodup_eraseDups _

theorem alone_or_mixed : ∀ {names : List String}, names.Nodup → Names.none ∈ names →
    names = [Names.none] ∨ (1 < names.length ∧ ∃ name ∈ names, name ≠ Names.none)
  | [name], _, hn => .inl (by rw [List.mem_singleton.mp hn])
  | name :: other :: names, hd, _ => by
    refine .inr ⟨by simp, ?_⟩
    by_cases h : name = Names.none
    · refine ⟨other, List.mem_cons_of_mem _ List.mem_cons_self, fun ho => ?_⟩
      exact (List.nodup_cons.mp hd).1 (h.trans ho.symm ▸ List.mem_cons_self)
    · exact ⟨name, List.mem_cons_self, h⟩

theorem names_eq (noun : String) : Selection.names p catalogue.key noun [catalogue.default] =
    if (catalogue.listed p).contains Names.none then
      if 1 < (catalogue.listed p).length then .error (.configuration (.noneAmongOthers catalogue.key noun)) else .ok []
    else .ok (catalogue.listed p) := rfl

theorem names_eq_error (hn : Names.none ∈ catalogue.listed p) (hl : 1 < (catalogue.listed p).length) (noun : String) :
    Selection.names p catalogue.key noun [catalogue.default] =
      .error (.configuration (.noneAmongOthers catalogue.key noun)) := by
  rw [names_eq, if_pos (List.contains_iff_mem.mpr hn), if_pos hl]

theorem names_eq_nil (h : catalogue.listed p = [Names.none]) (noun : String) :
    Selection.names p catalogue.key noun [catalogue.default] = .ok [] := by
  rw [names_eq, h]
  rfl

theorem names_eq_listed (h : Names.none ∉ catalogue.listed p) (noun : String) :
    Selection.names p catalogue.key noun [catalogue.default] = .ok (catalogue.listed p) := by
  rw [names_eq, if_neg fun hc => h (List.contains_iff_mem.mp hc)]

end ExporterCatalogue

/-- Exporters by name, from any setting, catalogue and plugins. `none` among other names is a fault before
anything is loaded or created, and alone it selects nothing. Other names are taken in order: what is made comes
from what is built in or else from the last plugin of the name, under all names or, with a fault, under exactly
those before the name that the fault is about. The group is loaded once if one of the names reached is not
built in, and not at all if all of them are. -/
theorem configureExporters_by_name (s : Scene W) :
    let listed := catalogue.listed p
    let exclusive : Fault := .configuration (.noneAmongOthers catalogue.key "exporters")
    ∃ ts r s', run (configureExporters host loader catalogue p) s = (r, s') ∧ Leads host s ts s' ∧
      ((Names.none ∈ listed ∧ ∃ name ∈ listed, name ≠ Names.none) ↔
        r = .error exclusive ∧ ts = [.checked (.names catalogue.key) (some exclusive)]) ∧
      (listed = [Names.none] → r = .ok .empty ∧ ts = [.checked (.names catalogue.key) none]) ∧
      (Names.none ∉ listed → ∃ us made, ts = .checked (.names catalogue.key) none :: us ∧
        let plugins := us.flatMap Turn.found
        (∀ e ∈ made, ExporterCatalogue.Yields host catalogue p plugins us e.1 e.2) ∧
        made.map (fun e => catalogue.maker? host plugins e.1) = (us.filterMap Turn.maker?).map some ∧
        us.countP (Turn.loads catalogue.group) =
          (if (listed.take (made.length + 1)).all fun name => (catalogue.builtin? name).isSome then 0 else 1) ∧
        ((∃ m, r = .ok m ∧ m.entries = made ∧ m.keys = listed) ∨
          ∃ f name rest, r = .error f ∧ listed = made.map Prod.fst ++ name :: rest ∧
            ExporterCatalogue.Blocks host loader catalogue p plugins us name f)) := by
  intro listed exclusive
  unfold configureExporters
  by_cases hn : Names.none ∈ listed
  · rcases ExporterCatalogue.alone_or_mixed (catalogue.nodup_listed p) hn with hl | ⟨hl, ho⟩
    · rw [ExporterCatalogue.names_eq_nil hl]
      refine ⟨_, .ok .empty, _, rfl, ⟨rfl, .checked (.nil _)⟩, ?_, fun _ => ⟨rfl, rfl⟩, fun h => absurd hn h⟩
      refine iff_of_false ?_ nofun
      rintro ⟨-, name, hm, hne⟩
      rw [show listed = [Names.none] from hl, List.mem_singleton] at hm
      exact hne hm
    · rw [ExporterCatalogue.names_eq_error hn hl]
      refine ⟨_, .error exclusive, _, run_bind_error rfl _, ⟨rfl, .checked (.nil _)⟩, ?_, ?_, fun h => absurd hn h⟩
      · exact iff_of_true ⟨hn, ho⟩ ⟨rfl, rfl⟩
      · intro he
        rw [show catalogue.listed p = [Names.none] from he] at hl
        exact absurd hl (by decide)
  · rw [ExporterCatalogue.names_eq_listed hn, run_bind_ok (ExporterCatalogue.run_check_ok _ listed s)]
    obtain ⟨us, made, fault, s', hr, hl, hs⟩ := ExporterCatalogue.runsAsSelected host loader catalogue p listed
      (.none : Option.Rel (Tabulates host) none none) { s with turns := s.turns ++ [.checked (.names catalogue.key) none] }
    have hlead : Leads host s (.checked (.names catalogue.key) none :: us) s' :=
      ⟨by rw [hl.turns, List.append_assoc]; rfl, .checked hl.own⟩
    have hloads : us.countP (Turn.loads catalogue.group) = _ := hs.loads
    have hnotmixed : ∀ r : Except Fault (OrderedMap String α),
        (Names.none ∈ listed ∧ ∃ name ∈ listed, name ≠ Names.none) ↔
        r = .error exclusive ∧ (.checked (.names catalogue.key) none :: us : List (Turn W)) =
          [.checked (.names catalogue.key) (some exclusive)] := fun r => iff_of_false (fun h => hn h.1) (fun h => nomatch h.2)
    have hnotalone : listed ≠ [Names.none] := fun he => hn (he ▸ List.mem_cons_self)
    rcases hs.ended with ⟨rfl, he⟩ | ⟨f, name, rest, rfl, he, hb⟩
    · have hd := catalogue.nodup_listed p
      rw [show catalogue.listed p = _ from he] at hd
      have hm : (OrderedMap.ofList made).entries = made := OrderedMap.entries_ofList hd
      refine ⟨_, .ok (.ofList made), s', run_bind_ok hr _, hlead, hnotmixed _, fun h => absurd h hnotalone, fun _ => ?_⟩
      refine ⟨us, made, rfl, hs.yields, hs.makers, hloads, .inl ⟨_, rfl, hm, ?_⟩⟩
      rw [OrderedMap.keys, hm, he]
    · refine ⟨_, .error f, s', run_bind_error hr _, hlead, hnotmixed _, fun h => absurd h hnotalone, fun _ => ?_⟩
      exact ⟨us, made, rfl, hs.yields, hs.makers, hloads, .inr ⟨f, name, rest, rfl, he, hb⟩⟩

end

end Telemetry
