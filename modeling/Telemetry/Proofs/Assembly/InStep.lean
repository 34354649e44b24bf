import Telemetry.Proofs.Assembly.Pairing

/-! # Exporters and propagators in step

What is built in corresponds, and what outside code answers in the two runs corresponds as well. Then the runs go
in step: turn for turn they do the same, but each propagator also passes through the chain before the next name
is taken. -/

namespace Telemetry

open Assembly

section
variable {W : Outside} {α : Type}

namespace Pairing
variable (d : Pairing W α)

/-! ## One name -/

/-- What exporters are chosen from. The names of those built in are the same as for propagators. -/
def offering : Offering W where
  key := d.catalogue.key
  default := [d.catalogue.default]
  builtin := (Offering.propagators : Offering W).builtin
  group := d.catalogue.group
  create := .createExporter

inductive Native (name : String) : List (Turn W) → Except Fault (String × α) → Prop
  | intro {make : Properties → Except Fault α} {x : α} : d.catalogue.builtin? name = some make → make d.p = .ok x →
      Native name [.checked (.builtin d.catalogue.key name) none] (.ok (name, x))

inductive Foreign (name : String) (plugin : W.Plugin) : List (Turn W) → Except Fault (String × α) → Prop
  | intro (answer : Except Fault (Exporter W.Exporter)) (added : List (Addition W)) :
    Foreign name plugin [.asked (.createExporter plugin d.p) () answer added]
      (answer.map fun e => (name, d.catalogue.ofPlugin e))

/-- What the name comes to in both runs: a component in each, the same fault, or a propagator that a link of the
chain raised for. -/
inductive Meets (name : String) (ts ts' : List (Turn W)) : Except Fault (String × α) → Except Fault (Segment W) → Prop
  | both {e : String × α} {seg : Segment W} : d.Together ts ts' [e] [seg] [] → seg.name = name →
      Meets name ts ts' (.ok e) (.ok seg)
  | neither {f f' : Fault} : d.Together ts ts' [] [] [] → d.SameReason name f f' → Meets name ts ts' (.error f) (.error f')
  | raised {x : α} {creation : Turn W} {q : Propagator} {pass : List (Turn W)} {f : Fault} :
    d.Together ts ts' [] [] (creation :: pass) → d.Matches x q → d.Created name creation q →
      Passes (k := .propagator) d.p' d.chain (.proper q) pass (.error f) → Meets name ts ts' (.ok (name, x)) (.error f)

section
variable {d} {ts ts' us us' : List (Turn W)} {name : String} {r : Except Fault (String × α)} {r' : Except Fault (Segment W)}

theorem Meets.prepend (h : d.Together ts ts' [] [] []) (hm : d.Meets name us us' r r') :
    d.Meets name (ts ++ us) (ts' ++ us') r r' := by
  cases hm with
  | both ht hn => exact .both (h.append ht) hn
  | neither ht hs => exact .neither (h.append ht) hs
  | raised ht hx hc hp => exact .raised (h.append ht) hx hc hp

theorem Meets.follow {t creation : Turn W} {x : α} {q : Propagator} (ht : d.Counterpart t creation)
    (hplain : t.plain = true) (hload : ∀ group, t.loads group = false) (hx : d.Matches x q) (hc : d.Created name creation q)
    (h : Segment.Follows d.chain d.p' name q creation ts' r') : d.Meets name [t] ts' (.ok (name, x)) r' := by
  have hcreation : creation.plain = true ∧ creation.forms = true ∧ ∀ group, creation.loads group = false := by
    cases hc <;> exact ⟨rfl, rfl, fun _ => rfl⟩
  obtain ⟨hplain', hforms, hload'⟩ := hcreation
  cases h with
  | @intro pass r h =>
    have hturns : List.Forall₂ d.Counterpart ([t].filter Turn.plain) ((creation :: pass).filter Turn.plain) := by
      rw [List.filter_cons_of_pos hplain, List.filter_cons_of_pos hplain', h.plain]
      exact .cons ht .nil
    have hloads : [t].countP (Turn.loads d.catalogue.group) =
        (creation :: pass).countP (Turn.loads Names.propagatorPlugins) := by
      rw [List.countP_cons_of_neg (by simp [hload]), List.countP_cons_of_neg (by simp [hload']), h.loads]
      rfl
    have hforms : (creation :: pass).filter Turn.forms = creation :: pass := by
      rw [List.filter_cons_of_pos hforms, h.forms]
    cases r with
    | ok image => exact .both ⟨hturns, hloads, .cons ⟨rfl, hx, hc, h⟩ .nil, by rw [hforms]; simp [Segment.turns]⟩ rfl
    | error f => exact .raised ⟨hturns, hloads, .nil, hforms⟩ hx hc h

theorem meets_native (h : d.Native name ts r) (h' : Segment.Native d.chain d.p' name ts' r') : d.Meets name ts ts' r r' := by
  cases h with
  | intro hm hx =>
    cases h' with
    | intro hq hf =>
      have hb := d.builtin name
      rw [hm, hq] at hb
      cases hb with
      | some hb =>
        obtain ⟨x', hx', hmatch⟩ := hb
        cases hx.symm.trans hx'
        exact .follow .builtin rfl (fun _ => rfl) hmatch (.builtin hq) hf

theorem meets_foreign {plugin plugin' : W.Plugin} (hn : d.host.nameOf plugin = .ok name)
    (hn' : d.host.nameOf plugin' = .ok name) (h : d.Foreign name plugin ts r)
    (h' : Segment.Foreign d.chain d.p' name plugin' ts' r') (ha : d.Alike ts ts') : d.Meets name ts ts' r r' := by
  cases h with
  | intro answer added =>
    cases h' with
    | @refused f added' =>
      have hx := ha.plugins name _ _ _ _ _ _ hn hn' List.mem_cons_self List.mem_cons_self
      cases hx with
      | error =>
        refine .neither ⟨.cons (.plugin hn hn' (.error f)) .nil, rfl, .nil, rfl⟩ (.raised f)
    | @created q added' _ _ hf =>
      have hx := ha.plugins name plugin plugin' answer added (.ok q) added' hn hn' List.mem_cons_self (by cases hf; exact List.mem_cons_self)
      cases hx with
      | ok hm => exact .follow (.plugin hn hn' (.ok hm)) rfl (fun _ => rfl) hm (.plugin hn') hf

theorem Together.found (name : String) : d.Together [.checked (.lookup d.catalogue.key name) none]
    [.checked (.lookup Names.propagators name) none] [] [] [] :=
  ⟨.cons .found .nil, rfl, .nil, rfl⟩

theorem meets {table table' : Selection.Table W} (ht : d.SameTable table table')
    (h : d.offering.Finds d.Native d.Foreign table name ts r)
    (h' : Offering.propagators.Finds (Segment.Native d.chain d.p') (Segment.Foreign d.chain d.p') table' name ts' r')
    (ha : d.Alike ts ts') : d.Meets name ts ts' r r' := by
  have htable := ht name
  cases h with
  | native hb h =>
    cases h' with
    | native _ h' => exact meets_native h h'
    | foreign hb' => exact absurd hb hb'
    | unknown hb' => exact absurd hb hb'
  | foreign hb hg h =>
    cases h' with
    | native hb' => exact absurd hb' hb
    | foreign _ hg' h' =>
      rw [hg, hg'] at htable
      cases htable with
      | some hn =>
        have hm := meets_foreign hn.1 hn.2 h h' (ha.mono (List.subset_cons_self ..) (List.subset_cons_self ..))
        exact hm.prepend (.found name)
    | unknown _ hg' =>
      rw [hg, hg'] at htable
      cases htable
  | unknown hb hg hf =>
    cases h' with
    | native hb' => exact absurd hb' hb
    | foreign _ hg' =>
      rw [hg, hg'] at htable
      cases htable
    | unknown _ _ hf' =>
      subst hf hf'
      exact .neither ⟨.cons .unknown .nil, rfl, .nil, rfl⟩ .unknown

end

/-! ## All names -/

/-- What names come to in both runs. Both make something of every name, or both fail on the same name for the same
reason, or a link of the chain raises for a propagator, and the exporters go on. -/
inductive InStep (names : List String) (ts ts' : List (Turn W)) :
    List (String × α) → Option Fault → List (Segment W) → Option Fault → Prop
  | done {made : List (String × α)} {segs : List (Segment W)} :
    names = segs.map Segment.name → d.Together ts ts' made segs [] → InStep names ts ts' made none segs none
  | failed {made : List (String × α)} {segs : List (Segment W)} (name : String) (rest : List String) {f f' : Fault} :
    names = segs.map Segment.name ++ name :: rest → d.Together ts ts' made segs [] → d.SameReason name f f' →
      InStep names ts ts' made (some f) segs (some f')
  | raised {made more : List (String × α)} {segs : List (Segment W)} (name : String) (rest : List String)
    (before after : List (Turn W)) {x : α} {creation : Turn W} {q : Propagator} {pass : List (Turn W)}
    {fault : Option Fault} {f : Fault} :
    names = segs.map Segment.name ++ name :: rest → ts = before ++ after →
      d.Together before ts' made segs (creation :: pass) → d.Matches x q → d.Created name creation q →
      Passes (k := .propagator) d.p' d.chain (.proper q) pass (.error f) →
      InStep names ts ts' (made ++ (name, x) :: more) fault segs (some f)

section
variable {d} {ts ts' us us' : List (Turn W)} {names : List String} {made made' : List (String × α)}
  {segs segs' : List (Segment W)} {fault fault' : Option Fault}

theorem InStep.prepend (h : d.Together ts ts' made segs []) (hs : d.InStep names us us' made' fault segs' fault') :
    d.InStep (segs.map Segment.name ++ names) (ts ++ us) (ts' ++ us') (made ++ made') fault (segs ++ segs') fault' := by
  cases hs with
  | done hn ht =>
    refine .done ?_ (h.append ht)
    rw [hn, List.map_append]
  | failed name rest hn ht hr =>
    refine .failed name rest ?_ (h.append ht) hr
    rw [hn, List.map_append, List.append_assoc]
  | raised name rest before after hn hts ht hx hc hp =>
    rw [← List.append_assoc]
    refine .raised name rest (ts ++ before) after ?_ ?_ (h.append ht) hx hc hp
    · rw [hn, List.map_append, List.append_assoc]
    · rw [hts, List.append_assoc]

theorem sameTable_getD {known known' : Option (Selection.Table W)} (h : Option.Rel d.SameTable known known') :
    d.SameTable (known.getD .empty) (known'.getD .empty) := by
  cases h with
  | none => exact fun _ => .none
  | some h => exact h

/-- Taken side by side, the same names keep in step: a name that both come to is met by both, and if one has the
plugins loaded so does the other. -/
theorem inStep {known' : Option (Selection.Table W)}
    (h' : Segment.Succeeds d.chain d.p' d.host d.loader' known' names ts' segs fault') :
    ∀ {known : Option (Selection.Table W)} {ts : List (Turn W)} {made : List (String × α)} {fault : Option Fault},
      d.offering.Succeeds d.host d.loader d.Native d.Foreign known names ts made fault →
      Option.Rel d.SameTable known known' → d.Alike ts ts' → d.InStep names ts ts' made fault segs fault' := by
  have hreached : ∀ {known known' : Option (Selection.Table W)} {name : String}, Option.Rel d.SameTable known known' →
      known'.isSome ∨ (Offering.propagators : Offering W).builtin.contains name →
      known.isSome ∨ d.offering.builtin.contains name := by
    intro known known' name hr hk
    cases hr with
    | none => exact hk
    | some _ => exact .inl rfl
  -- The induction is along the run of the propagators. At each of its steps the run of the exporters is at the same
  -- name with or without plugins, so there are two things that it can do, and one of them is ruled out by `Alike`.
  induction h' with
  | done =>
    intro known ts made fault h hr ha
    cases h with
    | done => exact .done rfl ⟨.nil, rfl, .nil, rfl⟩
  | @next known' name names us us' seg segs fault' hk hx' hs' ih =>
    intro known ts made fault h hr ha
    rcases h.reached (hreached hr hk) with ⟨ts, us, x, made, rfl, rfl, hx, hs⟩ | ⟨f, rfl, rfl, hx⟩
    · have hm := meets (sameTable_getD hr) hx hx' (ha.mono (List.subset_append_left ..) (List.subset_append_left ..))
      have hnext := ih hs hr (ha.mono (List.subset_append_right ..) (List.subset_append_right ..))
      cases hm with
      | both ht hn =>
        subst hn
        exact hnext.prepend ht
    · have hm := meets (sameTable_getD hr) hx hx' (ha.mono (List.Subset.refl _) (List.subset_append_left ..))
      cases hm
  | @stop known' name names ts' f hk hx' =>
    intro known ts made fault h hr ha
    rcases h.reached (hreached hr hk) with ⟨ts, us, x, made, rfl, rfl, hx, hs⟩ | ⟨f, rfl, rfl, hx⟩
    · have hm := meets (sameTable_getD hr) hx hx' (ha.mono (List.subset_append_left ..) (List.Subset.refl _))
      cases hm with
      | raised ht hmatch hc hp =>
        rw [← List.nil_append ((name, _) :: made)]
        exact .raised name names ts us rfl rfl ht hmatch hc hp
    · have hm := meets (sameTable_getD hr) hx hx' ha
      cases hm with
      | neither ht hf => exact .failed name names rfl ht hf
  | load hb ht' hs' ih =>
    intro known ts made fault h hr ha
    cases hr
    rcases h.unloaded hb with ⟨ts, us, table, rfl, ht, hs⟩ | ⟨f, rfl, rfl, ht⟩
    · obtain ⟨hx, htog⟩ := Together.tables ht ht' (ha.mono (List.subset_append_left ..) (List.subset_append_left ..))
      cases hx with
      | ok hst =>
        have hnext := ih hs (.some hst) (ha.mono (List.subset_append_right ..) (List.subset_append_right ..))
        exact hnext.prepend htog
    · obtain ⟨hx, -⟩ := Together.tables ht ht' (ha.mono (List.Subset.refl _) (List.subset_append_left ..))
      cases hx
  | @refused name names ts' f hb ht' =>
    intro known ts made fault h hr ha
    cases hr
    rcases h.unloaded hb with ⟨ts, us, table, rfl, ht, hs⟩ | ⟨f, rfl, rfl, ht⟩
    · obtain ⟨hx, -⟩ := Together.tables ht ht' (ha.mono (List.subset_append_left ..) (List.Subset.refl _))
      cases hx
    · obtain ⟨hx, htog⟩ := Together.tables ht ht' ha
      cases hx
      exact .failed name names rfl htog (.raised _)

end

/-! ## From the settings to the components -/

def nativeExporter (name : String) : Assembly W (String × α) := do
  let e ← check (.builtin d.catalogue.key name) <| match d.catalogue.builtin? name with
    | some make => make d.p
    | none => .error (.configuration (.unrecognized d.catalogue.key name))
  emit (.exporterConfigured d.catalogue.key name)
  return (name, e)

def foreignExporter (name : String) (plugin : W.Plugin) : Assembly W (String × α) := do
  let e ← ask d.host (.createExporter plugin d.p) ()
  emit (.exporterConfigured d.catalogue.key name)
  return (name, d.catalogue.ofPlugin e)

theorem offering_builtin (name : String) : d.offering.builtin.contains name = (d.catalogue.builtin? name).isSome := by
  refine (propagators_builtin (W := W) name).trans ?_
  have h := d.builtin name
  generalize d.catalogue.builtin? name = make, Propagator.builtin? name = q at h
  cases h <;> rfl

theorem createExporters_eq : ∀ (names : List String) (known : Option (Selection.Table W)),
    createExporters d.host d.loader d.catalogue d.p names known =
      d.offering.creating d.host d.loader d.nativeExporter d.foreignExporter names known
  | [], _ => rfl
  | name :: names, known => by
    have ih := createExporters_eq names
    rw [createExporters, Offering.creating, offering_builtin]
    cases hm : d.catalogue.builtin? name with
    | some make =>
      rw [if_pos Option.isSome_some]
      simp only [nativeExporter, hm, ih, bind_assoc, pure_bind]
    | none =>
      rw [if_neg (by simp)]
      simp only [foreignExporter, ih, bind_assoc, pure_bind]
      rfl

theorem proceeds_nativeExporter (name : String) (hb : d.offering.builtin.contains name) :
    Proceeds d.host (d.nativeExporter name) fun ts r => ∃ r', r = r'.map id ∧ d.Native name ts r' := by
  rw [offering_builtin] at hb
  obtain ⟨make, hm⟩ := Option.isSome_iff_exists.mp hb
  have hrel := d.builtin name
  unfold nativeExporter
  rw [hm] at hrel ⊢
  generalize Propagator.builtin? name = q at hrel
  cases hrel with
  | some hrel =>
    obtain ⟨x, hx, -⟩ := hrel
    simp only [hx]
    exact .check_ok (.emit (.pure ⟨_, rfl, .intro hm hx⟩))

theorem proceeds_foreignExporter (name : String) (plugin : W.Plugin) :
    Proceeds d.host (d.foreignExporter name plugin) fun ts r => ∃ r', r = r'.map id ∧ d.Foreign name plugin ts r' :=
  .ask (fun f added => ⟨.error f, rfl, .intro (.error f) added⟩) fun e added =>
    .emit (.pure ⟨_, rfl, .intro (.ok e) added⟩)

theorem proceeds_createExporters (names : List String) :
    Proceeds d.host (createExporters d.host d.loader d.catalogue d.p names none) fun ts r => ∃ made fault,
      r = Fault.orElse fault made ∧ d.offering.Succeeds d.host d.loader d.Native d.Foreign none names ts made fault := by
  rw [createExporters_eq]
  refine (Offering.proceeds_creating d.proceeds_nativeExporter d.proceeds_foreignExporter names none).mono ?_
  refine fun ts r ⟨made, fault, hr, hs⟩ => ⟨made, fault, ?_, hs⟩
  rw [hr, List.map_id]

def chosen : List String := if d.names.contains Names.none then [] else d.names

/-- `none` is listed among other names. -/
def Mixed : Prop := Names.none ∈ d.names ∧ 1 < d.names.length

section
variable {d} {p : Properties} {key noun : String} {default : List String}

theorem names_eq (h : p.list? key = some d.items) : Selection.names p key noun default =
    if d.names.contains Names.none then
      if 1 < d.names.length then .error (.configuration (.noneAmongOthers key noun)) else .ok []
    else .ok d.names := by
  rw [Selection.names, h]
  rfl

theorem names_mixed (h : p.list? key = some d.items) (hm : d.Mixed) :
    Selection.names p key noun default = .error (.configuration (.noneAmongOthers key noun)) := by
  rw [names_eq h, if_pos (List.contains_iff_mem.mpr hm.1), if_pos hm.2]

theorem proceeds_mixed {β : Type} {k : List String → Assembly W β} (h : p.list? key = some d.items) (hm : d.Mixed) :
    Proceeds d.host (check (.names key) (Selection.names p key noun default) >>= k) fun ts r =>
      let exclusive : Fault := .configuration (.noneAmongOthers key noun)
      r = .error exclusive ∧ ts = [.checked (.names key) (some exclusive)] := by
  rw [names_mixed h hm]
  exact .check_error ⟨rfl, rfl⟩

theorem names_chosen (h : p.list? key = some d.items) (hm : ¬ d.Mixed) :
    Selection.names p key noun default = .ok d.chosen := by
  rw [names_eq h, chosen]
  by_cases hn : d.names.contains Names.none
  · rw [if_pos hn, if_pos hn, if_neg fun hl => hm ⟨List.contains_iff_mem.mp hn, hl⟩]
  · rw [if_neg hn, if_neg hn]

end

theorem nodup_chosen : d.chosen.Nodup := by
  unfold chosen
  split
  · exact List.nodup_nil
  · exact nodup_eraseDups _

theorem fst_of_finds {table : Selection.Table W} {name : String} {ts : List (Turn W)} {e : String × α}
    (h : d.offering.Finds d.Native d.Foreign table name ts (.ok e)) : e.1 = name := by
  generalize hr : (Except.ok e : Except Fault _) = r at h
  cases h with
  | native _ h =>
    cases h
    cases hr
    rfl
  | foreign _ _ h =>
    cases h with
    | intro answer added =>
      cases answer with
      | ok e => cases hr; rfl
      | error f => cases hr
  | unknown => cases hr

theorem made_prefix {known : Option (Selection.Table W)} {names : List String} {ts : List (Turn W)}
    {made : List (String × α)} {fault : Option Fault}
    (h : d.offering.Succeeds d.host d.loader d.Native d.Foreign known names ts made fault) : made.map Prod.fst <+: names := by
  induction h with
  | done => exact List.prefix_refl _
  | next _ hx _ ih =>
    rw [List.map_cons, d.fst_of_finds hx]
    exact (List.prefix_cons_inj _).mpr ih
  | stop => exact List.nil_prefix
  | load _ _ _ ih => exact ih
  | refused => exact List.nil_prefix

theorem proceeds_configureExporters (hm : ¬ d.Mixed) :
    Proceeds d.host (configureExporters d.host d.loader d.catalogue d.p) fun ts r => ∃ us made fault,
      ts = .checked (.names d.catalogue.key) none :: us ∧ r = (Fault.orElse fault made).map .ofList ∧
        d.offering.Succeeds d.host d.loader d.Native d.Foreign none d.chosen us made fault := by
  unfold configureExporters
  rw [names_chosen d.listed hm]
  refine .check_ok ((d.proceeds_createExporters d.chosen).map fun us r ⟨made, fault, hr, hs⟩ => ?_)
  exact ⟨us, made, fault, rfl, by rw [hr], hs⟩

theorem proceeds_configurePropagators (hm : ¬ d.Mixed) :
    Proceeds d.host (configurePropagators d.host d.loader' d.chain d.p') fun ts r => ∃ us segs fault,
      ts = .checked (.names Names.propagators) none :: us ∧ r = Fault.orElse fault (segs.map Segment.image) ∧
        Segment.Succeeds d.chain d.p' d.host d.loader' none d.chosen us segs fault := by
  unfold configurePropagators
  rw [names_chosen d.listed' hm]
  refine .check_ok ((Segment.proceeds_createPropagators d.chain d.p' d.loader' d.chosen).bind ?_ ?_)
  · exact fun us f ⟨segs, fault, hr, hs⟩ => ⟨us, segs, fault, rfl, hr, hs⟩
  · refine fun us images ⟨segs, fault, hr, hs⟩ => .emit (.pure ?_)
    rw [List.append_nil]
    exact ⟨us, segs, fault, rfl, hr, hs⟩

def exporters (s : Scene W) : Except Fault (OrderedMap String α) × Scene W :=
  run (configureExporters d.host d.loader d.catalogue d.p) s

def propagators (s : Scene W) : Except Fault (List (Artifact W .propagator)) × Scene W :=
  run (configurePropagators d.host d.loader' d.chain d.p') s

section
variable {d} {s s' : Scene W} {ts ts' : List (Turn W)}

/-- Configured from the same names, exporters and propagators are selected in step: `none` among other names is
a fault in both before anything else is done, and other names are taken side by side. -/
theorem runs_in_step (ht : (d.exporters s).2.turns = s.turns ++ ts) (ht' : (d.propagators s').2.turns = s'.turns ++ ts')
    (ha : d.Alike ts ts') :
    (d.Mixed →
      let exclusive : Fault := .configuration (.noneAmongOthers d.catalogue.key "exporters")
      let exclusive' : Fault := .configuration (.noneAmongOthers Names.propagators "propagators")
      (d.exporters s).1 = .error exclusive ∧ ts = [.checked (.names d.catalogue.key) (some exclusive)] ∧
        (d.propagators s').1 = .error exclusive' ∧ ts' = [.checked (.names Names.propagators) (some exclusive')]) ∧
    (¬ d.Mixed → ∃ us us' made segs fault fault',
      ts = .checked (.names d.catalogue.key) none :: us ∧ ts' = .checked (.names Names.propagators) none :: us' ∧
        (d.exporters s).1.map OrderedMap.entries = Fault.orElse fault made ∧
        (d.propagators s').1 = Fault.orElse fault' (segs.map Segment.image) ∧
        d.InStep d.chosen us us' made fault segs fault') := by
  refine ⟨fun hm => ?_, fun hm => ?_⟩
  · obtain ⟨hr, hts⟩ := (proceeds_mixed d.listed hm).ran ht
    obtain ⟨hr', hts'⟩ := (proceeds_mixed d.listed' hm).ran ht'
    exact ⟨hr, hts, hr', hts'⟩
  · obtain ⟨us, made, fault, rfl, hr, hs⟩ := (d.proceeds_configureExporters hm).ran ht
    obtain ⟨us', segs, fault', rfl, hr', hs'⟩ := (d.proceeds_configurePropagators hm).ran ht'
    have hstep := inStep hs' hs .none (ha.mono (List.subset_cons_self ..) (List.subset_cons_self ..))
    have hentries : (OrderedMap.ofList made).entries = made :=
      OrderedMap.entries_ofList (d.nodup_chosen.sublist (d.made_prefix hs).sublist)
    refine ⟨us, us', made, segs, fault, fault', rfl, rfl, ?_, hr', hstep⟩
    rw [exporters, hr]
    cases fault with
    | none => exact congrArg Except.ok hentries
    | some f => rfl

theorem Alike.of_constant {own own' own₁ own₁' : W.State}
    (hl : ∀ v v', AnsweredAlike d.SameNames ((d.host.load d.loader d.catalogue.group).run v).1
      ((d.host.load d.loader' Names.propagatorPlugins).run v').1)
    (hp : ∀ name plugin plugin' v v', d.host.nameOf plugin = .ok name → d.host.nameOf plugin' = .ok name →
      AnsweredAlike d.SameComponent ((d.host.createExporter plugin d.p).run v).1
        ((d.host.createPropagator plugin' d.p').run v').1)
    (h : Conversed d.host own ts own₁) (h' : Conversed d.host own' ts' own₁') : d.Alike ts ts' where
  loads answer added answer' added' ha ha' := by
    obtain ⟨v, hv⟩ := h.answered ha
    obtain ⟨v', hv'⟩ := h'.answered ha'
    subst hv hv'
    exact hl v v'
  plugins name plugin plugin' answer added answer' added' hn hn' ha ha' := by
    obtain ⟨v, hv⟩ := h.answered ha
    obtain ⟨v', hv'⟩ := h'.answered ha'
    subst hv hv'
    exact hp name plugin plugin' v v' hn hn'

end

end Pairing

end

/-! ## A link that raises -/

/-- Plugins are their names, exporters stand for propagators, and a customizer returns nothing or raises. -/
def Outside.rehearsal : Outside where
  Customizer := Option Fault
  Supplier := Empty
  Plugin := String
  Loader := Unit
  Exporter := Propagator
  IdGenerator := Empty
  Thing := Empty
  State := Unit

def Host.rehearsal : Host .rehearsal where
  customize _ fault _ _ := fault.elim (pure .nothing) throw
  supply := nofun
  environment := pure .empty
  load _ _ := pure ["b3"]
  typeName _ := "Plugin"
  nameOf plugin := .ok plugin
  contribute _ _ := pure ()
  configure _ settings _ := pure settings
  createExporter plugin _ := pure (.outside (.custom plugin []))
  createPropagator plugin _ := pure (.custom plugin [])
  channel _ := .improper "Propagator"
  metricChannel _ := .improper "Propagator"
  traceId _ := pure 0

namespace Pairing

def rehearsal (fault : Option Fault) : Pairing .rehearsal (Exporter Propagator) where
  host := .rehearsal
  catalogue := ⟨Names.tracesExporter, "otlp", Names.spanExporters,
    fun name => (Propagator.builtin? name).map fun q _ => .ok (.outside q), id⟩
  chain := [.customizer fault]
  loader := ()
  p := ⟨.ofList [(Names.tracesExporter, some "baggage,b3"), (Names.propagators, some "baggage,b3")]⟩
  loader' := ()
  p' := ⟨.ofList [(Names.tracesExporter, some "baggage,b3"), (Names.propagators, some "baggage,b3")]⟩
  Matches e q := e = .outside q
  items := ["baggage", "b3"]
  listed := by decide +kernel
  listed' := by decide +kernel
  builtin name := by
    show Option.Rel _ ((Propagator.builtin? name).map _) (Propagator.builtin? name)
    cases Propagator.builtin? name with
    | none => exact .none
    | some q => exact .some ⟨_, rfl, rfl⟩

def outset : Scene .rehearsal := { own := () }

theorem not_mixed_rehearsal (fault : Option Fault) : ¬ (rehearsal fault).Mixed := by
  show ¬ (Names.none ∈ ["baggage", "b3"].eraseDups ∧ 1 < ["baggage", "b3"].eraseDups.length)
  decide

theorem alike_rehearsal (fault : Option Fault) :
    (rehearsal fault).Alike ((rehearsal fault).exporters outset).2.turns ((rehearsal fault).propagators outset).2.turns := by
  obtain ⟨ts, r, s₁, hr, hl, -⟩ := (rehearsal fault).proceeds_configureExporters (not_mixed_rehearsal fault) outset
  obtain ⟨ts', r', s₁', hr', hl', -⟩ := (rehearsal fault).proceeds_configurePropagators (not_mixed_rehearsal fault) outset
  rw [exporters, propagators, hr, hr', hl.turns, hl'.turns]
  refine .of_constant (fun _ _ => .ok (.ok fun _ => Iff.rfl)) (fun name plugin plugin' _ _ hn hn' => .ok ?_) hl.own hl'.own
  cases hn
  cases hn'
  rfl

theorem rehearsal_in_step :
    ¬ (rehearsal none).Mixed ∧
      (rehearsal none).Alike ((rehearsal none).exporters outset).2.turns ((rehearsal none).propagators outset).2.turns ∧
      ∃ us us' made segs fault fault',
        ((rehearsal none).exporters outset).2.turns = .checked (.names (rehearsal none).catalogue.key) none :: us ∧
        ((rehearsal none).propagators outset).2.turns = .checked (.names Names.propagators) none :: us' ∧
        ((rehearsal none).exporters outset).1.map OrderedMap.entries = Fault.orElse fault made ∧
        ((rehearsal none).propagators outset).1 = Fault.orElse fault' (segs.map Segment.image) ∧
        (rehearsal none).InStep (rehearsal none).chosen us us' made fault segs fault' := by
  have hm := not_mixed_rehearsal none
  have ha := alike_rehearsal none
  exact ⟨hm, ha, (runs_in_step (List.nil_append _).symm (List.nil_append _).symm ha).2 hm⟩

/-- A link that raises ends the configuration of propagators, and exporters know of no such end. -/
theorem raising_link_parts :
    let f : Fault := .raised "RuntimeError" "x" false
    (rehearsal (some f)).Alike ((rehearsal (some f)).exporters outset).2.turns
        ((rehearsal (some f)).propagators outset).2.turns ∧
      (((rehearsal (some f)).exporters outset).1.map OrderedMap.keys).toOption = some ["baggage", "b3"] ∧
      (((rehearsal (some f)).propagators outset).1.map List.length).mapError Fault.name = .error "RuntimeError" :=
  ⟨alike_rehearsal _, by decide +kernel, by decide +kernel⟩

end Pairing

end Telemetry
