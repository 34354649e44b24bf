import Telemetry.Proofs.Assembly.Merge
import Telemetry.Proofs.Assembly.Succession

/-! # Exporters and propagators of the same names

One setting lists exporters and another one propagators, and the names are the same. A `Pairing` is what the two
are configured from. Turns of one run are compared with those of the other, and the plugins of both are the first
that is compared. -/

namespace Telemetry

open Assembly

/-- Turns besides those in which a plugin tells its name, or a link is applied. -/
def Turn.plain {W : Outside} : Turn W → Bool
  | .asked (.apply ..) .. => false
  | .checked (.nameOf _) none => false
  | _ => true

/-- Turns in which a propagator is created or passes through a link. -/
def Turn.forms {W : Outside} : Turn W → Bool
  | .asked (.apply ..) .. => true
  | .checked (.builtin ..) none => true
  | .asked (.createPropagator ..) _ (.ok _) _ => true
  | _ => false

inductive AnsweredAlike {α β : Type} (R : α → β → Prop) : Except Fault α → Except Fault β → Prop
  | ok {a : α} {b : β} : R a b → AnsweredAlike R (.ok a) (.ok b)
  | error (f : Fault) : AnsweredAlike R (.error f) (.error f)

section
variable {W : Outside} {α : Type}

/-! ## Turns that only one side has -/

section
variable {host : Host W} {k : Kind} {p : Properties} {links : List (Link W)} {v : Artifact W k} {ts : List (Turn W)}
  {r : Except Fault (Artifact W k)} {group : String}

theorem Passes.forms (h : Passes p links v ts r) : ts.filter Turn.forms = ts := by
  induction h with
  | done => rfl
  | next _ ih => rw [List.filter_cons_of_pos rfl, ih]
  | stop => rfl

theorem Passes.plain (h : Passes p links v ts r) : ts.filter Turn.plain = [] := by
  induction h with
  | done => rfl
  | next _ ih => rwa [List.filter_cons_of_neg Bool.false_ne_true]
  | stop => rfl

theorem Passes.loads (h : Passes p links v ts r) : ts.countP (Turn.loads group) = 0 := by
  induction h with
  | done => rfl
  | next _ ih => rwa [List.countP_cons_of_neg Bool.false_ne_true]
  | stop => rfl

section
variable {plugins : List W.Plugin} {named : Except Fault (List (String × W.Plugin))}

theorem TellsNames.forms (h : TellsNames host plugins ts named) : ts.filter Turn.forms = [] := by
  induction h with
  | done => rfl
  | next _ _ ih => rwa [List.filter_cons_of_neg Bool.false_ne_true]
  | stop => rfl

theorem TellsNames.loads (h : TellsNames host plugins ts named) : ts.countP (Turn.loads group) = 0 := by
  induction h with
  | done => rfl
  | next _ _ ih => rwa [List.countP_cons_of_neg Bool.false_ne_true]
  | stop => rfl

theorem TellsNames.plain_ok {es : List (String × W.Plugin)} (h : TellsNames host plugins ts (.ok es)) :
    ts.filter Turn.plain = [] := by
  generalize hr : (Except.ok es : Except Fault _) = named at h
  induction h generalizing es with
  | done => rfl
  | @next _ _ _ _ r _ _ ih =>
    cases r with
    | ok es => exact ih rfl
    | error f => cases hr
  | stop => cases hr

theorem TellsNames.plain_error {f : Fault} (h : TellsNames host plugins ts (.error f)) :
    ∃ q, host.nameOf q = .error f ∧ ts.filter Turn.plain = [.checked (.nameOf q) (some f)] := by
  generalize hr : (Except.error f : Except Fault _) = named at h
  induction h with
  | done => cases hr
  | @next _ _ _ _ r _ _ ih =>
    cases r with
    | ok es => cases hr
    | error g => exact ih hr
  | stop hq =>
    cases hr
    exact ⟨_, hq, rfl⟩

theorem TellsNames.names (h : TellsNames host plugins ts named) :
    named.map (List.map Prod.fst) = plugins.mapM host.nameOf := by
  induction h with
  | done => rfl
  | @next plugin name plugins ts r hn _ ih =>
    rw [List.mapM_cons, hn, ← ih]
    cases r <;> rfl
  | stop hn =>
    rw [List.mapM_cons, hn]
    rfl

theorem TellsNames.nameOf {es : List (String × W.Plugin)} (h : TellsNames host plugins ts (.ok es)) :
    ∀ e ∈ es, host.nameOf e.2 = .ok e.1 := by
  generalize hr : (Except.ok es : Except Fault _) = named at h
  induction h generalizing es with
  | done =>
    cases hr
    exact nofun
  | @next _ _ _ _ r hn _ ih =>
    cases r with
    | ok es =>
      cases hr
      exact List.forall_mem_cons.mpr ⟨hn, ih rfl⟩
    | error f => cases hr
  | stop => cases hr

end

end

/-! ## Two settings -/

/-- A setting of exporters and one of propagators, by the names they list. What is built in corresponds. -/
structure Pairing (W : Outside) (α : Type) where
  host : Host W
  catalogue : ExporterCatalogue W α
  chain : List (Link W)
  loader : W.Loader
  p : Properties
  loader' : W.Loader
  p' : Properties
  Matches : α → Propagator → Prop
  items : List String
  listed : p.list? catalogue.key = some items
  listed' : p'.list? Names.propagators = some items
  builtin : ∀ name, Option.Rel (fun make q => ∃ x, make p = .ok x ∧ Matches x q) (catalogue.builtin? name)
    (Propagator.builtin? name)

namespace Pairing
variable (d : Pairing W α)

def names : List String := d.items.eraseDups

def SameNames (plugins plugins' : List W.Plugin) : Prop :=
  AnsweredAlike (fun names names' => ∀ name, name ∈ names ↔ name ∈ names') (plugins.mapM d.host.nameOf)
    (plugins'.mapM d.host.nameOf)

abbrev SameComponent (e : Exporter W.Exporter) (q : Propagator) : Prop := d.Matches (d.catalogue.ofPlugin e) q

/-- What outside code has answered in the one run and in the other corresponds. -/
structure Alike (ts ts' : List (Turn W)) : Prop where
  loads : ∀ answer added answer' added', .asked (.load d.loader d.catalogue.group) () answer added ∈ ts →
    .asked (.load d.loader' Names.propagatorPlugins) () answer' added' ∈ ts' → AnsweredAlike d.SameNames answer answer'
  plugins : ∀ name plugin plugin' answer added answer' added', d.host.nameOf plugin = .ok name →
    d.host.nameOf plugin' = .ok name → .asked (.createExporter plugin d.p) () answer added ∈ ts →
    .asked (.createPropagator plugin' d.p') () answer' added' ∈ ts' → AnsweredAlike d.SameComponent answer answer'

inductive Counterpart : Turn W → Turn W → Prop
  | load {answer answer' : Except Fault (List W.Plugin)} {added added' : List (Addition W)} :
    AnsweredAlike d.SameNames answer answer' →
      Counterpart (.asked (.load d.loader d.catalogue.group) () answer added)
        (.asked (.load d.loader' Names.propagatorPlugins) () answer' added')
  | nameless {plugin plugin' : W.Plugin} {f : Fault} : d.host.nameOf plugin = .error f → d.host.nameOf plugin' = .error f →
      Counterpart (.checked (.nameOf plugin) (some f)) (.checked (.nameOf plugin') (some f))
  | builtin {name : String} :
    Counterpart (.checked (.builtin d.catalogue.key name) none) (.checked (.builtin Names.propagators name) none)
  | found {name : String} :
    Counterpart (.checked (.lookup d.catalogue.key name) none) (.checked (.lookup Names.propagators name) none)
  | unknown {name : String} :
    Counterpart (.checked (.lookup d.catalogue.key name) (some (.configuration (.unrecognized d.catalogue.key name))))
      (.checked (.lookup Names.propagators name) (some (.configuration (.unrecognized Names.propagators name))))
  | plugin {name : String} {plugin plugin' : W.Plugin} {answer : Except Fault (Exporter W.Exporter)}
    {answer' : Except Fault Propagator} {added added' : List (Addition W)} :
    d.host.nameOf plugin = .ok name → d.host.nameOf plugin' = .ok name → AnsweredAlike d.SameComponent answer answer' →
      Counterpart (.asked (.createExporter plugin d.p) () answer added)
        (.asked (.createPropagator plugin' d.p') () answer' added')

/-- Both selections fail on a name for the same reason: a fault of outside code, or the name is unknown. -/
inductive SameReason (name : String) : Fault → Fault → Prop
  | raised (f : Fault) : SameReason name f f
  | unknown : SameReason name (.configuration (.unrecognized d.catalogue.key name))
      (.configuration (.unrecognized Names.propagators name))

inductive Created (name : String) : Turn W → Propagator → Prop
  | builtin {q : Propagator} : Propagator.builtin? name = some q →
      Created name (.checked (.builtin Names.propagators name) none) q
  | plugin {plugin : W.Plugin} {q : Propagator} {added : List (Addition W)} : d.host.nameOf plugin = .ok name →
      Created name (.asked (.createPropagator plugin d.p') () (.ok q) added) q

structure Pairs (e : String × α) (seg : Segment W) : Prop where
  name : e.1 = seg.name
  component : d.Matches e.2 seg.propagator
  created : d.Created seg.name seg.creation seg.propagator
  passed : Passes d.p' d.chain (.proper seg.propagator) seg.pass (.ok seg.image)

/-- Turns of the two runs go together, and this is what they have made. Nothing else was created or passed
through a link, but for the surplus. -/
structure Together (ts ts' : List (Turn W)) (made : List (String × α)) (segs : List (Segment W)) (surplus : List (Turn W)) :
    Prop where
  turns : List.Forall₂ d.Counterpart (ts.filter Turn.plain) (ts'.filter Turn.plain)
  loads : ts.countP (Turn.loads d.catalogue.group) = ts'.countP (Turn.loads Names.propagatorPlugins)
  pairs : List.Forall₂ d.Pairs made segs
  succession : ts'.filter Turn.forms = segs.flatMap Segment.turns ++ surplus

section
variable {d} {ts ts' us us' : List (Turn W)} {made made' : List (String × α)} {segs segs' : List (Segment W)}
  {surplus : List (Turn W)}

theorem Together.append (h : d.Together ts ts' made segs []) (h' : d.Together us us' made' segs' surplus) :
    d.Together (ts ++ us) (ts' ++ us') (made ++ made') (segs ++ segs') surplus where
  turns := by
    rw [List.filter_append, List.filter_append]
    exact List.rel_append h.turns h'.turns
  loads := by rw [List.countP_append, List.countP_append, h.loads, h'.loads]
  pairs := List.rel_append h.pairs h'.pairs
  succession := by rw [List.filter_append, h.succession, h'.succession, List.append_nil, List.flatMap_append, List.append_assoc]

theorem Alike.mono (h : d.Alike ts ts') (hs : us ⊆ ts) (hs' : us' ⊆ ts') : d.Alike us us' where
  loads _ _ _ _ ha ha' := h.loads _ _ _ _ (hs ha) (hs' ha')
  plugins _ _ _ _ _ _ _ hn hn' ha ha' := h.plugins _ _ _ _ _ _ _ hn hn' (hs ha) (hs' ha')

def SameTable (table table' : Selection.Table W) : Prop :=
  ∀ name, Option.Rel (fun plugin plugin' => d.host.nameOf plugin = .ok name ∧ d.host.nameOf plugin' = .ok name)
    (table.get? name) (table'.get? name)

theorem sameTable_ofList {es es' : List (String × W.Plugin)} (hn : ∀ e ∈ es, d.host.nameOf e.2 = .ok e.1)
    (hn' : ∀ e ∈ es', d.host.nameOf e.2 = .ok e.1) (hm : ∀ name, name ∈ es.map Prod.fst ↔ name ∈ es'.map Prod.fst) :
    d.SameTable (.ofList es) (.ofList es') := by
  intro name
  have hsome := (OrderedMap.isSome_get?_ofList name es).trans ((hm name).trans (OrderedMap.isSome_get?_ofList name es').symm)
  cases hg : (OrderedMap.ofList es).get? name with
  | none =>
    cases hg' : (OrderedMap.ofList es').get? name with
    | none => exact .none
    | some plugin' =>
      rw [hg, hg'] at hsome
      exact absurd (hsome.mpr rfl) Bool.false_ne_true
  | some plugin =>
    cases hg' : (OrderedMap.ofList es').get? name with
    | none =>
      rw [hg, hg'] at hsome
      exact absurd (hsome.mp rfl) Bool.false_ne_true
    | some plugin' =>
      exact .some ⟨hn _ (OrderedMap.mem_of_get?_ofList hg), hn' _ (OrderedMap.mem_of_get?_ofList hg')⟩

theorem Together.loading {answer answer' : Except Fault (List W.Plugin)} (added added' : List (Addition W))
    (h : AnsweredAlike d.SameNames answer answer') :
    d.Together [.asked (.load d.loader d.catalogue.group) () answer added]
      [.asked (.load d.loader' Names.propagatorPlugins) () answer' added'] [] [] [] where
  turns := .cons (.load h) .nil
  loads := by simp [Turn.loads]
  pairs := .nil
  succession := rfl

theorem Together.telling {plugins plugins' : List W.Plugin} {r r' : Except Fault (List (String × W.Plugin))}
    (h : TellsNames d.host plugins ts r) (h' : TellsNames d.host plugins' ts' r') (hs : d.SameNames plugins plugins') :
    AnsweredAlike d.SameTable (r.map .ofList) (r'.map .ofList) ∧ d.Together ts ts' [] [] [] := by
  have htogether : List.Forall₂ d.Counterpart (ts.filter Turn.plain) (ts'.filter Turn.plain) → d.Together ts ts' [] [] [] :=
    fun hc => ⟨hc, h.loads.trans h'.loads.symm, .nil, h'.forms⟩
  unfold SameNames at hs
  rw [← h.names, ← h'.names] at hs
  cases r with
  | error f =>
    cases r' with
    | ok es' => cases hs
    | error f' =>
      cases hs
      obtain ⟨q, hq, hp⟩ := h.plain_error
      obtain ⟨q', hq', hp'⟩ := h'.plain_error
      refine ⟨.error f, htogether ?_⟩
      rw [hp, hp']
      exact .cons (.nameless hq hq') .nil
  | ok es =>
    cases r' with
    | error f' => cases hs
    | ok es' =>
      cases hs with
      | ok hm =>
        refine ⟨.ok (sameTable_ofList h.nameOf h'.nameOf hm), htogether ?_⟩
        rw [h.plain_ok, h'.plain_ok]
        exact .nil

theorem Together.tables {r r' : Except Fault (Selection.Table W)} (h : Tables d.host d.loader d.catalogue.group ts r)
    (h' : Tables d.host d.loader' Names.propagatorPlugins ts' r') (ha : d.Alike ts ts') :
    AnsweredAlike d.SameTable r r' ∧ d.Together ts ts' [] [] [] := by
  cases h with
  | refused =>
    cases h' with
    | refused =>
      have hx := ha.loads _ _ _ _ List.mem_cons_self List.mem_cons_self
      refine ⟨?_, .loading _ _ hx⟩
      cases hx
      exact .error _
    | loaded => cases ha.loads _ _ _ _ List.mem_cons_self List.mem_cons_self
  | loaded h =>
    cases h' with
    | refused => cases ha.loads _ _ _ _ List.mem_cons_self List.mem_cons_self
    | loaded h' =>
      have hx := ha.loads _ _ _ _ List.mem_cons_self List.mem_cons_self
      cases hx with
      | ok hs =>
        obtain ⟨hr, htold⟩ := Together.telling h h' hs
        exact ⟨hr, (Together.loading _ _ (.ok hs)).append htold⟩

end

end Pairing

end

end Telemetry
