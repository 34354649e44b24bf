import Mathlib.Data.List.Forall2
import Telemetry.Proofs.Assembly.Carries
import Telemetry.Proofs.Assembly.Course
import Telemetry.Proofs.Distinct

/-! # Components by name

Exporters and propagators are created by loops of their own. `Offering.creating` is the loop that
both of them are, and it takes the steps of `Offering.components`. -/

namespace Telemetry

open Assembly
open Plan (along take)

/-! ## Names and plugins -/

theorem Selection.names_eq {p : Properties} {key noun : String} {default names : List String}
    (h : Selection.names p key noun default = .ok names) : names = p.configured key default := by
  unfold Selection.names at h
  unfold Properties.configured
  simp only at h ⊢
  split at h
  · rename_i hn
    split at h <;> cases h
    rw [if_pos hn]
  · rename_i hn
    cases h
    rw [if_neg hn]

theorem Properties.nodup_configured (p : Properties) (key : String) (default : List String) :
    (p.configured key default).Nodup := by
  unfold Properties.configured
  simp only
  split
  · exact List.nodup_nil
  · exact nodup_eraseDups _

section
variable {W : Outside} (host : Host W)

def Tabulates (table : Selection.Table W) (plugins : List W.Plugin) : Prop :=
  ∀ name, table.get? name = Offering.pluginNamed host plugins name

abbrev Named (plugins : List W.Plugin) (named : List (String × W.Plugin)) : Prop :=
  List.Forall₂ (fun plugin e => host.nameOf plugin = .ok e.1 ∧ e.2 = plugin) plugins named

theorem Named.tabulates {plugins : List W.Plugin} {named : List (String × W.Plugin)}
    (h : Named host plugins named) : Tabulates host (.ofList named) plugins := by
  intro name
  have hr := List.rel_reverse h
  unfold Offering.pluginNamed
  rw [OrderedMap.get?_ofList]
  generalize plugins.reverse = ps, named.reverse = es at hr
  induction hr with
  | nil => rfl
  | cons he _ ih =>
    obtain ⟨hn, rfl⟩ := he
    rw [List.find?_cons, List.find?_cons, hn]
    simp only
    split
    · rfl
    · exact ih

theorem walks_named : ∀ (plugins : List W.Plugin) (s : Scene W),
    Walks host (plugins.mapM fun plugin => do
      return (← Assembly.check (.nameOf plugin) (host.nameOf plugin), plugin)) s
      (plugins.map fun plugin => .check (.nameOf plugin)) (Named host plugins)
  | [], _ => by
    rw [List.mapM_nil]
    exact Walks.pure .nil
  | plugin :: plugins, s => by
    rw [List.mapM_cons, List.map_cons, ← List.singleton_append]
    refine Walks.bind (Q := fun e => host.nameOf plugin = .ok e.1 ∧ e.2 = plugin) ?_ fun e s' he => ?_
    · exact (Walks.check (.nameOf plugin) (host.nameOf plugin)).map fun name hn => ⟨hn, rfl⟩
    · exact (walks_named plugins s').map fun named hn => .cons he hn

theorem carries_load (loader : W.Loader) (group : String) (s : Scene W) :
    Carries host (Selection.load host loader group) s
      (do
        let loaded ← take (.ask (.load loader group))
        let r ← along (s.registry.extend loaded.added)
          (loaded.found.map fun plugin => .check (.nameOf plugin))
        return (loaded, r))
      fun table b s' => b.2 = s'.registry ∧ Tabulates host table b.1.found := by
  unfold Selection.load
  refine Carries.bind (Carries.ask (.load loader group) ()) fun plugins t s' hq => ?_
  obtain ⟨added, rfl, hs⟩ := hq
  rw [show s.registry.extend (Turn.asked (.load loader group) () (.ok plugins) added).added =
    s'.registry from hs.symm]
  refine Carries.bind (walks_named host plugins s') fun named r s'' hn => ?_
  exact Carries.pure ⟨hn.1, hn.2.tabulates⟩

/-! ## The loop -/

namespace Offering

section
variable (o : Offering W) (p : Properties) (after : List (Step W))

theorem components_builtin {loader : W.Loader} {name : String} (h : o.builtin.contains name)
    (names : List String) (r : Registry W) :
    components host o p after loader (name :: names) r =
      along r (.check (.builtin o.key name) :: after) >>= components host o p after loader names := by
  unfold components
  rw [List.takeWhile_cons_of_pos h, List.dropWhile_cons_of_pos h, List.flatMap_cons, Plan.along_append,
    Plan.bind_assoc]

theorem components_load {loader : W.Loader} {name : String} (h : ¬ o.builtin.contains name)
    (names : List String) (r : Registry W) :
    components host o p after loader (name :: names) r = (do
      let loaded ← take (.ask (.load loader o.group))
      let r ← along (r.extend loaded.added) (loaded.found.map fun plugin => .check (.nameOf plugin))
      return (loaded, r)) >>= fun b =>
        along b.2 ((name :: names).flatMap (component host o p after b.1.found)) := by
  rw [components, List.takeWhile_cons_of_neg h, List.dropWhile_cons_of_neg h, List.flatMap_nil, along,
    Plan.done_bind]
  simp only [List.isEmpty_cons, Bool.false_eq_true, if_false, Plan.along_append, Plan.bind_assoc,
    Plan.pure_def, Plan.done_bind]

end

section
variable {α : Type} (loader : W.Loader) (o : Offering W) (native : String → Assembly W α)
  (foreign : String → W.Plugin → Assembly W α)

def creating : List String → Option (Selection.Table W) → Assembly W (List α)
  | [], _ => pure []
  | name :: rest, known =>
    if o.builtin.contains name then do
      let x ← native name
      return x :: (← creating rest known)
    else do
      let table ← Selection.loaded host loader o.group known
      let plugin ← check (.lookup o.key name) (Selection.plugin table o.key name)
      let x ← foreign name plugin
      return x :: (← creating rest (some table))

theorem creating_builtin {name : String} (h : o.builtin.contains name) (rest : List String)
    (known : Option (Selection.Table W)) :
    creating host loader o native foreign (name :: rest) known = (do
      let x ← native name
      return x :: (← creating host loader o native foreign rest known)) := by
  rw [creating, if_pos h]

theorem creating_load {name : String} (h : ¬ o.builtin.contains name) (rest : List String) :
    creating host loader o native foreign (name :: rest) none =
      Selection.load host loader o.group >>= fun table =>
        creating host loader o native foreign (name :: rest) (some table) := by
  simp only [creating, if_neg h, Selection.loaded, pure_bind]

variable {p : Properties} {after : List (Step W)} {R : String → α → Prop}
  (hn : ∀ name s, o.builtin.contains name →
    Walks host (native name) s (.check (.builtin o.key name) :: after) (R name))
  (hf : ∀ name plugin s, Walks host (foreign name plugin) s (.ask (o.create plugin p) :: after) (R name))
include hn hf

theorem walks_creating {table : Selection.Table W} {plugins : List W.Plugin}
    (ht : Tabulates host table plugins) : ∀ (names : List String) (s : Scene W),
    Walks host (creating host loader o native foreign names (some table)) s
      (names.flatMap (component host o p after plugins)) (List.Forall₂ R names)
  | [], _ => Walks.pure .nil
  | name :: names, s => by
    rw [List.flatMap_cons]
    by_cases hb : o.builtin.contains name
    · rw [creating_builtin host loader o native foreign hb, component, if_pos hb]
      refine (hn name s hb).bind fun x s' hx => ?_
      exact (walks_creating ht names s').map fun xs hxs => .cons hx hxs
    · simp only [creating, if_neg hb, Selection.loaded, pure_bind, component]
      rw [List.cons_append, ← List.singleton_append]
      refine (Walks.check _ _).bind fun plugin s' hp => ?_
      rw [Selection.plugin, ht name] at hp
      cases hpn : pluginNamed host plugins name with
      | none => rw [hpn] at hp; cases hp
      | some found =>
        rw [hpn] at hp
        cases hp
        refine (hf name plugin s').bind fun x s'' hx => ?_
        exact (walks_creating ht names s'').map fun xs hxs => .cons hx hxs

theorem tracks_creating : ∀ (names : List String) (s : Scene W),
    Tracks host (creating host loader o native foreign names none) s
      (components host o p after loader names s.registry) (List.Forall₂ R names)
  | [], _ => Walks.pure .nil
  | name :: names, s => by
    by_cases hb : o.builtin.contains name
    · rw [creating_builtin host loader o native foreign hb, components_builtin host o p after hb]
      refine Tracks.bind (hn name s hb) fun x s' hx => ?_
      exact (tracks_creating names s').map fun xs hxs => .cons hx hxs
    · rw [creating_load host loader o native foreign hb, components_load host o p after hb]
      refine Carries.bind (carries_load host loader o.group s) fun table b s' ht => ?_
      rw [ht.1]
      exact walks_creating host loader o native foreign hn hf ht.2 (name :: names) s'

end

end Offering

end

end Telemetry
