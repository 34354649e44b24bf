import Telemetry.Proofs.Assembly.Carries

/-! # Registries and their history

A registry is at work at a desk: customizers are registered, chains are resolved, and functions that
were resolved before are applied, in any order. A ledger does without chains. It notes what was
registered, and of a resolved function only the kind and how much had been noted by then; what the
function does is then a fold over that part of the notes. The replies of the two are the same. -/

namespace Telemetry

open Assembly

/-- What can be done with a registry. Resolved functions are counted from zero, and a value is handed
in for whatever kind a function turns out to be of. -/
inductive Operation (W : Outside)
  | add (kind : Datum) (customizer : Offer W.Customizer)
  | addTyped (kind : Kind) (customizer : Offer W.Customizer)
  | addSupplier (supplier : Offer W.Supplier)
  | count (kind : Datum)
  | resolve (kind : Datum)
  | apply (n : Nat) (value : (k : Kind) → Artifact W k) (p : Properties)

inductive Reply (W : Outside)
  | done
  | refused (f : Fault)
  | counted (n : Nat)
  | applied (k : Kind) (result : Except Fault (Artifact W k))
  | unknown

section
variable {W : Outside}

def inTurn {σ : Type} (step : σ → Operation W → Reply W × σ) : σ → List (Operation W) → List (Reply W) × σ
  | s, [] => ([], s)
  | s, op :: ops => ((step s op).1 :: (inTurn step (step s op).2 ops).1, (inTurn step (step s op).2 ops).2)

/-! ## Desks -/

structure Resolved (W : Outside) where
  kind : Kind
  links : List (Link W)

structure Desk (W : Outside) where
  scene : Scene W
  functions : List (Resolved W) := []

namespace Desk

def change (d : Desk W) : Except Fault (Registry W) → Reply W × Desk W
  | .ok registry => (.done, { d with scene := { d.scene with registry } })
  | .error f => (.refused f, d)

def step (host : Host W) (d : Desk W) : Operation W → Reply W × Desk W
  | .add kind customizer => d.change (d.scene.registry.offer kind customizer)
  | .addTyped kind customizer => d.change (d.scene.registry.offerTyped kind customizer)
  | .addSupplier supplier => d.change (d.scene.registry.offerSupplier supplier)
  | .count kind =>
    match Kind.ofDatum kind with
    | .ok k => (.counted (d.scene.registry.count k), d)
    | .error f => (.refused f, d)
  | .resolve kind =>
    match Kind.ofDatum kind with
    | .ok k => (.done, { d with functions := d.functions ++ [⟨k, d.scene.registry.resolve k⟩] })
    | .error f => (.refused f, d)
  | .apply n value p =>
    match d.functions[n]? with
    | some f =>
      let r := (runChain host f.kind f.links p (value f.kind)).run d.scene
      (.applied f.kind r.1, { d with scene := r.2 })
    | none => (.unknown, d)

end Desk

/-! ## Ledgers -/

def customizersOf (k : Kind) (added : List (Addition W)) : List (Link W) :=
  added.filterMap fun
    | .customizer kind link => if kind = k then some link else none
    | .supplier _ => none

structure Folded (W : Outside) (k : Kind) where
  result : Except Fault (Artifact W k)
  own : W.State
  added : List (Addition W) := []

/-- Hands a value from one customizer to the next, all with the same settings, up to the first that
raises. -/
def fold (host : Host W) (k : Kind) (p : Properties) : List (Link W) → Artifact W k → W.State → Folded W k
  | [], value, own => { result := .ok value, own }
  | link :: links, value, own =>
    match (host.apply k link value p).run { own } with
    | (.ok value, v) =>
      let rest := fold host k p links value v.own
      { rest with added := v.added ++ rest.added }
    | (.error f, v) => { result := .error f, own := v.own, added := v.added }

structure Ledger (W : Outside) where
  own : W.State
  added : List (Addition W) := []
  functions : List (Kind × Nat) := []

namespace Ledger

def function (l : Ledger W) (f : Kind × Nat) : Resolved W := ⟨f.1, customizersOf f.1 (l.added.take f.2)⟩

def note (l : Ledger W) : Except Fault (Addition W) → Reply W × Ledger W
  | .ok addition => (.done, { l with added := l.added ++ [addition] })
  | .error f => (.refused f, l)

def step (host : Host W) (l : Ledger W) : Operation W → Reply W × Ledger W
  | .add kind customizer => l.note (Addition.ofCustomizer kind customizer)
  | .addTyped kind customizer =>
    l.note ((customizer.accept "customizer").map fun c => .customizer kind (.customizer c))
  | .addSupplier supplier => l.note (Addition.ofSupplier supplier)
  | .count kind =>
    match Kind.ofDatum kind with
    | .ok k => (.counted (customizersOf k l.added).length, l)
    | .error f => (.refused f, l)
  | .resolve kind =>
    match Kind.ofDatum kind with
    | .ok k => (.done, { l with functions := l.functions ++ [(k, l.added.length)] })
    | .error f => (.refused f, l)
  | .apply n value p =>
    match l.functions[n]? with
    | some f =>
      let r := fold host f.1 p (l.function f).links (value f.1) l.own
      (.applied f.1 r.result, { l with own := r.own, added := l.added ++ r.added })
    | none => (.unknown, l)

end Ledger

/-! ## Chains and history -/

theorem customizersOf_append (k : Kind) (added more : List (Addition W)) :
    customizersOf k (added ++ more) = customizersOf k added ++ customizersOf k more :=
  List.filterMap_append

theorem Registry.chains_record (r : Registry W) (a : Addition W) (k : Kind) :
    (r.record a).chains k = r.chains k ++ customizersOf k [a] := by
  cases a with
  | customizer kind link =>
    show (if k = kind then r.chains k ++ [link] else r.chains k) = _
    by_cases h : k = kind
    · subst h
      simp [customizersOf]
    · simp [customizersOf, h, Ne.symm h]
  | supplier s => exact (List.append_nil _).symm

theorem Registry.chains_extend (k : Kind) : ∀ (added : List (Addition W)) (r : Registry W),
    (r.extend added).chains k = r.chains k ++ customizersOf k added
  | [], r => (List.append_nil _).symm
  | a :: added, r => by
    have h : r.extend (a :: added) = (r.record a).extend added := rfl
    rw [h, chains_extend k added, chains_record, List.append_assoc, ← customizersOf_append,
      List.singleton_append]

theorem run_runChain (host : Host W) (k : Kind) (p : Properties) : ∀ (links : List (Link W))
    (value : Artifact W k) (s : Scene W),
    ∃ s', (runChain host k links p value).run s = ((fold host k p links value s.own).result, s') ∧
      s'.own = (fold host k p links value s.own).own ∧
      s'.registry = s.registry.extend (fold host k p links value s.own).added
  | [], value, s => ⟨s, rfl, rfl, rfl⟩
  | link :: links, value, s => by
    rw [runChain_cons, fold]
    obtain ⟨answer, v, hv, hr⟩ := run_ask host (.apply k link p) value s
    have hv : (host.apply k link value p).run { own := s.own } = (answer, v) := hv
    rw [hv]
    cases answer with
    | error f => exact ⟨_, run_bind_error hr _, rfl, rfl⟩
    | ok value' =>
      obtain ⟨s', hr', ho, hg⟩ := run_runChain host k p links value' _
      refine ⟨s', (run_bind_ok hr _).trans hr', ho, hg.trans ?_⟩
      exact (List.foldl_append ..).symm

/-! ## The same replies -/

structure Desk.Agrees (d : Desk W) (l : Ledger W) : Prop where
  own : d.scene.own = l.own
  chains : ∀ k, d.scene.registry.chains k = customizersOf k l.added
  functions : d.functions = l.functions.map l.function
  moments : ∀ f ∈ l.functions, f.2 ≤ l.added.length

section
variable {d : Desk W} {l : Ledger W}

/-- More notes leave the functions as they are, which is why a function that was resolved never changes. -/
theorem Desk.Agrees.grow (h : d.Agrees l) {scene : Scene W} {own : W.State} {more : List (Addition W)}
    (ho : scene.own = own) (hg : scene.registry = d.scene.registry.extend more) :
    Desk.Agrees { d with scene } { l with own, added := l.added ++ more } where
  own := ho
  chains k := by rw [hg, Registry.chains_extend, h.chains, ← customizersOf_append]
  functions := by
    refine h.functions.trans (List.map_congr_left fun f hf => ?_)
    unfold Ledger.function
    rw [List.take_append_of_le_length (h.moments f hf)]
  moments f hf := by
    rw [List.length_append]
    exact Nat.le_add_right_of_le (h.moments f hf)

theorem Desk.Agrees.resolve (h : d.Agrees l) (k : Kind) :
    Desk.Agrees { d with functions := d.functions ++ [⟨k, d.scene.registry.chains k⟩] }
      { l with functions := l.functions ++ [(k, l.added.length)] } where
  own := h.own
  chains := h.chains
  functions := by
    rw [List.map_append, h.functions, h.chains, List.map_singleton, Ledger.function, List.take_length]
    rfl
  moments f hf := by
    rcases List.mem_append.mp hf with hf | hf
    · exact h.moments f hf
    · cases List.mem_singleton.mp hf
      exact Nat.le_refl _

theorem Desk.Agrees.change (h : d.Agrees l) (a : Except Fault (Addition W)) :
    (d.change (a.map d.scene.registry.record)).1 = (l.note a).1 ∧
      (d.change (a.map d.scene.registry.record)).2.Agrees (l.note a).2 := by
  cases a with
  | ok a => exact ⟨rfl, h.grow h.own rfl⟩
  | error f => exact ⟨rfl, h⟩

theorem Kind.ofDatum_name (k : Kind) : Kind.ofDatum (.text k.name) = .ok k := by
  cases k <;> rfl

theorem Registry.offerTyped_eq (r : Registry W) (k : Kind) (customizer : Offer W.Customizer) :
    r.offerTyped k customizer =
      ((customizer.accept "customizer").map fun c => .customizer k (.customizer c)).map r.record := by
  unfold Registry.offerTyped Registry.offer Addition.ofCustomizer
  rw [Kind.ofDatum_name]
  cases customizer.accept "customizer" <;> rfl

theorem Registry.offer_eq (r : Registry W) (kind : Datum) (customizer : Offer W.Customizer) :
    r.offer kind customizer = (Addition.ofCustomizer kind customizer).map r.record := by
  unfold Registry.offer
  cases Addition.ofCustomizer kind customizer <;> rfl

theorem Registry.offerSupplier_eq (r : Registry W) (supplier : Offer W.Supplier) :
    r.offerSupplier supplier = (Addition.ofSupplier supplier).map r.record := by
  unfold Registry.offerSupplier
  cases (Addition.ofSupplier supplier : Except Fault (Addition W)) <;> rfl

theorem Desk.Agrees.step (host : Host W) (h : d.Agrees l) (op : Operation W) :
    (d.step host op).1 = (l.step host op).1 ∧ (d.step host op).2.Agrees (l.step host op).2 := by
  cases op with
  | add kind customizer =>
    simp only [Desk.step, Registry.offer_eq]
    exact h.change _
  | addTyped kind customizer =>
    simp only [Desk.step, Registry.offerTyped_eq]
    exact h.change _
  | addSupplier supplier =>
    simp only [Desk.step, Registry.offerSupplier_eq]
    exact h.change _
  | count kind =>
    simp only [Desk.step, Ledger.step, Registry.count]
    cases Kind.ofDatum kind with
    | ok k => exact ⟨by simp only [h.chains], h⟩
    | error f => exact ⟨rfl, h⟩
  | resolve kind =>
    simp only [Desk.step, Ledger.step, Registry.resolve]
    cases Kind.ofDatum kind with
    | ok k => exact ⟨rfl, h.resolve k⟩
    | error f => exact ⟨rfl, h⟩
  | apply n value p =>
    have hn : d.functions[n]? = (l.functions[n]?).map l.function := by rw [h.functions, List.getElem?_map]
    simp only [Desk.step, Ledger.step, hn]
    cases l.functions[n]? with
    | none => exact ⟨rfl, h⟩
    | some f =>
      obtain ⟨s', hr, ho, hg⟩ := run_runChain host f.1 p (l.function f).links (value f.1) d.scene
      have hr : (runChain host (l.function f).kind (l.function f).links p (value (l.function f).kind)).run d.scene =
        _ := hr
      simp only [Option.map_some, hr]
      rw [← h.own]
      exact ⟨rfl, h.grow ho hg⟩

theorem Desk.Agrees.inTurn (host : Host W) (h : d.Agrees l) : ∀ ops : List (Operation W),
    (inTurn (Desk.step host) d ops).1 = (inTurn (Ledger.step host) l ops).1 ∧
      (inTurn (Desk.step host) d ops).2.Agrees (inTurn (Ledger.step host) l ops).2 := by
  intro ops
  induction ops generalizing d l with
  | nil => exact ⟨rfl, h⟩
  | cons op ops ih =>
    obtain ⟨hr, hs⟩ := h.step host op
    obtain ⟨hrs, hs'⟩ := ih hs
    refine ⟨?_, hs'⟩
    simp only [Telemetry.inTurn, hr, hrs]

end

/-- Whatever is done with a registry, a function that was resolved for a kind is the fold over the
customizers that were registered for that kind by then. -/
theorem Desk.replies_eq_ledger (host : Host W) (own : W.State) (ops : List (Operation W)) :
    let d := inTurn (Desk.step host) { scene := { own } } ops
    let l := inTurn (Ledger.step host) { own } ops
    d.1 = l.1 ∧ d.2.Agrees l.2 :=
  Desk.Agrees.inTurn host ⟨rfl, fun _ => rfl, rfl, fun _ hf => absurd hf List.not_mem_nil⟩ ops

end

end Telemetry
