import Telemetry.Proofs.Assembly.Twins

/-! # Runs in a mirror

A run of one action looks in a run of another turn by turn as it does in a mirror: each turn shows as another
turn, both end alike, and the scenes stay alike. A mirror may be clear for some turns only; a run with other
turns in it need not show. Twins mirror each other if what they ask does. -/

namespace Telemetry

open Assembly

section
variable {W : Outside}

/-- How a turn shows, for which turns it does, and which scenes are alike. Whether they are has nothing to do
with the turns that were taken, and what the library says by itself is said in both. -/
structure Mirror (W : Outside) where
  turn : Turn W → Turn W
  clear : Turn W → Prop
  alike : Scene W → Scene W → Prop
  checked (c : Check W) (fault : Option Fault) : turn (.checked c fault) = .checked c fault
  chains {s s' : Scene W} : alike s s' → s'.registry.chains = s.registry.chains
  said {s s' : Scene W} (e : Event) : alike s s' →
    alike { s with journal := s.journal ++ [e] } { s' with journal := s'.journal ++ [e] }
  taken {s s' : Scene W} (t t' : Turn W) : alike s s' →
    alike { s with turns := s.turns ++ [t] } { s' with turns := s'.turns ++ [t'] }

namespace Mirror

section
variable {α β : Type} (M : Mirror W)

/-- From a scene, a run ends as one does that took these turns. -/
structure Shows (ts : List (Turn W)) (s' : Scene W) (x x' : Except Fault α × Scene W) : Prop where
  outcome : x'.1 = x.1
  turns : x'.2.turns = s'.turns ++ ts.map M.turn
  alike : M.alike x.2 x'.2

def Mirrors (act act' : Assembly W α) : Prop :=
  ∀ s, ∃ ts, (run act s).2.turns = s.turns ++ ts ∧
    ((∀ t ∈ ts, M.clear t) → ∀ s', M.alike s s' → M.Shows ts s' (run act s) (run act' s'))

variable {M}

theorem Mirrors.pure (a : α) : M.Mirrors (pure a) (pure a) := by
  intro s
  refine ⟨[], (List.append_nil _).symm, fun _ s' hs => ?_⟩
  exact ⟨rfl, (List.append_nil _).symm, hs⟩

theorem Mirrors.bind {act act' : Assembly W α} {k k' : α → Assembly W β} (h : M.Mirrors act act')
    (hk : ∀ a, M.Mirrors (k a) (k' a)) : M.Mirrors (act >>= k) (act' >>= k') := by
  intro s
  obtain ⟨ts, ht, hs⟩ := h s
  rcases run_bind_cases act k s with ⟨f, s₁, hr, hb⟩ | ⟨a, s₁, hr, hb⟩
  · rw [hr] at ht hs
    rw [hb]
    refine ⟨ts, ht, fun hc s' ha => ?_⟩
    have h₁ := hs hc s' ha
    have hr' : run act' s' = (.error f, (run act' s').2) := Prod.ext h₁.outcome rfl
    rw [run_bind_error hr']
    exact ⟨rfl, h₁.turns, h₁.alike⟩
  · obtain ⟨us, hu, hs'⟩ := hk a s₁
    rw [hr] at ht hs
    rw [hb]
    refine ⟨ts ++ us, ?_, fun hc s' ha => ?_⟩
    · rw [hu, ht, List.append_assoc]
    · have h₁ := hs (fun t h => hc t (List.mem_append_left _ h)) s' ha
      have h₂ := hs' (fun t h => hc t (List.mem_append_right _ h)) _ h₁.alike
      have hr' : run act' s' = (.ok a, (run act' s').2) := Prod.ext h₁.outcome rfl
      rw [run_bind_ok hr']
      refine ⟨h₂.outcome, ?_, h₂.alike⟩
      rw [h₂.turns, h₁.turns, List.map_append, List.append_assoc]

theorem Mirrors.emit (e : Event) : M.Mirrors (emit e) (emit e) := by
  intro s
  refine ⟨[], (List.append_nil _).symm, fun _ s' hs => ?_⟩
  exact ⟨rfl, (List.append_nil _).symm, M.said e hs⟩

theorem Mirrors.resolve (k : Kind) : M.Mirrors (resolve k) (resolve k) := by
  intro s
  refine ⟨[], (List.append_nil _).symm, fun _ s' hs => ?_⟩
  refine ⟨?_, (List.append_nil _).symm, hs⟩
  rw [run_resolve, run_resolve, Registry.resolve, Registry.resolve, M.chains hs]

theorem Mirrors.check (c : Check W) (r : Except Fault α) : M.Mirrors (check c r) (check c r) := by
  intro s
  refine ⟨_, rfl, fun _ s' hs => ⟨rfl, ?_, M.taken _ _ hs⟩⟩
  rw [List.map_singleton, M.checked]
  rfl

theorem Mirrors.mapM {act act' : α → Assembly W β} (h : ∀ a, M.Mirrors (act a) (act' a)) :
    ∀ as : List α, M.Mirrors (as.mapM act) (as.mapM act')
  | [] => by
    rw [List.mapM_nil, List.mapM_nil]
    exact .pure _
  | a :: as => by
    rw [List.mapM_cons, List.mapM_cons]
    exact (h a).bind fun _ => (mapM h as).bind fun _ => .pure _

theorem Mirrors.forM {act act' : α → Assembly W Unit} (h : ∀ a, M.Mirrors (act a) (act' a)) :
    ∀ as : List α, M.Mirrors (as.forM act) (as.forM act')
  | [] => .pure ()
  | a :: as => (h a).bind fun _ => forM h as

end

/-! ## Twins -/

structure Reflects (M : Mirror W) (host host' : Host W) (p q : Properties) : Prop where
  load (loader : W.Loader) (group : String) :
    M.Mirrors (ask host (.load loader group) ()) (ask host' (.load loader group) ())
  apply (k : Kind) (link : Link W) (value : Artifact W k) :
    M.Mirrors (ask host (.apply k link p) value) (ask host' (.apply k link q) value)
  createExporter (plugin : W.Plugin) :
    M.Mirrors (ask host (.createExporter plugin p) ()) (ask host' (.createExporter plugin q) ())
  createPropagator (plugin : W.Plugin) :
    M.Mirrors (ask host (.createPropagator plugin p) ()) (ask host' (.createPropagator plugin q) ())

end Mirror

theorem Twins.mirrors {α : Type} {M : Mirror W} {host host' : Host W} {p q : Properties} {K : Kind → Prop}
    {act act' : Assembly W α} (hM : M.Reflects host host' p q) (h : Twins host host' p q K act act') :
    M.Mirrors act act' := by
  induction h with
  | pure a => exact .pure a
  | bind _ _ ih ihk => exact ih.bind ihk
  | resolve k => exact .resolve k
  | emit e => exact .emit e
  | check c hr =>
    subst hr
    exact .check c _
  | load loader _ => exact hM.load loader _
  | apply link value _ => exact hM.apply _ link value
  | createExporter plugin => exact hM.createExporter plugin
  | createPropagator plugin => exact hM.createPropagator plugin

end

end Telemetry
