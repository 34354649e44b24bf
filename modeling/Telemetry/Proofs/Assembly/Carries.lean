import Telemetry.Proofs.Assembly.Plan

/-! # Actions that carry out plans

`Carries` relates an action of an assembly to a plan: from a given scene the action takes the steps
of the plan, and where it ends, the plan ends. `Walks` is the case of a fixed list of steps. Both are
closed under sequencing, so that a long action is compared with a long plan piece by piece. -/

namespace Telemetry

open Plan (along take)

namespace Assembly
variable {W : Outside} {α β : Type}

theorem run_pure (a : α) (s : Scene W) : run (pure a : Assembly W α) s = (.ok a, s) := rfl

theorem run_bind (act : Assembly W α) (k : α → Assembly W β) (s : Scene W) :
    run (act >>= k) s = match run act s with
      | (.ok a, s') => run (k a) s'
      | (.error f, s') => (.error f, s') := by
  have h : run (act >>= k) s =
      (fun x : Except Fault α × Scene W => StateT.run (ExceptT.bindCont k x.1) x.2) (run act s) := rfl
  rw [h]
  obtain ⟨r, s'⟩ := run act s
  cases r <;> rfl

theorem run_bind_ok {act : Assembly W α} {s s' : Scene W} {a : α} (h : run act s = (.ok a, s'))
    (k : α → Assembly W β) : run (act >>= k) s = run (k a) s' := by
  rw [run_bind, h]

theorem run_bind_error {act : Assembly W α} {s s' : Scene W} {f : Fault} (h : run act s = (.error f, s'))
    (k : α → Assembly W β) : run (act >>= k) s = (.error f, s') := by
  rw [run_bind, h]

theorem run_bind_cases (act : Assembly W α) (k : α → Assembly W β) (s : Scene W) :
    (∃ f s', run act s = (.error f, s') ∧ run (act >>= k) s = (.error f, s')) ∨
      ∃ a s', run act s = (.ok a, s') ∧ run (act >>= k) s = run (k a) s' := by
  cases h : run act s with
  | mk r s' =>
    cases r with
    | error f => exact .inl ⟨f, s', rfl, run_bind_error h k⟩
    | ok a => exact .inr ⟨a, s', rfl, run_bind_ok h k⟩

theorem ok_of_bind {act : Assembly W α} {k : α → Assembly W β} {s s' : Scene W} {b : β}
    (h : run (act >>= k) s = (.ok b, s')) : ∃ a s₁, run act s = (.ok a, s₁) ∧ run (k a) s₁ = (.ok b, s') := by
  rcases run_bind_cases act k s with ⟨f, s₁, -, hb⟩ | ⟨a, s₁, ha, hb⟩
  · cases h.symm.trans hb
  · exact ⟨a, s₁, ha, hb.symm.trans h⟩

theorem ok_of_check {c : Check W} {r : Except Fault α} {s s' : Scene W} {a : α} (h : run (check c r) s = (.ok a, s')) :
    r = .ok a := by
  cases r with
  | ok b => cases h; rfl
  | error f => cases h

theorem run_emit (e : Event) (s : Scene W) :
    run (emit e : Assembly W Unit) s = (.ok (), { s with journal := s.journal ++ [e] }) := rfl

theorem run_get (s : Scene W) : run (get : Assembly W (Scene W)) s = (.ok s, s) := rfl

theorem run_ask (host : Host W) (r : Request W) (input : r.Input) (s : Scene W) :
    ∃ (answer : Except Fault r.Answer) (v : Visit W), (host.answer r input).run { own := s.own } = (answer, v) ∧
      run (ask host r input) s = (answer,
        ⟨v.own, s.registry.extend v.added, s.journal ++ v.events, s.turns ++ [.asked r input answer v.added]⟩) :=
  ⟨_, _, rfl, rfl⟩

theorem run_resolve (k : Kind) (s : Scene W) : run (resolve k) s = (.ok (s.registry.resolve k), s) := rfl

theorem ok_of_resolve {kind : Kind} {k : List (Link W) → Assembly W β} {s s' : Scene W} {b : β}
    (h : run (resolve kind >>= k) s = (.ok b, s')) : run (k (s.registry.resolve kind)) s = (.ok b, s') :=
  h

theorem runChain_cons (host : Host W) (k : Kind) (link : Link W) (links : List (Link W)) (p : Properties)
    (value : Artifact W k) :
    runChain host k (link :: links) p value = ask host (.apply k link p) value >>= runChain host k links p := by
  simp only [runChain, thread, List.foldlM_cons]
  rfl

end Assembly

open Assembly

section
variable {W : Outside} {α β γ δ : Type}

structure Leads (host : Host W) (s : Scene W) (ts : List (Turn W)) (s' : Scene W) : Prop where
  turns : s'.turns = s.turns ++ ts
  own : Conversed host s.own ts s'.own

namespace Leads
variable {host : Host W} {s s' s'' : Scene W}

theorem none (ht : s'.turns = s.turns) (ho : s'.own = s.own) : Leads host s [] s' :=
  ⟨by rw [ht, List.append_nil], ho ▸ .nil _⟩

theorem append {ts us : List (Turn W)} (h : Leads host s ts s') (h' : Leads host s' us s'') :
    Leads host s (ts ++ us) s'' :=
  ⟨by rw [h'.turns, h.turns, List.append_assoc], h.own.append h'.own⟩

end Leads

/-- From a scene an action takes the steps of a plan. If both end without a fault, what they yield
and the last scene are related. -/
inductive Carries (host : Host W) (act : Assembly W α) (s : Scene W) (plan : Plan W β)
    (Q : α → β → Scene W → Prop) : Prop
  | ok {a : α} {b : β} {s' : Scene W} {ts : List (Turn W)} :
    run act s = (.ok a, s') → Leads host s ts s' → plan.Follows ts (.ok b) → Q a b s' →
      Carries host act s plan Q
  | error {f : Fault} {s' : Scene W} {ts : List (Turn W)} :
    run act s = (.error f, s') → Leads host s ts s' → plan.Follows ts (.error f) → Carries host act s plan Q

namespace Carries
variable {host : Host W} {s : Scene W}

theorem pure {a : α} {b : β} {Q : α → β → Scene W → Prop} (h : Q a b s) :
    Carries host (pure a) s (Plan.done b) Q :=
  ok (run_pure a s) (.none rfl rfl) (.done b) h

theorem bind {act : Assembly W α} {k : α → Assembly W γ} {plan : Plan W β} {l : β → Plan W δ}
    {Q : α → β → Scene W → Prop} {R : γ → δ → Scene W → Prop} (h : Carries host act s plan Q)
    (hk : ∀ a b s', Q a b s' → Carries host (k a) s' (l b) R) :
    Carries host (act >>= k) s (plan >>= l) R := by
  cases h with
  | error hr ht hf => exact error (run_bind_error hr k) ht (hf.bind_error l)
  | ok hr ht hf hq =>
    cases hk _ _ _ hq with
    | ok hr' ht' hf' hq' => exact ok ((run_bind_ok hr k).trans hr') (ht.append ht') (hf.bind_ok hf') hq'
    | error hr' ht' hf' => exact error ((run_bind_ok hr k).trans hr') (ht.append ht') (hf.bind_ok hf')

theorem map {act : Assembly W α} {k : α → γ} {plan : Plan W β} {Q : α → β → Scene W → Prop}
    {R : γ → β → Scene W → Prop} (h : Carries host act s plan Q)
    (hR : ∀ a b s', Q a b s' → R (k a) b s') : Carries host (act >>= fun a => Pure.pure (k a)) s plan R := by
  rw [← Plan.bind_done plan]
  exact h.bind fun a b s' hq => pure (hR a b s' hq)

theorem silent {act : Assembly W α} {k : α → Assembly W γ} {a : α} {s' : Scene W} {plan : Plan W β}
    {Q : γ → β → Scene W → Prop} (hr : run act s = (.ok a, s')) (ht : Leads host s [] s')
    (hk : Carries host (k a) s' plan Q) : Carries host (act >>= k) s plan Q := by
  cases hk with
  | ok hr' ht' hf hq => exact ok ((run_bind_ok hr k).trans hr') (ht.append ht') hf hq
  | error hr' ht' hf => exact error ((run_bind_ok hr k).trans hr') (ht.append ht') hf

theorem ask (r : Request W) (input : r.Input) :
    Carries host (Assembly.ask host r input) s (take (.ask r)) fun a t s' =>
      ∃ added, t = .asked r input (.ok a) added ∧ s'.registry = s.registry.extend added := by
  obtain ⟨answer, v, hv, hr⟩ := run_ask host r input s
  have hl : Leads host s [.asked r input answer v.added]
      ⟨v.own, s.registry.extend v.added, s.journal ++ v.events, s.turns ++ [.asked r input answer v.added]⟩ :=
    ⟨rfl, .asked hv (.nil _)⟩
  cases answer with
  | ok a => exact ok hr hl (.next rfl rfl (.done _)) ⟨v.added, rfl, rfl⟩
  | error f => exact error hr hl (.stop rfl rfl)

theorem check (c : Check W) (r : Except Fault α) :
    Carries host (Assembly.check c r) s (take (.check c)) fun a t s' =>
      r = .ok a ∧ t = .checked c none ∧ s'.registry = s.registry := by
  cases r with
  | ok a => exact ok rfl ⟨rfl, .checked (.nil _)⟩ (.next rfl rfl (.done _)) ⟨rfl, rfl, rfl⟩
  | error f => exact error rfl ⟨rfl, .checked (.nil _)⟩ (.stop rfl rfl)

end Carries

/-- The plan of an action comes to the registry that the action leaves, and its result has a property. -/
def Tracks (host : Host W) (act : Assembly W α) (s : Scene W) (plan : Plan W (Registry W)) (Q : α → Prop) : Prop :=
  Carries host act s plan fun a r s' => r = s'.registry ∧ Q a

namespace Tracks
variable {host : Host W} {s : Scene W} {plan : Plan W (Registry W)} {Q : α → Prop} {R : γ → Prop}

theorem bind {act : Assembly W α} {k : α → Assembly W γ} {l : Registry W → Plan W (Registry W)}
    (h : Tracks host act s plan Q) (hk : ∀ a s', Q a → Tracks host (k a) s' (l s'.registry) R) :
    Tracks host (act >>= k) s (plan >>= l) R := by
  refine Carries.bind h fun a r s' hq => ?_
  rw [hq.1]
  exact hk a s' hq.2

theorem map {act : Assembly W α} {k : α → γ} (h : Tracks host act s plan Q) (hR : ∀ a, Q a → R (k a)) :
    Tracks host (act >>= fun a => Pure.pure (k a)) s plan R :=
  Carries.map h fun a _ _ hq => ⟨hq.1, hR a hq.2⟩

theorem ok {act : Assembly W α} {a : α} {s' : Scene W} (h : Tracks host act s plan Q) (hr : run act s = (.ok a, s')) :
    Q a := by
  cases h with
  | ok hr' _ _ hq =>
    cases hr.symm.trans hr'
    exact hq.2
  | error hr' _ _ => cases hr.symm.trans hr'

theorem resolve {kind : Kind} {k : List (Link W) → Assembly W γ}
    (h : Tracks host (k (s.registry.resolve kind)) s plan R) :
    Tracks host (Assembly.resolve kind >>= k) s plan R :=
  Carries.silent (run_resolve kind s) (.none rfl rfl) h

end Tracks

/-- From a scene an action takes these steps, and its result has a property. -/
def Walks (host : Host W) (act : Assembly W α) (s : Scene W) (steps : List (Step W)) (Q : α → Prop) : Prop :=
  Tracks host act s (along s.registry steps) Q

namespace Walks
variable {host : Host W} {s : Scene W} {Q : α → Prop} {R : γ → Prop}

theorem pure {a : α} (h : Q a) : Walks host (pure a) s [] Q := Carries.pure ⟨rfl, h⟩

theorem bind {act : Assembly W α} {k : α → Assembly W γ} {steps more : List (Step W)}
    (h : Walks host act s steps Q) (hk : ∀ a s', Q a → Walks host (k a) s' more R) :
    Walks host (act >>= k) s (steps ++ more) R := by
  unfold Walks
  rw [Plan.along_append]
  exact Tracks.bind h hk

theorem cons {act : Assembly W α} {k : α → Assembly W γ} {step : Step W} {more : List (Step W)}
    (h : Walks host act s [step] Q) (hk : ∀ a s', Q a → Walks host (k a) s' more R) :
    Walks host (act >>= k) s (step :: more) R :=
  bind h hk

theorem last {act : Assembly W α} {k : α → Assembly W γ} {steps : List (Step W)} (h : Walks host act s steps Q)
    (hk : ∀ a s', Q a → Walks host (k a) s' [] R) : Walks host (act >>= k) s steps R := by
  rw [← List.append_nil steps]
  exact bind h hk

theorem map {act : Assembly W α} {k : α → γ} {steps : List (Step W)} (h : Walks host act s steps Q)
    (hR : ∀ a, Q a → R (k a)) : Walks host (act >>= fun a => Pure.pure (k a)) s steps R :=
  Tracks.map h hR

theorem emit (e : Event) : Walks host (Assembly.emit e) s [] fun _ => True :=
  Carries.ok (run_emit e s) (.none rfl rfl) (.done _) ⟨rfl, trivial⟩

theorem ask (r : Request W) (input : r.Input) :
    Walks host (Assembly.ask host r input) s [.ask r] fun _ => True := by
  have h : along s.registry [Step.ask r] =
      take (.ask r) >>= fun t => Plan.done (s.registry.extend t.added) := rfl
  unfold Walks Tracks
  rw [h, ← bind_pure (Assembly.ask host r input)]
  refine Carries.bind (Carries.ask r input) fun a t s' hq => Carries.pure ?_
  obtain ⟨added, rfl, hs⟩ := hq
  exact ⟨hs.symm, trivial⟩

theorem check (c : Check W) (r : Except Fault α) :
    Walks host (Assembly.check c r) s [.check c] fun a => r = .ok a := by
  have h : along s.registry [Step.check c] =
      take (.check c) >>= fun t => Plan.done (s.registry.extend t.added) := rfl
  unfold Walks Tracks
  rw [h, ← bind_pure (Assembly.check c r)]
  refine Carries.bind (Carries.check c r) fun a t s' hq => Carries.pure ?_
  obtain ⟨hr, rfl, hs⟩ := hq
  exact ⟨hs.symm, hr⟩

end Walks

theorem walks_runChain (host : Host W) (k : Kind) (p : Properties) : ∀ (links : List (Link W))
    (value : Artifact W k) (s : Scene W),
    Walks host (runChain host k links p value) s (links.map fun link => .ask (.apply k link p)) fun _ => True
  | [], _, _ => Walks.pure trivial
  | link :: links, value, s => by
    rw [runChain_cons, List.map_cons]
    exact (Walks.ask (.apply k link p) value).cons fun v s' _ => walks_runChain host k p links v s'

end

end Telemetry
