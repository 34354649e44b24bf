import Telemetry.Proofs.Assembly.Looks

/-! # Several callers of one builder

A builder may be asked to build by several callers at a time. Each first looks at the flag that says
whether plugins are merged, and sets it, in one step under a lock; whoever has found it unset then merges
them, step by step, and everyone takes the steps of an assembly after that. No caller waits for another: one
that finds the flag set goes on at once, however far the merge has come, and also after a merge that raised.
`Callers.step` says what may come next, and `Callers.alone_builds` that one caller by itself does what
`Builder.build` does. What a build does process-wide with a bundle touches neither the flag nor what is
registered, and is left out. -/

namespace Telemetry

open Assembly

inductive Caller.Stage (W : Outside)
  | entered
  | merging (left : Routine W Unit)
  | assembling (left : Routine W (Bundle W))
  | returned (bundle : Bundle W)
  | raised (f : Fault)

def Caller.Stage.ended {W : Outside} : Except Fault (Bundle W) → Caller.Stage W
  | .ok bundle => .returned bundle
  | .error f => .raised f

structure Sight (W : Outside) where
  look : Look
  merged : Bool
  registry : Registry W

structure Caller (W : Outside) where
  stage : Caller.Stage W := .entered
  seen : List (Sight W) := []

structure Callers (W : Outside) where
  scene : Scene W
  flag : Bool
  calls : List (Caller W) := []
  begun : List Nat := []
  contributed : List (Addition W) := []
  merged : Bool := false

namespace Callers
variable {W : Outside}

inductive Move
  | call
  | go (n : Nat)

def start (b : Builder W) (own : W.State) : Callers W :=
  { scene := { own, registry := b.registry }, flag := b.pluginsMerged }

def place (s : Callers W) (n : Nat) (c : Caller W) : Callers W := { s with calls := s.calls.set n c }

def sighted {α : Type} (s : Callers W) (left : Routine W α) : List (Sight W) :=
  left.look?.toList.map fun look => ⟨look, s.merged, s.scene.registry⟩

section
variable (host : Host W) (b : Builder W)

def advance (s : Callers W) (n : Nat) (c : Caller W) : Option (Callers W) :=
  match c.stage with
  | .entered => some <|
    if s.flag then s.place n { c with stage := .assembling (Apart.assembling host b).routine }
    else { s with flag := true, begun := s.begun ++ [n] }.place n
      { c with stage := .merging (Apart.merge host b.loader).routine }
  | .merging left => some <|
    match left.step host s.scene with
    | .inl (.ok _) =>
      { s with merged := true }.place n { c with stage := .assembling (Apart.assembling host b).routine }
    | .inl (.error f) => s.place n { c with stage := .raised f }
    | .inr (left', scene) =>
      { s with scene, contributed := s.contributed ++ left.registers }.place n
        { stage := .merging left', seen := c.seen ++ s.sighted left }
  | .assembling left => some <|
    match left.step host s.scene with
    | .inl result => s.place n { c with stage := .ended result }
    | .inr (left', scene) =>
      { s with scene }.place n { stage := .assembling left', seen := c.seen ++ s.sighted left }
  | .returned .. | .raised _ => none

def step (s : Callers W) : Move → Option (Callers W)
  | .call => some { s with calls := s.calls ++ [{}] }
  | .go n => (s.calls[n]?).bind (s.advance host b n)

def run (s : Callers W) : List Move → Option (Callers W)
  | [] => some s
  | move :: moves => (s.step host b move).bind fun s => s.run moves

end

section
variable {host : Host W} {b : Builder W} {s s' : Callers W}

inductive Takes (host : Host W) (b : Builder W) (s : Callers W) (n : Nat) : Caller W → Callers W → Prop
  | passes {seen} (hf : s.flag = true) :
    Takes host b s n ⟨.entered, seen⟩ (s.place n ⟨.assembling (Apart.assembling host b).routine, seen⟩)
  | begins {seen} (hf : s.flag = false) :
    Takes host b s n ⟨.entered, seen⟩
      ({ s with flag := true, begun := s.begun ++ [n] }.place n ⟨.merging (Apart.merge host b.loader).routine, seen⟩)
  | merges {left left' scene seen} (hs : left.step host s.scene = .inr (left', scene)) :
    Takes host b s n ⟨.merging left, seen⟩
      ({ s with scene, contributed := s.contributed ++ left.registers }.place n
        ⟨.merging left', seen ++ s.sighted left⟩)
  | merged {left seen} (hs : left.step host s.scene = .inl (.ok ())) :
    Takes host b s n ⟨.merging left, seen⟩
      ({ s with merged := true }.place n ⟨.assembling (Apart.assembling host b).routine, seen⟩)
  | raised {left f seen} (hs : left.step host s.scene = .inl (.error f)) :
    Takes host b s n ⟨.merging left, seen⟩ (s.place n ⟨.raised f, seen⟩)
  | assembles {left left' scene seen} (hs : left.step host s.scene = .inr (left', scene)) :
    Takes host b s n ⟨.assembling left, seen⟩
      ({ s with scene }.place n ⟨.assembling left', seen ++ s.sighted left⟩)
  | ends {left result seen} (hs : left.step host s.scene = .inl result) :
    Takes host b s n ⟨.assembling left, seen⟩ (s.place n ⟨.ended result, seen⟩)

theorem takes_of_advance {n : Nat} {c : Caller W} (ha : s.advance host b n c = some s') : Takes host b s n c s' := by
  obtain ⟨stage, seen⟩ := c
  cases stage with
  | entered =>
    cases hf : s.flag with
    | true =>
      simp only [advance, hf, if_true, Option.some.injEq] at ha
      exact ha ▸ .passes hf
    | false =>
      simp only [advance, hf, Bool.false_eq_true, if_false, Option.some.injEq] at ha
      exact ha ▸ .begins hf
  | merging left =>
    simp only [advance, Option.some.injEq] at ha
    cases hs : left.step host s.scene with
    | inl result =>
      rw [hs] at ha
      cases result with
      | ok _ => exact ha ▸ .merged hs
      | error f => exact ha ▸ .raised hs
    | inr next =>
      rw [hs] at ha
      exact ha ▸ .merges hs
  | assembling left =>
    simp only [advance, Option.some.injEq] at ha
    cases hs : left.step host s.scene with
    | inl result =>
      rw [hs] at ha
      exact ha ▸ .ends hs
    | inr next =>
      rw [hs] at ha
      exact ha ▸ .assembles hs
  | returned bundle => cases ha
  | raised f => cases ha

theorem Takes.advance {n : Nat} {c : Caller W} (h : Takes host b s n c s') : s.advance host b n c = some s' := by
  cases h with
  | passes hf => simp only [Callers.advance, hf, if_true]
  | begins hf => simp only [Callers.advance, hf, Bool.false_eq_true, if_false]
  | merges hs => simp only [Callers.advance, hs]
  | merged hs => simp only [Callers.advance, hs]
  | raised hs => simp only [Callers.advance, hs]
  | assembles hs => simp only [Callers.advance, hs]
  | ends hs => simp only [Callers.advance, hs]

theorem kept_along_run {P : Callers W → Prop}
    (hstep : ∀ {s s' : Callers W} {move : Move}, P s → s.step host b move = some s' → P s') :
    ∀ {moves : List Move} {s : Callers W}, P s → s.run host b moves = some s' → P s'
  | [], s, h, hr => by
    cases hr
    exact h
  | move :: moves, s, h, hr => by
    obtain ⟨next, hs, hr⟩ := Option.bind_eq_some_iff.1 hr
    exact kept_along_run hstep (hstep h hs) hr

/-! ## Alone -/

/-- By its own steps only, a caller comes to the end that an action has. -/
def Alone (host : Host W) (b : Builder W) (n : Nat) (s : Callers W) (r : Except Fault (Bundle W) × Scene W) :
    Prop :=
  ∃ k t seen, s.run host b (List.replicate k (.go n)) = some t ∧ t.scene = r.2 ∧
    t.calls[n]? = some ⟨.ended r.1, seen⟩

theorem calls_place_self {n : Nat} {c c' : Caller W} (hn : s.calls[n]? = some c) :
    (s.place n c').calls[n]? = some c' :=
  List.getElem?_set_self (List.getElem?_eq_some_iff.1 hn).1

theorem Alone.takes {n : Nat} {c : Caller W} {r : Except Fault (Bundle W) × Scene W} (hn : s.calls[n]? = some c)
    (ht : Takes host b s n c s') (h : Alone host b n s' r) : Alone host b n s r := by
  obtain ⟨k, t, seen, hrun, hscene, hcalls⟩ := h
  refine ⟨k + 1, t, seen, ?_, hscene, hcalls⟩
  have hstep : s.step host b (.go n) = some s' := by rw [step, hn, Option.bind_some, ht.advance]
  rw [List.replicate_succ, run, hstep]
  exact hrun

theorem assembles_alone (n : Nat) : ∀ (left : Routine W (Bundle W)) (scene : Scene W) (s : Callers W)
    (seen : List (Sight W)), s.scene = scene → s.calls[n]? = some ⟨.assembling left, seen⟩ →
    Alone host b n s (Assembly.run (left.act host) scene) := by
  refine Routine.ends host ?_ ?_
  · rintro left _ result hs s seen rfl hn
    rw [Routine.run_of_ended hs]
    exact .takes hn (.ends hs) ⟨0, _, seen, rfl, rfl, calls_place_self hn⟩
  · rintro left _ left' scene hs ih s seen rfl hn
    rw [Routine.run_of_step hs]
    exact .takes hn (.assembles hs) (ih _ _ rfl (calls_place_self hn))

theorem merges_alone (n : Nat) : ∀ (left : Routine W Unit) (scene : Scene W) (s : Callers W)
    (seen : List (Sight W)), s.scene = scene → s.calls[n]? = some ⟨.merging left, seen⟩ →
    Alone host b n s (Assembly.run (left.act host >>= fun _ => (Apart.assembling host b).routine.act host) scene) := by
  refine Routine.ends host ?_ ?_
  · rintro left _ result hs s seen rfl hn
    have hr := Routine.run_of_ended hs
    cases result with
    | ok _ =>
      rw [run_bind_ok hr]
      exact .takes hn (.merged hs) (assembles_alone n _ _ _ _ rfl (calls_place_self hn))
    | error f =>
      rw [run_bind_error hr]
      exact .takes hn (.raised hs) ⟨0, _, seen, rfl, rfl, calls_place_self hn⟩
  · rintro left _ left' scene hs ih s seen rfl hn
    rw [run_bind, Routine.run_of_step hs, ← run_bind]
    exact .takes hn (.merges hs) (ih _ _ rfl (calls_place_self hn))

/-- A single caller does what a build does. -/
theorem alone_builds (host : Host W) (b : Builder W) (own : W.State) :
    ∃ s, (start b own).step host b .call = some s ∧
      Alone host b 0 s (Assembly.run (b.assemble host) { own, registry := b.registry }) := by
  refine ⟨_, rfl, ?_⟩
  have hn : ((start b own).calls ++ [({} : Caller W)])[0]? = some ⟨.entered, []⟩ := rfl
  cases hf : b.pluginsMerged with
  | true =>
    have hassemble : b.assemble host = (Apart.assembling host b).routine.act host := by
      rw [(Apart.assembling host b).sound, Builder.assemble, hf]
      rfl
    rw [hassemble]
    exact .takes hn (.passes hf) (assembles_alone 0 _ _ _ [] rfl rfl)
  | false =>
    have hassemble : b.assemble host =
        ((Apart.merge host b.loader).routine.act host >>= fun _ => (Apart.assembling host b).routine.act host) := by
      rw [(Apart.assembling host b).sound, (Apart.merge host b.loader).sound, Builder.assemble, hf]
      rfl
    rw [hassemble]
    exact .takes hn (.begins hf) (merges_alone 0 _ _ _ [] rfl rfl)

end

end Callers

end Telemetry
