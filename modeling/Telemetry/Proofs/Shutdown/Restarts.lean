import Mathlib.Data.List.Count
import Telemetry.Proofs.Shutdown.Calls

/-! # Workers that cannot be started

Starting a worker may fail. Arming then ends with a fault, and the coordinator is not armed; the workers
that were started by then are there all the same, and wait. When it is armed once more, each provider is
given another worker. Every worker that waits invokes its provider once it is let to, so a provider is
invoked as often as workers were started for it. -/

namespace Telemetry

def Fault.cannotStart : Fault := .raised "RuntimeError" "can't start new thread" false

/-- A move, or a call arming a coordinator while only the workers of some providers can be started. -/
inductive Attempt
  | move (move : Move)
  | arm (n : Nat) (starts : String → Bool)

namespace Closing

def attempt (s : Closing) : Attempt → Option Closing
  | .move move => s.step move
  | .arm n starts =>
    match s.calls[n]? with
    | some (.entered errand) =>
      let (armed, coordinator) := s.coordinator.armWith starts
      some ({ s with coordinator }.place n (if armed then .armed errand else .refused .cannotStart))
    | _ => none

def attempts (s : Closing) : List Attempt → Option Closing
  | [] => some s
  | a :: more => (s.attempt a).bind fun s => s.attempts more

end Closing

namespace Coordinator

def started (c : Coordinator) (p : String) : Nat :=
  c.workers.countP fun w => w.provider = p ∧ w.phase ≠ .unstarted

def begun (c : Coordinator) (p : String) : Nat :=
  c.workers.countP fun w => w.provider = p ∧ w.phase.begun = true

section
variable {c : Coordinator} {p q : String} {i : Nat} {phase phase' : Phase}

theorem begun_le_started (c : Coordinator) (p : String) : c.begun p ≤ c.started p := by
  refine List.countP_mono_left fun w _ hw => ?_
  obtain ⟨hp, hb⟩ := of_decide_eq_true hw
  refine decide_eq_true ⟨hp, fun hu => ?_⟩
  rw [hu] at hb
  cases hb

theorem countP_setPhase (test : Worker → Bool) (hw : c.workers[i]? = some ⟨p, phase⟩) (phase' : Phase) :
    (c.setPhase i phase').workers.countP test + (test ⟨p, phase⟩).toNat =
      c.workers.countP test + (test ⟨p, phase'⟩).toNat := by
  obtain ⟨hi, he⟩ := List.getElem?_eq_some_iff.mp hw
  have hmodified : (c.setPhase i phase').workers = c.workers.take i ++ ⟨p, phase'⟩ :: c.workers.drop (i + 1) := by
    show c.workers.modify i _ = _
    rw [List.modify_eq_take_cons_drop hi, he]
  have hworkers : c.workers = c.workers.take i ++ ⟨p, phase⟩ :: c.workers.drop (i + 1) := by
    rw [← he, ← List.drop_eq_getElem_cons hi, List.take_append_drop]
  rw [hmodified]
  conv_rhs => rw [hworkers]
  rw [List.countP_append, List.countP_append, List.countP_cons, List.countP_cons]
  cases test ⟨p, phase⟩ <;> cases test ⟨p, phase'⟩ <;> simp <;> omega

theorem started_setPhase (hw : c.workers[i]? = some ⟨p, phase⟩) (h : phase ≠ .unstarted) (h' : phase' ≠ .unstarted)
    (q : String) : (c.setPhase i phase').started q = c.started q := by
  have hc := countP_setPhase (fun w => decide (w.provider = q ∧ w.phase ≠ .unstarted)) hw phase'
  simp only [h, h', ne_eq, not_false_eq_true, and_true] at hc
  exact Nat.add_right_cancel hc

theorem begun_setPhase (hw : c.workers[i]? = some ⟨p, phase⟩) (h : phase'.begun = phase.begun) (q : String) :
    (c.setPhase i phase').begun q = c.begun q := by
  have hc := countP_setPhase (fun w => decide (w.provider = q ∧ w.phase.begun = true)) hw phase'
  simp only [h] at hc
  exact Nat.add_right_cancel hc

theorem begun_setPhase_running (hw : c.workers[i]? = some ⟨p, .waiting⟩) (q : String) :
    (c.setPhase i .running).begun q = c.begun q + [p].count q := by
  have hc := countP_setPhase (fun w => decide (w.provider = q ∧ w.phase.begun = true)) hw .running
  have hwaiting : decide (p = q ∧ Phase.waiting.begun = true) = false := decide_eq_false fun h => nomatch h.2
  have hrunning : decide (p = q ∧ Phase.running.begun = true) = (p == q) := by
    rw [beq_eq_decide]
    exact decide_eq_decide.mpr ⟨And.left, fun h => ⟨h, rfl⟩⟩
  simp only [hwaiting, hrunning] at hc
  rw [List.count_singleton]
  exact hc.trans (by cases p == q <;> rfl)

theorem begun_startAll (starts : String → Bool) (p : String) : ∀ (ps : List String) (c : Coordinator),
    ((c.startAll starts ps).2).begun p = c.begun p
  | [], c => rfl
  | q :: ps, c => by
    have hadd (phase : Phase) (hb : phase.begun = false) : (c.addWorker q phase).begun p = c.begun p := by
      simp [begun, addWorker, hb]
    rw [startAll]
    split
    · rw [begun_startAll starts p ps, hadd .waiting rfl]
    · exact hadd .unstarted rfl

theorem begun_armWith (starts : String → Bool) (c : Coordinator) (p : String) :
    ((c.armWith starts).2).begun p = c.begun p := by
  have hs := begun_startAll starts p c.providers c
  unfold armWith
  split
  · rfl
  · split
    · rename_i heq
      rw [heq] at hs
      exact hs
    · rename_i heq
      rw [heq] at hs
      exact hs

theorem exists_waiting (h : c.begun p < c.started p) : ∃ i : Nat, c.workers[i]? = some ⟨p, .waiting⟩ := by
  by_contra hn
  refine absurd (List.countP_mono_left fun w hw hs => ?_) (Nat.not_le_of_lt h)
  obtain ⟨q, phase⟩ := w
  obtain ⟨rfl, hu⟩ : q = p ∧ phase ≠ .unstarted := of_decide_eq_true hs
  refine decide_eq_true ⟨rfl, ?_⟩
  cases phase with
  | unstarted => exact absurd rfl hu
  | waiting => exact absurd (List.mem_iff_getElem?.mp hw) hn
  | running => rfl
  | ended => rfl
  | finished => rfl

end

end Coordinator

namespace Closing

section
variable {s s' : Closing} {p : String}

/-- Providers were invoked as often as workers of theirs have begun. -/
def Tallied (s : Closing) : Prop := ∀ p, s.invoked.count p = s.coordinator.begun p

theorem begin_eq {i : Nat} (hs : s.step (.begin i) = some s') :
    ∃ p, s.coordinator.workers[i]? = some ⟨p, .waiting⟩ ∧
    s' = { s with coordinator := s.coordinator.setPhase i .running, invoked := s.invoked ++ [p] } := by
  simp only [step] at hs
  split at hs
  · rename_i w hw
    split at hs
    · rename_i hb
      cases hs
      have hb' := hb
      unfold Coordinator.canBegin at hb'
      rw [hw, Option.map_some, Bool.and_eq_true, beq_iff_eq, Option.some_inj] at hb'
      obtain ⟨p, phase⟩ := w
      obtain ⟨-, rfl⟩ := hb'
      refine ⟨p, hw, ?_⟩
      rw [Coordinator.begin, if_pos hb]
    · cases hs
  · cases hs

structure Rests (s s' : Closing) : Prop where
  invoked : s'.invoked = s.invoked
  begun : ∀ p, s'.coordinator.begun p = s.coordinator.begun p

theorem rests_advance {n : Nat} {late : Bool} {station : Station} (hs : s.advance n late station = some s') :
    s.Rests s' := by
  have hpull : s.Rests (s.pull n) := by
    unfold Closing.pull
    split <;> exact ⟨rfl, fun _ => rfl⟩
  cases station with
  | entered errand =>
    cases hs
    exact ⟨rfl, Coordinator.begun_armWith _ s.coordinator⟩
  | armed errand =>
    cases errand with
    | arm => cases hs; exact ⟨rfl, fun _ => rfl⟩
    | register => cases hs; exact ⟨rfl, fun _ => rfl⟩
    | shutdown => cases hs; exact hpull
    | bundle => cases hs; exact hpull
    | exit => cases hs; exact hpull
  | waiting left pending =>
    cases left with
    | nil => cases hs; exact ⟨rfl, fun _ => rfl⟩
    | cons provider rest =>
      simp only [Closing.advance] at hs
      repeat' split at hs
      all_goals cases hs
      all_goals exact ⟨rfl, fun _ => rfl⟩
  | returned _ _ => cases hs
  | refused _ => cases hs
  | gone => cases hs

theorem rests_setPhase {i : Nat} {phase phase' : Phase} (hw : s.coordinator.workers[i]? = some ⟨p, phase⟩)
    (h : phase'.begun = phase.begun) (errors : OrderedMap String Fault) (endings : List (String × Ending)) :
    s.Rests { s with coordinator := { s.coordinator with errors }.setPhase i phase', endings } :=
  ⟨rfl, Coordinator.begun_setPhase (c := { s.coordinator with errors }) hw h⟩

theorem step_cases {move : Move} (hs : s.step move = some s') : s.Rests s' ∨
    ∃ i p, s.coordinator.workers[i]? = some ⟨p, .waiting⟩ ∧
      s' = { s with coordinator := s.coordinator.setPhase i .running, invoked := s.invoked ++ [p] } := by
  cases move with
  | call errand =>
    obtain ⟨callbacks, rfl⟩ := step_call hs
    exact .inl ⟨rfl, fun _ => rfl⟩
  | go n late =>
    obtain ⟨station, -, ha⟩ := Option.bind_eq_some_iff.mp hs
    exact .inl (rests_advance ha)
  | begin i =>
    obtain ⟨p, hw, he⟩ := begin_eq hs
    exact .inr ⟨i, p, hw, he⟩
  | settle i ending =>
    simp only [Closing.step] at hs
    split at hs
    · rename_i p hw
      cases hs
      rw [Coordinator.settle_eq hw rfl]
      exact .inl (rests_setPhase hw (rfl : Phase.ended.begun = _) _ _)
    · cases hs
  | signal i =>
    simp only [Closing.step] at hs
    split at hs
    · rename_i hw
      cases hs
      obtain ⟨⟨p, phase⟩, hw', rfl⟩ := Option.map_eq_some_iff.mp hw
      have hc : s.coordinator.signal i = s.coordinator.setPhase i .finished := if_pos (by rw [hw]; rfl)
      rw [hc]
      exact .inl (rests_setPhase hw' (rfl : Phase.finished.begun = _) s.coordinator.errors s.endings)
    · cases hs

theorem Tallied.rests (h : s.Tallied) (hr : s.Rests s') : s'.Tallied := by
  intro p
  rw [hr.invoked, hr.begun, h p]

theorem Tallied.step (h : s.Tallied) {move : Move} (hs : s.step move = some s') : s'.Tallied := by
  rcases step_cases hs with hr | ⟨i, p, hw, rfl⟩
  · exact h.rests hr
  · intro q
    rw [List.count_append, h q, Coordinator.begun_setPhase_running hw]

theorem Tallied.attempt (h : s.Tallied) {a : Attempt} (hs : s.attempt a = some s') : s'.Tallied := by
  cases a with
  | move move => exact h.step hs
  | arm n starts =>
    simp only [Closing.attempt] at hs
    split at hs
    · cases hs
      exact h.rests ⟨rfl, Coordinator.begun_armWith starts s.coordinator⟩
    · cases hs

theorem Tallied.attempts (h : s.Tallied) :
    ∀ {as : List Attempt} {s' : Closing}, s.attempts as = some s' → s'.Tallied := by
  intro as
  induction as generalizing s with
  | nil =>
    intro s' hs
    cases hs
    exact h
  | cons a as ih =>
    intro s' hs
    obtain ⟨s₁, h₁, hs⟩ := Option.bind_eq_some_iff.mp hs
    exact ih (h.attempt h₁) hs

theorem tallied_start (providers : List String) (timeout : Quantity) : (start providers timeout).Tallied :=
  fun _ => rfl

/-! ## Letting them all begin -/

theorem step_begin {i : Nat} (ht : s.coordinator.triggered = true)
    (hw : s.coordinator.workers[i]? = some ⟨p, .waiting⟩) :
    s.step (.begin i) =
      some { s with coordinator := s.coordinator.setPhase i .running, invoked := s.invoked ++ [p] } := by
  have hb : s.coordinator.canBegin i = true := by
    unfold Coordinator.canBegin
    rw [ht, hw]
    rfl
  simp only [step, hw, hb, if_true, Coordinator.begin]

/-- Once the trigger is pulled, all workers of a provider can begin, whoever started them. -/
theorem all_begin (ht : s.coordinator.triggered = true) : ∃ (is : List Nat) (s' : Closing),
    s.attempts (is.map fun i => .move (.begin i)) = some s' ∧ s'.coordinator.begun p = s.coordinator.started p := by
  obtain ⟨left, hl⟩ : ∃ left, s.coordinator.started p = s.coordinator.begun p + left :=
    Nat.exists_eq_add_of_le (s.coordinator.begun_le_started p)
  induction left generalizing s with
  | zero => exact ⟨[], s, rfl, hl.symm⟩
  | succ left ih =>
    obtain ⟨i, hw⟩ := Coordinator.exists_waiting (c := s.coordinator) (p := p) (by omega)
    have hb := Coordinator.begun_setPhase_running hw p
    have hst := Coordinator.started_setPhase hw nofun (nofun : Phase.running ≠ .unstarted) p
    rw [List.count_singleton_self] at hb
    obtain ⟨is, s', hr, he⟩ := ih (s := { s with
      coordinator := s.coordinator.setPhase i .running, invoked := s.invoked ++ [p] }) ht (by
        show (s.coordinator.setPhase i .running).started p = (s.coordinator.setPhase i .running).begun p + left
        omega)
    refine ⟨i :: is, s', ?_, he.trans hst⟩
    rw [List.map_cons, attempts, attempt, step_begin ht hw]
    exact hr

end

/-- Whatever calls were made, with whatever workers failing to start, a provider was invoked at most as often
as workers were started for it; and once the trigger is pulled, it can come to that without another call. -/
theorem invoked_as_started (providers : List String) (timeout : Quantity) {as : List Attempt} {s : Closing}
    (h : (start providers timeout).attempts as = some s) (p : String) :
    s.invoked.count p ≤ s.coordinator.started p ∧
      (s.coordinator.triggered = true → ∃ (is : List Nat) (s' : Closing),
        s.attempts (is.map fun i => .move (.begin i)) = some s' ∧ s'.invoked.count p = s.coordinator.started p) := by
  have ht : s.Tallied := (tallied_start providers timeout).attempts h
  refine ⟨?_, fun hpulled => ?_⟩
  · rw [ht p]
    exact s.coordinator.begun_le_started p
  · obtain ⟨is, s', hr, he⟩ := all_begin (p := p) hpulled
    exact ⟨is, s', hr, (ht.attempts hr p).trans he⟩

/-- Arming fails for the second of two providers, and a shutdown arms again. -/
def retried : List Attempt :=
  [.move (.call .arm), .arm 0 (· = "a"), .move (.call .shutdown), .arm 1 fun _ => true, .move (.go 1 false)]

theorem invoked_as_started_retried : ∃ (s s' : Closing) (is : List Nat),
    (start ["a", "b"] defaultShutdownTimeout).attempts retried = some s ∧
    s.attempts (is.map fun i => .move (.begin i)) = some s' ∧ s'.invoked.count "a" = 2 := by
  obtain ⟨s, hs⟩ : ∃ s, (start ["a", "b"] defaultShutdownTimeout).attempts retried = some s := ⟨_, rfl⟩
  obtain ⟨is, s', hr, he⟩ := (invoked_as_started ["a", "b"] defaultShutdownTimeout hs "a").2 (by cases hs; rfl)
  refine ⟨s, s', is, hs, hr, he.trans ?_⟩
  cases hs
  rfl

/-- The provider whose worker was there already is shut down twice. -/
theorem shut_down_twice : ∃ s, (start ["a", "b"] defaultShutdownTimeout).attempts
    (retried ++ [.move (.begin 0), .move (.begin 2)]) = some s ∧ s.invoked = ["a", "a"] :=
  ⟨_, rfl, rfl⟩

end Closing

end Telemetry
