import Telemetry.Proofs.Shutdown.Calls

/-! # A shutdown by itself

`Coordinator.shutdown` lets its workers run one after the other while it waits. That is one of the
schedules, so what holds after every schedule holds after it. -/

namespace Telemetry

open Coordinator (Progress)

namespace Closing

section
variable {s s' : Closing}

theorem run_append (s : Closing) (moves more : List Move) :
    s.run (moves ++ more) = (s.run moves).bind fun s => s.run more := by
  induction moves generalizing s with
  | nil => rfl
  | cons move moves ih =>
    rw [List.cons_append, run, run, Option.bind_assoc]
    congr 1
    funext s
    exact ih s

def Reaches (s s' : Closing) : Prop := ∃ moves, s.run moves = some s'

theorem Reaches.refl (s : Closing) : s.Reaches s := ⟨[], rfl⟩

theorem Reaches.trans {s'' : Closing} (h : s.Reaches s') (h' : s'.Reaches s'') : s.Reaches s'' := by
  obtain ⟨moves, hm⟩ := h
  obtain ⟨more, hm'⟩ := h'
  exact ⟨moves ++ more, by rw [run_append, hm, Option.bind_some, hm']⟩

theorem Reaches.move {move : Move} (h : s.step move = some s') : s.Reaches s' :=
  ⟨[move], by rw [run, h]; rfl⟩

theorem Reaches.go {n : Nat} {late : Bool} {station : Station} (hn : s.calls[n]? = some station)
    (hs : s.advance n late station = some s') : s.Reaches s' := .move (step_go hn hs)

theorem Sound.reaches (h : s.Sound) (hr : s.Reaches s') : s'.Sound ∧ Progress s.coordinator s'.coordinator := by
  obtain ⟨moves, hm⟩ := hr
  exact h.run hm

/-! ## The workers -/

structure Works (s s' : Closing) : Prop where
  reaches : s.Reaches s'
  calls : s'.calls = s.calls
  awaited : s'.coordinator.awaited = s.coordinator.awaited
  timeout : s'.coordinator.timeout = s.coordinator.timeout

theorem Works.refl (s : Closing) : s.Works s := ⟨.refl s, rfl, rfl, rfl⟩

theorem Works.trans {s'' : Closing} (h : s.Works s') (h' : s'.Works s'') : s.Works s'' :=
  ⟨h.reaches.trans h'.reaches, h'.calls.trans h.calls, h'.awaited.trans h.awaited, h'.timeout.trans h.timeout⟩

theorem works_finish {i : Nat} {p : String} (hw : s.coordinator.workers[i]? = some ⟨p, .running⟩)
    (ending : Ending) : ∃ s', s.Works s' ∧ s'.coordinator = (s.coordinator.finish i ending).1 := by
  have hc := Coordinator.settle_eq hw rfl ending
  have hw₁ : ((s.coordinator.settle i ending).1).workers[i]? = some ⟨p, .ended⟩ := by
    rw [hc]
    exact Coordinator.getElem?_setPhase hw .ended
  have h₁ : s.step (.settle i ending) = some { s with
      coordinator := (s.coordinator.settle i ending).1, endings := s.endings ++ [(p, ending)] } := by
    simp only [step, hw]
  have h₂ : step { s with
        coordinator := (s.coordinator.settle i ending).1, endings := s.endings ++ [(p, ending)] } (.signal i) =
      some { s with
        coordinator := ((s.coordinator.settle i ending).1).signal i
        endings := s.endings ++ [(p, ending)] } := by
    simp only [step, hw₁, Option.map_some, if_true]
  have hs : ((s.coordinator.settle i ending).1).signal i =
      ((s.coordinator.settle i ending).1).setPhase i .finished :=
    if_pos (by rw [hw₁]; rfl)
  refine ⟨_, ⟨(Reaches.move h₁).trans (.move h₂), rfl, ?_, ?_⟩, rfl⟩
  · show (((s.coordinator.settle i ending).1).signal i).awaited = _
    rw [hs, hc]
    rfl
  · show (((s.coordinator.settle i ending).1).signal i).timeout = _
    rw [hs, hc]
    rfl

section
variable (shut : String → Option Ending)

def inOrder (p : String) : Id (Option Ending) := pure (shut p)

theorem works_runWorker (s : Closing) (i : Nat) :
    ∃ s', s.Works s' ∧ s'.coordinator = (Id.run (s.coordinator.runWorker (inOrder shut) i)).1 := by
  unfold Coordinator.runWorker
  cases hw : s.coordinator.workers[i]? with
  | none => exact ⟨s, .refl s, rfl⟩
  | some w =>
    obtain ⟨p, phase⟩ := w
    by_cases hb : s.coordinator.canBegin i = true
    · have hc : s.coordinator.begin i = s.coordinator.setPhase i .running := if_pos hb
      have h₁ : s.step (.begin i) = some { s with
          coordinator := s.coordinator.begin i, invoked := s.invoked ++ [p] } := by
        simp only [step, hw, hb, if_true]
      have hs : s.Works { s with coordinator := s.coordinator.begin i, invoked := s.invoked ++ [p] } :=
        ⟨.move h₁, rfl, by rw [hc]; rfl, by rw [hc]; rfl⟩
      simp only [if_pos hb, inOrder]
      cases he : shut p with
      | none => exact ⟨_, hs, rfl⟩
      | some ending =>
        have hw' : (s.coordinator.begin i).workers[i]? = some ⟨p, .running⟩ := by
          rw [hc]
          exact Coordinator.getElem?_setPhase hw .running
        obtain ⟨s', hs', hf⟩ := works_finish (s := { s with
          coordinator := s.coordinator.begin i, invoked := s.invoked ++ [p] }) hw' ending
        exact ⟨s', hs.trans hs', hf⟩
    · simp only [if_neg hb]
      exact ⟨s, .refl s, rfl⟩

theorem works_foldlM : ∀ (is : List Nat) (s : Closing) (events : List Event),
    ∃ s', s.Works s' ∧ s'.coordinator = (Id.run (is.foldlM (fun (c, events) i => do
      let (c, more) ← Coordinator.runWorker (inOrder shut) c i
      return (c, events ++ more)) (s.coordinator, events))).1
  | [], s, _ => ⟨s, .refl s, rfl⟩
  | i :: is, s, events => by
    obtain ⟨s₁, h₁, hc₁⟩ := works_runWorker shut s i
    obtain ⟨s', h', hc'⟩ := works_foldlM is s₁
      (events ++ (Id.run (s.coordinator.runWorker (inOrder shut) i)).2)
    refine ⟨s', h₁.trans h', hc'.trans ?_⟩
    rw [hc₁, List.foldlM_cons]
    rfl

theorem works_runWorkers (s : Closing) :
    ∃ s', s.Works s' ∧ s'.coordinator = (Id.run (s.coordinator.runWorkers (inOrder shut))).1 :=
  works_foldlM shut (List.range s.coordinator.workers.length) s []

end

/-! ## The call -/

theorem place_place (s : Closing) (n : Nat) (station station' : Station) :
    (s.place n station).place n station' = s.place n station' := by
  unfold place
  simp only [List.set_set]

def unfinished (c : Coordinator) (names : List String) : List String := names.filter fun p => !c.isDone p

theorem reaches_verdict {n : Nat} : ∀ (left pending : List String) {s : Closing},
    s.calls[n]? = some (.waiting left pending) →
    (Deadline.canWait s.coordinator.timeout = true ∨ ∀ p ∈ left, s.coordinator.isDone p = true) →
    s.Reaches (s.place n (.returned (s.coordinator.verdict (pending ++ unfinished s.coordinator left)).1
      (pending ++ unfinished s.coordinator left)))
  | [], pending, s, hn, _ => by
    rw [show pending ++ unfinished s.coordinator [] = pending from List.append_nil _]
    exact .go hn (show s.advance n false (.waiting [] pending) = _ from rfl)
  | p :: rest, pending, s, hn, hw => by
    have hw' := hw.imp_right fun h q hq => h q (List.mem_cons_of_mem p hq)
    cases hd : s.coordinator.isDone p with
    | true =>
      have hs : s.advance n true (.waiting (p :: rest) pending) = some (s.place n (.waiting rest pending)) :=
        if_pos hd
      have hu : unfinished s.coordinator (p :: rest) = unfinished s.coordinator rest :=
        List.filter_cons_of_neg (by simp [hd])
      have hr := reaches_verdict rest pending (getElem?_place hn (.waiting rest pending)) hw'
      rw [place_place] at hr
      rw [hu]
      exact (Reaches.go hn hs).trans hr
    | false =>
      have hc : Deadline.canWait s.coordinator.timeout = true :=
        hw.resolve_right fun h => by simp [h p List.mem_cons_self] at hd
      have hs : s.advance n true (.waiting (p :: rest) pending) =
          some (s.place n (.waiting rest (pending ++ [p]))) := by
        simp [advance, hd, hc]
      have hu : unfinished s.coordinator (p :: rest) = p :: unfinished s.coordinator rest :=
        List.filter_cons_of_pos (by simp [hd])
      have hr := reaches_verdict rest (pending ++ [p]) (getElem?_place hn (.waiting rest (pending ++ [p]))) hw'
      rw [place_place, List.append_assoc] at hr
      rw [hu]
      exact (Reaches.go hn hs).trans hr

theorem reaches_refusal {n : Nat} : ∀ (left pending : List String) {s : Closing},
    s.calls[n]? = some (.waiting left pending) → Deadline.canWait s.coordinator.timeout = false →
    left.all s.coordinator.isDone = false → s.Reaches (s.place n (.refused (.overflow .wait)))
  | [], _, _, _, _, hd => by cases hd
  | p :: rest, pending, s, hn, hc, hd => by
    cases hp : s.coordinator.isDone p with
    | true =>
      have hs : s.advance n true (.waiting (p :: rest) pending) = some (s.place n (.waiting rest pending)) :=
        if_pos hp
      rw [List.all_cons, hp, Bool.true_and] at hd
      have hr := reaches_refusal rest pending (getElem?_place hn (.waiting rest pending)) hc hd
      rw [place_place] at hr
      exact (Reaches.go hn hs).trans hr
    | false =>
      have hs : s.advance n true (.waiting (p :: rest) pending) = some (s.place n (.refused (.overflow .wait))) := by
        simp [advance, hp, hc]
      exact .go hn hs

theorem left_nonneg (deadline now : Rat) : 0 ≤ Deadline.left deadline now := by
  unfold Deadline.left
  split
  · rename_i h
    exact (Rat.le_iff_sub_nonneg now deadline).mp h
  · exact Rat.le_refl

theorem waitAll_pending (c : Coordinator) (deadline : Rat) : ∀ (names : List String) (now : Rat), 0 ≤ now →
    (Deadline.waitAll deadline now (names.map fun p => (p, if c.isDone p then some 0 else none))).1 =
      unfinished c names
  | [], _, _ => rfl
  | p :: names, now, h => by
    rw [List.map_cons, Deadline.waitAll]
    cases hd : c.isDone p with
    | true =>
      have hw : Deadline.wait deadline now (some 0) = (true, now) := if_pos h
      have hu : unfinished c (p :: names) = unfinished c names := List.filter_cons_of_neg (by simp [hd])
      rw [if_pos rfl, hw, hu]
      exact waitAll_pending c deadline names now h
    | false =>
      have hw : Deadline.wait deadline now none = (false, now + Deadline.left deadline now) := rfl
      have hu : unfinished c (p :: names) = p :: unfinished c names := List.filter_cons_of_pos (by simp [hd])
      rw [if_neg nofun, hw, hu]
      exact congrArg (p :: ·) (waitAll_pending c deadline names _ (Rat.add_nonneg h (left_nonneg deadline now)))

theorem pending_eq (c : Coordinator) : c.pending = unfinished c c.awaited.keys :=
  waitAll_pending c c.timeout.toRat c.awaited.keys 0 (Rat.le_refl)

/-! ## The whole -/

def pulled (s : Closing) (station : Station) : Closing :=
  { s with coordinator := s.coordinator.arm.trigger, calls := s.calls ++ [station] }

theorem place_pulled (s : Closing) (station station' : Station) :
    (s.pulled station).place s.calls.length station' = s.pulled station' := by
  unfold place pulled
  simp

theorem getElem?_pulled (s : Closing) (station : Station) :
    (s.pulled station).calls[s.calls.length]? = some station :=
  List.getElem?_concat_length

theorem reaches_pulled (s : Closing) : s.Reaches (s.pulled (if s.coordinator.arm.timeout.isReal
    then .waiting s.coordinator.arm.awaited.keys [] else .refused (.overflow .real))) := by
  have h₁ : s.step (.call .shutdown) = some { s with calls := s.calls ++ [.entered .shutdown] } := rfl
  have h₂ : advance { s with calls := s.calls ++ [.entered .shutdown] } s.calls.length false
      (.entered .shutdown) =
        some { s with coordinator := s.coordinator.arm, calls := s.calls ++ [.armed .shutdown] } := by
    simp [advance, place]
  have h₃ : advance { s with coordinator := s.coordinator.arm, calls := s.calls ++ [.armed .shutdown] }
      s.calls.length false (.armed .shutdown) = some (s.pulled (if s.coordinator.arm.timeout.isReal
        then .waiting s.coordinator.arm.awaited.keys [] else .refused (.overflow .real))) := by
    simp [advance, pull, place, pulled]
  exact (Reaches.move h₁).trans ((Reaches.go List.getElem?_concat_length h₂).trans
    (.go List.getElem?_concat_length h₃))

def stationOf (pending : List String) : Except Fault Bool → Station
  | .ok verdict => .returned verdict pending
  | .error f => .refused f

section
variable (shut : String → Option Ending)

def work (c : Coordinator) : Coordinator × List Event :=
  Id.run (if c.waits then c.runWorkers (inOrder shut) else pure (c, []))

theorem works_work (s : Closing) : ∃ s', s.Works s' ∧ s'.coordinator = (work shut s.coordinator).1 := by
  unfold work
  cases s.coordinator.waits with
  | true => exact works_runWorkers shut s
  | false => exact ⟨s, .refl s, rfl⟩

theorem shutdown_of_refusal {c : Coordinator} {f : Fault} (h : c.arm.trigger.refusal? = some f) :
    Id.run (c.shutdown (inOrder shut)) = (.error f, c.arm.trigger, []) := by
  unfold Coordinator.shutdown
  simp only [h]
  rfl

theorem shutdown_of_no_refusal {c : Coordinator} (h : c.arm.trigger.refusal? = none) :
    Id.run (c.shutdown (inOrder shut)) =
      (.ok ((work shut c.arm.trigger).1.verdict (work shut c.arm.trigger).1.pending).1,
        (work shut c.arm.trigger).1, (work shut c.arm.trigger).2 ++
          [((work shut c.arm.trigger).1.verdict (work shut c.arm.trigger).1.pending).2]) := by
  unfold Coordinator.shutdown work
  simp only [h]
  cases c.arm.trigger.waits <;> rfl

/-- A shutdown by itself is a schedule, in which its call comes to its result. -/
theorem reaches_shutdown {s : Closing} (h : s.Sound) :
    let r := Id.run (s.coordinator.shutdown (inOrder shut))
    ∃ s' pending, s.Reaches s' ∧ s'.coordinator = r.2.1 ∧ s'.calls = s.calls ++ [stationOf pending r.1] := by
  intro r
  have hp := reaches_pulled s
  generalize hc : s.coordinator.arm.trigger = c
  have hc' (station : Station) : (s.pulled station).coordinator = c := hc
  have hk : s.coordinator.arm.awaited = c.awaited := congrArg (·.awaited) hc
  have ht : s.coordinator.arm.timeout = c.timeout := congrArg (·.timeout) hc
  rw [hk, ht] at hp
  -- The call is refused at its deadline, or where it first has to wait, or not at all.
  have hf : c.refusal? = if !c.timeout.isReal then some (.overflow .real)
    else if Deadline.canWait c.timeout || c.awaited.keys.all c.isDone then none else some (.overflow .wait) := rfl
  cases hr : c.timeout.isReal with
  | false =>
    rw [hr, if_neg nofun] at hp
    rw [hr, Bool.not_false, if_pos rfl, ← hc] at hf
    have hs : r = _ := shutdown_of_refusal shut hf
    rw [hs]
    exact ⟨_, [], hp, rfl, rfl⟩
  | true =>
    rw [hr, if_pos rfl] at hp
    rw [hr, Bool.not_true, if_neg nofun] at hf
    have hn := getElem?_pulled s (.waiting c.awaited.keys [])
    cases hb : (Deadline.canWait c.timeout || c.awaited.keys.all c.isDone) with
    | false =>
      rw [hb, if_neg nofun, ← hc] at hf
      have hs : r = _ := shutdown_of_refusal shut hf
      obtain ⟨hw, hd⟩ := Bool.or_eq_false_iff.mp hb
      have hl := reaches_refusal c.awaited.keys [] hn (by rw [hc']; exact hw) (by rw [hc']; exact hd)
      rw [place_pulled] at hl
      rw [hs]
      exact ⟨_, [], hp.trans hl, rfl, rfl⟩
    | true =>
      rw [hb, if_pos rfl, ← hc] at hf
      have hs : r = _ := shutdown_of_no_refusal shut hf
      obtain ⟨s₁, h₁, hc₁⟩ := works_work shut (s.pulled (.waiting c.awaited.keys []))
      have hd := (Sound.reaches (Sound.reaches h hp).1 h₁.reaches).2.done
      have ha : s₁.coordinator.awaited = c.awaited := by rw [h₁.awaited, hc']
      have hn₁ : s₁.calls[s.calls.length]? = some (.waiting c.awaited.keys []) := by rw [h₁.calls, hn]
      have hl := reaches_verdict c.awaited.keys [] hn₁ <| by
        rw [h₁.timeout, hc']
        refine (Bool.or_eq_true_iff.mp hb).imp_right fun ha p hm => hd p ?_
        rw [hc']
        exact List.all_eq_true.mp ha p hm
      rw [List.nil_append, ← ha, ← pending_eq] at hl
      rw [hs, hc, ← hc' (.waiting c.awaited.keys []), ← hc₁]
      refine ⟨_, s₁.coordinator.pending, hp.trans (h₁.reaches.trans hl), rfl, ?_⟩
      show s₁.calls.set s.calls.length _ = _
      rw [h₁.calls]
      show (s.calls ++ [_]).set s.calls.length _ = _
      rw [List.set_append_right _ _ (Nat.le_refl _), Nat.sub_self]
      rfl

end

end

end Closing

end Telemetry
