import Telemetry.Proofs.Shutdown.Crew

/-! # What the workers have done

The books of a coordinator say whose shutdown was invoked and how each invocation ended that did.
They agree with how far the workers have come and with the errors that the coordinator lists, and
every move of a worker keeps them so. -/

namespace Telemetry

namespace Phase

def begun : Phase → Bool
  | running | ended | finished => true
  | _ => false

def past : Phase → Bool
  | ended | finished => true
  | _ => false

end Phase

namespace Coordinator

structure Books (c : Coordinator) (invoked : List String) (endings : List (String × Ending)) : Prop where
  staffed : c.Staffed
  started : ∀ p, c.phase? p ≠ some .unstarted
  triggered : invoked ≠ [] → c.triggered = true
  invoked_nodup : invoked.Nodup
  mem_invoked : ∀ p, p ∈ invoked ↔ (c.phase? p).any Phase.begun = true
  endings_nodup : (endings.map Prod.fst).Nodup
  mem_endings : ∀ p, p ∈ endings.map Prod.fst ↔ (c.phase? p).any Phase.past = true
  errors : ∀ p f, c.errors.get? p = some f ↔ (p, .raised f) ∈ endings ∧ f.exits = false

structure Progress (c c' : Coordinator) : Prop where
  providers : c'.providers = c.providers
  timeout : c'.timeout = c.timeout
  armed : c.armed = true → c'.armed = true
  triggered : c.triggered = true → c'.triggered = true
  done : ∀ p, c.isDone p = true → c'.isDone p = true
  errors : (∀ p ∈ c.providers, c.isDone p = true) → c'.errors = c.errors

namespace Progress

theorem refl (c : Coordinator) : Progress c c := ⟨rfl, rfl, id, id, fun _ => id, fun _ => rfl⟩

theorem trans {c c' c'' : Coordinator} (h : Progress c c') (h' : Progress c' c'') : Progress c c'' where
  providers := h'.providers.trans h.providers
  timeout := h'.timeout.trans h.timeout
  armed := h'.armed ∘ h.armed
  triggered := h'.triggered ∘ h.triggered
  done p := h'.done p ∘ h.done p
  errors hd := by
    refine (h'.errors fun p hp => h.done p (hd p ?_)).trans (h.errors hd)
    rwa [← h.providers]

end Progress

section
variable {c : Coordinator} {invoked : List String} {endings : List (String × Ending)}

theorem phase?_of_idle (h : c.awaited = .empty) (p : String) : c.phase? p = none :=
  phase?_of_not_awaited (by rw [h]; rfl)

theorem books_ofProviders (providers : List String) (timeout : Quantity) :
    (ofProviders providers timeout).Books [] [] where
  staffed := ⟨nodup_eraseDups providers, nofun, fun _ => ⟨rfl, rfl⟩⟩
  started p := by rw [phase?_of_idle rfl]; nofun
  triggered := absurd rfl
  invoked_nodup := List.nodup_nil
  mem_invoked p := by rw [phase?_of_idle rfl]; simp
  endings_nodup := List.nodup_nil
  mem_endings p := by rw [phase?_of_idle rfl]; simp
  errors p f := by simp [ofProviders, OrderedMap.get?_empty]

theorem Staffed.mem_providers (h : c.Staffed) {p : String} {phase : Phase} (hp : c.phase? p = some phase) :
    p ∈ c.providers := by
  cases ha : c.armed with
  | true =>
    obtain ⟨i, hw⟩ := (h.manned ha).phase?_eq_some.mp hp
    exact (h.manned ha).mem_providers hw
  | false =>
    rw [phase?_of_idle (h.idle ha).2] at hp
    cases hp

theorem Staffed.phase?_arm (h : c.Staffed) (hi : c.armed = false) {p : String} {phase : Phase}
    (hp : c.arm.phase? p = some phase) : phase = .waiting := by
  obtain ⟨hm, awaited, hc⟩ := h.arm_of_idle hi
  obtain ⟨i, hw⟩ := hm.phase?_eq_some.mp hp
  rw [hc] at hw
  have hw : (c.providers.map fun p => (⟨p, .waiting⟩ : Worker))[i]? = some ⟨p, phase⟩ := hw
  rw [List.getElem?_map] at hw
  obtain ⟨q, -, he⟩ := Option.map_eq_some_iff.mp hw
  cases he
  rfl

theorem Staffed.any_phase?_arm (h : c.Staffed) (hi : c.armed = false) {q : Phase → Bool}
    (hq : q .waiting = false) (p : String) : (c.arm.phase? p).any q = (c.phase? p).any q := by
  rw [phase?_of_idle (h.idle hi).2]
  cases hp : c.arm.phase? p with
  | none => rfl
  | some phase =>
    cases h.phase?_arm hi hp
    exact hq

theorem Books.arm (h : c.Books invoked endings) : c.arm.Books invoked endings ∧ Progress c c.arm := by
  cases hi : c.armed with
  | true =>
    rw [arm_of_armed hi]
    exact ⟨h, .refl c⟩
  | false =>
    obtain ⟨hm, awaited, hc⟩ := h.staffed.arm_of_idle hi
    have he : c.arm.errors = c.errors := by rw [hc]
    constructor
    · constructor
      · exact ⟨by rw [hc]; exact h.staffed.nodup, fun _ => hm, by rw [hc]; nofun⟩
      · exact fun p hp => nomatch h.staffed.phase?_arm hi hp
      · rw [hc]
        exact h.triggered
      · exact h.invoked_nodup
      · exact fun p => by rw [h.staffed.any_phase?_arm hi rfl, h.mem_invoked]
      · exact h.endings_nodup
      · exact fun p => by rw [h.staffed.any_phase?_arm hi rfl, h.mem_endings]
      · rw [he]
        exact h.errors
    · refine ⟨by rw [hc], by rw [hc], fun _ => by rw [hc], by rw [hc]; exact id, fun p hp => ?_, fun _ => he⟩
      rw [isDone, phase?_of_idle (h.staffed.idle hi).2] at hp
      cases hp

theorem Books.trigger (h : c.Books invoked endings) :
    c.trigger.Books invoked endings ∧ Progress c c.trigger :=
  ⟨⟨h.staffed.congr rfl rfl rfl rfl, h.started, fun _ => rfl, h.invoked_nodup, h.mem_invoked, h.endings_nodup,
      h.mem_endings, h.errors⟩,
    ⟨rfl, rfl, id, fun _ => rfl, fun _ => id, fun _ => rfl⟩⟩

end

/-! ## One worker -/

def errorsAfter (c : Coordinator) (p : String) : Ending → OrderedMap String Fault
  | .returned => c.errors
  | .raised f => if f.exits then c.errors else c.errors.insert p f

section
variable {c : Coordinator} {i : Nat} {p : String} {phase : Phase} (h : c.Staffed)
  (hw : c.workers[i]? = some ⟨p, phase⟩)
include hw

theorem settle_eq (hp : phase = .running) (ending : Ending) :
    (c.settle i ending).1 = { c with errors := c.errorsAfter p ending }.setPhase i .ended := by
  subst hp
  unfold settle errorsAfter
  rw [hw]
  cases ending with
  | returned => rfl
  | raised f =>
    simp only
    split <;> rfl

include h

theorem phase?_worker : c.phase? p = some phase :=
  (h.manned (h.armed_of_worker hw)).phase?_eq_some.mpr ⟨i, hw⟩

theorem phase?_setPhase (phase' : Phase) (q : String) :
    (c.setPhase i phase').phase? q = if q = p then some phase' else c.phase? q :=
  (h.manned (h.armed_of_worker hw)).phase?_setPhase hw phase' q

theorem any_setPhase_new (phase' : Phase) (f : Phase → Bool) (hf : f phase' = true) (q : String) :
    ((c.setPhase i phase').phase? q).any f = true ↔ (c.phase? q).any f = true ∨ q = p := by
  rw [phase?_setPhase h hw]
  by_cases hq : q = p
  · simp [hq, hf]
  · simp [hq]

theorem any_setPhase_same (phase' : Phase) (f : Phase → Bool) (hf : f phase' = f phase) (q : String) :
    ((c.setPhase i phase').phase? q).any f = (c.phase? q).any f := by
  rw [phase?_setPhase h hw]
  by_cases hq : q = p
  · rw [if_pos hq, hq, phase?_worker h hw]
    exact hf
  · rw [if_neg hq]

theorem progress_setPhase (hp : phase ≠ .finished) (phase' : Phase) (errors : OrderedMap String Fault) :
    Progress c ({ c with errors }.setPhase i phase') where
  providers := rfl
  timeout := rfl
  armed := id
  triggered := id
  done q hq := by
    have hq' : q ≠ p := by
      rintro rfl
      rw [isDone, phase?_worker h hw, beq_iff_eq, Option.some_inj] at hq
      exact hp hq
    show (c.setPhase i phase').isDone q = true
    rw [isDone, phase?_setPhase h hw, if_neg hq']
    exact hq
  errors hd := by
    have := hd p ((h.manned (h.armed_of_worker hw)).mem_providers hw)
    rw [isDone, phase?_worker h hw, beq_iff_eq, Option.some_inj] at this
    exact absurd this hp

end

section
variable {c : Coordinator} {invoked : List String} {endings : List (String × Ending)} {i : Nat} {p : String}

theorem Books.started_setPhase (h : c.Books invoked endings) {phase phase' : Phase}
    (hw : c.workers[i]? = some ⟨p, phase⟩) (hp : phase' ≠ .unstarted) (q : String) :
    (c.setPhase i phase').phase? q ≠ some .unstarted := by
  rw [phase?_setPhase h.staffed hw]
  split
  · exact fun he => hp (Option.some.inj he)
  · exact h.started q

theorem Books.not_mem_endings (h : c.Books invoked endings) {phase : Phase}
    (hw : c.workers[i]? = some ⟨p, phase⟩) (hp : phase.past = false) : p ∉ endings.map Prod.fst := by
  rw [h.mem_endings, phase?_worker h.staffed hw, Option.any_some, hp]
  nofun

theorem Books.begin (h : c.Books invoked endings) (hw : c.workers[i]? = some ⟨p, .waiting⟩)
    (ht : c.triggered = true) : (c.setPhase i .running).Books (invoked ++ [p]) endings where
  staffed := h.staffed.setPhase i .running
  started := h.started_setPhase hw nofun
  triggered _ := ht
  invoked_nodup := by
    refine nodup_concat h.invoked_nodup ?_
    rw [h.mem_invoked, phase?_worker h.staffed hw]
    nofun
  mem_invoked q := by
    rw [any_setPhase_new h.staffed hw .running Phase.begun rfl, List.mem_append, h.mem_invoked, List.mem_singleton]
  endings_nodup := h.endings_nodup
  mem_endings q := by rw [any_setPhase_same h.staffed hw .running Phase.past rfl, h.mem_endings]
  errors := h.errors

theorem Books.get?_errorsAfter (h : c.Books invoked endings) (hp : p ∉ endings.map Prod.fst) (ending : Ending)
    (q : String) (f : Fault) : (c.errorsAfter p ending).get? q = some f ↔
      (q, .raised f) ∈ endings ++ [(p, ending)] ∧ f.exits = false := by
  rw [List.mem_append, List.mem_singleton]
  cases ending with
  | returned => simp [errorsAfter, h.errors]
  | raised g =>
    unfold errorsAfter
    simp only [Prod.mk.injEq, Ending.raised.injEq]
    by_cases hg : g.exits = true
    · rw [if_pos hg, h.errors]
      constructor
      · exact fun hq => ⟨Or.inl hq.1, hq.2⟩
      · rintro ⟨hq | ⟨rfl, rfl⟩, hf⟩
        · exact ⟨hq, hf⟩
        · rw [hg] at hf
          cases hf
    · rw [if_neg hg]
      by_cases hq : q = p
      · subst hq
        rw [OrderedMap.get?_insert_self, Option.some_inj]
        constructor
        · rintro rfl
          exact ⟨Or.inr ⟨rfl, rfl⟩, by simpa using hg⟩
        · rintro ⟨hm | ⟨-, rfl⟩, -⟩
          · exact absurd (List.mem_map_of_mem hm) hp
          · rfl
      · rw [OrderedMap.get?_insert_of_ne _ hq, h.errors]
        simp only [hq, false_and, or_false]

theorem Books.settle (h : c.Books invoked endings) (hw : c.workers[i]? = some ⟨p, .running⟩) (ending : Ending) :
    ({ c with errors := c.errorsAfter p ending }.setPhase i .ended).Books invoked
      (endings ++ [(p, ending)]) := by
  have hp := h.not_mem_endings hw rfl
  have hs := h.staffed.setPhase i .ended
  refine ⟨hs.congr rfl rfl rfl rfl, h.started_setPhase hw nofun, h.triggered, h.invoked_nodup, fun q => ?_,
    ?_, fun q => ?_, h.get?_errorsAfter hp ending⟩
  · show _ ↔ ((c.setPhase i .ended).phase? q).any Phase.begun = true
    rw [any_setPhase_same h.staffed hw .ended Phase.begun rfl, h.mem_invoked]
  · rw [List.map_append]
    exact nodup_concat h.endings_nodup hp
  · show _ ↔ ((c.setPhase i .ended).phase? q).any Phase.past = true
    rw [any_setPhase_new h.staffed hw .ended Phase.past rfl, List.map_append, List.mem_append, h.mem_endings]
    exact or_congr_right List.mem_singleton

theorem Books.signal (h : c.Books invoked endings) (hw : c.workers[i]? = some ⟨p, .ended⟩) :
    (c.setPhase i .finished).Books invoked endings where
  staffed := h.staffed.setPhase i .finished
  started := h.started_setPhase hw nofun
  triggered := h.triggered
  invoked_nodup := h.invoked_nodup
  mem_invoked q := by rw [any_setPhase_same h.staffed hw .finished Phase.begun rfl, h.mem_invoked]
  endings_nodup := h.endings_nodup
  mem_endings q := by rw [any_setPhase_same h.staffed hw .finished Phase.past rfl, h.mem_endings]
  errors := h.errors

end

end Coordinator

end Telemetry
