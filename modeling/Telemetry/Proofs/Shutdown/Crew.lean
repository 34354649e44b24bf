import Telemetry.Proofs.Distinct
import Telemetry.Shutdown.Schedule

/-! # The workers of a coordinator

A coordinator that is armed has one worker for each provider, and one that is not has none. How far
the worker of a provider has come is then all there is to say about it. -/

namespace Telemetry.Coordinator

/-! ## One worker for each provider -/

structure Manned (c : Coordinator) : Prop where
  workers : c.workers.map (·.provider) = c.providers
  awaited : c.awaited.entries = c.providers.zipIdx

structure Staffed (c : Coordinator) : Prop where
  nodup : c.providers.Nodup
  manned : c.armed = true → c.Manned
  idle : c.armed = false → c.workers = [] ∧ c.awaited = .empty

section
variable {c : Coordinator}

theorem Manned.keys (h : c.Manned) : c.awaited.keys = c.providers := by
  unfold OrderedMap.keys
  rw [h.awaited, List.zipIdx_map_fst]

theorem Manned.get?_awaited (h : c.Manned) {p : String} {i : Nat} :
    c.awaited.get? p = some i ↔ c.providers[i]? = some p := by
  rw [OrderedMap.get?_eq_some_iff, h.awaited, List.mem_zipIdx_iff_getElem?]

theorem Manned.getElem?_providers (h : c.Manned) (i : Nat) :
    c.providers[i]? = c.workers[i]?.map (·.provider) := by
  rw [← h.workers, List.getElem?_map]

theorem phase?_of_awaited {p : String} {i : Nat} (h : c.awaited.get? p = some i) :
    c.phase? p = c.workers[i]?.map (·.phase) := by
  unfold phase?
  rw [h]

theorem phase?_of_not_awaited {p : String} (h : c.awaited.get? p = none) : c.phase? p = none := by
  unfold phase?
  rw [h]

theorem Manned.phase?_eq_some (h : c.Manned) {p : String} {phase : Phase} :
    c.phase? p = some phase ↔ ∃ i : Nat, c.workers[i]? = some ⟨p, phase⟩ := by
  constructor
  · intro hp
    cases ha : c.awaited.get? p with
    | none => rw [phase?_of_not_awaited ha] at hp; cases hp
    | some i =>
      rw [phase?_of_awaited ha] at hp
      have hi := h.get?_awaited.mp ha
      obtain ⟨w, hw, rfl⟩ := Option.map_eq_some_iff.mp hp
      rw [h.getElem?_providers, hw, Option.map_some, Option.some_inj] at hi
      exact ⟨i, by rw [hw, ← hi]⟩
  · rintro ⟨i, hw⟩
    have ha : c.awaited.get? p = some i := by
      rw [h.get?_awaited, h.getElem?_providers, hw, Option.map_some]
    rw [phase?_of_awaited ha, hw, Option.map_some]

theorem Manned.exists_worker (h : c.Manned) {p : String} (hp : p ∈ c.providers) :
    ∃ (i : Nat) (phase : Phase), c.workers[i]? = some ⟨p, phase⟩ := by
  rw [← h.workers] at hp
  obtain ⟨w, hm, rfl⟩ := List.mem_map.mp hp
  obtain ⟨i, hw⟩ := List.mem_iff_getElem?.mp hm
  exact ⟨i, w.phase, hw⟩

theorem Manned.mem_providers (h : c.Manned) {i : Nat} {w : Worker} (hw : c.workers[i]? = some w) :
    w.provider ∈ c.providers := by
  rw [← h.workers]
  exact List.mem_map_of_mem (List.mem_of_getElem? hw)

theorem getElem?_setPhase {i : Nat} {p : String} {phase : Phase} (hw : c.workers[i]? = some ⟨p, phase⟩)
    (phase' : Phase) : (c.setPhase i phase').workers[i]? = some ⟨p, phase'⟩ := by
  unfold Coordinator.setPhase
  simp only [List.getElem?_modify, hw, if_true]
  rfl

theorem Manned.setPhase (h : c.Manned) (i : Nat) (phase : Phase) : (c.setPhase i phase).Manned where
  workers := by
    refine Eq.trans (List.ext_getElem? fun j => ?_) h.workers
    rw [List.getElem?_map, List.getElem?_map]
    unfold Coordinator.setPhase
    simp only [List.getElem?_modify]
    cases c.workers[j]? with
    | none => rfl
    | some w => split <;> rfl
  awaited := h.awaited

theorem Manned.phase?_setPhase (h : c.Manned) {i : Nat} {p : String} {phase : Phase}
    (hw : c.workers[i]? = some ⟨p, phase⟩) (phase' : Phase) (q : String) :
    (c.setPhase i phase').phase? q = if q = p then some phase' else c.phase? q := by
  have hp : c.providers[i]? = some p := by rw [h.getElem?_providers, hw, Option.map_some]
  have hj (j : Nat) : (c.setPhase i phase').workers[j]? =
      (fun w => if i = j then { w with phase := phase' } else w) <$> c.workers[j]? :=
    List.getElem?_modify ..
  by_cases hq : q = p
  · subst hq
    have ha : (c.setPhase i phase').awaited.get? q = some i := h.get?_awaited.mpr hp
    rw [phase?_of_awaited ha, hj, hw, if_pos rfl]
    simp only [Option.map_eq_map, Option.map_some, if_true]
  · rw [if_neg hq]
    cases ha : c.awaited.get? q with
    | none =>
      have ha' : (c.setPhase i phase').awaited.get? q = none := ha
      rw [phase?_of_not_awaited ha, phase?_of_not_awaited ha']
    | some j =>
      have ha' : (c.setPhase i phase').awaited.get? q = some j := ha
      have hq' := h.get?_awaited.mp ha
      have hij : i ≠ j := by
        rintro rfl
        rw [hp] at hq'
        exact hq (Option.some.inj hq').symm
      rw [phase?_of_awaited ha, phase?_of_awaited ha', hj]
      simp only [if_neg hij, Option.map_eq_map, Option.map_id']

theorem Staffed.congr {c' : Coordinator} (h : c.Staffed) (hp : c'.providers = c.providers)
    (ha : c'.armed = c.armed) (hw : c'.workers = c.workers) (hw' : c'.awaited = c.awaited) : c'.Staffed where
  nodup := hp ▸ h.nodup
  manned hc := by
    obtain ⟨h₁, h₂⟩ := h.manned (ha ▸ hc)
    exact ⟨by rw [hw, hp, h₁], by rw [hw', hp, h₂]⟩
  idle hc := by rw [hw, hw']; exact h.idle (ha ▸ hc)

theorem Staffed.armed_of_worker (h : c.Staffed) {i : Nat} {w : Worker} (hw : c.workers[i]? = some w) :
    c.armed = true := by
  cases ha : c.armed with
  | true => rfl
  | false =>
    rw [(h.idle ha).1] at hw
    cases hw

theorem Staffed.setPhase (h : c.Staffed) (i : Nat) (phase : Phase) : (c.setPhase i phase).Staffed where
  nodup := h.nodup
  manned ha := (h.manned ha).setPhase i phase
  idle ha := by
    obtain ⟨hw, ha⟩ := h.idle ha
    refine ⟨?_, ha⟩
    show c.workers.modify i _ = []
    rw [hw, List.modify_nil]

/-! ## Starting the workers -/

theorem startAll_manned : ∀ (ps : List String) (c : Coordinator), ps.Nodup → (∀ p ∈ ps, p ∉ c.awaited.keys) →
    ∃ awaited : OrderedMap String Nat, awaited.entries = c.awaited.entries ++ ps.zipIdx c.workers.length ∧
      c.startAll (fun _ => true) ps =
        (true, { c with workers := c.workers ++ ps.map fun p => ⟨p, .waiting⟩, awaited })
  | [], c, _, _ => ⟨c.awaited, (List.append_nil _).symm, by simp [startAll]⟩
  | p :: ps, c, hn, hf => by
    rw [List.nodup_cons] at hn
    have he := OrderedMap.entries_insert_of_not_mem c.workers.length (hf p List.mem_cons_self)
    obtain ⟨awaited, ha, hs⟩ := startAll_manned ps (c.addWorker p .waiting) hn.2 fun q hq => by
      show q ∉ (c.awaited.insert p c.workers.length).keys
      rw [OrderedMap.keys_insert, if_neg (hf p List.mem_cons_self), List.mem_append, List.mem_singleton, not_or]
      exact ⟨hf q (List.mem_cons_of_mem p hq), fun e => hn.1 (e ▸ hq)⟩
    refine ⟨awaited, ?_, ?_⟩
    · rw [ha]
      show (c.awaited.insert p c.workers.length).entries ++ ps.zipIdx (c.workers ++ [_]).length = _
      rw [he, List.zipIdx_cons, List.append_assoc, List.length_append]
      rfl
    · rw [startAll, if_pos rfl, hs]
      simp [addWorker]

theorem arm_of_armed (h : c.armed = true) : c.arm = c := by
  unfold arm armWith
  rw [if_pos h]

theorem Staffed.arm_of_idle (h : c.Staffed) (hi : c.armed = false) :
    c.arm.Manned ∧ ∃ awaited, c.arm = { c with
      armed := true, workers := c.providers.map fun p => ⟨p, .waiting⟩, awaited } := by
  obtain ⟨hw, ha⟩ := h.idle hi
  have hf : ∀ p ∈ c.providers, p ∉ c.awaited.keys := fun p _ => by
    rw [ha]
    exact List.not_mem_nil
  obtain ⟨awaited, he, hs⟩ := startAll_manned c.providers c h.nodup hf
  have hc : c.arm = { c with
      armed := true, workers := c.providers.map fun p => ⟨p, .waiting⟩, awaited } := by
    unfold arm armWith
    rw [hi, if_neg (by simp), hs, hw]
    rfl
  refine ⟨?_, awaited, hc⟩
  rw [hc]
  constructor
  · show (c.providers.map fun p => (⟨p, .waiting⟩ : Worker)).map (·.provider) = c.providers
    rw [List.map_map]
    exact List.map_id' _
  · show awaited.entries = c.providers.zipIdx
    rw [he, ha, hw]
    rfl

theorem Staffed.armed_arm (h : c.Staffed) : c.arm.armed = true := by
  cases hi : c.armed with
  | true => rw [arm_of_armed hi, hi]
  | false =>
    obtain ⟨-, awaited, hc⟩ := h.arm_of_idle hi
    rw [hc]

theorem Staffed.triggered_arm (h : c.Staffed) : c.arm.triggered = c.triggered := by
  cases hi : c.armed with
  | true => rw [arm_of_armed hi]
  | false =>
    obtain ⟨-, awaited, hc⟩ := h.arm_of_idle hi
    rw [hc]

end

end Telemetry.Coordinator
