import Telemetry.Proofs.Shutdown.Calls

/-! # What comes of a shutdown

Once a call has returned that found nothing pending, every provider was shut down, the errors are
complete, and nothing changes any more: later calls return the same verdict without delay. -/

namespace Telemetry

open Coordinator (Progress)

namespace Station

def shuts : Station → Bool
  | entered errand | armed errand => errand.shuts
  | waiting .. | returned .. | refused _ => true
  | gone => false

/-- Where a call can be that was made after everything was done. -/
def Prompt (verdict : Bool) : Station → Prop
  | entered _ | armed _ | gone => True
  | waiting _ pending => pending = []
  | returned v pending => v = verdict ∧ pending = []
  | refused _ => False

end Station

namespace Closing

structure Settled (s : Closing) (verdict : Bool) : Prop where
  sound : s.Sound
  real : s.coordinator.timeout.isReal = true
  done : ∀ p ∈ s.coordinator.providers, s.coordinator.isDone p = true
  verdict : verdict = s.coordinator.errors.isEmpty

section
variable {s s' : Closing} {verdict : Bool}

theorem Sound.settled (h : s.Sound) {n : Nat} (hn : s.calls[n]? = some (.returned verdict [])) :
    s.Settled verdict := by
  obtain ⟨hr, hd⟩ := h.calls _ (List.mem_of_getElem? hn)
  rw [if_pos rfl] at hd
  exact ⟨h, hr, hd.1, hd.2⟩

theorem Settled.mono (h : s.Settled verdict) (hs : s'.Sound) (hp : Progress s.coordinator s'.coordinator) :
    s'.Settled verdict where
  sound := hs
  real := hp.timeout ▸ h.real
  done p hm := hp.done p (h.done p (hp.providers ▸ hm))
  verdict := hp.errors h.done ▸ h.verdict

theorem Settled.finished (h : s.Settled verdict) {i : Nat} {w : Worker}
    (hw : s.coordinator.workers[i]? = some w) : w.phase = .finished := by
  have hs := h.sound.books.staffed
  have hd := h.done w.provider ((hs.manned (hs.armed_of_worker hw)).mem_providers hw)
  rw [Coordinator.isDone, Coordinator.phase?_worker hs hw, beq_iff_eq, Option.some_inj] at hd
  exact hd

theorem Settled.canBegin (h : s.Settled verdict) (i : Nat) : s.coordinator.canBegin i = false := by
  unfold Coordinator.canBegin
  cases hw : s.coordinator.workers[i]? with
  | none => exact Bool.and_false _
  | some w =>
    rw [Option.map_some, h.finished hw]
    exact Bool.and_false _

theorem Settled.advance_waiting (h : s.Settled verdict) {n : Nat} {provider : String} {rest pending : List String}
    (hn : s.calls[n]? = some (.waiting (provider :: rest) pending)) (late : Bool) :
    s.advance n late (.waiting (provider :: rest) pending) = some (s.place n (.waiting rest pending)) := by
  obtain ⟨-, hl, -⟩ := h.sound.calls _ (List.mem_of_getElem? hn)
  exact if_pos (h.done provider (hl provider List.mem_cons_self))

theorem Settled.pull_eq (h : s.Settled verdict) (n : Nat) :
    s.pull n = { s with coordinator := s.coordinator.trigger }.place n (.waiting s.coordinator.awaited.keys []) := by
  unfold pull
  rw [if_pos h.real]

theorem Settled.judge (h : s.Settled verdict) : (s.coordinator.verdict []).1 = verdict := h.verdict.symm

theorem Settled.advance (h : s.Settled verdict) {n : Nat} {late : Bool} {station : Station}
    (hn : s.calls[n]? = some station) (hs : s.advance n late station = some s') :
    s'.invoked = s.invoked ∧ ∃ station', s'.calls = s.calls.set n station' ∧
      (station.Prompt verdict → station'.Prompt verdict) := by
  cases station with
  | entered errand => cases hs; exact ⟨rfl, _, rfl, id⟩
  | armed errand =>
    have hp := h.pull_eq n
    cases errand with
    | arm => cases hs; exact ⟨rfl, _, rfl, id⟩
    | register => cases hs; exact ⟨rfl, _, rfl, id⟩
    | shutdown => cases hs; rw [hp]; exact ⟨rfl, _, rfl, fun _ => rfl⟩
    | bundle => cases hs; rw [hp]; exact ⟨rfl, _, rfl, fun _ => rfl⟩
    | exit => cases hs; rw [hp]; exact ⟨rfl, _, rfl, fun _ => rfl⟩
  | waiting left pending =>
    cases left with
    | nil =>
      cases hs
      refine ⟨rfl, _, rfl, ?_⟩
      rintro rfl
      exact ⟨h.judge, rfl⟩
    | cons provider rest =>
      rw [h.advance_waiting hn] at hs
      cases hs
      exact ⟨rfl, _, rfl, id⟩
  | returned _ _ => cases hs
  | refused _ => cases hs
  | gone => cases hs

def PromptFrom (s : Closing) (n : Nat) (verdict : Bool) : Prop :=
  ∀ m, n ≤ m → ∀ station, s.calls[m]? = some station → station.Prompt verdict

theorem PromptFrom.enter {n : Nat} (h : s.PromptFrom n verdict) {errand : Errand}
    (hc : s'.calls = s.calls ++ [.entered errand]) : s'.PromptFrom n verdict := by
  intro m hm station hs
  rw [hc, List.getElem?_append] at hs
  split at hs
  · exact h m hm station hs
  · cases List.mem_singleton.mp (List.mem_of_getElem? hs)
    exact trivial

theorem PromptFrom.set {n k : Nat} (h : s.PromptFrom n verdict) {station station' : Station}
    (hk : s.calls[k]? = some station) (hc : s'.calls = s.calls.set k station')
    (hp : station.Prompt verdict → station'.Prompt verdict) : s'.PromptFrom n verdict := by
  intro m hm other hs
  rw [hc] at hs
  by_cases hkm : k = m
  · subst hkm
    rw [List.getElem?_set_self (List.getElem?_eq_some_iff.mp hk).1, Option.some_inj] at hs
    exact hs ▸ hp (h k hm station hk)
  · rw [List.getElem?_set_ne hkm] at hs
    exact h m hm other hs

theorem Settled.step (h : s.Settled verdict) {move : Move} (hs : s.step move = some s') :
    s'.Settled verdict ∧ s'.invoked = s.invoked ∧ ∀ n, s.PromptFrom n verdict → s'.PromptFrom n verdict := by
  obtain ⟨hs', hp⟩ := h.sound.step hs
  refine ⟨h.mono hs' hp, ?_⟩
  cases move with
  | call errand =>
    obtain ⟨callbacks, rfl⟩ := step_call hs
    exact ⟨rfl, fun _ hf => hf.enter rfl⟩
  | go n late =>
    obtain ⟨station, hn, ha⟩ := Option.bind_eq_some_iff.mp hs
    obtain ⟨hi, station', hc, hpr⟩ := h.advance hn ha
    exact ⟨hi, fun _ hf => hf.set hn hc hpr⟩
  | begin i =>
    simp only [Closing.step, h.canBegin i] at hs
    split at hs <;> cases hs
  | settle i ending =>
    simp only [Closing.step] at hs
    split at hs
    · rename_i hw
      cases h.finished hw
    · cases hs
  | signal i =>
    simp only [Closing.step] at hs
    split at hs
    · cases hs
      exact ⟨rfl, fun _ => id⟩
    · cases hs

theorem Settled.run (h : s.Settled verdict) : ∀ {moves : List Move} {s' : Closing}, s.run moves = some s' →
    s'.Settled verdict ∧ s'.invoked = s.invoked ∧ ∀ n, s.PromptFrom n verdict → s'.PromptFrom n verdict := by
  intro moves
  induction moves generalizing s with
  | nil =>
    intro s' hs
    cases hs
    exact ⟨h, rfl, fun _ => id⟩
  | cons move moves ih =>
    intro s' hs
    obtain ⟨s₁, h₁, hs⟩ := Option.bind_eq_some_iff.mp hs
    obtain ⟨hs₁, hi₁, hp₁⟩ := h.step h₁
    obtain ⟨hs', hi', hp'⟩ := ih hs₁ hs
    exact ⟨hs', hi'.trans hi₁, fun n hf => hp' n (hp₁ n hf)⟩

/-! ## Later calls return -/

/-- Left to itself, a call returns this verdict. -/
def Returns (s : Closing) (n : Nat) (late verdict : Bool) : Prop :=
  ∃ k s', s.run (List.replicate k (.go n late)) = some s' ∧ s'.calls[n]? = some (.returned verdict [])

theorem Returns.go {n : Nat} {late : Bool} {station : Station} (hn : s.calls[n]? = some station)
    (hs : s.advance n late station = some s') (h : s'.Returns n late verdict) : s.Returns n late verdict := by
  obtain ⟨k, s'', hr, hv⟩ := h
  refine ⟨k + 1, s'', ?_, hv⟩
  rw [List.replicate_succ, Closing.run, step_go hn hs]
  exact hr

theorem Settled.returns_waiting (n : Nat) (late : Bool) : ∀ (left : List String) {s : Closing},
    s.Settled verdict → s.calls[n]? = some (.waiting left []) → s.Returns n late verdict
  | [], s, h, hn => by
    refine Returns.go hn rfl ⟨0, _, rfl, ?_⟩
    rw [getElem?_place hn, h.judge]
  | provider :: rest, s, h, hn => by
    have hs := h.advance_waiting hn late
    have h' := (h.sound.advance hn hs).1
    exact Returns.go hn hs
      (returns_waiting n late rest ⟨h', h.real, h.done, h.verdict⟩ (getElem?_place hn _))

theorem Settled.returns_armed (h : s.Settled verdict) {n : Nat} {late : Bool} {errand : Errand}
    (hn : s.calls[n]? = some (.armed errand)) (he : errand.shuts = true) : s.Returns n late verdict := by
  have hs : s.advance n late (.armed errand) = some (s.pull n) := by
    cases errand with
    | arm => cases he
    | register => cases he
    | shutdown => rfl
    | bundle => rfl
    | exit => rfl
  obtain ⟨h', hp⟩ := h.sound.advance hn hs
  refine Returns.go hn hs (Settled.returns_waiting n late s.coordinator.awaited.keys (h.mono h' hp) ?_)
  rw [h.pull_eq]
  exact List.getElem?_set_self (List.getElem?_eq_some_iff.mp hn).1

theorem Settled.returns_entered (h : s.Settled verdict) {n : Nat} {late : Bool} {errand : Errand}
    (hn : s.calls[n]? = some (.entered errand)) (he : errand.shuts = true) : s.Returns n late verdict := by
  have hs : s.advance n late (.entered errand) =
      some ({ s with coordinator := s.coordinator.arm }.place n (.armed errand)) := rfl
  obtain ⟨h', hp⟩ := h.sound.advance hn hs
  exact Returns.go hn hs (Settled.returns_armed (h.mono h' hp)
    (List.getElem?_set_self (List.getElem?_eq_some_iff.mp hn).1) he)

theorem Settled.returns (h : s.Settled verdict) {n : Nat} {station : Station} (hn : s.calls[n]? = some station)
    (hp : station.Prompt verdict) (hs : station.shuts = true) (late : Bool) : s.Returns n late verdict := by
  cases station with
  | entered errand => exact h.returns_entered hn hs
  | armed errand => exact h.returns_armed hn hs
  | waiting left pending =>
    cases hp
    exact h.returns_waiting n late left hn
  | returned v pending =>
    obtain ⟨rfl, rfl⟩ := hp
    exact ⟨0, s, rfl, hn⟩
  | refused f => cases hp
  | gone => cases hs

end

/-! ## The outcome -/

/-- Every provider was shut down once, each failure is listed, and the verdict is that there is none. -/
structure Complete (providers : List String) (s : Closing) (verdict : Bool) : Prop where
  invoked : ∀ p, s.invoked.count p = if p ∈ providers then 1 else 0
  ended : ∀ p, p ∈ s.endings.map Prod.fst ↔ p ∈ providers
  done : ∀ p ∈ providers, s.coordinator.isDone p = true
  errors : ∀ p f, s.coordinator.errors.get? p = some f ↔ (p, .raised f) ∈ s.endings ∧ f.exits = false
  verdict : verdict = s.coordinator.errors.isEmpty

section
variable {s : Closing} {verdict : Bool} {providers : List String}

theorem Settled.any_phase? (h : s.Settled verdict) {f : Phase → Bool} (hf : f .finished = true) (p : String) :
    (s.coordinator.phase? p).any f = true ↔ p ∈ s.coordinator.providers := by
  constructor
  · intro ha
    cases hp : s.coordinator.phase? p with
    | none => rw [hp] at ha; cases ha
    | some phase => exact h.sound.books.staffed.mem_providers hp
  · intro hp
    have hd := h.done p hp
    rw [Coordinator.isDone, beq_iff_eq] at hd
    rw [hd]
    exact hf

theorem Settled.complete (h : s.Settled verdict) (hp : s.coordinator.providers = providers.eraseDups) :
    s.Complete providers verdict := by
  have hb := h.sound.books
  have hm : ∀ p, p ∈ s.coordinator.providers ↔ p ∈ providers := fun p => by rw [hp, List.mem_eraseDups]
  refine ⟨fun p => ?_, fun p => ?_, fun p hp => h.done p ((hm p).mpr hp), hb.errors, h.verdict⟩
  · rw [hb.invoked_nodup.count]
    refine if_congr ?_ rfl rfl
    rw [hb.mem_invoked, h.any_phase? rfl, hm]
  · rw [hb.mem_endings, h.any_phase? rfl, hm]

theorem Sound.can_begin (h : s.Sound) (ht : s.coordinator.triggered = true) {p : String}
    (hp : p ∈ s.coordinator.providers) (hi : p ∉ s.invoked) :
    ∃ i s', s.step (.begin i) = some s' ∧ s'.invoked = s.invoked ++ [p] := by
  have hs := h.books.staffed
  obtain ⟨i, phase, hw⟩ := (hs.manned (h.armed ht)).exists_worker hp
  have hph := Coordinator.phase?_worker hs hw
  rw [h.books.mem_invoked, hph] at hi
  have hb : s.coordinator.canBegin i = true := by
    unfold Coordinator.canBegin
    rw [hw, ht]
    cases phase with
    | waiting => rfl
    | unstarted => exact absurd hph (h.books.started p)
    | running => exact absurd rfl hi
    | ended => exact absurd rfl hi
    | finished => exact absurd rfl hi
  refine ⟨i, { s with coordinator := s.coordinator.begin i, invoked := s.invoked ++ [p] }, ?_, rfl⟩
  simp only [Closing.step, hw, hb, if_true]

/-- In whatever order calls and workers take their turns: no provider is shut down twice, and none
before a call has pulled the trigger; from then on no provider keeps another from being shut down. A
call that returns and found nothing pending does so when every provider was shut down and the errors
are complete. Nothing is shut down after that, and all later calls to shut down return the same. -/
theorem shutdown_once {timeout : Quantity} {moves : List Move} (h : (start providers timeout).run moves = some s) :
    s.invoked.Nodup ∧
      (s.invoked ≠ [] → ∃ station ∈ s.calls, station.hasPulled = true) ∧
      (s.coordinator.triggered = true → ∀ p ∈ providers, p ∉ s.invoked →
        ∃ i s', s.step (.begin i) = some s' ∧ s'.invoked = s.invoked ++ [p]) ∧
      ∀ (n : Nat) (verdict : Bool), s.calls[n]? = some (.returned verdict []) → s.Complete providers verdict ∧
        ∀ more s', s.run more = some s' → s'.Complete providers verdict ∧ s'.invoked = s.invoked ∧
          ∀ m, s.calls.length ≤ m → ∀ station, s'.calls[m]? = some station →
            station.Prompt verdict ∧ (station.shuts = true → ∀ late, s'.Returns m late verdict) := by
  obtain ⟨hs, hp⟩ := (sound_start providers timeout).run h
  have hp : s.coordinator.providers = providers.eraseDups := hp.providers
  refine ⟨hs.books.invoked_nodup, fun hi => hs.pulled (hs.books.triggered hi), fun ht p hm => ?_, ?_⟩
  · exact hs.can_begin ht (by rwa [hp, List.mem_eraseDups])
  · intro n verdict hn
    have hd := hs.settled hn
    refine ⟨hd.complete hp, fun more s' hr => ?_⟩
    obtain ⟨hd', hi, hf⟩ := hd.run hr
    refine ⟨hd'.complete ((hs.run hr).2.providers.trans hp), hi, fun m hm station hst => ?_⟩
    have hpr : s'.PromptFrom s.calls.length verdict := by
      refine hf _ fun k hk other ho => ?_
      rw [List.getElem?_eq_none hk] at ho
      cases ho
    have hst' := hpr m hm station hst
    exact ⟨hst', fun hsh late => hd'.returns hst hst' hsh late⟩

def oneFails : List Move :=
  [.call .register, .go 0 false, .call .shutdown, .go 1 false, .go 0 false, .go 1 false, .begin 0, .begin 1,
    .settle 0 (.raised (.report "boom" .empty)), .signal 0, .settle 1 .returned, .signal 1,
    .go 1 false, .go 1 false, .go 1 false]

theorem shutdown_once_oneFails :
    ∃ s, (start ["a", "b"] defaultShutdownTimeout).run oneFails = some s ∧
      s.calls[1]? = some (.returned false []) ∧ s.Complete ["a", "b"] false := by
  refine ⟨_, rfl, rfl, ?_⟩
  exact ((@shutdown_once _ ["a", "b"] defaultShutdownTimeout oneFails rfl).2.2.2 1 false rfl).1

end

end Closing

end Telemetry
