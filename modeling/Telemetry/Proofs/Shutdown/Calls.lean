import Telemetry.Proofs.Shutdown.Books

/-! # Calls among workers

A state of a closing is sound if the books are right and every call holds to what it has seen. Moves
of calls and of workers, in whatever order, lead from sound states to sound states. -/

namespace Telemetry

open Coordinator (Progress)

namespace Station

def hasPulled : Station → Bool
  | waiting .. | returned .. | refused _ => true
  | _ => false

/-- What a call that has come so far goes by. -/
def Holds (c : Coordinator) : Station → Prop
  | entered _ | refused _ | gone => True
  | armed _ => c.armed = true
  | waiting left pending => c.timeout.isReal = true ∧ (∀ p ∈ left, p ∈ c.providers) ∧
      ∀ p ∈ c.providers, p ∈ left ∨ p ∈ pending ∨ c.isDone p = true
  | returned verdict pending => c.timeout.isReal = true ∧
      if pending = [] then (∀ p ∈ c.providers, c.isDone p = true) ∧ verdict = c.errors.isEmpty
      else verdict = false

theorem Holds.mono {c c' : Coordinator} (hp : Progress c c') {station : Station} (h : station.Holds c) :
    station.Holds c' := by
  cases station with
  | entered _ => exact trivial
  | refused _ => exact trivial
  | gone => exact trivial
  | armed _ => exact hp.armed h
  | waiting left pending =>
    obtain ⟨hr, hl, hd⟩ := h
    refine ⟨hp.timeout ▸ hr, hp.providers ▸ hl, fun p hm => ?_⟩
    rcases hd p (hp.providers ▸ hm) with h | h | h
    · exact Or.inl h
    · exact Or.inr (Or.inl h)
    · exact Or.inr (Or.inr (hp.done p h))
  | returned verdict pending =>
    obtain ⟨hr, h⟩ := h
    refine ⟨hp.timeout ▸ hr, ?_⟩
    by_cases hn : pending = []
    · rw [if_pos hn] at h ⊢
      exact ⟨fun p hm => hp.done p (h.1 p (hp.providers ▸ hm)), hp.errors h.1 ▸ h.2⟩
    · rw [if_neg hn] at h ⊢
      exact h

end Station

namespace Closing

structure Sound (s : Closing) : Prop where
  books : s.coordinator.Books s.invoked s.endings
  armed : s.coordinator.triggered = true → s.coordinator.armed = true
  pulled : s.coordinator.triggered = true → ∃ station ∈ s.calls, station.hasPulled = true
  calls : ∀ station ∈ s.calls, station.Holds s.coordinator

theorem sound_start (providers : List String) (timeout : Quantity) : (start providers timeout).Sound where
  books := Coordinator.books_ofProviders providers timeout
  armed := nofun
  pulled := nofun
  calls := nofun

section
variable {s : Closing}

theorem getElem?_place {n : Nat} {station : Station} (hn : s.calls[n]? = some station) (station' : Station) :
    (s.place n station').calls[n]? = some station' :=
  List.getElem?_set_self (List.getElem?_eq_some_iff.mp hn).1

theorem Sound.enter (h : s.Sound) (errand : Errand) (callbacks : Nat) :
    Sound { s with callbacks, calls := s.calls ++ [.entered errand] } where
  books := h.books
  armed := h.armed
  pulled ht := by
    obtain ⟨station, hm, hp⟩ := h.pulled ht
    exact ⟨station, List.mem_append_left _ hm, hp⟩
  calls station hm := by
    rcases List.mem_append.mp hm with hm | hm
    · exact h.calls station hm
    · cases List.mem_singleton.mp hm
      exact trivial

theorem Sound.work (h : s.Sound) {c : Coordinator} {invoked : List String} {endings : List (String × Ending)}
    (hb : c.Books invoked endings) (hp : Progress s.coordinator c) (ht : c.triggered = s.coordinator.triggered) :
    Sound { s with coordinator := c, invoked, endings } where
  books := hb
  armed hc := hp.armed (h.armed (ht ▸ hc))
  pulled hc := h.pulled (ht ▸ hc)
  calls station hm := (h.calls station hm).mono hp

theorem Sound.place (h : s.Sound) {n : Nat} {station : Station} (hn : s.calls[n]? = some station)
    (station' : Station) {c : Coordinator} (hb : c.Books s.invoked s.endings) (hp : Progress s.coordinator c)
    (ha : c.triggered = true → c.armed = true)
    (ht : c.triggered = true → s.coordinator.triggered = true ∨ station'.hasPulled = true)
    (hs : station.hasPulled = true → station'.hasPulled = true) (hh : station'.Holds c) (callbacks : Nat) :
    Sound { s with coordinator := c, callbacks, calls := s.calls.set n station' } where
  books := hb
  armed := ha
  pulled hc := by
    have hn' := (List.getElem?_eq_some_iff.mp hn).1
    rcases ht hc with ht | ht
    · obtain ⟨other, hm, hp⟩ := h.pulled ht
      obtain ⟨j, hj⟩ := List.mem_iff_getElem?.mp hm
      by_cases hjn : n = j
      · subst hjn
        rw [hn, Option.some_inj] at hj
        exact ⟨station', List.mem_set hn' _, hs (hj ▸ hp)⟩
      · exact ⟨other, List.mem_iff_getElem?.mpr ⟨j, by rw [List.getElem?_set_ne hjn, hj]⟩, hp⟩
    · exact ⟨station', List.mem_set hn' _, ht⟩
  calls other hm := by
    rcases List.mem_or_eq_of_mem_set hm with hm | rfl
    · exact (h.calls other hm).mono hp
    · exact hh

theorem Sound.stay (h : s.Sound) {n : Nat} {station : Station} (hn : s.calls[n]? = some station)
    (station' : Station) (hs : station.hasPulled = true → station'.hasPulled = true) (hh : station'.Holds s.coordinator)
    (callbacks : Nat) : Sound { s with callbacks, calls := s.calls.set n station' } :=
  h.place hn station' h.books (.refl _) h.armed Or.inl hs hh callbacks

theorem Sound.pull (h : s.Sound) {n : Nat} {errand : Errand} (hn : s.calls[n]? = some (.armed errand)) :
    (s.pull n).Sound := by
  obtain ⟨hb, hp⟩ := h.books.trigger
  have ha : s.coordinator.armed = true := h.calls _ (List.mem_of_getElem? hn)
  unfold Closing.pull
  split
  · rename_i hr
    rw [(h.books.staffed.manned ha).keys]
    exact h.place hn (.waiting s.coordinator.providers []) hb hp (fun _ => ha) (fun _ => Or.inr rfl) nofun
      ⟨hr, fun _ => id, fun _ => Or.inl⟩ _
  · exact h.place hn (.refused (.overflow .real)) hb hp (fun _ => ha) (fun _ => Or.inr rfl) nofun trivial _

/-- The verdict is given by the errors only when nothing is pending. -/
theorem Sound.judge (h : s.Sound) {n : Nat} {pending : List String}
    (hn : s.calls[n]? = some (.waiting [] pending)) :
    (s.place n (.returned (s.coordinator.verdict pending).1 pending)).Sound := by
  obtain ⟨hr, -, hd⟩ := h.calls _ (List.mem_of_getElem? hn)
  refine h.stay hn (.returned _ pending) (fun _ => rfl) ⟨hr, ?_⟩ _
  cases pending with
  | nil =>
    rw [if_pos rfl]
    exact ⟨fun p hm => by simpa using hd p hm, rfl⟩
  | cons p rest => rfl

theorem Sound.wait (h : s.Sound) {n : Nat} {provider : String} {rest pending pending' : List String}
    (hn : s.calls[n]? = some (.waiting (provider :: rest) pending)) (hp : ∀ p ∈ pending, p ∈ pending')
    (hd : provider ∈ pending' ∨ s.coordinator.isDone provider = true) :
    (s.place n (.waiting rest pending')).Sound := by
  obtain ⟨hr, hl, hw⟩ := h.calls _ (List.mem_of_getElem? hn)
  have hl' : ∀ p ∈ rest, p ∈ s.coordinator.providers := fun p hm => hl p (List.mem_cons_of_mem _ hm)
  refine h.stay hn (.waiting rest pending') (fun _ => rfl) ⟨hr, hl', fun p hm => ?_⟩ _
  rcases hw p hm with hm | hm | hm
  · rcases List.mem_cons.mp hm with rfl | hm
    · exact Or.inr hd
    · exact Or.inl hm
  · exact Or.inr (Or.inl (hp p hm))
  · exact Or.inr (Or.inr hm)

theorem Sound.advance (h : s.Sound) {n : Nat} {late : Bool} {station : Station} (hn : s.calls[n]? = some station)
    {s' : Closing} (hs : s.advance n late station = some s') :
    s'.Sound ∧ Progress s.coordinator s'.coordinator := by
  cases station with
  | entered errand =>
    cases hs
    obtain ⟨hb, hp⟩ := h.books.arm
    have ha := h.books.staffed.armed_arm
    have ht := h.books.staffed.triggered_arm
    exact ⟨h.place hn (.armed errand) hb hp (fun _ => ha) (fun hc => Or.inl (ht ▸ hc)) nofun ha _, hp⟩
  | armed errand =>
    have ht := h.books.trigger.2
    cases errand with
    | arm => cases hs; exact ⟨h.stay hn .gone nofun trivial _, .refl _⟩
    | register => cases hs; exact ⟨h.stay hn .gone nofun trivial _, .refl _⟩
    | shutdown => cases hs; exact ⟨h.pull hn, ht⟩
    | bundle => cases hs; exact ⟨h.pull hn, ht⟩
    | exit => cases hs; exact ⟨h.pull hn, ht⟩
  | waiting left pending =>
    cases left with
    | nil => cases hs; exact ⟨h.judge hn, .refl _⟩
    | cons provider rest =>
      simp only [Closing.advance] at hs
      split at hs
      · rename_i hd
        cases hs
        exact ⟨h.wait hn (fun _ => id) (Or.inr hd), .refl _⟩
      · split at hs
        · cases hs
          exact ⟨h.stay hn (.refused _) (fun _ => rfl) trivial _, .refl _⟩
        · split at hs
          · cases hs
            exact ⟨h.wait hn (fun _ => List.mem_append_left _) (Or.inl (by simp)), .refl _⟩
          · cases hs
  | returned _ _ => cases hs
  | refused _ => cases hs
  | gone => cases hs

/-! ## Moves -/

theorem Sound.begin (h : s.Sound) {i : Nat} {s' : Closing} (hs : s.step (.begin i) = some s') :
    s'.Sound ∧ Progress s.coordinator s'.coordinator := by
  simp only [Closing.step] at hs
  split at hs
  · rename_i w hw
    split at hs
    · rename_i hb
      cases hs
      obtain ⟨p, phase⟩ := w
      have hc : s.coordinator.begin i = s.coordinator.setPhase i .running := if_pos hb
      unfold Coordinator.canBegin at hb
      simp only [hw, Option.map_some, Bool.and_eq_true, beq_iff_eq, Option.some_inj] at hb
      obtain ⟨ht, rfl⟩ := hb
      have hp := Coordinator.progress_setPhase h.books.staffed hw nofun .running s.coordinator.errors
      rw [hc]
      exact ⟨h.work (h.books.begin hw ht) hp rfl, hp⟩
    · cases hs
  · cases hs

theorem Sound.settle (h : s.Sound) {i : Nat} {ending : Ending} {s' : Closing}
    (hs : s.step (.settle i ending) = some s') : s'.Sound ∧ Progress s.coordinator s'.coordinator := by
  simp only [Closing.step] at hs
  split at hs
  · rename_i p hw
    cases hs
    have hp := Coordinator.progress_setPhase h.books.staffed hw nofun .ended
      (s.coordinator.errorsAfter p ending)
    rw [Coordinator.settle_eq hw rfl]
    exact ⟨h.work (h.books.settle hw ending) hp rfl, hp⟩
  · cases hs

theorem Sound.signal (h : s.Sound) {i : Nat} {s' : Closing} (hs : s.step (.signal i) = some s') :
    s'.Sound ∧ Progress s.coordinator s'.coordinator := by
  simp only [Closing.step] at hs
  split at hs
  · rename_i hw
    cases hs
    obtain ⟨⟨p, phase⟩, hw', rfl⟩ := Option.map_eq_some_iff.mp hw
    have hc : s.coordinator.signal i = s.coordinator.setPhase i .finished := if_pos (by rw [hw]; rfl)
    have hp := Coordinator.progress_setPhase h.books.staffed hw' nofun .finished s.coordinator.errors
    rw [hc]
    exact ⟨h.work (h.books.signal hw') hp rfl, hp⟩
  · cases hs

theorem step_call {errand : Errand} {s' : Closing} (hs : s.step (.call errand) = some s') :
    ∃ callbacks, s' = { s with callbacks, calls := s.calls ++ [.entered errand] } := by
  cases errand with
  | exit =>
    simp only [Closing.step] at hs
    split at hs
    · cases hs
    · cases hs
      exact ⟨_, rfl⟩
  | arm => cases hs; exact ⟨_, rfl⟩
  | shutdown => cases hs; exact ⟨_, rfl⟩
  | bundle => cases hs; exact ⟨_, rfl⟩
  | register => cases hs; exact ⟨_, rfl⟩

theorem step_go {n : Nat} {late : Bool} {station : Station} {s' : Closing} (hn : s.calls[n]? = some station)
    (hs : s.advance n late station = some s') : s.step (.go n late) = some s' := by
  show (s.calls[n]?).bind (s.advance n late) = some s'
  rw [hn]
  exact hs

theorem Sound.step (h : s.Sound) {move : Move} {s' : Closing} (hs : s.step move = some s') :
    s'.Sound ∧ Progress s.coordinator s'.coordinator := by
  cases move with
  | call errand =>
    obtain ⟨callbacks, rfl⟩ := step_call hs
    exact ⟨h.enter errand callbacks, .refl _⟩
  | go n late =>
    obtain ⟨station, hn, ha⟩ := Option.bind_eq_some_iff.mp hs
    exact h.advance hn ha
  | begin i => exact h.begin hs
  | settle i ending => exact h.settle hs
  | signal i => exact h.signal hs

theorem Sound.run (h : s.Sound) : ∀ {moves : List Move} {s' : Closing}, s.run moves = some s' →
    s'.Sound ∧ Progress s.coordinator s'.coordinator := by
  intro moves
  induction moves generalizing s with
  | nil =>
    intro s' hs
    cases hs
    exact ⟨h, .refl _⟩
  | cons move moves ih =>
    intro s' hs
    obtain ⟨s₁, h₁, hs⟩ := Option.bind_eq_some_iff.mp hs
    obtain ⟨hs₁, hp₁⟩ := h.step h₁
    obtain ⟨hs', hp'⟩ := ih hs₁ hs
    exact ⟨hs', hp₁.trans hp'⟩

end

end Closing

end Telemetry
