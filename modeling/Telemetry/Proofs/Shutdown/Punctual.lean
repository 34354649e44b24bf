import Mathlib.Data.List.Nodup
import Telemetry.Proofs.Shutdown.Clock

/-! # Shutdowns that are over at given times

Whenever the providers are done, some by now, some later and some never, there is a vigil that runs so. Its call comes
to what `Deadline.waitAll` makes of those times. -/

namespace Telemetry

open Coordinator (Progress)

namespace Deadline

def doneBy (done : Option Rat) (now : Rat) : Bool := done.any (· ≤ now)

theorem doneBy_mono {done : Option Rat} {now now' : Rat} (h : now ≤ now') (hd : doneBy done now = true) :
    doneBy done now' = true := by
  cases done with
  | none => cases hd
  | some t =>
    have ht : t ≤ now := by simpa [doneBy] using hd
    simpa [doneBy] using ht.trans h

theorem wait_spec (deadline now : Rat) (done : Option Rat) :
    let r := wait deadline now done
    now ≤ r.2 ∧ r.2 ≤ now + left deadline now ∧ r.1 = doneBy done r.2 ∧
      (r.1 = false → r.2 = now + left deadline now) := by
  have hl : now ≤ now + left deadline now := le_add_of_nonneg_right (Closing.left_nonneg deadline now)
  unfold wait doneBy
  cases done with
  | none => exact ⟨hl, le_refl _, rfl, fun _ => rfl⟩
  | some t =>
    by_cases ht : t ≤ now
    · simp [ht, Closing.left_nonneg]
    · by_cases hlimit : t ≤ now + left deadline now
      · simp [ht, hlimit, le_of_not_ge ht]
      · simp [ht, hlimit, Closing.left_nonneg]

theorem waitAll_cons (deadline now : Rat) (name : String) (done : Option Rat) (rest : List (String × Option Rat)) :
    waitAll deadline now ((name, done) :: rest) =
      let r := wait deadline now done
      ((if r.1 then [] else [name]) ++ (waitAll deadline r.2 rest).1, (waitAll deadline r.2 rest).2) := by
  rw [waitAll]
  cases wait deadline now done with
  | mk finished now' => cases finished <;> rfl

end Deadline

/-! ## Workers that come to their end -/

namespace Coordinator

variable {c : Coordinator} {i : Nat} {p : String} {phase : Phase}

theorem isDone_setPhase (h : c.Staffed) (hw : c.workers[i]? = some ⟨p, phase⟩) (phase' : Phase) (q : String) :
    (c.setPhase i phase').isDone q = if q = p then decide (phase' = .finished) else c.isDone q := by
  rw [isDone, phase?_setPhase h hw]
  split
  · cases phase' <;> rfl
  · rfl

theorem isDone_setPhase_unfinished (h : c.Staffed) (hw : c.workers[i]? = some ⟨p, phase⟩) (hp : phase ≠ .finished)
    {phase' : Phase} (hp' : phase' ≠ .finished) (q : String) : (c.setPhase i phase').isDone q = c.isDone q := by
  rw [isDone_setPhase h hw, decide_eq_false hp']
  split
  · rename_i hq
    rw [hq, isDone, phase?_worker h hw]
    cases phase with
    | finished => exact absurd rfl hp
    | unstarted | waiting | running | ended => rfl
  · rfl

end Coordinator

namespace Closing

section
variable {s : Closing} {i : Nat} {p : String}

/-- The shutdown of a provider is over, and nothing else has changed for anyone who waits. -/
def Completes (s : Closing) (p : String) : Prop :=
  ∃ s', s.Works s' ∧ ∀ q, s'.coordinator.isDone q = (s.coordinator.isDone q || q == p)

theorem Completes.after {s₁ : Closing} (hw : s.Works s₁)
    (hd : ∀ q, s₁.coordinator.isDone q = s.coordinator.isDone q) (h : s₁.Completes p) : s.Completes p := by
  obtain ⟨s', hw', hd'⟩ := h
  exact ⟨s', hw.trans hw', fun q => by rw [hd', hd]⟩

theorem completes_ended (h : s.Sound) (hw : s.coordinator.workers[i]? = some ⟨p, .ended⟩) : s.Completes p := by
  have hs : s.step (.signal i) = some { s with coordinator := s.coordinator.setPhase i .finished } := by
    simp only [step, Coordinator.signal, hw, Option.map_some, beq_self_eq_true, if_true]
  refine ⟨_, ⟨.move hs, rfl, rfl, rfl⟩, fun q => ?_⟩
  rw [Coordinator.isDone_setPhase h.books.staffed hw]
  by_cases hq : q = p
  · simp [hq]
  · simp [hq]

theorem completes_running (h : s.Sound) (hw : s.coordinator.workers[i]? = some ⟨p, .running⟩) : s.Completes p := by
  have hc : (s.coordinator.settle i .returned).1 = s.coordinator.setPhase i .ended :=
    Coordinator.settle_eq hw rfl .returned
  have hs : s.step (.settle i .returned) = some { s with
      coordinator := s.coordinator.setPhase i .ended, endings := s.endings ++ [(p, .returned)] } := by
    simp only [step, hw, hc]
  refine Completes.after ⟨.move hs, rfl, rfl, rfl⟩
    (Coordinator.isDone_setPhase_unfinished h.books.staffed hw (by decide) (by decide)) ?_
  exact completes_ended (h.step hs).1 (Coordinator.getElem?_setPhase hw .ended)

theorem completes_waiting (h : s.Sound) (ht : s.coordinator.triggered = true)
    (hw : s.coordinator.workers[i]? = some ⟨p, .waiting⟩) : s.Completes p := by
  have hb : s.coordinator.canBegin i = true := by
    unfold Coordinator.canBegin
    rw [ht, hw]
    rfl
  have hs : s.step (.begin i) = some { s with
      coordinator := s.coordinator.setPhase i .running, invoked := s.invoked ++ [p] } := by
    simp only [step, hw, hb, if_true, Coordinator.begin]
  refine Completes.after ⟨.move hs, rfl, rfl, rfl⟩
    (Coordinator.isDone_setPhase_unfinished h.books.staffed hw (by decide) (by decide)) ?_
  exact completes_running (h.step hs).1 (Coordinator.getElem?_setPhase hw .running)

theorem Sound.completes (h : s.Sound) (ht : s.coordinator.triggered = true) (hp : p ∈ s.coordinator.providers) :
    s.Completes p := by
  have hs := h.books.staffed
  obtain ⟨i, phase, hw⟩ := (hs.manned (h.armed ht)).exists_worker hp
  have hph := Coordinator.phase?_worker hs hw
  cases phase with
  | unstarted => exact absurd hph (h.books.started p)
  | waiting => exact completes_waiting h ht hw
  | running => exact completes_running h hw
  | ended => exact completes_ended h hw
  | finished =>
    refine ⟨s, .refl s, fun q => ?_⟩
    by_cases hq : q = p
    · simp [hq, Coordinator.isDone, hph]
    · simp [hq]

theorem Sound.completes_all (P : String → Bool) : ∀ (names : List String) {s : Closing}, s.Sound →
    s.coordinator.triggered = true → (∀ p ∈ names, p ∈ s.coordinator.providers) →
    ∃ s', s.Works s' ∧ ∀ q, s'.coordinator.isDone q = (s.coordinator.isDone q || (names.contains q && P q))
  | [], s, _, _, _ => ⟨s, .refl s, fun q => by simp⟩
  | p :: names, s, h, ht, hn => by
    obtain ⟨hp, hns⟩ := List.forall_mem_cons.mp hn
    by_cases hP : P p = true
    · obtain ⟨s₁, hw₁, hd₁⟩ := h.completes ht hp
      obtain ⟨h₁, hp₁⟩ := h.reaches hw₁.reaches
      obtain ⟨s', hw', hd'⟩ := completes_all P names h₁ (hp₁.triggered ht) (hp₁.providers ▸ hns)
      refine ⟨s', hw₁.trans hw', fun q => ?_⟩
      rw [hd', hd₁, List.contains_cons]
      cases hq : q == p with
      | true => simp [beq_iff_eq.mp hq, hP]
      | false => simp
    · obtain ⟨s', hw', hd'⟩ := completes_all P names h ht hns
      refine ⟨s', hw', fun q => ?_⟩
      rw [hd', List.contains_cons]
      cases hq : q == p with
      | true => simp [beq_iff_eq.mp hq, hP]
      | false => simp

end

end Closing

/-! ## The vigil -/

/-- The provider was done at either end of its wait if it was to be done by then. -/
def Wait.Follows (done : String → Option Rat) (w : Wait) : Prop :=
  w.early = Deadline.doneBy (done w.provider) w.began ∧ w.done = Deadline.doneBy (done w.provider) w.ended

namespace Vigil

structure Follows (done : String → Option Rat) (v : Vigil) : Prop where
  sound : v.closing.Sound
  triggered : v.closing.coordinator.triggered = true
  isDone : ∀ p ∈ v.closing.coordinator.providers, v.closing.coordinator.isDone p = Deadline.doneBy (done p) v.now

section
variable {n : Nat} {done : String → Option Rat} {v : Vigil}

theorem Step.until {began later : Rat} {early : Bool} (hp : v.present = some (began, early))
    (hc : Deadline.canWait v.closing.coordinator.timeout = true) (h0 : v.now ≤ later)
    (hl : later ≤ began + Deadline.left v.deadline began) : v.Step n { v with now := later } := by
  have hn : v.now + (later - v.now) = later := add_sub_cancel _ _
  have hs : v.Step n { v with now := v.now + (later - v.now) } := .lasts hp hc (sub_nonneg.mpr h0) (hn.symm ▸ hl)
  rwa [hn] at hs

theorem catches_up (done : String → Option Rat) {s : Closing} (h : s.Sound) (ht : s.coordinator.triggered = true)
    (now : Rat)
    (hd : ∀ p ∈ s.coordinator.providers, s.coordinator.isDone p = true → Deadline.doneBy (done p) now = true) :
    ∃ s', s.Works s' ∧ s'.Sound ∧ s'.coordinator.triggered = true ∧
      s'.coordinator.providers = s.coordinator.providers ∧
      ∀ p ∈ s.coordinator.providers, s'.coordinator.isDone p = Deadline.doneBy (done p) now := by
  obtain ⟨s', hw, hd'⟩ := h.completes_all (fun p => Deadline.doneBy (done p) now) s.coordinator.providers ht fun _ => id
  obtain ⟨h', hp⟩ := h.reaches hw.reaches
  refine ⟨s', hw, h', hp.triggered ht, hp.providers, fun p hm => ?_⟩
  rw [hd', List.contains_iff_mem.mpr hm, Bool.true_and, Bool.or_eq_right_iff_imp]
  exact hd p hm

theorem Follows.waits (h : v.Follows done) (hc : Deadline.canWait v.closing.coordinator.timeout = true)
    (hp : v.present = none) {provider : String} {rest pending : List String}
    (hn : v.closing.calls[n]? = some (.waiting (provider :: rest) pending))
    (hm : provider ∈ v.closing.coordinator.providers) :
    let r := Deadline.wait v.deadline v.now (done provider)
    ∃ v', v.Reaches n v' ∧ v'.Follows done ∧ v'.present = none ∧ v'.now = r.2 ∧ v'.deadline = v.deadline ∧
      v'.closing.coordinator.timeout = v.closing.coordinator.timeout ∧
      v'.closing.coordinator.providers = v.closing.coordinator.providers ∧
      v'.closing.calls[n]? = some (.waiting rest (pending ++ if r.1 then [] else [provider])) ∧
      ∃ w : Wait, w.Follows done ∧ v'.waits = v.waits ++ [w] := by
  intro r
  obtain ⟨h0, hl, hr, ht⟩ := Deadline.wait_spec v.deadline v.now (done provider)
  obtain ⟨s, hw, hs, htr, hps, hd⟩ := catches_up done h.sound h.triggered r.2 fun p hm hd =>
    Deadline.doneBy_mono h0 ((h.isDone p hm).symm.trans hd)
  have hn' : s.calls[n]? = some (.waiting (provider :: rest) pending) := (congrArg (·[n]?) hw.calls).trans hn
  have hdr : s.coordinator.isDone provider = r.1 := (hd provider hm).trans hr.symm
  -- A wait that finds its provider done is never late.
  have ha : s.advance n (!r.1) (.waiting (provider :: rest) pending) =
      some (s.place n (.waiting rest (pending ++ if r.1 then [] else [provider]))) := by
    rw [Closing.advance, hdr, hw.timeout, hc]
    cases r.1 <;> simp
  have h₁ : v.Step n { v with present := some (v.now, v.closing.coordinator.isDone provider) } := .begins hp hn
  have h₂ := Step.until (n := n) (v := { v with present := some (v.now, v.closing.coordinator.isDone provider) })
    rfl hc h0 hl
  have h₃ := Step.meanwhile (n := n)
    (v := { v with present := some (v.now, v.closing.coordinator.isDone provider), now := r.2 })
    hw.reaches (congrArg (·[n]?) hw.calls)
  have h₄ := Step.ends (n := n) (v := { v with
      present := some (v.now, v.closing.coordinator.isDone provider), now := r.2, closing := s })
    rfl hn' (fun hlate => ht (by simpa using hlate)) ha
  refine ⟨_, .tail (.tail (.tail (.tail .refl h₁) h₂) h₃) h₄, ⟨(hs.advance hn' ha).1, htr, ?_⟩, rfl, rfl, rfl,
    hw.timeout, hps, Closing.getElem?_place hn' _, _, ⟨h.isDone provider hm, ?_⟩, rfl⟩
  · exact fun p hm => hd p (hps ▸ hm)
  · exact hd provider hm

/-- A call that is left to itself comes to what `Deadline.waitAll` makes of the times. -/
theorem Follows.returns : ∀ (left pending : List String) {v : Vigil}, v.Follows done →
    Deadline.canWait v.closing.coordinator.timeout = true → v.present = none →
    v.closing.calls[n]? = some (.waiting left pending) → (∀ p ∈ left, p ∈ v.closing.coordinator.providers) →
    let outcome := Deadline.waitAll v.deadline v.now (left.map fun p => (p, done p))
    ∃ v' verdict, v.Reaches n v' ∧ v'.closing.calls[n]? = some (.returned verdict (pending ++ outcome.1)) ∧
      v'.now = outcome.2 ∧ ∀ w ∈ v'.waits, w ∈ v.waits ∨ w.Follows done
  | [], pending, v, _, _, _, hn, _ => by
    have ha : v.closing.advance n false (.waiting [] pending) = some _ := rfl
    refine ⟨_, (v.closing.coordinator.verdict pending).1, .single (.judges hn ha), ?_, rfl, fun w hw => .inl hw⟩
    rw [List.map_nil, Deadline.waitAll, List.append_nil]
    exact Closing.getElem?_place hn _
  | p :: rest, pending, v, h, hc, hp, hn, hm => by
    obtain ⟨hm₁, hms⟩ := List.forall_mem_cons.mp hm
    obtain ⟨v₁, hr₁, h₁, hp₁, hnow, hdl, ht, hps, hn₁, w₁, hw₁, hws⟩ := h.waits hc hp hn hm₁
    obtain ⟨v', verdict, hr, hv, hlast, hws'⟩ :=
      Follows.returns rest _ h₁ (ht ▸ hc) hp₁ hn₁ fun q hq => hps ▸ hms q hq
    rw [hnow, hdl] at hv hlast
    rw [List.append_assoc] at hv
    rw [List.map_cons, Deadline.waitAll_cons]
    refine ⟨v', verdict, hr₁.trans hr, hv, hlast, fun w hw => ?_⟩
    rcases hws' w hw with hm | hf
    · rw [hws] at hm
      rcases List.mem_append.mp hm with hm | hm
      · exact .inl hm
      · exact .inr (List.mem_singleton.mp hm ▸ hw₁)
    · exact .inr hf

end

end Vigil

/-! ## The whole -/

namespace Closing

section
variable {s s₁ : Closing} {n : Nat} {errand : Errand} {late : Bool}

structure HasPulled (n : Nat) (s₁ : Closing) : Prop where
  sound : s₁.Sound
  triggered : s₁.coordinator.triggered = true
  station : s₁.calls[n]? = some (if s₁.coordinator.timeout.isReal then .waiting s₁.coordinator.providers []
    else .refused (.overflow .real))

theorem Sound.hasPulled (h : s.Sound) (hn : s.calls[n]? = some (.armed errand)) (he : errand.shuts = true)
    (hs : s.step (.go n late) = some s₁) : s₁.HasPulled n := by
  have ha : s.advance n late (.armed errand) = some (s.pull n) := by
    cases errand with
    | arm => cases he
    | register => cases he
    | shutdown => rfl
    | bundle => rfl
    | exit => rfl
  have hk := (h.books.staffed.manned (h.calls _ (List.mem_of_getElem? hn))).keys
  cases (step_go hn ha).symm.trans hs
  refine ⟨h.pull hn, rfl, ?_⟩
  rw [Closing.pull, hk]
  exact getElem?_place (s := { s with coordinator := s.coordinator.trigger }) hn _

theorem HasPulled.keeps (h : s₁.HasPulled n) (clock : Rat) :
    (Vigil.start s₁ clock).Keeps n clock s₁.coordinator.providers := by
  refine ⟨h.sound, add_zero clock, le_max_left _ _, nofun, nofun, fun left pending hn => ?_,
    fun verdict pending hn => ?_⟩
  · have hst := h.station.symm.trans hn
    split at hst
    · cases hst
      exact ⟨rfl, rfl⟩
    · cases hst
  · have hst := h.station.symm.trans hn
    split at hst
    · cases hst
    · cases hst

theorem HasPulled.returns (h : s₁.HasPulled n) (hr : s₁.coordinator.timeout.isReal = true)
    (hc : Deadline.canWait s₁.coordinator.timeout = true) (clock : Rat) (done : String → Option Rat)
    (hd : ∀ p ∈ s₁.coordinator.providers, s₁.coordinator.isDone p = true → Deadline.doneBy (done p) clock = true) :
    let outcome := Deadline.waitAll (clock + s₁.coordinator.timeout.toRat) clock
      (s₁.coordinator.providers.map fun p => (p, done p))
    ∃ v verdict, (Vigil.start s₁ clock).Reaches n v ∧ v.closing.calls[n]? = some (.returned verdict outcome.1) ∧
      v.now = outcome.2 ∧ ∀ w ∈ v.waits, w.Follows done := by
  have hst := h.station
  rw [if_pos hr] at hst
  obtain ⟨s', hw, hs', ht, hp, hd'⟩ := Vigil.catches_up done h.sound h.triggered clock hd
  obtain ⟨v, verdict, hv, hn, hl, hf⟩ := Vigil.Follows.returns (n := n) s₁.coordinator.providers []
    (v := { Vigil.start s₁ clock with closing := s' }) ⟨hs', ht, fun p hm => hd' p (hp ▸ hm)⟩
    ((congrArg Deadline.canWait hw.timeout).trans hc) rfl ((congrArg (·[n]?) hw.calls).trans hst)
    fun p hm => hp.symm ▸ hm
  exact ⟨v, verdict, .head (.meanwhile hw.reaches (congrArg (·[n]?) hw.calls)) hv, hn, hl,
    fun w hw => (hf w hw).resolve_left List.not_mem_nil⟩

end

/-- A call to shut down waits no longer than the timeout in all, however long the providers take and whatever else
goes on. If it returns, it has waited for every provider in their order, and reports as pending just those that were
not done at the end of their own wait, and then its verdict is false; a provider that was done when its wait began is
not among them, whatever was left of the time. And whenever the providers are done, there is a vigil that goes by those
times, in which the call returns what `Deadline.waitAll` makes of them. -/
theorem shutdown_in_time {providers : List String} {timeout : Quantity} {moves : List Move} {s s₁ : Closing}
    (h : (start providers timeout).run moves = some s) {n : Nat} {errand : Errand} {late : Bool}
    (hn : s.calls[n]? = some (.armed errand)) (he : errand.shuts = true) (hs : s.step (.go n late) = some s₁)
    (clock : Rat) :
    (∀ v, (Vigil.start s₁ clock).Reaches n v →
      Vigil.spent v.waits ≤ max 0 timeout.toRat ∧ v.now ≤ clock + max 0 timeout.toRat ∧
      ∀ verdict pending, v.closing.calls[n]? = some (.returned verdict pending) →
        v.waits.map (·.provider) = providers.eraseDups ∧ pending = Vigil.missed v.waits ∧
        (pending ≠ [] → verdict = false) ∧ ∀ w ∈ v.waits, w.early = true → w.provider ∉ pending) ∧
    (timeout.isReal = true → Deadline.canWait timeout = true → ∀ done : String → Option Rat,
      (∀ p ∈ providers, s₁.coordinator.isDone p = true → Deadline.doneBy (done p) clock = true) →
      let outcome := Deadline.waitAll (clock + timeout.toRat) clock (providers.eraseDups.map fun p => (p, done p))
      ∃ v verdict, (Vigil.start s₁ clock).Reaches n v ∧ v.closing.calls[n]? = some (.returned verdict outcome.1) ∧
        v.now = outcome.2 ∧ ∀ w ∈ v.waits, w.Follows done) := by
  obtain ⟨hsound, hp⟩ := (sound_start providers timeout).run h
  have hpulled := hsound.hasPulled hn he hs
  have hp₁ := hp.trans (hsound.step hs).2
  have hnames : s₁.coordinator.providers = providers.eraseDups := hp₁.providers
  have htimeout : s₁.coordinator.timeout = timeout := hp₁.timeout
  refine ⟨fun v hr => ?_, fun hreal hc done hd => ?_⟩
  · obtain ⟨hk, hdl⟩ := (hpulled.keeps clock).reaches hr
    have hmax : max clock v.deadline = clock + max 0 timeout.toRat := by
      rw [hdl, Vigil.start, htimeout, ← max_add_add_left, add_zero]
    refine ⟨?_, hmax ▸ hk.now_le, fun verdict pending hv => ?_⟩
    · have := hk.spent.trans_le hk.since_le
      rw [hmax] at this
      exact le_of_add_le_add_left this
    · obtain ⟨hw, hm⟩ := hk.returned verdict pending hv
      refine ⟨hw.trans hnames, hm, fun hne => ?_, fun w hww hearly hmem => ?_⟩
      · obtain ⟨-, hv'⟩ := hk.sound.calls _ (List.mem_of_getElem? hv)
        rwa [if_neg hne] at hv'
      · -- A provider is waited for only once, so that no other wait of its can have missed it.
        rw [hm, Vigil.missed] at hmem
        obtain ⟨w', hw', he'⟩ := List.mem_map.mp hmem
        obtain ⟨hww', hd'⟩ := List.mem_filter.mp hw'
        have hnd : (v.waits.map (·.provider)).Nodup := hw ▸ hpulled.sound.books.staffed.nodup
        rw [List.inj_on_of_nodup_map hnd hww' hww he', hk.early w hww hearly] at hd'
        cases hd'
  · have hret := hpulled.returns (htimeout ▸ hreal) (htimeout ▸ hc) clock done fun p hm =>
      hd p (List.mem_eraseDups.mp (hnames ▸ hm))
    rwa [htimeout, hnames] at hret

/-- The first of two providers uses up the whole time. The second is done meanwhile, and is not pending. -/
theorem shutdown_in_time_slow :
    ∃ s s₁, (start ["slow", "fast"] (.whole 2)).run [.call .shutdown, .go 0 false] = some s ∧
      s.step (.go 0 false) = some s₁ ∧
      ∃ v, (Vigil.start s₁ 5).Reaches 0 v ∧ v.closing.calls[0]? = some (.returned false ["slow"]) ∧ v.now = 7 ∧
        v.waits.map (·.provider) = ["slow", "fast"] ∧ Vigil.missed v.waits = ["slow"] ∧ Vigil.spent v.waits ≤ 2 := by
  refine ⟨_, _, rfl, rfl, ?_⟩
  obtain ⟨hall, hsome⟩ :=
    @shutdown_in_time ["slow", "fast"] (.whole 2) [.call .shutdown, .go 0 false] _ _ rfl 0 _ false rfl rfl rfl 5
  obtain ⟨v, verdict, hv, hn, hnow, -⟩ := hsome rfl (by decide +kernel)
    (fun p => if p = "fast" then some 6 else none) (by decide)
  have hout : Deadline.waitAll (5 + (Quantity.whole 2).toRat) 5
      (["slow", "fast"].eraseDups.map fun p => (p, if p = "fast" then some 6 else none)) = (["slow"], 7) := by
    decide +kernel
  rw [hout] at hn hnow
  obtain ⟨hspent, -, hreturned⟩ := hall v hv
  obtain ⟨hw, hm, hfalse, -⟩ := hreturned _ _ hn
  exact ⟨v, hv, hfalse (by decide) ▸ hn, hnow, hw, hm.symm, hspent⟩

end Closing

end Telemetry
