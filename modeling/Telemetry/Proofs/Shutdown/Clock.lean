import Mathlib.Algebra.BigOperators.Group.List.Basic
import Mathlib.Algebra.Order.Ring.Rat
import Mathlib.Logic.Relation
import Telemetry.Proofs.Shutdown.Sequential

/-! # Shutdown by the clock

A call that has pulled the trigger keeps vigil: it waits for one provider after the other, against a deadline that its
waits share. The clock goes on only while a wait lasts, and a wait lasts no longer than what was left when it began.
So all waits together take no more than the timeout, however long each of them takes and whatever workers and other
calls do meanwhile; and those found pending are those that were not done at the end of their own wait. -/

namespace Telemetry

open Coordinator (Progress)

theorem Deadline.add_left (deadline now : Rat) : now + left deadline now = max now deadline := by
  unfold left
  split
  · rename_i h
    rw [max_eq_right h, add_sub_cancel]
  · rename_i h
    rw [max_eq_left (le_of_not_ge h), add_zero]

structure Wait where
  provider : String
  began : Rat
  ended : Rat
  early : Bool
  done : Bool

/-- What a call has waited for since it pulled the trigger, by the clock. -/
structure Vigil where
  closing : Closing
  now : Rat
  deadline : Rat
  /-- When the present wait began, and whether its provider was done then. -/
  present : Option (Rat × Bool) := none
  waits : List Wait := []

namespace Vigil

def start (s : Closing) (clock : Rat) : Vigil :=
  { closing := s, now := clock, deadline := clock + s.coordinator.timeout.toRat }

def spent (waits : List Wait) : Rat := (waits.map fun w => w.ended - w.began).sum

def missed (waits : List Wait) : List String := (waits.filter fun w => !w.done).map (·.provider)

/-- What a call may go through. Nothing but a wait takes any time, and a wait that cannot be made takes none. -/
inductive Step (n : Nat) (v : Vigil) : Vigil → Prop
  /-- Workers and other calls do something. -/
  | meanwhile {s : Closing} (hr : v.closing.Reaches s) (hc : s.calls[n]? = v.closing.calls[n]?) :
      Step n v { v with closing := s }
  | begins {provider : String} {rest pending : List String} (hp : v.present = none)
      (hn : v.closing.calls[n]? = some (.waiting (provider :: rest) pending)) :
      Step n v { v with present := some (v.now, v.closing.coordinator.isDone provider) }
  | lasts {began time : Rat} {early : Bool} (hp : v.present = some (began, early))
      (hc : Deadline.canWait v.closing.coordinator.timeout = true) (h0 : 0 ≤ time)
      (hl : v.now + time ≤ began + Deadline.left v.deadline began) : Step n v { v with now := v.now + time }
  /-- A wait is late when it has lasted as long as it may. -/
  | ends {began : Rat} {early late : Bool} {provider : String} {rest pending : List String} {s : Closing}
      (hp : v.present = some (began, early))
      (hn : v.closing.calls[n]? = some (.waiting (provider :: rest) pending))
      (hl : late = true → v.now = began + Deadline.left v.deadline began)
      (hs : v.closing.advance n late (.waiting (provider :: rest) pending) = some s) :
      Step n v { v with
        closing := s
        present := none
        waits := v.waits ++ [⟨provider, began, v.now, early, v.closing.coordinator.isDone provider⟩] }
  | judges {pending : List String} {late : Bool} {s : Closing}
      (hn : v.closing.calls[n]? = some (.waiting [] pending))
      (hs : v.closing.advance n late (.waiting [] pending) = some s) : Step n v { v with closing := s }

def Reaches (n : Nat) : Vigil → Vigil → Prop := Relation.ReflTransGen (Step n)

theorem spent_concat (waits : List Wait) (w : Wait) : spent (waits ++ [w]) = spent waits + (w.ended - w.began) := by
  rw [spent, List.map_append, List.sum_append, List.map_singleton, List.sum_singleton]
  rfl

theorem missed_concat (waits : List Wait) (w : Wait) :
    missed (waits ++ [w]) = missed waits ++ if w.done then [] else [w.provider] := by
  unfold missed
  rw [List.filter_append, List.map_append]
  cases hd : w.done <;> simp [hd]

def since (v : Vigil) : Rat :=
  match v.present with
  | some (began, _) => began
  | none => v.now

structure Keeps (n : Nat) (clock : Rat) (names : List String) (v : Vigil) : Prop where
  sound : v.closing.Sound
  spent : clock + Vigil.spent v.waits = v.since
  since_le : v.since ≤ max clock v.deadline
  early : ∀ w ∈ v.waits, w.early = true → w.done = true
  present : ∀ began early, v.present = some (began, early) →
    began ≤ v.now ∧ v.now ≤ began + Deadline.left v.deadline began ∧
      ∃ provider rest pending, v.closing.calls[n]? = some (.waiting (provider :: rest) pending) ∧
        (early = true → v.closing.coordinator.isDone provider = true)
  waiting : ∀ left pending, v.closing.calls[n]? = some (.waiting left pending) →
    v.waits.map (·.provider) ++ left = names ∧ pending = missed v.waits
  returned : ∀ verdict pending, v.closing.calls[n]? = some (.returned verdict pending) →
    v.waits.map (·.provider) = names ∧ pending = missed v.waits

section
variable {n : Nat} {clock : Rat} {names : List String} {v v' : Vigil}

theorem Keeps.now_le (h : v.Keeps n clock names) : v.now ≤ max clock v.deadline := by
  have hs := h.since_le
  unfold since at hs
  cases hp : v.present with
  | none =>
    rw [hp] at hs
    exact hs
  | some present =>
    obtain ⟨began, early⟩ := present
    rw [hp] at hs
    obtain ⟨-, hl, -⟩ := h.present began early hp
    rw [Deadline.add_left] at hl
    exact hl.trans (max_le hs (le_max_right _ _))

theorem Keeps.meanwhile (h : v.Keeps n clock names) {s : Closing} (hr : v.closing.Reaches s)
    (hc : s.calls[n]? = v.closing.calls[n]?) : Keeps n clock names { v with closing := s } := by
  obtain ⟨hs, hp⟩ := h.sound.reaches hr
  refine ⟨hs, h.spent, h.since_le, h.early, fun began early hb => ?_, fun left pending hn => h.waiting left pending ?_,
    fun verdict pending hn => h.returned verdict pending ?_⟩
  · obtain ⟨hb, hl, provider, rest, pending, hn, hd⟩ := h.present began early hb
    exact ⟨hb, hl, provider, rest, pending, hc.trans hn, fun he => hp.done provider (hd he)⟩
  · exact hc.symm.trans hn
  · exact hc.symm.trans hn

theorem Keeps.begins (h : v.Keeps n clock names) {provider : String} {rest pending : List String}
    (hp : v.present = none) (hn : v.closing.calls[n]? = some (.waiting (provider :: rest) pending)) :
    Keeps n clock names { v with present := some (v.now, v.closing.coordinator.isDone provider) } := by
  have hs : v.since = v.now := by rw [since, hp]
  refine ⟨h.sound, h.spent.trans hs, hs ▸ h.since_le, h.early, fun began early hb => ?_, h.waiting, h.returned⟩
  cases hb
  refine ⟨le_refl _, ?_, provider, rest, pending, hn, id⟩
  exact le_add_of_nonneg_right (Closing.left_nonneg _ _)

theorem Keeps.lasts (h : v.Keeps n clock names) {began time : Rat} {early : Bool}
    (hp : v.present = some (began, early)) (h0 : 0 ≤ time)
    (hl : v.now + time ≤ began + Deadline.left v.deadline began) :
    Keeps n clock names { v with now := v.now + time } := by
  have hs : since { v with now := v.now + time } = v.since := by
    unfold since
    rw [hp]
  refine ⟨h.sound, h.spent.trans hs.symm, hs ▸ h.since_le, h.early, fun began' early' hb => ?_, h.waiting, h.returned⟩
  cases hp.symm.trans hb
  obtain ⟨hb, -, hr⟩ := h.present began early hp
  exact ⟨hb.trans (le_add_of_nonneg_right h0), hl, hr⟩

theorem advance_waiting {s s' : Closing} {late : Bool} {provider : String} {rest pending : List String}
    (hn : s.calls[n]? = some (.waiting (provider :: rest) pending))
    (hs : s.advance n late (.waiting (provider :: rest) pending) = some s') :
    s'.calls[n]? = some (.refused (.overflow .wait)) ∨
      s'.calls[n]? = some (.waiting rest (pending ++ if s.coordinator.isDone provider then [] else [provider])) := by
  simp only [Closing.advance] at hs
  split at hs
  · rename_i hd
    cases hs
    rw [if_pos hd, List.append_nil]
    exact .inr (Closing.getElem?_place hn _)
  · rename_i hd
    rw [if_neg hd]
    split at hs
    · cases hs
      exact .inl (Closing.getElem?_place hn _)
    · split at hs
      · cases hs
        exact .inr (Closing.getElem?_place hn _)
      · cases hs

theorem Keeps.ends (h : v.Keeps n clock names) {began : Rat} {early late : Bool} {provider : String}
    {rest pending : List String} {s : Closing} (hp : v.present = some (began, early))
    (hn : v.closing.calls[n]? = some (.waiting (provider :: rest) pending))
    (hs : v.closing.advance n late (.waiting (provider :: rest) pending) = some s) :
    Keeps n clock names { v with
      closing := s
      present := none
      waits := v.waits ++ [⟨provider, began, v.now, early, v.closing.coordinator.isDone provider⟩] } := by
  have hb : clock + Vigil.spent v.waits = began := h.spent.trans (by rw [since, hp])
  obtain ⟨hw, hm⟩ := h.waiting _ _ hn
  refine ⟨(h.sound.advance hn hs).1, ?_, h.now_le, fun w hm => ?_, nofun, fun left pending' hn' => ?_,
    fun verdict pending' hn' => ?_⟩
  · rw [spent_concat, ← add_assoc, hb]
    exact add_sub_cancel _ _
  · rcases List.mem_append.mp hm with hm | hm
    · exact h.early w hm
    · cases List.mem_singleton.mp hm
      obtain ⟨-, -, provider', rest', pending', hn', hd⟩ := h.present began early hp
      cases hn.symm.trans hn'
      exact hd
  · rcases advance_waiting hn hs with hr | hr
    · cases hr.symm.trans hn'
    · cases hr.symm.trans hn'
      rw [List.map_append, List.append_assoc, missed_concat, ← hm]
      exact ⟨hw, rfl⟩
  · rcases advance_waiting hn hs with hr | hr
    · cases hr.symm.trans hn'
    · cases hr.symm.trans hn'

theorem Keeps.judges (h : v.Keeps n clock names) {pending : List String} {late : Bool} {s : Closing}
    (hn : v.closing.calls[n]? = some (.waiting [] pending))
    (hs : v.closing.advance n late (.waiting [] pending) = some s) : Keeps n clock names { v with closing := s } := by
  obtain ⟨hw, hm⟩ := h.waiting _ _ hn
  have hs' := (h.sound.advance hn hs).1
  cases hs
  have hr := Closing.getElem?_place hn (.returned (v.closing.coordinator.verdict pending).1 pending)
  refine ⟨hs', h.spent, h.since_le, h.early, fun began early hb => ?_, fun left pending' hn' => ?_,
    fun verdict pending' hn' => ?_⟩
  · -- No wait has begun where none is left.
    obtain ⟨-, -, provider, rest, pending', hn', -⟩ := h.present began early hb
    cases hn.symm.trans hn'
  · cases hr.symm.trans hn'
  · cases hr.symm.trans hn'
    exact ⟨(List.append_nil _).symm.trans hw, hm⟩

theorem Keeps.step (h : v.Keeps n clock names) (hs : v.Step n v') : v'.Keeps n clock names := by
  cases hs with
  | meanwhile hr hc => exact h.meanwhile hr hc
  | begins hp hn => exact h.begins hp hn
  | lasts hp _ h0 hl => exact h.lasts hp h0 hl
  | ends hp hn _ hs => exact h.ends hp hn hs
  | judges hn hs => exact h.judges hn hs

theorem Step.deadline (hs : v.Step n v') : v'.deadline = v.deadline := by
  cases hs <;> rfl

theorem Keeps.reaches (h : v.Keeps n clock names) (hr : v.Reaches n v') :
    v'.Keeps n clock names ∧ v'.deadline = v.deadline := by
  induction hr with
  | refl => exact ⟨h, rfl⟩
  | tail _ hs ih => exact ⟨ih.1.step hs, hs.deadline.trans ih.2⟩

end

end Vigil

end Telemetry
