import Telemetry.Estate

/-! # Installing a default bundle

A slot keeps whoever came first, and an install sets the three slots before it looks at them. So a
bundle that is refused can still end up with some of the slots. What a default bundle holds it holds
for good, and it holds all of them. -/

namespace Telemetry

section
variable {ι : Type}

def Installable.provider (b : Installable ι) : Slot → ι
  | .tracer => b.tracer
  | .meter => b.meter
  | .logger => b.logger

namespace Globals

def slot (g : Globals ι) : Slot → Option ι
  | .tracer => g.tracer
  | .meter => g.meter
  | .logger => g.logger

theorem slot_setSlot (g : Globals ι) (s s' : Slot) (p : ι) :
    (g.setSlot s p).slot s' = if s' = s then (g.slot s').or (some p) else g.slot s' := by
  cases s <;> cases s' <;> rfl

theorem default_setSlot (g : Globals ι) (s : Slot) (p : ι) : (g.setSlot s p).default = g.default := by
  cases s <;> rfl

theorem propagators_setSlot (g : Globals ι) (s : Slot) (p : ι) :
    (g.setSlot s p).propagators = g.propagators := by
  cases s <;> rfl

theorem slot_setSlot_of_some {g : Globals ι} {s : Slot} {p : ι} (h : g.slot s = some p) (s' : Slot) (q : ι) :
    (g.setSlot s' q).slot s = some p := by
  rw [slot_setSlot]
  by_cases hs : s = s'
  · rw [if_pos hs, h]; rfl
  · rw [if_neg hs, h]

theorem slot_setProviders (g : Globals ι) (b : Installable ι) (s : Slot) :
    (g.setProviders b).slot s = (g.slot s).or (some (b.provider s)) := by
  cases s <;> rfl

variable [DecidableEq ι]

theorem rejected_isEmpty (g : Globals ι) (b : Installable ι) :
    (g.rejected b).isEmpty = true ↔ ∀ s, g.slot s = some (b.provider s) := by
  constructor
  · intro h s
    have hn : g.rejected b = [] := List.isEmpty_iff.mp h
    simp only [rejected, List.append_eq_nil_iff, ite_eq_left_iff, reduceCtorEq, imp_false, Classical.not_not] at hn
    obtain ⟨⟨ht, hm⟩, hl⟩ := hn
    cases s with
    | tracer => exact ht
    | meter => exact hm
    | logger => exact hl
  · intro h
    have ht : g.tracer = some b.tracer := h .tracer
    have hm : g.meter = some b.meter := h .meter
    have hl : g.logger = some b.logger := h .logger
    simp [rejected, ht, hm, hl]

inductive Installs (g : Globals ι) (b : Installable ι) (resource : OrderedMap String Datum) :
    Bool × Globals ι × List Event → Prop
  | again : g.default = some b.bundle → Installs g b resource (true, g, [])
  | late {d : ι} : g.default = some d → d ≠ b.bundle → Installs g b resource (false, g, [.alreadyInstalled])
  | first : g.default = none → (∀ s, (g.setProviders b).slot s = some (b.provider s)) →
    Installs g b resource (true,
      { g.setProviders b with propagators := g.propagators ++ [b.propagator], default := some b.bundle },
      [.installed resource])
  | rejected : g.default = none → (∃ s p, g.slot s = some p ∧ p ≠ b.provider s) →
    Installs g b resource (false, g.setProviders b, [.installRejected ((g.setProviders b).rejected b)])

omit [DecidableEq ι] in
theorem exists_taken {g : Globals ι} {b : Installable ι}
    (h : ¬ ∀ s, (g.setProviders b).slot s = some (b.provider s)) : ∃ s p, g.slot s = some p ∧ p ≠ b.provider s := by
  obtain ⟨s, hs⟩ := Classical.not_forall.mp h
  rw [slot_setProviders] at hs
  cases hg : g.slot s with
  | none => rw [hg] at hs; exact absurd rfl hs
  | some p =>
    rw [hg] at hs
    exact ⟨s, p, hg, fun hp => hs (hp ▸ rfl)⟩

theorem installs (g : Globals ι) (b : Installable ι) (resource : OrderedMap String Datum) :
    Installs g b resource (g.install b resource) := by
  unfold install
  cases hd : g.default with
  | some d =>
    by_cases h : d = b.bundle
    · simp only [if_pos h]
      exact .again (h ▸ hd)
    · simp only [if_neg h]
      exact .late hd h
  | none =>
    have hp : (g.setProviders b).propagators = g.propagators := rfl
    simp only [hp]
    by_cases h : ((g.setProviders b).rejected b).isEmpty = true
    · rw [if_pos h]
      exact .first hd ((rejected_isEmpty _ b).mp h)
    · rw [if_neg h]
      exact .rejected hd (exists_taken fun hs => h ((rejected_isEmpty _ b).mpr hs))

/-! ## A refused install -/

/-- An install that is refused leaves the default and the propagators as they were, and every slot
that was taken. If there is a default, nothing changes at all; otherwise the slots that were free are
the bundle's from then on. -/
theorem install_refused {g : Globals ι} {b : Installable ι} {resource : OrderedMap String Datum}
    (h : (g.install b resource).1 = false) :
    let g' := (g.install b resource).2.1
    g'.default = g.default ∧ g'.propagators = g.propagators ∧
      (∀ s p, g.slot s = some p → g'.slot s = some p) ∧
      (g.default ≠ none → g' = g) ∧
      (g.default = none → ∀ s, g.slot s = none → g'.slot s = some (b.provider s)) := by
  have hr := g.installs b resource
  generalize g.install b resource = r at h hr ⊢
  cases hr with
  | again hd => cases h
  | first hd hs => cases h
  | late hd hb => exact ⟨rfl, rfl, fun _ _ hp => hp, fun _ => rfl, fun hn => absurd (hd.symm.trans hn) nofun⟩
  | rejected hd ht =>
    refine ⟨rfl, rfl, fun s p hp => ?_, fun hn => absurd hd hn, fun _ s hs => ?_⟩
    · rw [slot_setProviders, hp]; rfl
    · rw [slot_setProviders, hs]; rfl

theorem install_refused_foreign :
    let g : Globals Owner := { tracer := some .foreign }
    let b := Estate.installable 0
    (g.install b .empty).1 = false ∧ (g.install b .empty).2.1.slot .logger = some (.bundle 0) := by
  intro g b
  have h := @install_refused Owner _ g b .empty rfl
  exact ⟨rfl, h.2.2.2.2 rfl .logger rfl⟩

/-- Another component has set the tracer slot. The bundle is refused, and has the two other slots. -/
theorem refused_install_takes_slots :
    ¬ ∀ (g : Globals Owner) (b : Installable Owner) (resource : OrderedMap String Datum),
      (g.install b resource).1 = false → (g.install b resource).2.1 = g := by
  intro h
  have hm := congrArg Globals.meter (h { tracer := some .foreign } (Estate.installable 0) .empty rfl)
  cases hm

end Globals

/-! ## A process over time -/

structure Parts (ι : Type) where
  tracer : ι → ι
  meter : ι → ι
  logger : ι → ι
  propagator : ι → ι
  resource : ι → OrderedMap String Datum

def Parts.installable (parts : Parts ι) (b : ι) : Installable ι :=
  ⟨b, parts.tracer b, parts.meter b, parts.logger b, parts.propagator b⟩

inductive Claiming (ι : Type)
  | install (bundle : ι)
  | set (slot : Slot) (provider : ι)

namespace Globals
variable [DecidableEq ι] (parts : Parts ι)

def step (g : Globals ι) : Claiming ι → Globals ι × List Event
  | .install b => (g.install (parts.installable b) (parts.resource b)).2
  | .set s p => (g.setSlot s p, [])

def run (g : Globals ι) (log : List Event) : List (Claiming ι) → Globals ι × List Event
  | [] => (g, log)
  | c :: cs => run (g.step parts c).1 (log ++ (g.step parts c).2) cs

def announced (log : List Event) : List (OrderedMap String Datum) :=
  log.filterMap fun
    | .installed resource => some resource
    | _ => none

theorem announced_append (log more : List Event) : announced (log ++ more) = announced log ++ announced more :=
  List.filterMap_append

/-- A default has all slots, its propagator is the only one that was ever made the current one, and it
was made the default once. -/
structure Tied (g : Globals ι) (log : List Event) : Prop where
  slots : ∀ b, g.default = some b → ∀ s, g.slot s = some ((parts.installable b).provider s)
  propagators : g.propagators = g.default.toList.map parts.propagator
  announced : announced log = g.default.toList.map parts.resource

section
variable {parts} {g : Globals ι} {log : List Event}

omit [DecidableEq ι] in
theorem Tied.set (h : g.Tied parts log) (s : Slot) (p : ι) : (g.setSlot s p).Tied parts log where
  slots b hb s' := by
    rw [default_setSlot] at hb
    exact slot_setSlot_of_some (h.slots b hb s') s p
  propagators := by rw [propagators_setSlot, default_setSlot, h.propagators]
  announced := by rw [default_setSlot, h.announced]

theorem Tied.install (h : g.Tied parts log) (b : ι) :
    (g.install (parts.installable b) (parts.resource b)).2.1.Tied parts
      (log ++ (g.install (parts.installable b) (parts.resource b)).2.2) := by
  have hr := g.installs (parts.installable b) (parts.resource b)
  generalize g.install _ _ = r at hr ⊢
  cases hr with
  | again _ => rwa [List.append_nil]
  | late _ _ =>
    refine ⟨h.slots, h.propagators, ?_⟩
    rw [announced_append, h.announced]
    exact List.append_nil _
  | first hd hs =>
    have hp := h.propagators
    have hi := h.announced
    rw [hd] at hp hi
    refine ⟨fun b' hb s => ?_, ?_, ?_⟩
    · cases hb
      exact hs s
    · simp [hp, Parts.installable]
    · rw [announced_append, hi]
      rfl
  | rejected hd _ =>
    have hn : (g.setProviders (parts.installable b)).default = none := hd
    have hi := h.announced
    have hp := h.propagators
    rw [hd] at hi hp
    refine ⟨fun b' hb => ?_, ?_, ?_⟩
    · rw [hn] at hb
      cases hb
    · rw [hn]
      exact hp
    · rw [hn, announced_append, hi]
      rfl

theorem Tied.step (h : g.Tied parts log) (c : Claiming ι) :
    (g.step parts c).1.Tied parts (log ++ (g.step parts c).2) := by
  cases c with
  | install b => exact h.install b
  | set s p =>
    simp only [Globals.step, List.append_nil]
    exact h.set s p

theorem Tied.run (h : g.Tied parts log) (cs : List (Claiming ι)) :
    (g.run parts log cs).1.Tied parts (g.run parts log cs).2 := by
  induction cs generalizing g log with
  | nil => exact h
  | cons c cs ih => exact ih (h.step c)

theorem default_step {d : ι} (h : g.default = some d) (c : Claiming ι) : (g.step parts c).1.default = some d := by
  cases c with
  | set s p => exact (default_setSlot g s p).trans h
  | install b =>
    simp only [Globals.step]
    have hr := g.installs (parts.installable b) (parts.resource b)
    generalize g.install _ _ = r at hr ⊢
    cases hr with
    | again _ => exact h
    | late _ _ => exact h
    | first hd _ => exact absurd (h.symm.trans hd) nofun
    | rejected hd _ => exact absurd (h.symm.trans hd) nofun

theorem default_run {d : ι} (h : g.default = some d) (cs : List (Claiming ι)) :
    (g.run parts log cs).1.default = some d := by
  induction cs generalizing g log with
  | nil => exact h
  | cons c cs ih => exact ih (default_step h c)

end

theorem install_eq_true_iff (g : Globals ι) (b : Installable ι) (resource : OrderedMap String Datum) :
    (g.install b resource).1 = true ↔ (g.install b resource).2.1.default = some b.bundle := by
  have hr := g.installs b resource
  generalize g.install b resource = r at hr ⊢
  cases hr with
  | again hd => exact iff_of_true rfl hd
  | first _ _ => exact iff_of_true rfl rfl
  | late hd hb =>
    refine iff_of_false nofun fun h => hb ?_
    exact Option.some_inj.mp (hd.symm.trans h)
  | rejected hd _ => exact iff_of_false nofun fun h => absurd (hd.symm.trans h) nofun

/-- Whoever sets slots and installs bundles in whatever order: an install succeeds just when its bundle
is the default afterwards; a default is made once and stays; all slots are its own; and its
propagator, and no other, was made the current one, once. -/
theorem default_assigned_once (cs : List (Claiming ι)) :
    let g := (run parts {} [] cs).1
    let log := (run parts {} [] cs).2
    (∀ b, let r := g.install (parts.installable b) (parts.resource b)
      (r.1 = true ↔ r.2.1.default = some b)) ∧
    (∀ more, g.default = none ∨ (g.run parts log more).1.default = g.default) ∧
    match g.default with
    | none => announced log = [] ∧ g.propagators = []
    | some b => announced log = [parts.resource b] ∧ g.propagators = [parts.propagator b] ∧
      ∀ s, g.slot s = some ((parts.installable b).provider s) := by
  intro g log
  have h : g.Tied parts log := Tied.run ⟨nofun, rfl, rfl⟩ cs
  refine ⟨fun b => install_eq_true_iff g (parts.installable b) _, fun more => ?_, ?_⟩
  · cases hd : g.default with
    | none => exact Or.inl rfl
    | some d => exact Or.inr (default_run hd more)
  · have hi := h.announced
    have hp := h.propagators
    cases hd : g.default with
    | none =>
      rw [hd] at hi hp
      exact ⟨hi, hp⟩
    | some b =>
      rw [hd] at hi hp
      exact ⟨hi, hp, h.slots b hd⟩

end Globals

end

end Telemetry
