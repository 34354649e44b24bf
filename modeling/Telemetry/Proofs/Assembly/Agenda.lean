import Mathlib.Data.List.Basic
import Telemetry.Proofs.Assembly.Merge

/-! # Agendas

An assembly looks up its chains at four points, one for each of its stages. An agenda says which links
are still to be applied in the present stage, and which stages are to come. A transcript keeps to an
agenda if its turns apply the next link that is due, or open the next stage when nothing is due any
more, whose links are then those that are registered at this point. `Keeps.conserves` says that nothing
is left out and nothing added on the way. -/

namespace Telemetry

inductive Stage
  | resource
  | tracing
  | settings
  | propagating
  deriving DecidableEq

def Kind.stage : Kind → Stage
  | .resource => .resource
  | .sampler | .spanExporter => .tracing
  | .tracerProvider => .settings
  | .propagator => .propagating

section
variable {W : Outside}

namespace Stage

def all : List Stage := [resource, tracing, settings, propagating]

theorem nodup_all : all.Nodup := by decide

theorem mem_all (σ : Stage) : σ ∈ all := by cases σ <;> decide

def earlier (σ : Stage) : List Stage := all.takeWhile (· ≠ σ)

/-- The links that a stage applies. Each exporter and each propagator passes through all of its chain. -/
def uses (p : Properties) (chains : Kind → List (Link W)) (σ : Stage) : List (Kind × Link W) :=
  let links := fun k => (chains k).map fun link => (k, link)
  match σ with
  | resource => links .resource
  | tracing => links .sampler ++ ((Offering.exporters .traces : Offering W).names p).flatMap fun _ => links .spanExporter
  | settings => links .tracerProvider
  | propagating => ((Offering.propagators : Offering W).names p).flatMap fun _ => links .propagator

theorem uses_congr {p : Properties} {σ : Stage} {chains chains' : Kind → List (Link W)}
    (h : ∀ k, k.stage = σ → chains k = chains' k) : σ.uses p chains = σ.uses p chains' := by
  unfold uses
  cases σ with
  | resource => simp only [h .resource rfl]
  | tracing => simp only [h .sampler rfl, h .spanExporter rfl]
  | settings => simp only [h .tracerProvider rfl]
  | propagating => simp only [h .propagator rfl]

end Stage

/-! ## Turns -/

/-- The stage that starts with a check. The tracer settings are customized right after the processors
for them have been made. -/
def Check.opens? : Check W → Option Stage
  | .attributes => some .resource
  | .sampler => some .tracing
  | .processors .traces => some .settings
  | .names key => if key = Names.propagators then some .propagating else none
  | _ => none

def Request.application? : Request W → Option (Kind × Link W)
  | .apply k link _ => some (k, link)
  | _ => none

namespace Turn

def opens? : Turn W → Option Stage
  | asked .. => none
  | checked c _ => c.opens?

def application? : Turn W → Option (Kind × Link W)
  | asked r _ _ _ => r.application?
  | checked .. => none

/-- What was registered in a turn: what outside code registered, and behind it the configurers that
were found, which join a chain by themselves. -/
def registered (t : Turn W) : List (Addition W) :=
  t.added ++ if t.loads Names.tracerProviderConfigurers then Merger.wrapped t.found else []

theorem registered_of_not_loads {t : Turn W} (h : t.loads Names.tracerProviderConfigurers = false) :
    t.registered = t.added := by
  rw [registered, h, if_neg Bool.false_ne_true, List.append_nil]

theorem opens?_of_application? {t : Turn W} {x : Kind × Link W} (h : t.application? = some x) : t.opens? = none := by
  cases t with
  | asked r input answer added => rfl
  | checked c fault => cases h

theorem application?_of_opens? {t : Turn W} {σ : Stage} (h : t.opens? = some σ) : t.application? = none := by
  cases t with
  | asked r input answer added => cases h
  | checked c fault => rfl

end Turn

def applications (ts : List (Turn W)) : List (Kind × Link W) := ts.filterMap Turn.application?

def registrations (ts : List (Turn W)) : List (Addition W) := ts.flatMap Turn.registered

def before (σ : Stage) (ts : List (Turn W)) : List (Turn W) := ts.takeWhile fun t => t.opens? ≠ some σ

def Reaches (σ : Stage) (ts : List (Turn W)) : Prop := ∃ t ∈ ts, t.opens? = some σ

section
variable {σ τ : Stage} {t : Turn W} {ts : List (Turn W)}

theorem registrations_of_not_merges (h : ∀ t ∈ ts, t.merges = false) : registrations ts = ts.flatMap Turn.added :=
  List.flatMap_congr fun t ht => Turn.registered_of_not_loads (Turn.loads_of_not_merges (h t ht) (by decide))

theorem applications_cons_some {x : Kind × Link W} (h : t.application? = some x) :
    applications (t :: ts) = x :: applications ts :=
  List.filterMap_cons_some h

theorem applications_cons_none (h : t.application? = none) : applications (t :: ts) = applications ts :=
  List.filterMap_cons_none h

theorem before_cons_self (h : t.opens? = some σ) : before σ (t :: ts) = [] :=
  List.takeWhile_cons_of_neg (by simp [h])

theorem before_cons (h : t.opens? ≠ some σ) : before σ (t :: ts) = t :: before σ ts :=
  List.takeWhile_cons_of_pos (by simpa using h)

theorem reaches_cons_of_ne (h : t.opens? ≠ some σ) : Reaches σ (t :: ts) ↔ Reaches σ ts := by
  unfold Reaches
  rw [List.exists_mem_cons_iff]
  exact or_iff_right h

theorem before_before (h : Reaches τ (before σ ts)) : before τ (before σ ts) = before τ ts := by
  obtain ⟨t, ht, ho⟩ := h
  induction ts with
  | nil => cases ht
  | cons u ts ih =>
    by_cases hu : u.opens? = some σ
    · rw [before_cons_self hu] at ht
      cases ht
    · rw [before_cons hu] at ht ⊢
      by_cases hv : u.opens? = some τ
      · rw [before_cons_self hv, before_cons_self hv]
      · rw [before_cons hv, before_cons hv]
        rcases List.mem_cons.mp ht with rfl | ht
        · exact absurd ho hv
        · rw [ih ht]

end

/-! ## Keeping to an agenda -/

structure Agenda (W : Outside) where
  due : List (Kind × Link W)
  ahead : List Stage

def Agenda.initial : Agenda W := ⟨[], Stage.all⟩

def Agenda.finished : Agenda W := ⟨[], []⟩

/-- From a registry and an agenda, these turns leave that agenda. -/
inductive Keeps (p : Properties) : Registry W → Agenda W → List (Turn W) → Agenda W → Prop
  | nil (r : Registry W) (a : Agenda W) : Keeps p r a [] a
  | apply {r : Registry W} {x : Kind × Link W} {due : List (Kind × Link W)} {ahead : List Stage} {t : Turn W}
    {ts : List (Turn W)} {a : Agenda W} :
    t.application? = some x → Keeps p (r.extend t.registered) ⟨due, ahead⟩ ts a →
      Keeps p r ⟨x :: due, ahead⟩ (t :: ts) a
  | opens {r : Registry W} {σ : Stage} {ahead : List Stage} {t : Turn W} {ts : List (Turn W)} {a : Agenda W} :
    t.opens? = some σ → Keeps p (r.extend t.registered) ⟨σ.uses p r.chains, ahead⟩ ts a →
      Keeps p r ⟨[], σ :: ahead⟩ (t :: ts) a
  | pass {r : Registry W} {t : Turn W} {ts : List (Turn W)} {a a' : Agenda W} :
    t.application? = none → t.opens? = none → Keeps p (r.extend t.registered) a ts a' →
      Keeps p r a (t :: ts) a'

def Registry.atPoint (r : Registry W) (ts : List (Turn W)) (σ : Stage) : Registry W :=
  r.extend (registrations (before σ ts))

section
variable {p : Properties} {r : Registry W} {a a' a'' : Agenda W} {t : Turn W} {ts us : List (Turn W)} {σ : Stage}

theorem Registry.atPoint_cons_self (h : t.opens? = some σ) : r.atPoint (t :: ts) σ = r := by
  rw [atPoint, before_cons_self h]
  rfl

theorem Registry.atPoint_cons (h : t.opens? ≠ some σ) :
    r.atPoint (t :: ts) σ = (r.extend t.registered).atPoint ts σ := by
  rw [atPoint, before_cons h, registrations, List.flatMap_cons, extend_append]
  rfl

namespace Keeps

theorem append (h : Keeps p r a ts a') (h' : Keeps p (r.extend (registrations ts)) a' us a'') :
    Keeps p r a (ts ++ us) a'' := by
  induction h with
  | nil r a => exact h'
  | apply hx _ ih =>
    rw [registrations, List.flatMap_cons, Registry.extend_append] at h'
    exact .apply hx (ih h')
  | opens ho _ ih =>
    rw [registrations, List.flatMap_cons, Registry.extend_append] at h'
    exact .opens ho (ih h')
  | pass hx ho _ ih =>
    rw [registrations, List.flatMap_cons, Registry.extend_append] at h'
    exact .pass hx ho (ih h')

theorem idle (p : Properties) (r : Registry W) (a : Agenda W) :
    ∀ {ts : List (Turn W)}, (∀ t ∈ ts, t.application? = none ∧ t.opens? = none) → Keeps p r a ts a
  | [], _ => .nil r a
  | t :: _, h =>
    .pass (h t List.mem_cons_self).1 (h t List.mem_cons_self).2
      (idle p _ a fun u hu => h u (List.mem_cons_of_mem t hu))

theorem ahead_suffix (h : Keeps p r a ts a') : a'.ahead <:+ a.ahead := by
  induction h with
  | nil r a => exact List.suffix_rfl
  | apply _ _ ih => exact ih
  | opens _ _ ih => exact ih.trans (List.suffix_cons _ _)
  | pass _ _ _ ih => exact ih

theorem reaches (h : Keeps p r a ts a') (hσ : σ ∈ a.ahead) (hσ' : σ ∉ a'.ahead) : Reaches σ ts := by
  induction h with
  | nil r a => exact absurd hσ hσ'
  | apply hx _ ih =>
    rw [reaches_cons_of_ne (by simp [Turn.opens?_of_application? hx])]
    exact ih hσ hσ'
  | pass _ ho _ ih =>
    rw [reaches_cons_of_ne (by simp [ho])]
    exact ih hσ hσ'
  | @opens _ τ _ t _ _ ho _ ih =>
    rcases List.mem_cons.mp hσ with rfl | hσ
    · exact ⟨t, List.mem_cons_self, ho⟩
    · obtain ⟨u, hu, h⟩ := ih hσ hσ'
      exact ⟨u, List.mem_cons_of_mem t hu, h⟩

theorem until_opened (h : Keeps p r a ts a') (hr : Reaches σ ts) : ∃ rest, Keeps p r a (before σ ts) ⟨[], σ :: rest⟩ := by
  induction h with
  | nil r a =>
    obtain ⟨t, ht, -⟩ := hr
    cases ht
  | @apply _ _ _ _ t _ _ hx _ ih =>
    have ho : t.opens? ≠ some σ := by simp [Turn.opens?_of_application? hx]
    obtain ⟨rest, hk⟩ := ih ((reaches_cons_of_ne ho).mp hr)
    rw [before_cons ho]
    exact ⟨rest, .apply hx hk⟩
  | @pass _ t _ _ _ hx ho _ ih =>
    have ho' : t.opens? ≠ some σ := by simp [ho]
    obtain ⟨rest, hk⟩ := ih ((reaches_cons_of_ne ho').mp hr)
    rw [before_cons ho']
    exact ⟨rest, .pass hx ho hk⟩
  | @opens r τ ahead t _ _ ho _ ih =>
    by_cases hτ : τ = σ
    · subst hτ
      rw [before_cons_self ho]
      exact ⟨ahead, .nil _ _⟩
    · have ho' : t.opens? ≠ some σ := by simpa [ho] using hτ
      obtain ⟨rest, hk⟩ := ih ((reaches_cons_of_ne ho').mp hr)
      rw [before_cons ho']
      exact ⟨rest, .opens ho hk⟩

/-- What was due and what the stages ahead would use, with the chains as they are at the points of the
stages, is what was applied, what is due now, and what the stages use that are still ahead. -/
theorem conserves (h : Keeps p r a ts a') (hn : a.ahead.Nodup) :
    a.due ++ a.ahead.flatMap (fun σ => σ.uses p (r.atPoint ts σ).chains) =
      applications ts ++ (a'.due ++ a'.ahead.flatMap fun σ => σ.uses p (r.atPoint ts σ).chains) := by
  induction h with
  | nil r a => rfl
  | @apply r x due ahead t ts a hx _ ih =>
    have hp : ∀ σ, r.atPoint (t :: ts) σ = (r.extend t.registered).atPoint ts σ := fun σ =>
      Registry.atPoint_cons (by simp [Turn.opens?_of_application? hx])
    simp only [applications_cons_some hx, hp, List.cons_append]
    exact congrArg (x :: ·) (ih hn)
  | @pass r t ts a a' hx ho _ ih =>
    have hp : ∀ σ, r.atPoint (t :: ts) σ = (r.extend t.registered).atPoint ts σ := fun σ =>
      Registry.atPoint_cons (by simp [ho])
    simp only [applications_cons_none hx, hp]
    exact ih hn
  | @opens r τ ahead t ts a ho hk ih =>
    obtain ⟨hτ, hn⟩ := List.nodup_cons.mp hn
    have hp : ∀ σ ∈ ahead, r.atPoint (t :: ts) σ = (r.extend t.registered).atPoint ts σ := fun σ hσ =>
      Registry.atPoint_cons fun h => hτ (Option.some.inj (ho.symm.trans h) ▸ hσ)
    have hc : ∀ stages : List Stage, (∀ σ ∈ stages, σ ∈ ahead) →
        (stages.flatMap fun σ => σ.uses p (r.atPoint (t :: ts) σ).chains) =
          stages.flatMap fun σ => σ.uses p ((r.extend t.registered).atPoint ts σ).chains :=
      fun stages hs => List.flatMap_congr fun σ hσ => by rw [hp σ (hs σ hσ)]
    rw [applications_cons_none (Turn.application?_of_opens? ho), List.flatMap_cons, Registry.atPoint_cons_self ho,
      hc ahead fun _ => id, hc a.ahead fun σ hσ => hk.ahead_suffix.mem hσ]
    exact ih hn

end Keeps

theorem takeWhile_ne_of_nodup {α : Type} [DecidableEq α] {x : α} : ∀ {done rest : List α},
    (done ++ x :: rest).Nodup → (done ++ x :: rest).takeWhile (· ≠ x) = done
  | [], _, _ => List.takeWhile_cons_of_neg (by simp)
  | y :: done, rest, h => by
    obtain ⟨hy, h⟩ := List.nodup_cons.mp h
    have hne : y ≠ x := fun e => hy (e ▸ List.mem_append_right _ List.mem_cons_self)
    rw [List.cons_append, List.takeWhile_cons_of_pos (by simpa using hne), takeWhile_ne_of_nodup h]

theorem Keeps.applications_before (h : Keeps p r .initial ts a) (hr : Reaches σ ts) :
    applications (before σ ts) = σ.earlier.flatMap fun τ => τ.uses p (r.atPoint ts τ).chains := by
  obtain ⟨rest, hk⟩ := h.until_opened hr
  obtain ⟨done, hd⟩ := hk.ahead_suffix
  have hd : done ++ σ :: rest = Stage.all := hd
  have hn : (done ++ σ :: rest).Nodup := hd ▸ Stage.nodup_all
  have he : σ.earlier = done := by
    rw [Stage.earlier, ← hd]
    exact takeWhile_ne_of_nodup hn
  have hp : ∀ τ ∈ done, r.atPoint (before σ ts) τ = r.atPoint ts τ := by
    intro τ hτ
    have hm : τ ∈ Agenda.initial (W := W).ahead := Stage.mem_all τ
    have hl : τ ∉ σ :: rest := fun hm => (List.nodup_append.mp hn).2.2 τ hτ τ hm rfl
    rw [Registry.atPoint, before_before (hk.reaches hm hl), Registry.atPoint]
  have hc := hk.conserves Stage.nodup_all
  simp only [Agenda.initial, ← hd, List.nil_append, List.flatMap_append] at hc
  rw [he, ← List.append_cancel_right hc]
  exact List.flatMap_congr fun τ hτ => by rw [hp τ hτ]

end

end

end Telemetry
