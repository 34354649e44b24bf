import Telemetry.Host

/-! # Plans

A plan says which steps are to be taken one after the other. What came of a step may decide about
those behind it. `Plan.Follows` says that a transcript is the plan, up to the first step that raises:
no step is left out, none comes twice or out of place, and none is taken after one that raised. -/

namespace Telemetry

inductive Plan (W : Outside) (α : Type)
  | done (a : α)
  | next (step : Step W) (rest : Turn W → Plan W α)

namespace Plan
variable {W : Outside} {α β γ : Type}

def bind : Plan W α → (α → Plan W β) → Plan W β
  | done a, f => f a
  | next step rest, f => next step fun t => (rest t).bind f

instance : Monad (Plan W) where
  pure := done
  bind := bind

def take (step : Step W) : Plan W (Turn W) := next step done

def each : List (Step W) → Plan W (List (Turn W))
  | [] => done []
  | step :: rest => do return (← take step) :: (← each rest)

/-- Takes steps in their order. The registry as it is afterwards, given what it was before. -/
def along (r : Registry W) : List (Step W) → Plan W (Registry W)
  | [] => done r
  | step :: rest => next step fun t => along (r.extend t.added) rest

/-- The turns are those of the plan up to the first that raised, and end the way the plan does. -/
inductive Follows : Plan W α → List (Turn W) → Except Fault α → Prop
  | done (a : α) : Follows (.done a) [] (.ok a)
  | next {step : Step W} {rest : Turn W → Plan W α} {t : Turn W} {ts : List (Turn W)} {r : Except Fault α} :
    t.step = step → t.fault? = none → Follows (rest t) ts r → Follows (.next step rest) (t :: ts) r
  | stop {step : Step W} {rest : Turn W → Plan W α} {t : Turn W} {f : Fault} :
    t.step = step → t.fault? = some f → Follows (.next step rest) [t] (.error f)

theorem pure_def (a : α) : (pure a : Plan W α) = done a := rfl

theorem done_bind (a : α) (f : α → Plan W β) : (done a : Plan W α) >>= f = f a := rfl

theorem next_bind (step : Step W) (rest : Turn W → Plan W α) (f : α → Plan W β) :
    next step rest >>= f = next step fun t => rest t >>= f := rfl

theorem bind_done (plan : Plan W α) : plan >>= done = plan := by
  induction plan with
  | done a => rfl
  | next step rest ih => rw [next_bind]; congr 1; funext t; exact ih t

theorem bind_assoc (plan : Plan W α) (f : α → Plan W β) (g : β → Plan W γ) :
    plan >>= f >>= g = plan >>= fun a => f a >>= g := by
  induction plan with
  | done a => rfl
  | next step rest ih => simp only [next_bind]; congr 1; funext t; exact ih t

theorem along_append (r : Registry W) : ∀ steps more : List (Step W),
    along r (steps ++ more) = along r steps >>= fun r => along r more
  | [], _ => rfl
  | step :: steps, more => by
    rw [List.cons_append, along, along, next_bind]
    congr 1; funext t
    exact along_append _ steps more

namespace Follows

theorem bind_ok {plan : Plan W α} {f : α → Plan W β} {ts us : List (Turn W)} {a : α} {r : Except Fault β}
    (h : Follows plan ts (.ok a)) (h' : Follows (f a) us r) : Follows (plan >>= f) (ts ++ us) r := by
  induction plan generalizing ts with
  | done b => cases h; exact h'
  | next step rest ih =>
    cases h with
    | next hs hf ht => exact next hs hf (ih _ ht)

theorem bind_error {plan : Plan W α} {ts : List (Turn W)} {e : Fault} (f : α → Plan W β)
    (h : Follows plan ts (.error e)) : Follows (plan >>= f) ts (.error e) := by
  induction plan generalizing ts with
  | done b => cases h
  | next step rest ih =>
    cases h with
    | next hs hf ht => exact next hs hf (ih _ ht)
    | stop hs hf => exact stop hs hf

theorem unraised {plan : Plan W α} {ts : List (Turn W)} {a : α} (h : Follows plan ts (.ok a)) :
    ∀ t ∈ ts, t.fault? = none := by
  induction plan generalizing ts with
  | done b =>
    cases h
    exact fun t ht => absurd ht List.not_mem_nil
  | next step rest ih =>
    cases h with
    | next hs hf ht =>
      intro u hu
      rcases List.mem_cons.mp hu with rfl | hu
      · exact hf
      · exact ih _ ht u hu

theorem raised {plan : Plan W α} {ts : List (Turn W)} {e : Fault} (h : Follows plan ts (.error e)) :
    ∃ before t, ts = before ++ [t] ∧ t.fault? = some e ∧ ∀ u ∈ before, u.fault? = none := by
  induction plan generalizing ts with
  | done b => cases h
  | next step rest ih =>
    cases h with
    | @stop _ _ t _ hs hf => exact ⟨[], t, rfl, hf, fun u hu => absurd hu List.not_mem_nil⟩
    | @next _ _ t ts _ hs hf ht =>
      obtain ⟨before, last, rfl, hl, hb⟩ := ih _ ht
      refine ⟨t :: before, last, rfl, hl, fun u hu => ?_⟩
      rcases List.mem_cons.mp hu with rfl | hu
      · exact hf
      · exact hb u hu

end Follows

end Plan

/-! ## What was said -/

section
variable {W : Outside}

/-- The turns are what a host answered to these requests, one after the other, each in the state that
the one before left. -/
inductive Conversed (host : Host W) : W.State → List (Turn W) → W.State → Prop
  | nil (own : W.State) : Conversed host own [] own
  | asked {own own' : W.State} {r : Request W} {input : r.Input} {answer : Except Fault r.Answer}
    {v : Visit W} {ts : List (Turn W)} :
    (host.answer r input).run { own } = (answer, v) → Conversed host v.own ts own' →
      Conversed host own (.asked r input answer v.added :: ts) own'
  | checked {own own' : W.State} {c : Check W} {fault : Option Fault} {ts : List (Turn W)} :
    Conversed host own ts own' → Conversed host own (.checked c fault :: ts) own'

theorem Conversed.append {host : Host W} {own mid own' : W.State} {ts us : List (Turn W)}
    (h : Conversed host own ts mid) (h' : Conversed host mid us own') : Conversed host own (ts ++ us) own' := by
  induction h with
  | nil _ => exact h'
  | asked hr _ ih => exact .asked hr (ih h')
  | checked _ ih => exact .checked (ih h')

theorem Conversed.of_append {host : Host W} {own own' : W.State} : ∀ {ts us : List (Turn W)},
    Conversed host own (ts ++ us) own' → ∃ mid, Conversed host own ts mid ∧ Conversed host mid us own'
  | [], _, h => ⟨own, .nil own, h⟩
  | .asked .. :: _, _, h => by
    cases h with
    | asked hr h =>
      obtain ⟨mid, h, h'⟩ := of_append h
      exact ⟨mid, .asked hr h, h'⟩
  | .checked .. :: _, _, h => by
    cases h with
    | checked h =>
      obtain ⟨mid, h, h'⟩ := of_append h
      exact ⟨mid, .checked h, h'⟩

theorem Conversed.answered {host : Host W} {own own' : W.State} {ts : List (Turn W)} {r : Request W} {input : r.Input}
    {answer : Except Fault r.Answer} {added : List (Addition W)} (h : Conversed host own ts own')
    (ha : .asked r input answer added ∈ ts) : ∃ v, ((host.answer r input).run v).1 = answer := by
  induction h with
  | nil _ => cases ha
  | @asked own _ r' input' answer' v _ hr _ ih =>
    rcases List.mem_cons.mp ha with he | ha
    · cases he
      exact ⟨{ own }, congrArg Prod.fst hr⟩
    · exact ih ha
  | checked _ ih =>
    rcases List.mem_cons.mp ha with he | ha
    · cases he
    · exact ih ha

end

end Telemetry
