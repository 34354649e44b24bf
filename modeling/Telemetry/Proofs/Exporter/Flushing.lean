import Mathlib.Data.List.Basic
import Telemetry.Assembly.Running
import Telemetry.Exporter.Metered
import Telemetry.Proofs.Assembly.Builtin
import Telemetry.Proofs.Exporter.FanOut

/-! # Flushes in a round

A fan-out flushes its delegates and a bundle its providers, one after the other and each with all of the time,
also after one that was not flushed. What the round comes to is the last answer that does not hold. Metering
changes nothing about it. -/

namespace Telemetry

/-! ## Answers of a round -/

namespace Datum

/-- The last of the answers that does not hold, and true if all hold. -/
def joined (answers : List Datum) : Datum := ((answers.filter fun d => !d.holds).getLast?).getD (.bool true)

theorem foldl_conjoin : ∀ (answers : List Datum) (soFar : Datum),
    answers.foldl (fun soFar d => d.conjoin soFar) soFar =
      ((answers.filter fun d => !d.holds).getLast?).getD soFar
  | [], _ => rfl
  | d :: answers, soFar => by
    rw [List.foldl_cons, foldl_conjoin answers, conjoin]
    by_cases h : d.holds = true
    · rw [if_pos h, List.filter_cons_of_neg (by simp [h])]
    · rw [if_neg h, List.filter_cons_of_pos (by simp [h]), List.getLast?_cons]
      rfl

theorem joined_of_all {answers : List Datum} (h : ∀ d ∈ answers, d.holds = true) : joined answers = .bool true := by
  have hf : (answers.filter fun d => !d.holds) = [] := List.filter_eq_nil_iff.mpr fun d hd => by simp [h d hd]
  rw [joined, hf]
  rfl

theorem holds_joined (answers : List Datum) : (joined answers).holds = true ↔ ∀ d ∈ answers, d.holds = true := by
  refine ⟨fun h => ?_, fun h => by rw [joined_of_all h]; rfl⟩
  unfold joined at h
  cases hl : (answers.filter fun d => !d.holds).getLast? with
  | none =>
    intro d hd
    simpa using List.filter_eq_nil_iff.mp (List.getLast?_eq_none_iff.mp hl) d hd
  | some d =>
    rw [hl] at h
    have hd := (List.mem_filter.mp (List.mem_of_getLast? hl)).2
    rw [Option.getD_some] at h
    simp [h] at hd

end Datum

section
variable {m : Type → Type} [Monad m] [LawfulMonad m] {α : Type}

theorem flushAll_eq (flushes : List (m Datum)) : flushAll flushes = do return Datum.joined (← flushes.mapM id) := by
  have hf := foldlM_eq_mapM Datum.conjoin id flushes (.bool true)
  simp only [Datum.foldl_conjoin] at hf
  exact hf

def Channel.flushIn (timeout : Datum) (c : Channel m α) : Option (m Datum) := c.flush.map (· timeout)

theorem foldlM_flushAlso (timeout : Datum) : ∀ (cs : List (Channel m α)) (soFar : Datum),
    cs.foldlM (flushAlso timeout) soFar =
      (cs.filterMap (Channel.flushIn timeout)).foldlM (fun soFar flush => do return (← flush).conjoin soFar) soFar
  | [], _ => rfl
  | c :: cs, soFar => by
    rw [List.foldlM_cons, flushAlso]
    cases hc : c.flush with
    | none =>
      have hn : c.flushIn timeout = none := by rw [Channel.flushIn, hc]; rfl
      rw [List.filterMap_cons_none hn, pure_bind, foldlM_flushAlso timeout cs]
    | some flush =>
      have hs : c.flushIn timeout = some (flush timeout) := by rw [Channel.flushIn, hc]; rfl
      rw [List.filterMap_cons_some hs, List.foldlM_cons]
      exact bind_congr fun d => foldlM_flushAlso timeout cs d

theorem flush_fanOut (cs : List (Channel m α)) :
    (fanOut cs).flush = some fun timeout => flushAll (cs.filterMap (Channel.flushIn timeout)) :=
  congrArg some (funext fun timeout => foldlM_flushAlso timeout cs (.bool true))

/-! ## Metering -/

variable (count : Nat → Bool → m Unit)

omit [LawfulMonad m] in
theorem flush_metered (c : Channel m α) : (metered count c).flush = some (c.flushed ·) := by
  unfold metered Channel.flushed
  cases c.flush with
  | none => rfl
  | some flush => rfl

theorem flush_fanOut_metered (cs : List (Channel m α)) : (fanOut (cs.map (metered count))).flush = (fanOut cs).flush := by
  have hone : ∀ timeout soFar (c : Channel m α), flushAlso timeout soFar (metered count c) = flushAlso timeout soFar c := by
    intro timeout soFar c
    rw [flushAlso_eq, flushAlso_eq, Channel.flushed, flush_metered]
  refine congrArg some (funext fun timeout => ?_)
  rw [List.foldlM_map]
  simp only [hone]

end

/-! ## Noted rounds -/

section
variable {σ α : Type}

def Returning (act : Work σ Datum) : Prop := ∀ s, ∃ d s', act.run s = (.ok d, s')

namespace Channel

def flushable (cs : List (Channel (Work σ) α)) : List Nat := (cs.zipIdx.filter fun e => e.1.flush.isSome).map Prod.snd

def flushes (timeout : Datum) (cs : List (Channel (Work σ) α)) : List (Nat × Work σ Datum) :=
  cs.zipIdx.filterMap fun e => (e.1.flushIn timeout).map (e.2, ·)

theorem mem_flushes {timeout : Datum} {cs : List (Channel (Work σ) α)} {e : Nat × Work σ Datum}
    (h : e ∈ flushes timeout cs) : ∃ c ∈ cs, ∃ flush ∈ c.flush, flush timeout = e.2 := by
  obtain ⟨⟨c, i⟩, hm, he⟩ := List.mem_filterMap.mp h
  obtain ⟨act, ha, rfl⟩ := Option.map_eq_some_iff.mp he
  exact ⟨c, List.fst_mem_of_mem_zipIdx hm, Option.map_eq_some_iff.mp ha⟩

theorem fst_flushes (timeout : Datum) (cs : List (Channel (Work σ) α)) :
    (flushes timeout cs).map Prod.fst = flushable cs := by
  unfold flushes flushable
  rw [List.map_filterMap, ← List.filterMap_eq_map, List.filterMap_filter]
  refine List.filterMap_congr fun e _ => ?_
  unfold flushIn
  cases e.1.flush <;> rfl

theorem flushable_of_all {cs : List (Channel (Work σ) α)} (h : ∀ c ∈ cs, c.flush.isSome = true) :
    flushable cs = List.range cs.length := by
  have hf : (cs.zipIdx.filter fun e => e.1.flush.isSome) = cs.zipIdx :=
    List.filter_eq_self.mpr fun e he => h e.1 (List.fst_mem_of_mem_zipIdx he)
  rw [flushable, hf, List.zipIdx_map_snd, List.range_eq_range']

theorem notedFrom_eq : ∀ (cs : List (Channel (Work σ) α)) (place : Nat),
    notedFrom place cs = (cs.zipIdx place).map fun e => e.1.noted e.2
  | [], _ => rfl
  | _ :: cs, place => congrArg (_ :: ·) (notedFrom_eq cs (place + 1))

theorem flushIn_noted (timeout : Datum) (place : Nat) (c : Channel (Work σ) α) :
    (c.noted place).flushIn timeout = (c.flushIn timeout).map (noting (.flushed place timeout)) := by
  unfold noted flushIn
  cases c.flush <;> rfl

theorem filterMap_notedFrom (timeout : Datum) (cs : List (Channel (Work σ) α)) :
    (notedFrom 0 cs).filterMap (flushIn timeout) =
      (flushes timeout cs).map fun e => noting (.flushed e.1 timeout) e.2 := by
  rw [notedFrom_eq, List.filterMap_map, flushes, List.map_filterMap]
  refine List.filterMap_congr fun e _ => ?_
  rw [Function.comp_apply, flushIn_noted, Option.map_map]
  rfl

end Channel

/-- These places are flushed, once each and in order, with this time. Nothing raises, and the result is the last
answer that does not hold. -/
def FlushesEach (timeout : Datum) (places : List Nat) (act : Work (Noted σ α) Datum) : Prop :=
  ∀ s, ∃ answers own, answers.length = places.length ∧
    act.run s = (.ok (Datum.joined answers),
      ⟨own, s.calls ++ List.zipWith (fun place d => .flushed place timeout (.ok d)) places answers⟩)

theorem run_mapM_noting (timeout : Datum) : ∀ (es : List (Nat × Work σ Datum)), (∀ e ∈ es, Returning e.2) →
    ∀ s : Noted σ α, ∃ answers own, answers.length = es.length ∧
      ((es.map fun e => noting (.flushed e.1 timeout) e.2).mapM id).run s = (.ok answers,
        ⟨own, s.calls ++ List.zipWith (fun place d => .flushed place timeout (.ok d)) (es.map Prod.fst) answers⟩)
  | [], _, s => by
    refine ⟨[], s.own, rfl, ?_⟩
    rw [List.map_nil, List.mapM_nil, List.map_nil, List.zipWith_nil_left, List.append_nil]
    rfl
  | e :: es, h, s => by
    obtain ⟨he, h⟩ := List.forall_mem_cons.mp h
    obtain ⟨d, own, hd⟩ := he s.own
    obtain ⟨answers, own', hl, hr⟩ := run_mapM_noting timeout es h ⟨own, s.calls ++ [.flushed e.1 timeout (.ok d)]⟩
    refine ⟨d :: answers, own', congrArg Nat.succ hl, ?_⟩
    rw [List.map_cons, List.mapM_cons, run_bind_state, id_eq, run_noting, hd]
    simp only [run_bind_state, hr, List.append_assoc]
    rfl

theorem flushesEach_flushAll (timeout : Datum) {es : List (Nat × Work σ Datum)} (h : ∀ e ∈ es, Returning e.2) :
    FlushesEach (α := α) timeout (es.map Prod.fst) (flushAll (es.map fun e => noting (.flushed e.1 timeout) e.2)) := by
  intro s
  obtain ⟨answers, own, hl, hr⟩ := run_mapM_noting timeout es h s
  refine ⟨answers, own, by rw [hl, List.length_map], ?_⟩
  rw [flushAll_eq, run_bind_state, hr]
  rfl

/-! ## Fan-outs and bundles -/

section
variable {W : Outside} {timeout : Datum} {cs : List (Channel (Work σ) α)} {tracer meter logger : Datum → Work σ Datum}

theorem Bundle.flush_eq (host : Host W) {millis : Datum} {time : FlushTime} (h : FlushTime.ofMillis millis = .ok time) :
    Bundle.flush host millis = flushAll [flushTracer host time, flushMeter host time, flushLogger host time] := by
  rw [flush, h]
  rfl

/-- A flush with some time calls every delegate that can be flushed, or the three providers of a bundle, once each
and in order with this time, whatever they answer. It holds just when all answers hold, and is true then and
else the last answer that does not. Metering a fan-out or its delegates makes no difference, and what cannot
be flushed counts as flushed when it is metered. -/
theorem flush_reaches_all (hc : ∀ c ∈ cs, ∀ flush ∈ c.flush, Returning (flush timeout)) (ht : Returning (tracer timeout))
    (hm : Returning (meter timeout)) (hl : Returning (logger timeout)) :
    (∃ flush, (fanOut (Channel.notedFrom 0 cs)).flush = some flush ∧
      FlushesEach timeout (Channel.flushable cs) (flush timeout) ∧
      ∀ count, (metered count (fanOut (Channel.notedFrom 0 cs))).flush = some flush ∧
        (fanOut ((Channel.notedFrom 0 cs).map (metered count))).flush = some flush) ∧
    FlushesEach (α := α) timeout [0, 1, 2] (flushAll
      [noting (.flushed 0 timeout) (tracer timeout), noting (.flushed 1 timeout) (meter timeout),
        noting (.flushed 2 timeout) (logger timeout)]) ∧
    (∀ (host : Host W) millis time, FlushTime.ofMillis millis = .ok time → Bundle.flush host millis =
      flushAll [Bundle.flushTracer host time, Bundle.flushMeter host time, Bundle.flushLogger host time]) ∧
    ((∀ c ∈ cs, c.flush.isSome = true) → Channel.flushable cs = List.range cs.length) ∧
    (∀ count (c : Channel (Work σ) α), c.flush = none → (metered count c).flush = some fun _ => pure (.bool true)) ∧
    ∀ answers, ((Datum.joined answers).holds = true ↔ ∀ d ∈ answers, d.holds = true) ∧
      ((∀ d ∈ answers, d.holds = true) → Datum.joined answers = .bool true) := by
  have hdelegates : ∀ e ∈ Channel.flushes timeout cs, Returning e.2 := by
    intro e he
    obtain ⟨c, hcm, flush, hf, hfe⟩ := Channel.mem_flushes he
    exact hfe ▸ hc c hcm flush hf
  have hproviders : ∀ e ∈ [(0, tracer timeout), (1, meter timeout), (2, logger timeout)], Returning e.2 := by
    simp only [List.forall_mem_cons, List.not_mem_nil, false_implies, implies_true, and_true]
    exact ⟨ht, hm, hl⟩
  have hfan := flush_fanOut (Channel.notedFrom 0 cs)
  refine ⟨⟨_, hfan, ?_, fun count => ⟨?_, ?_⟩⟩, flushesEach_flushAll timeout hproviders,
    fun host _ _ => Bundle.flush_eq host, Channel.flushable_of_all, ?_, fun answers => ⟨Datum.holds_joined answers, Datum.joined_of_all⟩⟩
  · rw [Channel.filterMap_notedFrom, ← Channel.fst_flushes timeout cs]
    exact flushesEach_flushAll timeout hdelegates
  · rw [flush_metered, ← hfan]
    rfl
  · rw [flush_fanOut_metered, hfan]
  · intro count c hn
    rw [flush_metered]
    simp only [Channel.flushed, hn]

def Channel.answering (answer : Datum) : Channel (Work σ) α := ⟨fun _ => pure .success, some fun _ => pure answer, pure ()⟩

/-- Among four delegates of which one cannot be flushed, the second of those that answer decides the result. -/
theorem flush_reaches_all_mixed :
    let cs : List (Channel (Work Unit) Item) := [.answering (.int 0), .working, .answering .null, .answering (.text "late")]
    ∃ flush, (fanOut (Channel.notedFrom 0 cs)).flush = some flush ∧ FlushesEach (.int 500) [0, 2, 3] (flush (.int 500)) ∧
      (flush (.int 500)).run ⟨(), []⟩ = (.ok .null, ⟨(), [.flushed 0 (.int 500) (.ok (.int 0)),
        .flushed 2 (.int 500) (.ok .null), .flushed 3 (.int 500) (.ok (.text "late"))]⟩) := by
  intro cs
  have hreturns : ∀ d, Returning (pure d : Work Unit Datum) := fun d s => ⟨d, s, rfl⟩
  have hcs : ∀ c ∈ cs, ∀ flush ∈ c.flush, Returning (flush (.int 500)) := by
    simp only [cs, List.forall_mem_cons, List.not_mem_nil, false_implies, implies_true, and_true]
    refine ⟨?_, nofun, ?_, ?_⟩
    all_goals
      rintro flush ⟨⟩
      exact hreturns _
  obtain ⟨⟨flush, hf, hrun, -⟩, -⟩ := @flush_reaches_all Unit Item .void (.int 500) cs (fun _ => pure (.bool false))
    (fun _ => pure (.bool true)) (fun _ => pure .null) hcs (hreturns _) (hreturns _) (hreturns _)
  cases hf
  exact ⟨_, rfl, hrun, rfl⟩

end

end

end Telemetry
