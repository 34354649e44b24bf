import Telemetry.Exporter.FanOut
import Telemetry.Proofs.Processor.Conveying

/-! # Calls of a fan-out

Each operation of a fan-out is one round of calls over its delegates. Delegates are noted: every call of one
is kept with its place and with what came of it. Fan-outs of fan-outs make the calls of one fan-out over all
delegates and answer as it does. A round ends with the first delegate that raises, so that those behind it
are not reached. -/

namespace Telemetry

/-! ## Rounds in any monad -/

section
variable {m : Type → Type} [Monad m] [LawfulMonad m] {ι β α : Type}

/-- What a round has collected joins what was there before, if joining is associative. -/
theorem foldlM_join (join : β → β → β) (unit : β) (hu : ∀ b, join unit b = b)
    (ha : ∀ a b c, join (join a b) c = join a (join b c)) (call : ι → m β) : ∀ (cs : List ι) (soFar : β),
    cs.foldlM (fun b c => do return join (← call c) b) soFar =
      cs.foldlM (fun b c => do return join (← call c) b) unit >>= fun b => pure (join b soFar)
  | [], soFar => by simp [hu]
  | c :: cs, soFar => by
    simp only [List.foldlM_cons, bind_assoc, pure_bind]
    refine bind_congr fun a => ?_
    rw [foldlM_join join unit hu ha call cs (join a soFar), foldlM_join join unit hu ha call cs (join a unit)]
    simp only [bind_assoc, pure_bind]
    refine bind_congr fun b => ?_
    have hj : join a soFar = join (join a unit) soFar := by rw [ha, hu]
    rw [ha, ← hj]

theorem foldlM_eq_mapM (join : β → β → β) (call : ι → m β) : ∀ (cs : List ι) (soFar : β),
    cs.foldlM (fun b c => do return join (← call c) b) soFar = do
      return (← cs.mapM call).foldl (fun b a => join a b) soFar
  | [], soFar => by simp
  | c :: cs, soFar => by
    simp only [List.foldlM_cons, List.mapM_cons, bind_assoc, pure_bind, List.foldl_cons]
    exact bind_congr fun a => foldlM_eq_mapM join call cs (join a soFar)

theorem forM_eq_mapM (call : ι → m Unit) : ∀ cs : List ι, cs.forM call = cs.mapM call >>= fun _ => pure ()
  | [] => by simp
  | c :: cs => by
    have ih := forM_eq_mapM call cs
    simp only [List.forM_eq_forM] at ih
    simp [ih]

theorem foldlM_groups {γ : Type} {step : β → γ → m β} {whole : List γ → γ}
    (h : ∀ cs b, step b (whole cs) = cs.foldlM step b) : ∀ (groups : List (List γ)) (b : β),
    (groups.map whole).foldlM step b = groups.flatten.foldlM step b
  | [], b => rfl
  | cs :: groups, b => by
    rw [List.map_cons, List.foldlM_cons, h, List.flatten_cons, List.foldlM_append]
    exact bind_congr (foldlM_groups h groups)

/-! ## Sending and flushing -/

namespace Outcome

def both (o soFar : Outcome) : Outcome := if o.succeeded then soFar else .failure

theorem both_assoc (a b c : Outcome) : both (both a b) c = both a (both b c) := by
  cases a with
  | success => rfl
  | failure => rfl
  | other => rfl

end Outcome

theorem Datum.conjoin_assoc (a b c : Datum) : conjoin (conjoin a b) c = conjoin a (conjoin b c) := by
  unfold conjoin
  by_cases ha : a.holds = true
  · simp [ha]
  · simp [ha]

/-- What a flush of one delegate comes to. One that cannot be flushed counts as flushed. -/
def Channel.flushed (timeout : Datum) (c : Channel m α) : m Datum :=
  match c.flush with
  | none => pure (.bool true)
  | some flush => flush timeout

theorem flushAlso_eq (timeout soFar : Datum) (c : Channel m α) :
    flushAlso timeout soFar c = do return (← c.flushed timeout).conjoin soFar := by
  unfold flushAlso Channel.flushed
  cases c.flush with
  | none =>
    simp only [pure_bind]
    rfl
  | some flush => rfl

section
variable (cs : List (Channel m α))

/-- A fan-out in the midst of a round makes the round of its own delegates. -/
theorem sendAlso_fanOut (batch : List α) (soFar : Outcome) :
    sendAlso batch soFar (fanOut cs) = cs.foldlM (sendAlso batch) soFar :=
  (foldlM_join Outcome.both .success (fun _ => rfl) Outcome.both_assoc (·.send batch) cs soFar).symm

theorem flushAlso_fanOut (timeout soFar : Datum) :
    flushAlso timeout soFar (fanOut cs) = cs.foldlM (flushAlso timeout) soFar := by
  have hj := foldlM_join Datum.conjoin (.bool true) (fun _ => rfl) Datum.conjoin_assoc
    (Channel.flushed (m := m) (α := α) timeout) cs soFar
  simp only [← flushAlso_eq] at hj
  exact hj.symm

theorem fanOut_map_fanOut (groups : List (List (Channel m α))) : fanOut (groups.map fanOut) = fanOut groups.flatten := by
  have hclose : (groups.map fanOut).forM (·.close) = groups.flatten.forM (·.close) := by
    induction groups with
    | nil => rfl
    | cons cs groups ih =>
      simp only [List.forM_eq_forM] at ih
      simp [ih, fanOut]
  have hsend : (fanOut (groups.map fanOut)).send = (fanOut groups.flatten).send :=
    funext fun batch => foldlM_groups (fun cs o => sendAlso_fanOut cs batch o) groups .success
  have hflush : (fanOut (groups.map fanOut)).flush = (fanOut groups.flatten).flush :=
    congrArg some (funext fun timeout =>
      foldlM_groups (fun cs d => flushAlso_fanOut cs timeout d) groups (.bool true))
  show Channel.mk _ _ _ = Channel.mk _ _ _
  rw [Channel.mk.injEq]
  exact ⟨hsend, hflush, hclose⟩

def Outcome.verdict (outcomes : List Outcome) : Outcome := if outcomes.all succeeded then .success else .failure

theorem Outcome.foldl_both : ∀ (outcomes : List Outcome) (soFar : Outcome),
    outcomes.foldl (fun soFar o => both o soFar) soFar =
      if outcomes.all succeeded then soFar else .failure
  | [], _ => rfl
  | o :: outcomes, soFar => by
    rw [List.foldl_cons, foldl_both outcomes, List.all_cons, both]
    cases o.succeeded <;> simp

theorem send_fanOut (batch : List α) :
    (fanOut cs).send batch = do return Outcome.verdict (← cs.mapM (·.send batch)) := by
  have hf := foldlM_eq_mapM Outcome.both (fun c : Channel m α => c.send batch) cs .success
  simp only [Outcome.foldl_both] at hf
  exact hf

theorem close_fanOut : (fanOut cs).close = cs.mapM Channel.close >>= fun _ => pure () := forM_eq_mapM Channel.close cs

end

end

/-! ## Noted delegates -/

abbrev Work (σ : Type) := ExceptT Fault (StateM σ)

/-- A call of a delegate, by its place among the others, with what came of it. -/
inductive Channel.Call (α : Type)
  | sent (place : Nat) (batch : List α) (answer : Except Fault Outcome)
  | flushed (place : Nat) (timeout : Datum) (answer : Except Fault Datum)
  | closed (place : Nat) (answer : Except Fault Unit)

structure Noted (σ α : Type) where
  own : σ
  calls : List (Channel.Call α) := []

section
variable {σ α β : Type}

def noting (note : Except Fault β → Channel.Call α) (act : Work σ β) : Work (Noted σ α) β := ExceptT.mk fun s =>
  let (answer, own) := act.run s.own
  (answer, ⟨own, s.calls ++ [note answer]⟩)

theorem run_noting (note : Except Fault β → Channel.Call α) (act : Work σ β) (s : Noted σ α) :
    (noting note act).run s = ((act.run s.own).1, ⟨(act.run s.own).2, s.calls ++ [note (act.run s.own).1]⟩) := rfl

namespace Channel

def noted (place : Nat) (c : Channel (Work σ) α) : Channel (Work (Noted σ α)) α where
  send batch := noting (.sent place batch) (c.send batch)
  flush := c.flush.map fun flush timeout => noting (.flushed place timeout) (flush timeout)
  close := noting (.closed place) c.close

def notedFrom (place : Nat) : List (Channel (Work σ) α) → List (Channel (Work (Noted σ α)) α)
  | [] => []
  | c :: cs => c.noted place :: notedFrom (place + 1) cs

theorem notedFrom_append (as bs : List (Channel (Work σ) α)) : ∀ place,
    notedFrom place (as ++ bs) = notedFrom place as ++ notedFrom (place + as.length) bs := by
  induction as with
  | nil => intro place; rfl
  | cons a as ih =>
    intro place
    rw [List.cons_append, notedFrom, notedFrom, ih, List.length_cons, List.cons_append]
    simp only [Nat.add_assoc, Nat.add_comm 1]

def round (note : Nat → Except Fault β → Call α) (place : Nat) (answers : List (Except Fault β)) : List (Call α) :=
  (answers.zipIdx place).map fun e => note e.2 e.1

theorem round_cons (note : Nat → Except Fault β → Call α) (place : Nat) (answer : Except Fault β)
    (answers : List (Except Fault β)) :
    round note place (answer :: answers) = note place answer :: round note (place + 1) answers := rfl

/-- A round reaches every delegate, or it ends with the first that raises. -/
inductive Round (note : Nat → Except Fault β → Call α) (place delegates : Nat) :
    List (Call α) → Except Fault (List β) → Prop
  | whole (answers : List β) : answers.length = delegates →
    Round note place delegates (round note place (answers.map .ok)) (.ok answers)
  | cut (answers : List β) (f : Fault) : answers.length < delegates →
    Round note place delegates (round note place (answers.map .ok ++ [.error f])) (.error f)

theorem run_round (note : Nat → Except Fault β → Call α) (op : Channel (Work σ) α → Work σ β)
    (op' : Channel (Work (Noted σ α)) α → Work (Noted σ α) β)
    (h : ∀ place c, op' (c.noted place) = noting (note place) (op c)) :
    ∀ (cs : List (Channel (Work σ) α)) (place : Nat) (s : Noted σ α), ∃ calls r own,
      ((notedFrom place cs).mapM op').run s = (r, ⟨own, s.calls ++ calls⟩) ∧ Round note place cs.length calls r
  | [], place, s => by
    refine ⟨[], .ok [], s.own, ?_, .whole [] rfl⟩
    rw [List.append_nil]
    rfl
  | c :: cs, place, s => by
    rw [notedFrom, List.mapM_cons, run_bind_state, h]
    cases ha : (op c).run s.own with
    | mk answer own =>
      rw [run_noting, ha]
      cases answer with
      | error f => exact ⟨_, _, own, rfl, .cut [] f (Nat.succ_pos _)⟩
      | ok b =>
        obtain ⟨calls, r, own', hr, hround⟩ := run_round note op op' h cs (place + 1) ⟨own, s.calls ++ [note place (.ok b)]⟩
        simp only [run_bind_state, hr]
        cases hround with
        | whole answers hl =>
          refine ⟨_, .ok (b :: answers), own', ?_, .whole (b :: answers) (by rw [List.length_cons, hl, List.length_cons])⟩
          rw [List.append_assoc]
          rfl
        | cut answers f hl =>
          refine ⟨_, .error f, own', ?_, .cut (b :: answers) f ?_⟩
          · rw [List.append_assoc]
            rfl
          · rw [List.length_cons, List.length_cons]
            omega

end Channel

/-! ## Fan-outs of fan-outs, and rounds that are cut short -/

section
variable (as bs cs : List (Channel (Work σ) α))

open Channel (notedFrom)

/-- A fan-out over two fan-outs makes the calls of one fan-out over the delegates of both, in the same order and
with the same answers, and returns or raises what it does. A fan-out over no delegates makes no call, and next to
another one it changes nothing. -/
theorem fanOut_flattens :
    fanOut [fanOut (notedFrom 0 as), fanOut (notedFrom as.length bs)] = fanOut (notedFrom 0 (as ++ bs)) ∧
    fanOut [fanOut [], fanOut (notedFrom 0 as)] = fanOut (notedFrom 0 as) ∧
    fanOut [fanOut (notedFrom 0 as), fanOut []] = fanOut (notedFrom 0 as) ∧
    fanOut ([] : List (Channel (Work (Noted σ α)) α)) =
      ⟨fun _ => pure .success, some fun _ => pure (.bool true), pure ()⟩ := by
  refine ⟨?_, ?_, ?_, rfl⟩
  · have h := fanOut_map_fanOut [notedFrom 0 as, notedFrom as.length bs]
    rw [Channel.notedFrom_append, Nat.zero_add]
    simpa using h
  · have h := fanOut_map_fanOut [[], notedFrom 0 as]
    simpa using h
  · have h := fanOut_map_fanOut [notedFrom 0 as, []]
    simpa using h

theorem run_send_fanOut (batch : List α) (place : Nat) (s : Noted σ α) : ∃ calls r own,
    ((fanOut (notedFrom place cs)).send batch).run s = (r.map Outcome.verdict, ⟨own, s.calls ++ calls⟩) ∧
      Channel.Round (.sent · batch) place cs.length calls r := by
  obtain ⟨calls, r, own, hr, hround⟩ := Channel.run_round (.sent · batch) (·.send batch) (·.send batch) (fun _ _ => rfl) cs place s
  refine ⟨calls, r, own, ?_, hround⟩
  rw [send_fanOut, run_bind_state, hr]
  cases r with
  | ok outcomes => rfl
  | error f => rfl

theorem run_close_fanOut (place : Nat) (s : Noted σ α) : ∃ calls r own,
    (fanOut (notedFrom place cs)).close.run s = (r.map fun _ => (), ⟨own, s.calls ++ calls⟩) ∧
      Channel.Round .closed place cs.length calls r := by
  obtain ⟨calls, r, own, hr, hround⟩ := Channel.run_round .closed Channel.close Channel.close (fun _ _ => rfl) cs place s
  refine ⟨calls, r, own, ?_, hround⟩
  rw [close_fanOut, run_bind_state, hr]
  cases r with
  | ok units => rfl
  | error f => rfl

/-- A batch, and likewise closing, comes to every delegate once and in order, up to the first that raises: what
that one raises comes of the whole, and those behind it are not called. If none raises, the batch has succeeded
if it has succeeded everywhere. -/
theorem round_ends_with_raise (batch : List α) (s : Noted σ α) :
    (∃ calls r own, ((fanOut (notedFrom 0 cs)).send batch).run s = (r.map Outcome.verdict, ⟨own, s.calls ++ calls⟩) ∧
      Channel.Round (.sent · batch) 0 cs.length calls r) ∧
    ∃ calls r own, (fanOut (notedFrom 0 cs)).close.run s = (r.map fun _ => (), ⟨own, s.calls ++ calls⟩) ∧
      Channel.Round .closed 0 cs.length calls r :=
  ⟨run_send_fanOut cs batch 0 s, run_close_fanOut cs 0 s⟩

end

namespace Channel

def broken (f : Fault) : Channel (Work σ) α := ⟨fun _ => throw f, none, throw f⟩

def working : Channel (Work σ) α := ⟨fun _ => pure .success, none, pure ()⟩

end Channel

/-- One broken exporter keeps a batch and the closing from the exporter behind it. -/
theorem broken_hides_next :
    let f : Fault := .raised "RuntimeError" "broken" false
    let both : Channel (Work (Noted Unit Item)) Item := fanOut (Channel.notedFrom 0 [.broken f, .working])
    (both.send []).run ⟨(), []⟩ = (.error f, ⟨(), [.sent 0 [] (.error f)]⟩) ∧
      both.close.run ⟨(), []⟩ = (.error f, ⟨(), [.closed 0 (.error f)]⟩) :=
  ⟨rfl, rfl⟩

end

end Telemetry
