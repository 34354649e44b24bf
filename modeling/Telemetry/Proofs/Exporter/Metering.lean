import Telemetry.Proofs.Assembly.Builtin
import Telemetry.Proofs.Exporter.FanOut
import Telemetry.Proofs.Processor.Configured

/-! # What a metered fan-out counts

Batches are exported one after the other through a metered fan-out, as the channel of a batch processor is
one. As long as no delegate raises, each delegate is handed every batch, and the two points of the counter
are the lengths of the batches that succeeded everywhere and of the others. How the items are cut into
batches makes no difference to what a delegate is handed in all, nor to the sum of the points. -/

namespace Telemetry

/-! ## Calls -/

namespace Channel
variable {α β : Type}

def Call.raised : Call α → Bool
  | .sent _ _ (.ok _) | .flushed _ _ (.ok _) | .closed _ (.ok _) => false
  | _ => true

def Call.handed? (place : Nat) : Call α → Option (List α)
  | .sent i batch _ => if i = place then some batch else none
  | _ => none

def received (place : Nat) (calls : List (Call α)) : List (List α) := calls.filterMap (Call.handed? place)

theorem received_round (batch : List α) (place : Nat) : ∀ (answers : List (Except Fault Outcome)) (start : Nat),
    received place (round (.sent · batch) start answers) =
      if start ≤ place ∧ place < start + answers.length then [batch] else []
  | [], start => by
    have h : ¬ (start ≤ place ∧ place < start + 0) := by omega
    rw [List.length_nil, if_neg h]
    rfl
  | answer :: answers, start => by
    have ih := received_round batch place answers (start + 1)
    rw [round_cons, List.length_cons]
    unfold received at ih ⊢
    by_cases h : start = place
    · have hh : (Call.sent start batch answer).handed? place = some batch := if_pos h
      have h₁ : ¬ (start + 1 ≤ place ∧ place < start + 1 + answers.length) := by omega
      have h₂ : start ≤ place ∧ place < start + (answers.length + 1) := by omega
      rw [List.filterMap_cons_some hh, ih, if_neg h₁, if_pos h₂]
    · have hh : (Call.sent start batch answer).handed? place = none := if_neg h
      have hiff : (start + 1 ≤ place ∧ place < start + 1 + answers.length) ↔
          (start ≤ place ∧ place < start + (answers.length + 1)) := by omega
      rw [List.filterMap_cons_none hh, ih]
      simp only [hiff]

theorem Round.raised {batch : List α} {place delegates : Nat} {calls : List (Call α)} {f : Fault}
    (h : Round (.sent · batch) place delegates calls (.error f)) : ∃ call ∈ calls, call.raised = true := by
  cases h with
  | cut answers =>
    refine ⟨.sent (place + answers.length) batch (.error f), ?_, rfl⟩
    unfold round
    rw [List.zipIdx_append, List.map_append]
    simp

end Channel

/-! ## Counters -/

namespace ProcessedCounter
variable {c : ProcessedCounter} {amount : Bool → Nat}

/-- The totals are these amounts, and none has begun without one. -/
def Stands (c : ProcessedCounter) (amount : Bool → Nat) : Prop :=
  ∀ flag, c.totals.get? flag = if amount flag = 0 then none else some ⟨.whole 0, .whole (amount flag)⟩

theorem Stands.total (h : c.Stands amount) (flag : Bool) : c.total flag = ⟨.whole 0, .whole (amount flag)⟩ := by
  rw [ProcessedCounter.total, h flag]
  by_cases ha : amount flag = 0
  · rw [ha]
    rfl
  · rw [if_neg ha]
    rfl

theorem Stands.add (h : c.Stands amount) (k : Nat) (succeeded : Bool) :
    (c.add (.whole k) succeeded).Stands fun flag => amount flag + if flag = succeeded then k else 0 := by
  intro flag
  by_cases hk : k = 0
  · subst hk
    simp only [ite_self, Nat.add_zero]
    exact h flag
  · have hz : (Quantity.whole k).isZero = false := by simpa [Quantity.isZero] using hk
    unfold ProcessedCounter.add
    rw [hz, if_neg Bool.false_ne_true]
    by_cases hf : flag = succeeded
    · subst hf
      have hne : amount flag + k ≠ 0 := by omega
      simp only [OrderedMap.get?_insert_self, if_true, hne, if_false, h.total flag, Total.add, Quantity.add,
        Int.natCast_add]
    · simp only [OrderedMap.get?_insert_of_ne _ hf, if_neg hf, Nat.add_zero, h flag]

def pointIfAny (c : ProcessedCounter) (attributes : List (String × String)) (amount : Nat) : List Point :=
  if amount = 0 then [] else [⟨c.metric, c.unit, description, attributes, .whole amount⟩]

theorem Stands.pointOf (h : c.Stands amount) (attributes : List (String × String)) (flag : Bool) :
    c.pointOf attributes flag = c.pointIfAny attributes (amount flag) := by
  unfold ProcessedCounter.pointOf pointIfAny
  rw [h flag]
  by_cases ha : amount flag = 0
  · rw [if_pos ha, if_pos ha]
  · rw [if_neg ha, if_neg ha]
    simp [Total.value, Quantity.add]

def pointsIfAny (c : ProcessedCounter) (amount : Bool → Nat) : List Point :=
  c.pointIfAny [("error.type", "export_failed"), ("otel.component.type", c.component)] (amount false) ++
    c.pointIfAny [("otel.component.type", c.component)] (amount true)

theorem Stands.points (h : c.Stands amount) : c.points = c.pointsIfAny amount :=
  congrArg₂ (· ++ ·) (h.pointOf _ false) (h.pointOf _ true)

theorem pointsIfAny_add (c : ProcessedCounter) (q : Quantity) (succeeded : Bool) :
    (c.add q succeeded).pointsIfAny = c.pointsIfAny := by
  unfold ProcessedCounter.add
  split
  · rfl
  · rfl

theorem Stands.counted (h : c.Stands amount) : c.Counted (amount false + amount true) :=
  ⟨amount false, amount true, rfl, h.total false, h.total true⟩

end ProcessedCounter

/-! ## Exports -/

section
variable {W : Outside}

abbrev Outside.noted (W : Outside) : Outside := { W with State := Noted W.State Item }

theorem Act.run_live {α : Type} (act : Act W α) (s : Pipeline W) :
    (Act.live act).run s = ((act.run s.own).1, { s with own := (act.run s.own).2 }) := rfl

theorem Act.mapM_live {ι α : Type} (act : ι → Act W α) : ∀ (xs : List ι) (s : Pipeline W),
    (xs.mapM fun x => Act.live (act x)).run s =
      (((xs.mapM act).run s.own).1, { s with own := ((xs.mapM act).run s.own).2 })
  | [], s => rfl
  | x :: xs, s => by
    have ih := Act.mapM_live act xs
    simp only [List.mapM_cons, run_bind_state, Act.run_live]
    cases ha : (act x).run s.own with
    | mk r own =>
      cases r with
      | error f => rfl
      | ok a =>
        simp only [ih]
        cases hb : (xs.mapM act).run own with
        | mk r own =>
          cases r with
          | error f => rfl
          | ok as => rfl

def Channel.live (c : Channel (Act W) Item) : Wire W := c.lift Act.live

theorem run_send_live (cs : List (Channel (Act W) Item)) (batch : List Item) (s : Pipeline W) :
    ((fanOut (cs.map Channel.live)).send batch).run s =
      ((((fanOut cs).send batch).run s.own).1, { s with own := (((fanOut cs).send batch).run s.own).2 }) := by
  have hm : (cs.map Channel.live).mapM (·.send batch) = cs.mapM fun c => Act.live (c.send batch) := List.mapM_map
  rw [send_fanOut, send_fanOut, run_bind_state, run_bind_state, hm, Act.mapM_live]
  generalize (cs.mapM fun c : Channel (Act W) Item => c.send batch).run s.own = x
  obtain ⟨r, own⟩ := x
  cases r with
  | ok outcomes => rfl
  | error f => rfl

def Channel.meteredOver (signal : Signal) (delegates : List (Channel (Act W) Item)) : Wire W.noted :=
  (fanOut ((notedFrom 0 delegates).map (live (W := W.noted)))).meter signal

def Channel.sendEach {σ α : Type} (c : Channel (Work σ) α) : List (List α) → StateM σ (List (Except Fault Outcome))
  | [] => return []
  | batch :: rest => do
    let result ← (c.send batch).run
    return result :: (← sendEach c rest)

theorem Channel.run_sendEach_cons {σ α : Type} (c : Channel (Work σ) α) (batch : List α) (rest : List (List α)) (s : σ) :
    (c.sendEach (batch :: rest)).run s =
      (((c.send batch).run s).1 :: ((c.sendEach rest).run ((c.send batch).run s).2).1,
        ((c.sendEach rest).run ((c.send batch).run s).2).2) := rfl

theorem Counters.stands_counter (signal : Signal) : (({} : Counters).counter signal).Stands fun _ => 0 := by
  intro flag
  cases signal <;> rfl

theorem Outcome.succeeded_verdict (outcomes : List Outcome) : (verdict outcomes).succeeded = outcomes.all succeeded := by
  unfold verdict
  cases outcomes.all succeeded <;> rfl

structure Export where
  batch : List Item
  answer : Except Fault Outcome

namespace Export
variable {signal : Signal}

/-- Whether the items are counted as exported or as failed. If the export has raised they are not counted. -/
def counted? (e : Export) : Option Bool :=
  match e.answer with
  | .ok outcome => some outcome.succeeded
  | .error _ => none

def amount (es : List Export) (way : Option Bool) : Nat :=
  ((es.filter fun e => e.counted? = way).flatMap Export.batch).length

theorem amount_cons (e : Export) (es : List Export) (way : Option Bool) :
    amount (e :: es) way = (if e.counted? = way then e.batch.length else 0) + amount es way := by
  unfold amount
  by_cases h : e.counted? = way
  · simp [h]
  · simp [h]

def count (signal : Signal) (e : Export) (counters : Counters) : Counters :=
  match e.counted? with
  | some succeeded => counters.add signal e.batch.length succeeded
  | none => counters

theorem stands_count (e : Export) {counters : Counters} {before : Bool → Nat} (h : (counters.counter signal).Stands before) :
    ((e.count signal counters).counter signal).Stands
      fun flag => before flag + if e.counted? = some flag then e.batch.length else 0 := by
  unfold count
  cases e.counted? with
  | none => simpa using h
  | some succeeded =>
    have hadd := h.add e.batch.length succeeded
    rw [← Counters.counter_add] at hadd
    simpa only [Option.some.injEq, eq_comm] using hadd

theorem pointsIfAny_count (e : Export) (counters : Counters) :
    ((e.count signal counters).counter signal).pointsIfAny = (counters.counter signal).pointsIfAny := by
  unfold count
  cases e.counted? with
  | none => rfl
  | some succeeded =>
    show ((counters.add signal e.batch.length succeeded).counter signal).pointsIfAny = _
    rw [Counters.counter_add, ProcessedCounter.pointsIfAny_add]

def countAll (signal : Signal) (es : List Export) (counters : Counters) : Counters :=
  es.foldl (fun counters e => e.count signal counters) counters

theorem pointsIfAny_countAll : ∀ (es : List Export) (counters : Counters),
    ((countAll signal es counters).counter signal).pointsIfAny = (counters.counter signal).pointsIfAny
  | [], _ => rfl
  | e :: es, counters => (pointsIfAny_countAll es _).trans (pointsIfAny_count e counters)

theorem stands_countAll : ∀ (es : List Export) {counters : Counters} {before : Bool → Nat},
    (counters.counter signal).Stands before →
      ((countAll signal es counters).counter signal).Stands fun flag => before flag + amount es (some flag)
  | [], _, _, h => h
  | e :: es, counters, before, h => by
    have ih := stands_countAll es (stands_count e h)
    simp only [Nat.add_assoc, ← amount_cons] at ih
    exact ih

end Export

structure Sending where
  batch : List Item
  outcomes : List Outcome

namespace Sending

def succeeded (e : Sending) : Bool := e.outcomes.all Outcome.succeeded

def calls (e : Sending) : List (Channel.Call Item) :=
  Channel.round (.sent · e.batch) 0 (e.outcomes.map .ok)

def amount (es : List Sending) (flag : Bool) : Nat :=
  ((es.filter fun e => e.succeeded = flag).flatMap Sending.batch).length

theorem amount_cons (e : Sending) (es : List Sending) (flag : Bool) :
    amount (e :: es) flag = (if e.succeeded = flag then e.batch.length else 0) + amount es flag := by
  unfold amount
  by_cases h : e.succeeded = flag
  · simp [h]
  · simp [h]

theorem amount_all (es : List Sending) :
    amount es false + amount es true = (es.map Sending.batch).flatten.length := by
  induction es with
  | nil => rfl
  | cons e es ih =>
    rw [amount_cons, amount_cons, List.map_cons, List.flatten_cons, List.length_append, ← ih]
    cases e.succeeded <;> simp <;> omega

def asExport (e : Sending) : Export := ⟨e.batch, .ok (.verdict e.outcomes)⟩

theorem counted?_asExport (e : Sending) : e.asExport.counted? = some e.succeeded :=
  congrArg some (Outcome.succeeded_verdict e.outcomes)

theorem amount_asExport (es : List Sending) (flag : Bool) : Export.amount (es.map asExport) (some flag) = amount es flag := by
  unfold Export.amount amount
  rw [List.filter_map, List.flatMap_map]
  simp only [Function.comp_def, counted?_asExport, Option.some.injEq]
  rfl

theorem received_calls (es : List Sending) (place : Nat) (h : ∀ e ∈ es, place < e.outcomes.length) :
    Channel.received place (es.flatMap calls) = es.map Sending.batch := by
  induction es with
  | nil => rfl
  | cons e es ih =>
    obtain ⟨he, h⟩ := List.forall_mem_cons.mp h
    have hr := Channel.received_round e.batch place (e.outcomes.map .ok) 0
    rw [List.length_map, Nat.zero_add, if_pos ⟨Nat.zero_le _, he⟩] at hr
    rw [List.flatMap_cons, List.map_cons, ← ih h]
    unfold Channel.received at hr ⊢
    rw [List.filterMap_append]
    exact congrArg (· ++ _) hr

end Sending

section
variable (signal : Signal) (delegates : List (Channel (Act W) Item))

theorem run_meteredOver (batch : List Item) (s : Pipeline W.noted) : ∃ calls r own,
    Channel.Round (.sent · batch) 0 delegates.length calls r ∧
    ((Channel.meteredOver signal delegates).send batch).run s = match r with
      | .ok outcomes => (.ok (.verdict outcomes),
          ⟨⟨own, s.own.calls ++ calls⟩, s.counters.add signal batch.length (outcomes.all Outcome.succeeded)⟩)
      | .error f => (.error f, ⟨⟨own, s.own.calls ++ calls⟩, s.counters⟩) := by
  obtain ⟨calls, r, own, hr, hround⟩ := run_send_fanOut delegates batch 0 s.own
  refine ⟨calls, r, own, hround, ?_⟩
  have hl := run_send_live (W := W.noted) (Channel.notedFrom 0 delegates) batch s
  rw [hr] at hl
  rw [Channel.meteredOver, Channel.run_meter, hl]
  cases r with
  | error f => rfl
  | ok outcomes =>
    show (Except.ok (Outcome.verdict outcomes), _) = (Except.ok (Outcome.verdict outcomes), _)
    rw [Outcome.succeeded_verdict]

def Sending.countAll (es : List Sending) (counters : Counters) : Counters :=
  es.foldl (fun counters e => counters.add signal e.batch.length e.succeeded) counters

theorem run_sendEach : ∀ (batches : List (List Item)) (s : Pipeline W.noted), ∃ results own calls counters,
    ((Channel.meteredOver signal delegates).sendEach batches).run s = (results, ⟨⟨own, s.own.calls ++ calls⟩, counters⟩) ∧
    ((∀ call ∈ calls, call.raised = false) → ∃ es : List Sending,
      es.map Sending.batch = batches ∧ (∀ e ∈ es, e.outcomes.length = delegates.length) ∧
      results = es.map (fun e => .ok (.verdict e.outcomes)) ∧ calls = es.flatMap Sending.calls ∧
      counters = Sending.countAll signal es s.counters)
  | [], s => by
    refine ⟨[], s.own.own, [], s.counters, ?_, fun _ => ⟨[], rfl, nofun, rfl, rfl, rfl⟩⟩
    rw [List.append_nil]
    rfl
  | batch :: batches, s => by
    obtain ⟨calls, r, own, hround, hr⟩ := run_meteredOver signal delegates batch s
    rw [Channel.run_sendEach_cons, hr]
    cases r with
    | error f =>
      -- A delegate has raised, so that there is nothing to show about the counters.
      obtain ⟨results, own', more, counters, hr', -⟩ := run_sendEach batches ⟨⟨own, s.own.calls ++ calls⟩, s.counters⟩
      refine ⟨.error f :: results, own', calls ++ more, counters, ?_, fun hn => ?_⟩
      · rw [hr', List.append_assoc]
      · obtain ⟨call, hm, hc⟩ := hround.raised
        cases hc.symm.trans (hn call (List.mem_append_left _ hm))
    | ok outcomes =>
      obtain ⟨results, own', more, counters, hr', hn'⟩ := run_sendEach batches
        ⟨⟨own, s.own.calls ++ calls⟩, s.counters.add signal batch.length (outcomes.all Outcome.succeeded)⟩
      refine ⟨.ok (.verdict outcomes) :: results, own', calls ++ more, counters, ?_, fun hn => ?_⟩
      · rw [hr', List.append_assoc]
      · obtain ⟨es, rfl, hl, rfl, rfl, rfl⟩ := hn' fun call hm => hn call (List.mem_append_right _ hm)
        cases hround with
        | whole _ hw => exact ⟨⟨batch, outcomes⟩ :: es, rfl, List.forall_mem_cons.mpr ⟨hw, hl⟩, rfl, rfl, rfl⟩

variable {signal delegates}

theorem Sending.countAll_eq (es : List Sending) (counters : Counters) :
    countAll signal es counters = Export.countAll signal (es.map asExport) counters := by
  unfold countAll Export.countAll
  rw [List.foldl_map]
  simp only [Export.count, counted?_asExport]
  rfl

theorem Sending.pointsIfAny_countAll (es : List Sending) (counters : Counters) :
    ((countAll signal es counters).counter signal).pointsIfAny = (counters.counter signal).pointsIfAny := by
  rw [countAll_eq, Export.pointsIfAny_countAll]

theorem Sending.stands_countAll (es : List Sending) {counters : Counters} {before : Bool → Nat}
    (h : (counters.counter signal).Stands before) :
    ((countAll signal es counters).counter signal).Stands fun flag => before flag + amount es flag := by
  rw [countAll_eq]
  simpa only [amount_asExport] using Export.stands_countAll (es.map asExport) h

structure Sending.Explains (signal : Signal) (delegates : Nat) (batches : List (List Item))
    (results : List (Except Fault Outcome)) (s : Pipeline W.noted) (es : List Sending) : Prop where
  sent : es.map Sending.batch = batches
  outcomes : ∀ e ∈ es, e.outcomes.length = delegates
  calls : s.own.calls = es.flatMap Sending.calls
  results : results = es.map fun e => .ok (.verdict e.outcomes)
  handed : ∀ place < delegates, Channel.received place s.own.calls = batches
  points : (s.counters.counter signal).points = (({} : Counters).counter signal).pointsIfAny (amount es)
  sum : (s.counters.counter signal).sum = .whole batches.flatten.length

section
variable {own : W.State} {batches : List (List Item)} {results : List (Except Fault Outcome)} {s : Pipeline W.noted}
  (hr : ((Channel.meteredOver signal delegates).sendEach batches).run ⟨⟨own, []⟩, {}⟩ = (results, s))
  (hn : ∀ call ∈ s.own.calls, call.raised = false)
include hr hn

theorem exists_explains : ∃ es, Sending.Explains signal delegates.length batches results s es := by
  obtain ⟨_, own', calls, _, hr', hq⟩ := run_sendEach signal delegates batches ⟨⟨own, []⟩, {}⟩
  rw [hr] at hr'
  cases hr'
  obtain ⟨es, hb, hl, hres, hcalls, rfl⟩ := hq hn
  have hstands := Sending.stands_countAll es (Counters.stands_counter signal)
  simp only [Nat.zero_add] at hstands
  refine ⟨es, hb, hl, hcalls, hres, fun place hp => ?_, ?_, ?_⟩
  · show Channel.received place ([] ++ calls) = batches
    rw [List.nil_append, hcalls, Sending.received_calls es place fun e he => (hl e he).symm ▸ hp, hb]
  · rw [hstands.points, Sending.pointsIfAny_countAll]
  · rw [hstands.counted.sum, Sending.amount_all, hb]

/-- Batches are sent one after the other through a metered fan-out, and no delegate raises. Every delegate is
handed them, and they are counted. Another way to cut the same items into batches hands each delegate the same
stream, and the points have the same sum. -/
theorem metered_counts_items :
    (∃ es, Sending.Explains signal delegates.length batches results s es) ∧
      ∀ own' batches' results' s', batches'.flatten = batches.flatten →
        ((Channel.meteredOver signal delegates).sendEach batches').run ⟨⟨own', []⟩, {}⟩ = (results', s') →
        (∀ call ∈ s'.own.calls, call.raised = false) →
          (∀ place < delegates.length,
            (Channel.received place s'.own.calls).flatten = (Channel.received place s.own.calls).flatten) ∧
          (s'.counters.counter signal).sum = (s.counters.counter signal).sum := by
  obtain ⟨es, he⟩ := exists_explains hr hn
  refine ⟨⟨es, he⟩, fun own' batches' results' s' hf hr' hn' => ?_⟩
  obtain ⟨es', he'⟩ := exists_explains hr' hn'
  refine ⟨fun place hp => ?_, ?_⟩
  · rw [he.handed place hp, he'.handed place hp, hf]
  · rw [he.sum, he'.sum, hf]

end

end

/-- The channel of a batch processor is a metered fan-out, if its exporters are noted. -/
theorem BatchProcessor.channel_eq_meteredOver {host : Host W.noted} {b : BatchProcessor W.noted.Exporter W.noted.Thing}
    {exporters : List (Exporter W.noted.Exporter)} {delegates : List (Channel (Act W) Item)}
    (he : b.exporters = exporters.map .proper) (hc : exporters.map host.channel = Channel.notedFrom 0 delegates) :
    b.channel host = Channel.meteredOver b.signal delegates := by
  have hl : b.exporters.map host.liveChannel = (Channel.notedFrom 0 delegates).map (Channel.live (W := W.noted)) := by
    rw [he, ← hc, List.map_map, List.map_map]
    rfl
  rw [BatchProcessor.channel, hl]
  rfl

namespace Channel

def picky : Channel (Act .void) Item where
  send batch := pure (if batch.length = 1 then .success else .other (.bool true))
  flush := none
  close := pure ()

def pickyRun (batches : List (List Item)) : List (Except Fault Outcome) × Pipeline (Outside.void).noted :=
  ((meteredOver .logs [working, picky]).sendEach batches).run ⟨⟨(), []⟩, {}⟩

theorem pickyRun_counts :
    let cut : List (List Item) := [[], [.record (.int 1)], [.record (.int 2), .record (.int 3)]]
    let cut' : List (List Item) := [[.record (.int 1), .record (.int 2)], [.record (.int 3)]]
    (pickyRun cut).1.map Except.toOption = [some .failure, some .success, some .failure] ∧
      ((pickyRun cut).2.counters.counter .logs).points.map Point.value = [.whole 2, .whole 1] ∧
      (∃ es, Sending.Explains .logs 2 cut (pickyRun cut).1 (pickyRun cut).2 es) ∧
      ((pickyRun cut').2.counters.counter .logs).sum = ((pickyRun cut).2.counters.counter .logs).sum := by
  intro cut cut'
  have hn : ∀ call ∈ (pickyRun cut).2.own.calls, call.raised = false := by decide
  have hn' : ∀ call ∈ (pickyRun cut').2.own.calls, call.raised = false := by decide
  obtain ⟨hes, hother⟩ := @metered_counts_items .void .logs [working, picky] () cut _ _ rfl hn
  exact ⟨rfl, rfl, hes, (hother () cut' _ _ rfl rfl hn').2⟩

end Channel

end

end Telemetry
