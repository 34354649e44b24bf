import Telemetry.Proofs.Exporter.Metering

/-! # Exports that raise

A metered exporter hands on what it is given and counts what comes back. An export that raises ends before it
is counted, so its items are in no point, and the points fall short of what was handed over by just these. -/

namespace Telemetry

/-! ## Items by the way they are counted -/

namespace Export

theorem amount_all (es : List Export) :
    amount es none + (amount es (some false) + amount es (some true)) = (es.map Export.batch).flatten.length := by
  induction es with
  | nil => rfl
  | cons e es ih =>
    rw [amount_cons, amount_cons, amount_cons, List.map_cons, List.flatten_cons, List.length_append, ← ih]
    cases e.counted? with
    | none => simp; omega
    | some succeeded => cases succeeded <;> simp <;> omega

theorem amount_eq_zero_iff (es : List Export) (way : Option Bool) :
    amount es way = 0 ↔ ∀ e ∈ es, e.counted? = way → e.batch = [] := by
  rw [amount, List.length_eq_zero_iff, List.flatMap_eq_nil_iff]
  simp only [List.mem_filter, decide_eq_true_eq, and_imp]

def of (batches : List (List Item)) (answers : List (Except Fault Outcome)) : List Export :=
  List.zipWith Export.mk batches answers

theorem map_batch_of : ∀ {batches : List (List Item)} {answers : List (Except Fault Outcome)},
    answers.length = batches.length → (of batches answers).map Export.batch = batches
  | [], _, _ => rfl
  | batch :: batches, answer :: answers, h => by
    have ih := map_batch_of (Nat.succ.inj h)
    rw [of] at ih
    rw [of, List.zipWith_cons_cons, List.map_cons, ih]

end Export

/-! ## Batches through a metered exporter -/

section
variable {W : Outside} (signal : Signal) (c : Channel (Act W) Item)

theorem length_sendEach : ∀ (batches : List (List Item)) (own : W.State),
    ((c.sendEach batches).run own).1.length = batches.length
  | [], _ => rfl
  | batch :: batches, own => by
    rw [Channel.run_sendEach_cons, List.length_cons, length_sendEach batches, List.length_cons]

theorem run_send_metered (batch : List Item) (s : Pipeline W) :
    ((c.live.meter signal).send batch).run s =
      (((c.send batch).run s.own).1,
        ⟨((c.send batch).run s.own).2, Export.count signal ⟨batch, ((c.send batch).run s.own).1⟩ s.counters⟩) := by
  have hl : (c.live.send batch).run s = (((c.send batch).run s.own).1, { s with own := ((c.send batch).run s.own).2 }) :=
    Act.run_live (c.send batch) s
  rw [Channel.run_meter, hl]
  cases (c.send batch).run s.own with
  | mk answer own =>
    cases answer with
    | ok outcome => rfl
    | error f => rfl

theorem run_sendEach_metered : ∀ (batches : List (List Item)) (s : Pipeline W),
    ((c.live.meter signal).sendEach batches).run s =
      (((c.sendEach batches).run s.own).1,
        ⟨((c.sendEach batches).run s.own).2,
          Export.countAll signal (Export.of batches ((c.sendEach batches).run s.own).1) s.counters⟩)
  | [], _ => rfl
  | batch :: batches, s => by
    rw [Channel.run_sendEach_cons, Channel.run_sendEach_cons, run_send_metered, run_sendEach_metered batches]
    rfl

/-- Batches are sent one after the other through a metered exporter, whatever it does with them. It answers and
raises as it would by itself. The points are the items of the exports that succeeded and of those that returned
something else. The items of those that raised are missing from their sum, so that it is what was handed over
only if these had none. -/
theorem raised_uncounted (batches : List (List Item)) (own : W.State) :
    let answers := ((c.sendEach batches).run own).1
    let es := Export.of batches answers
    ∃ s, ((c.live.meter signal).sendEach batches).run ⟨own, {}⟩ = (answers, s) ∧
      s.own = ((c.sendEach batches).run own).2 ∧ es.map Export.batch = batches ∧
      (s.counters.counter signal).points =
        (({} : Counters).counter signal).pointsIfAny (fun flag => Export.amount es (some flag)) ∧
      (∃ counted : Nat, (s.counters.counter signal).sum = .whole counted ∧
        Export.amount es none + counted = batches.flatten.length) ∧
      ((s.counters.counter signal).sum = .whole batches.flatten.length ↔
        ∀ e ∈ es, e.counted? = none → e.batch = []) := by
  intro answers es
  have hbatches : es.map Export.batch = batches := Export.map_batch_of (length_sendEach c batches own)
  have hstands := Export.stands_countAll es (Counters.stands_counter signal)
  simp only [Nat.zero_add] at hstands
  have hall := Export.amount_all es
  rw [hbatches] at hall
  refine ⟨_, run_sendEach_metered signal c batches ⟨own, {}⟩, rfl, hbatches, ?_, ⟨_, hstands.counted.sum, hall⟩, ?_⟩
  · rw [hstands.points, Export.pointsIfAny_countAll]
  · rw [hstands.counted.sum, ← Export.amount_eq_zero_iff, Quantity.whole.injEq, Int.natCast_inj]
    omega

end

/-- The item of an export that raises is in no point. -/
theorem broken_uncounted :
    let f : Fault := .raised "RuntimeError" "broken" false
    let run := (((Channel.broken f : Channel (Act .void) Item).live.meter .traces).sendEach [[.record .null]]).run ⟨(), {}⟩
    run.1 = [.error f] ∧ (run.2.counters.counter .traces).points = [] :=
  ⟨rfl, rfl⟩

end Telemetry
