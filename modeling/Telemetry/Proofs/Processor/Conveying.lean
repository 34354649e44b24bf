import Telemetry.Processor.Running
import Telemetry.Proofs.Distinct

/-! # What channels convey

Something is said about a pipeline: what an exporter has been handed, or what has been counted. A channel
conveys its batches if sending one adds just that batch to what is said, and it spares what is said if
sending changes nothing about it. Neither asks to leave the program. A fan-out conveys through one of its
delegates if those before it return, whatever they return. -/

namespace Telemetry

theorem run_bind_state {σ α β : Type} (act : ExceptT Fault (StateM σ) α) (k : α → ExceptT Fault (StateM σ) β) (s : σ) :
    (act >>= k).run s = match act.run s with
      | (.ok a, s') => (k a).run s'
      | (.error f, s') => (.error f, s') := by
  have h : (act >>= k).run s =
      (fun x : Except Fault α × σ => StateT.run (ExceptT.bindCont k x.1) x.2) (act.run s) := rfl
  rw [h]
  obtain ⟨r, s'⟩ := act.run s
  cases r <;> rfl

abbrev Wire (W : Outside) := Channel (ExceptT Fault (StateM (Pipeline W))) Item

section
variable {W : Outside}

namespace Channel

/-- Sending a batch adds it to what is said, or nothing. It may raise, and then does not ask to leave
the program. -/
structure Sent (Shows : Pipeline W → List Item → Prop) (handed : List Item)
    (x : Except Fault Outcome × Pipeline W) : Prop where
  shows : Shows x.2 handed
  stays : ∀ f, x.1 = .error f → f.exits = false

def Conveys (Shows : Pipeline W → List Item → Prop) (c : Wire W) : Prop :=
  ∀ batch s handed, Shows s handed → Sent Shows (handed ++ batch) ((c.send batch).run s)

def Spares (Shows : Pipeline W → List Item → Prop) (c : Wire W) : Prop :=
  ∀ batch s handed, Shows s handed → Sent Shows handed ((c.send batch).run s)

def Returns (c : Wire W) : Prop := ∀ batch s, ∃ outcome s', (c.send batch).run s = (.ok outcome, s')

section
variable {Shows : Pipeline W → List Item → Prop} {c : Wire W} {cs before after : List (Wire W)}

/-! ## Fan-out -/

theorem run_sendAlso_cons (batch : List Item) (c : Wire W) (cs : List (Wire W)) (soFar : Outcome) (s : Pipeline W) :
    ((c :: cs).foldlM (sendAlso batch) soFar).run s = match (c.send batch).run s with
      | (.ok outcome, s') => (cs.foldlM (sendAlso batch) (if outcome.succeeded then soFar else .failure)).run s'
      | (.error f, s') => (.error f, s') := by
  rw [List.foldlM_cons, run_bind_state, sendAlso, run_bind_state]
  obtain ⟨r, s'⟩ := (c.send batch).run s
  cases r with
  | ok outcome => rfl
  | error f => rfl

theorem spared_sendAlso {batch handed : List Item} : ∀ {cs : List (Wire W)}, (∀ c ∈ cs, c.Spares Shows) →
    ∀ (soFar : Outcome) (s : Pipeline W), Shows s handed →
      Sent Shows handed ((cs.foldlM (sendAlso batch) soFar).run s)
  | [], _, _, _, hs => ⟨hs, nofun⟩
  | c :: cs, h, soFar, s, hs => by
    obtain ⟨hc, h⟩ := List.forall_mem_cons.mp h
    rw [run_sendAlso_cons]
    have hx := hc batch s handed hs
    revert hx
    obtain ⟨r, s'⟩ := (c.send batch).run s
    intro hx
    cases r with
    | ok outcome => exact spared_sendAlso h _ s' hx.shows
    | error f => exact ⟨hx.shows, hx.stays⟩

theorem spares_fanOut (h : ∀ c ∈ cs, c.Spares Shows) : Spares Shows (fanOut cs) :=
  fun _ s _ hs => spared_sendAlso h .success s hs

theorem conveyed_sendAlso {batch handed : List Item} (hc : c.Conveys Shows) (ha : ∀ c ∈ after, c.Spares Shows) :
    ∀ {before : List (Wire W)}, (∀ c ∈ before, c.Spares Shows ∧ c.Returns) →
    ∀ (soFar : Outcome) (s : Pipeline W), Shows s handed →
      Sent Shows (handed ++ batch) (((before ++ c :: after).foldlM (sendAlso batch) soFar).run s)
  | [], _, soFar, s, hs => by
    rw [List.nil_append, run_sendAlso_cons]
    have hx := hc batch s handed hs
    revert hx
    obtain ⟨r, s'⟩ := (c.send batch).run s
    intro hx
    cases r with
    | ok outcome => exact spared_sendAlso ha _ s' hx.shows
    | error f => exact ⟨hx.shows, hx.stays⟩
  | d :: before, h, soFar, s, hs => by
    obtain ⟨⟨hd, hr⟩, h⟩ := List.forall_mem_cons.mp h
    obtain ⟨outcome, s', hr⟩ := hr batch s
    have hx := hd batch s handed hs
    rw [hr] at hx
    rw [List.cons_append, run_sendAlso_cons, hr]
    exact conveyed_sendAlso hc ha h _ s' hx.shows

theorem conveys_fanOut (hb : ∀ c ∈ before, c.Spares Shows ∧ c.Returns) (hc : c.Conveys Shows)
    (ha : ∀ c ∈ after, c.Spares Shows) : Conveys Shows (fanOut (before ++ c :: after)) :=
  fun _ s _ hs => conveyed_sendAlso hc ha hb .success s hs

theorem returns_sendAlso {batch : List Item} : ∀ {cs : List (Wire W)}, (∀ c ∈ cs, c.Returns) →
    ∀ (soFar : Outcome) (s : Pipeline W), ∃ outcome s', (cs.foldlM (sendAlso batch) soFar).run s = (.ok outcome, s')
  | [], _, soFar, s => ⟨soFar, s, rfl⟩
  | c :: cs, h, soFar, s => by
    obtain ⟨hc, h⟩ := List.forall_mem_cons.mp h
    obtain ⟨outcome, s', hr⟩ := hc batch s
    rw [run_sendAlso_cons, hr]
    exact returns_sendAlso h _ s'

theorem returns_fanOut (h : ∀ c ∈ cs, c.Returns) : Returns (fanOut cs) :=
  fun _ s => returns_sendAlso h .success s

/-! ## Metering -/

def meter (signal : Signal) (c : Wire W) : Wire W :=
  metered (fun amount succeeded => modify fun s => { s with counters := s.counters.add signal amount succeeded }) c

theorem run_meter (signal : Signal) (c : Wire W) (batch : List Item) (s : Pipeline W) :
    ((c.meter signal).send batch).run s = match (c.send batch).run s with
      | (.ok outcome, s') =>
        (.ok outcome, { s' with counters := s'.counters.add signal batch.length outcome.succeeded })
      | (.error f, s') => (.error f, s') := by
  rw [meter, metered, run_bind_state]
  obtain ⟨r, s'⟩ := (c.send batch).run s
  cases r with
  | ok outcome => rfl
  | error f => rfl

def Uncounted (Shows : Pipeline W → List Item → Prop) : Prop :=
  ∀ s counters handed, Shows s handed → Shows { s with counters } handed

def Counting (signal : Signal) (Shows : Pipeline W → List Item → Prop) : Prop :=
  ∀ s (batch : List Item) succeeded handed, Shows s handed →
    Shows { s with counters := s.counters.add signal batch.length succeeded } (handed ++ batch)

section
variable {signal : Signal} {batch handed : List Item} {s : Pipeline W}

theorem Sent.meter (hu : Uncounted Shows) (h : Sent Shows handed ((c.send batch).run s)) :
    Sent Shows handed (((c.meter signal).send batch).run s) := by
  rw [run_meter]
  revert h
  obtain ⟨r, s'⟩ := (c.send batch).run s
  intro h
  cases r with
  | ok outcome => exact ⟨hu s' _ handed h.shows, nofun⟩
  | error f => exact h

theorem Conveys.meter (hu : Uncounted Shows) (h : c.Conveys Shows) : (c.meter signal).Conveys Shows :=
  fun batch s handed hs => (h batch s handed hs).meter hu

theorem Spares.meter (hu : Uncounted Shows) (h : c.Spares Shows) : (c.meter signal).Spares Shows :=
  fun batch s handed hs => (h batch s handed hs).meter hu

theorem Spares.counted (hc : Counting signal Shows) (hr : c.Returns) (h : c.Spares Shows) :
    (c.meter signal).Conveys Shows := by
  intro batch s handed hs
  obtain ⟨outcome, s', hr⟩ := hr batch s
  have hx := h batch s handed hs
  rw [hr] at hx
  rw [run_meter, hr]
  exact ⟨hc s' batch _ handed hx.shows, nofun⟩

end

end

end Channel

/-! ## Exporters -/

namespace Host
variable (host : Host W)

def Stays (e : Exporter W.Exporter) : Prop :=
  ∀ batch own f, (((host.channel e).send batch).run own).1 = .error f → f.exits = false

def Returns (e : Exporter W.Exporter) : Prop :=
  ∀ batch own, ∃ outcome own', ((host.channel e).send batch).run own = (.ok outcome, own')

theorem Returns.stays {host : Host W} {e : Exporter W.Exporter} (h : host.Returns e) : host.Stays e := by
  intro batch own f hf
  obtain ⟨outcome, own', hr⟩ := h batch own
  rw [hr] at hf
  cases hf

/-- The state shows what an exporter has been handed, one batch after the other, and nothing else. -/
structure Watches (e : Exporter W.Exporter) (seen : W.State → List Item) : Prop where
  sent : ∀ batch own, seen (((host.channel e).send batch).run own).2 = seen own ++ batch
  others : ∀ e', e' ≠ e → ∀ batch own, seen (((host.channel e').send batch).run own).2 = seen own

theorem run_liveChannel (e : Exporter W.Exporter) (batch : List Item) (s : Pipeline W) :
    ((host.liveChannel (.proper e)).send batch).run s =
      ((((host.channel e).send batch).run s.own).1, { s with own := (((host.channel e).send batch).run s.own).2 }) :=
  rfl

section
variable {host} {e e' : Exporter W.Exporter} {seen : W.State → List Item} {start : List Item}

def Shown (seen : W.State → List Item) (start : List Item) (s : Pipeline W) (handed : List Item) : Prop :=
  seen s.own = start ++ handed

theorem Watches.conveys (hw : host.Watches e seen) (hs : host.Stays e) :
    (host.liveChannel (.proper e)).Conveys (Shown seen start) := by
  intro batch s handed h
  rw [run_liveChannel]
  refine ⟨?_, hs batch s.own⟩
  exact (hw.sent batch s.own).trans (by rw [h, List.append_assoc])

theorem Watches.spares (hw : host.Watches e seen) (hne : e' ≠ e) (hs : host.Stays e') :
    (host.liveChannel (.proper e')).Spares (Shown seen start) := by
  intro batch s handed h
  rw [run_liveChannel]
  exact ⟨(hw.others e' hne batch s.own).trans h, hs batch s.own⟩

theorem Returns.liveChannel (h : host.Returns e) : (host.liveChannel (.proper e)).Returns := by
  intro batch s
  obtain ⟨outcome, own', hr⟩ := h batch s.own
  refine ⟨outcome, { s with own := own' }, ?_⟩
  rw [run_liveChannel, hr]

theorem uncounted_shown (seen : W.State → List Item) (start : List Item) : Channel.Uncounted (Shown seen start) := fun _ _ _ h => h

theorem Stays.spares {Shows : Pipeline W → List Item → Prop}
    (hu : ∀ s own handed, Shows s handed → Shows { s with own } handed) (h : host.Stays e) :
    (host.liveChannel (.proper e)).Spares Shows := by
  intro batch s handed hs
  rw [run_liveChannel]
  exact ⟨hu s _ handed hs, h batch s.own⟩

end

end Host

/-! ## Counters -/

namespace ProcessedCounter

def sum (c : ProcessedCounter) : Quantity := (c.points.map Point.value).foldl Quantity.add (.whole 0)

/-- A counter has only had whole amounts added to it, and these sum to a number. -/
def Counted (c : ProcessedCounter) (n : Nat) : Prop :=
  ∃ failed passed : Nat, failed + passed = n ∧ c.total false = ⟨.whole 0, .whole failed⟩ ∧
    c.total true = ⟨.whole 0, .whole passed⟩

theorem total_add (c : ProcessedCounter) (amount : Quantity) (succeeded flag : Bool) (h : amount.isZero = false) :
    (c.add amount succeeded).total flag =
      if flag = succeeded then (c.total succeeded).add amount else c.total flag := by
  unfold add
  rw [h, if_neg Bool.false_ne_true]
  by_cases hf : flag = succeeded
  · rw [if_pos hf, total, hf, OrderedMap.get?_insert_self]
    rfl
  · rw [if_neg hf, total, OrderedMap.get?_insert_of_ne _ hf]
    rfl

theorem Counted.add {c : ProcessedCounter} {n : Nat} (h : c.Counted n) (k : Nat) (succeeded : Bool) :
    (c.add (.whole k) succeeded).Counted (n + k) := by
  obtain ⟨failed, passed, rfl, hf, hp⟩ := h
  by_cases hk : k = 0
  -- Nothing is not counted, not even as nothing.
  · subst hk
    exact ⟨failed, passed, rfl, hf, hp⟩
  · have hz : (Quantity.whole k).isZero = false := by simpa [Quantity.isZero] using hk
    cases succeeded with
    | false =>
      refine ⟨failed + k, passed, by omega, ?_, ?_⟩
      · rw [total_add c _ _ _ hz, if_pos rfl, hf, Total.add, Quantity.add, Int.natCast_add]
      · rw [total_add c _ _ _ hz, if_neg (by decide), hp]
    | true =>
      refine ⟨failed, passed + k, by omega, ?_, ?_⟩
      · rw [total_add c _ _ _ hz, if_neg Bool.false_ne_true, hf]
      · rw [total_add c _ _ _ hz, if_pos rfl, hp, Total.add, Quantity.add, Int.natCast_add]

theorem values_pointOf (c : ProcessedCounter) (attributes : List (String × String)) (flag : Bool) {k : Nat}
    (h : c.total flag = ⟨.whole 0, .whole k⟩) (start : Int) :
    ((c.pointOf attributes flag).map Point.value).foldl Quantity.add (.whole start) = .whole (start + k) := by
  unfold total at h
  unfold pointOf
  cases ht : c.totals.get? flag with
  | none =>
    rw [ht] at h
    cases h
    exact congrArg Quantity.whole (Int.add_zero start).symm
  | some t =>
    rw [ht] at h
    cases h
    simp [Total.value, Quantity.add]

theorem Counted.sum {c : ProcessedCounter} {n : Nat} (h : c.Counted n) : c.sum = .whole n := by
  obtain ⟨failed, passed, rfl, hf, hp⟩ := h
  rw [ProcessedCounter.sum, points, List.map_append, List.foldl_append, values_pointOf c _ false hf,
    values_pointOf c _ true hp, Int.zero_add, Int.natCast_add]

end ProcessedCounter

end

end Telemetry
