import Mathlib.Data.List.Nodup
import Telemetry.Proofs.Processor.Delivery

/-! # What configured processors deliver

The exporters of a signal come to the processors that are configured for them: the one named `logging` has
a processor of its own, all others have one together. So each of them is handed everything that has ended,
once and in order, and just the common processor counts. -/

namespace Telemetry

theorem Except.ok_of_bind {α β : Type} {x : Except Fault α} {k : α → Except Fault β} {b : β}
    (h : (x >>= k) = .ok b) : ∃ a, x = .ok a ∧ k a = .ok b := by
  cases x with
  | error f => cases h
  | ok a => exact ⟨a, rfl, h⟩

namespace Counters

def counter (c : Counters) : Signal → ProcessedCounter
  | .logs => c.records
  | _ => c.spans

theorem counted_counter (signal : Signal) : (({} : Counters).counter signal).Counted 0 := by
  cases signal <;> exact ⟨0, 0, rfl, rfl, rfl⟩

theorem points_counter (signal : Signal) : (({} : Counters).counter signal).points = [] := by
  cases signal <;> rfl

theorem counter_add (c : Counters) (signal : Signal) (amount : Nat) (succeeded : Bool) :
    (c.add signal amount succeeded).counter signal = (c.counter signal).add (.whole amount) succeeded := by
  cases signal <;> rfl

end Counters

section
variable {W : Outside} {host : Host W} {Shows : Pipeline W → List Item → Prop}
  {ps ps' qs : List (Processor W.Exporter W.Thing)} {queue : List Item}

/-! ## The order of processors -/

theorem Serves.perm (h : ps.Perm ps') (hs : Serves host Shows ps queue) : Serves host Shows ps' queue := by
  induction h with
  | nil => exact hs
  | cons p hp ih =>
    cases hs with
    | here hc ha => exact .here hc fun q hq => ha q (hp.mem_iff.mpr hq)
    | there hc ha => exact .there hc (ih ha)
  | swap p q ps =>
    cases hs with
    | here hq ha =>
      obtain ⟨hp, ha⟩ := List.forall_mem_cons.mp ha
      exact .there hp (.here hq ha)
    | there hq ha =>
      cases ha with
      | here hp ha => exact .here hp (List.forall_mem_cons.mpr ⟨hq, ha⟩)
      | there hp ha => exact .there hp (.there hq ha)
  | trans _ _ ih₁ ih₂ => exact ih₂ (ih₁ hs)

theorem Serves.append (h : Serves host Shows ps queue) (hq : ∀ q ∈ qs, q.Spares host Shows) :
    Serves host Shows (ps ++ qs) queue := by
  induction h with
  | here hc ha =>
    refine .here hc fun p hp => ?_
    rcases List.mem_append.mp hp with hp | hp
    · exact ha p hp
    · exact hq p hp
  | there hc _ ih => exact .there hc ih

theorem Serves.prepend (h : Serves host Shows ps queue) (hq : ∀ q ∈ qs, q.Spares host Shows) :
    Serves host Shows (qs ++ ps) queue :=
  (h.append hq).perm List.perm_append_comm

/-! ## Configured processors -/

abbrev Exporters (W : Outside) := OrderedMap String (Customized W.Thing (Exporter W.Exporter))

section
variable {signal : Signal} {exporters : Exporters W} {name : String} {e : Customized W.Thing (Exporter W.Exporter)}

def Exporters.shared (exporters : Exporters W) : Exporters W := exporters.erase Names.logging

def Exporters.immediates (exporters : Exporters W) : List (Processor W.Exporter W.Thing) :=
  (exporters.get? Names.logging).toList.map Processor.immediate

/-- At most two processors: one for the exporter named `logging`, and one for all others. -/
def Exporters.arranged (exporters : Exporters W) (signal : Signal) (limits : BatchLimits) :
    List (Processor W.Exporter W.Thing) :=
  exporters.immediates ++
    if exporters.shared.isEmpty then [] else [.batch { signal, exporters := exporters.shared.values, limits }]

theorem Exporters.get?_shared :
    exporters.shared.get? name = some e ↔ exporters.get? name = some e ∧ name ≠ Names.logging := by
  rw [OrderedMap.get?_eq_some_iff, OrderedMap.get?_eq_some_iff, shared, OrderedMap.erase, List.mem_filter,
    decide_eq_true_iff]

theorem Exporters.isEmpty_shared : exporters.shared.isEmpty = false ↔ ∃ name ∈ exporters.keys, name ≠ Names.logging := by
  rw [← Bool.not_eq_true, OrderedMap.isEmpty_iff]
  simp only [OrderedMap.mem_keys, not_forall, not_not, get?_shared]
  constructor
  · rintro ⟨name, e, he, hn⟩
    exact ⟨name, ⟨e, he⟩, hn⟩
  · rintro ⟨name, ⟨e, he⟩, hn⟩
    exact ⟨name, e, he, hn⟩

namespace Processor

theorem configure_eq (hn : ∀ e, exporters.get? Names.logging = some e → e.isNothing = false)
    (properties : Option Properties) :
    configure signal exporters properties =
      if exporters.shared.isEmpty then .ok exporters.immediates
      else do
        let settings ← properties.elim (.ok {}) fun p => BatchSettings.read p (BatchSettings.keys signal)
        return exporters.immediates ++ [← batching signal exporters.shared.values settings] := by
  unfold Exporters.immediates
  cases hg : exporters.get? Names.logging with
  | none =>
    simp only [configure, hg]
    cases properties <;> rfl
  | some e =>
    simp only [configure, hg, hn e hg, Bool.false_eq_true, if_false]
    cases properties <;> rfl

theorem batching_ok {exporters : List (Customized W.Thing (Exporter W.Exporter))} {settings : BatchSettings}
    {p : Processor W.Exporter W.Thing} (h : batching signal exporters settings = .ok p) :
    ∃ limits, p = .batch { signal, exporters, limits } := by
  unfold batching at h
  simp only at h
  split at h
  · cases h
  · cases h
    exact ⟨_, rfl⟩

theorem arranged_of_configure {properties : Option Properties}
    (hn : ∀ e, exporters.get? Names.logging = some e → e.isNothing = false)
    (h : configure signal exporters properties = .ok ps) :
    ∃ limits, ps = exporters.arranged signal limits := by
  rw [configure_eq hn] at h
  by_cases ho : exporters.shared.isEmpty
  · rw [if_pos ho] at h
    cases h
    exact ⟨.standard signal, by rw [Exporters.arranged, if_pos ho, List.append_nil]⟩
  · rw [if_neg ho] at h
    obtain ⟨settings, -, h⟩ := Except.ok_of_bind h
    obtain ⟨q, hb, h⟩ := Except.ok_of_bind h
    obtain ⟨limits, rfl⟩ := batching_ok hb
    cases h
    exact ⟨limits, by rw [Exporters.arranged, if_neg ho]⟩

end Processor

/-! ## What they convey -/

theorem spares_immediates (h : ∀ e, exporters.get? Names.logging = some e → (host.liveChannel e).Spares Shows) :
    ∀ q ∈ exporters.immediates, q.Spares host Shows := by
  intro q hq
  obtain ⟨e, he, rfl⟩ := List.mem_map.mp hq
  exact .simple (h e (Option.mem_toList.mp he))

section
variable {p : Properties} (h : Processor.configure signal exporters (some p) = .ok ps)
  (hn : ∀ name e, exporters.get? name = some e → e.isNothing = false)
include h hn

/-- What conveys by itself conveys through the processor it was given, if those it shares it with return. -/
theorem serves_configured (hu : Channel.Uncounted Shows) (he : exporters.get? name = some e)
    (hc : (host.liveChannel e).Conveys Shows)
    (ho : ∀ name' e', exporters.get? name' = some e' → name' ≠ name →
      (host.liveChannel e').Spares Shows ∧ (host.liveChannel e').Returns) :
    Serves host Shows ps [] := by
  obtain ⟨limits, rfl⟩ := Processor.arranged_of_configure (hn _) h
  unfold Exporters.arranged
  by_cases hname : name = Names.logging
  -- It has a processor of its own, and is not among those that share the other one.
  · subst hname
    rw [Exporters.immediates, he]
    refine .here (.simple hc) fun q hq => ?_
    split at hq
    · cases hq
    · cases List.mem_singleton.mp hq
      refine .batch rfl (Channel.Spares.meter hu (Channel.spares_fanOut (List.forall_mem_map.mpr fun e' he' => ?_)))
      obtain ⟨name', hg⟩ := OrderedMap.mem_values.mp he'
      obtain ⟨hg, hne⟩ := Exporters.get?_shared.mp hg
      exact (ho name' e' hg hne).1
  -- The common fan-out comes to it because those before it return.
  · have hs : exporters.shared.get? name = some e := Exporters.get?_shared.mpr ⟨he, hname⟩
    rw [if_neg fun hempty => OrderedMap.isEmpty_iff.mp hempty name e hs]
    obtain ⟨before, after, hv, hother⟩ := OrderedMap.values_split hs
    have hmates : ∀ e' ∈ before ++ after, (host.liveChannel e').Spares Shows ∧ (host.liveChannel e').Returns := by
      intro e' he'
      obtain ⟨name', hg, hne⟩ := hother e' he'
      exact ho name' e' (Exporters.get?_shared.mp hg).1 hne
    refine Serves.prepend (.here (.batch rfl (Channel.Conveys.meter hu ?_)) nofun)
      (spares_immediates fun e' hg => (ho _ e' hg (Ne.symm hname)).1)
    rw [hv, List.map_append, List.map_cons]
    refine Channel.conveys_fanOut (List.forall_mem_map.mpr ?_) hc (List.forall_mem_map.mpr ?_)
    · exact fun e' he' => hmates e' (List.mem_append_left _ he')
    · exact fun e' he' => (hmates e' (List.mem_append_right _ he')).1

variable (ha : ∀ name e, exporters.get? name = some e → (host.liveChannel e).Spares Shows)
include ha

theorem serves_counting (hc : Channel.Counting signal Shows)
    (hr : ∀ name e, exporters.get? name = some e → (host.liveChannel e).Returns)
    (hs : exporters.shared.isEmpty = false) : Serves host Shows ps [] := by
  obtain ⟨limits, rfl⟩ := Processor.arranged_of_configure (hn _) h
  rw [Exporters.arranged, hs, if_neg Bool.false_ne_true]
  refine Serves.prepend (.here (.batch rfl (Channel.Spares.counted hc ?_ ?_)) nofun) (spares_immediates (ha _))
  · refine Channel.returns_fanOut (List.forall_mem_map.mpr fun e he => ?_)
    obtain ⟨name, hg⟩ := OrderedMap.mem_values.mp he
    exact hr name e (Exporters.get?_shared.mp hg).1
  · refine Channel.spares_fanOut (List.forall_mem_map.mpr fun e he => ?_)
    obtain ⟨name, hg⟩ := OrderedMap.mem_values.mp he
    exact ha name e (Exporters.get?_shared.mp hg).1

theorem spares_configured (hs : exporters.shared.isEmpty = true) : ∀ q ∈ ps, q.Spares host Shows := by
  obtain ⟨limits, rfl⟩ := Processor.arranged_of_configure (hn _) h
  rw [Exporters.arranged, hs, if_pos rfl, List.append_nil]
  exact spares_immediates (ha _)

end

/-! ## What they deliver -/

/-- What customizers make of exporters: exporters again, no two of them the same. -/
structure Exporters.Distinct (exporters : Exporters W) : Prop where
  proper : ∀ v ∈ exporters.values, ∃ e, v = .proper e
  nodup : exporters.values.Nodup

/-- Processors are still there, in some order, and besides them only some that hand everything at once to
exporters of their own. -/
def Retains (host : Host W) (exporters : Exporters W) (configured ps : List (Processor W.Exporter W.Thing)) : Prop :=
  ∃ extra, ps.Perm (configured ++ extra) ∧
    ∀ p ∈ extra, ∃ x, p = .immediate (.proper x) ∧ host.Stays x ∧ .proper x ∉ exporters.values

theorem Retains.refl (host : Host W) (exporters : Exporters W) (ps : List (Processor W.Exporter W.Thing)) :
    Retains host exporters ps ps :=
  ⟨[], by rw [List.append_nil], nofun⟩

def Unseen (seen : W.State → List Item) (s s' : Pipeline W) : Prop := seen s'.own = seen s.own

def Uncounted (signal : Signal) (s s' : Pipeline W) : Prop := s'.counters.counter signal = s.counters.counter signal

/-- What becomes of the items that end on processors, when these are flushed at last and the flush has time. -/
structure Delivers (host : Host W) (signal : Signal) (exporters : Exporters W)
    (ps : List (Processor W.Exporter W.Thing)) : Prop where
  /-- Each exporter was handed them all, once and in order, whatever the others return. It may itself raise,
  as long as it does not ask to leave the program. -/
  handed : ∀ name e seen, exporters.get? name = some (.proper e) → host.Watches e seen → host.Stays e →
    (∀ name' e', exporters.get? name' = some (.proper e') → name' ≠ name → host.Returns e') →
    ∀ s items s' ps' time, Runs host (Unseen seen) s ps items s' ps' → time ≠ .spent →
      ∃ ps'' s'', (Bundle.flushProcessors host time ps').run s' = ((ps'', .ok true), s'') ∧
        seen s''.own = seen s.own ++ items
  /-- They were counted if there is more than the exporter named `logging`. -/
  counted : (∀ name e, exporters.get? name = some (.proper e) → host.Returns e) →
    ∀ own items s' ps' time, Runs host (Uncounted signal) ⟨own, {}⟩ ps items s' ps' → time ≠ .spent →
      ∃ ps'' s'', (Bundle.flushProcessors host time ps').run s' = ((ps'', .ok true), s'') ∧
        if ∃ name ∈ exporters.keys, name ≠ Names.logging
        then (s''.counters.counter signal).sum = .whole items.length
        else (s''.counters.counter signal).points = []

section
variable {configured : List (Processor W.Exporter W.Thing)}

section
variable (hr : Retains host exporters configured ps)
  (hx : ∀ x, .proper x ∉ exporters.values → host.Stays x → (host.liveChannel (.proper x)).Spares Shows)
include hr hx

theorem Retains.spares (h : ∀ p ∈ configured, p.Spares host Shows) : ∀ p ∈ ps, p.Spares host Shows := by
  obtain ⟨extra, hp, he⟩ := hr
  intro p hm
  rcases List.mem_append.mp (hp.mem_iff.mp hm) with hm | hm
  · exact h p hm
  · obtain ⟨x, rfl, hs, hn⟩ := he p hm
    exact .simple (hx x hn hs)

theorem Retains.serves (h : Serves host Shows configured queue) : Serves host Shows ps queue := by
  obtain ⟨extra, hp, he⟩ := hr
  refine (h.append fun p hm => ?_).perm hp.symm
  obtain ⟨x, rfl, hs, hn⟩ := he p hm
  exact .simple (hx x hn hs)

end

namespace Exporters.Distinct

theorem isNothing (h : exporters.Distinct) (name : String) (e : Customized W.Thing (Exporter W.Exporter))
    (he : exporters.get? name = some e) : e.isNothing = false := by
  obtain ⟨e, rfl⟩ := h.proper e (OrderedMap.mem_values.mpr ⟨name, he⟩)
  rfl

theorem ne (h : exporters.Distinct) {name name' : String} {e e' : Exporter W.Exporter}
    (he : exporters.get? name = some (.proper e)) (he' : exporters.get? name' = some (.proper e')) (hne : name' ≠ name) :
    e' ≠ e := by
  rintro rfl
  rw [OrderedMap.get?_eq_some_iff] at he he'
  exact hne (congrArg Prod.fst (List.inj_on_of_nodup_map h.nodup he' he rfl))

end Exporters.Distinct

def Counts (signal : Signal) (s : Pipeline W) (items : List Item) : Prop :=
  (s.counters.counter signal).Counted items.length

def Pointless (signal : Signal) (s : Pipeline W) (_ : List Item) : Prop := (s.counters.counter signal).points = []

theorem counting_counts (signal : Signal) : Channel.Counting signal (Counts (W := W) signal) := by
  intro s batch succeeded handed h
  rw [Counts, Counters.counter_add, List.length_append]
  exact h.add batch.length succeeded

theorem ignores_shown (seen : W.State → List Item) (start : List Item) : Ignores (Unseen seen) (Host.Shown seen start) :=
  fun _ _ _ hi h => hi.trans h

theorem ignores_counts (signal : Signal) : Ignores (Uncounted (W := W) signal) (Counts signal) := by
  intro s s' handed hi h
  rw [Counts, hi]
  exact h

theorem ignores_pointless (signal : Signal) : Ignores (Uncounted (W := W) signal) (Pointless signal) := by
  intro s s' handed hi h
  rw [Pointless, hi]
  exact h

variable {p : Properties} (h : Processor.configure signal exporters (some p) = .ok configured) (hd : exporters.Distinct)
include h hd

theorem serves_watched {e : Exporter W.Exporter} {seen : W.State → List Item} {start : List Item}
    (he : exporters.get? name = some (.proper e)) (hw : host.Watches e seen) (hs : host.Stays e)
    (ho : ∀ name' e', exporters.get? name' = some (.proper e') → name' ≠ name → host.Returns e') :
    Serves host (Host.Shown seen start) configured [] := by
  refine serves_configured h hd.isNothing (Host.uncounted_shown seen _) he (hw.conveys hs) fun name' e' he' hne => ?_
  obtain ⟨x, rfl⟩ := hd.proper e' (OrderedMap.mem_values.mpr ⟨name', he'⟩)
  have hx := ho name' x he' hne
  exact ⟨hw.spares (hd.ne he he' hne) hx.stays, hx.liveChannel⟩

section
variable (hr : ∀ name e, exporters.get? name = some (.proper e) → host.Returns e)
include hr

theorem serves_counts (hs : ∃ name ∈ exporters.keys, name ≠ Names.logging) :
    Serves host (Counts signal) configured [] := by
  refine serves_counting h hd.isNothing (fun name e he => ?_) (counting_counts signal) (fun name e he => ?_)
    (Exporters.isEmpty_shared.mpr hs)
  · obtain ⟨x, rfl⟩ := hd.proper e (OrderedMap.mem_values.mpr ⟨name, he⟩)
    exact (hr name x he).stays.spares fun _ _ _ => id
  · obtain ⟨x, rfl⟩ := hd.proper e (OrderedMap.mem_values.mpr ⟨name, he⟩)
    exact (hr name x he).liveChannel

theorem spares_pointless (hs : ¬ ∃ name ∈ exporters.keys, name ≠ Names.logging) :
    ∀ q ∈ configured, q.Spares host (Pointless signal) := by
  refine spares_configured h hd.isNothing (fun name e he => ?_) ?_
  · obtain ⟨x, rfl⟩ := hd.proper e (OrderedMap.mem_values.mpr ⟨name, he⟩)
    exact (hr name x he).stays.spares fun _ _ _ => id
  · rw [← Bool.not_eq_false, Exporters.isEmpty_shared]
    exact hs

end

theorem delivers_of_configure (hr : Retains host exporters configured ps) : Delivers host signal exporters ps where
  handed name e seen he hw hs ho s items s' ps' time hruns ht := by
    have hserves : Serves host (Host.Shown seen (seen s.own)) ps [] := hr.serves (fun x hx hstays =>
      hw.spares (fun heq => hx (heq ▸ OrderedMap.mem_values.mpr ⟨name, he⟩)) hstays) (serves_watched h hd he hw hs ho)
    exact hruns.delivers (ignores_shown seen _) hserves (List.append_nil _).symm ht
  counted hall own items s' ps' time hruns ht := by
    by_cases hs : ∃ name ∈ exporters.keys, name ≠ Names.logging
    · have hserves := hr.serves (fun x _ hx => hx.spares fun _ _ _ => id) (serves_counts h hd hall hs)
      obtain ⟨ps'', s'', hf, hcounts⟩ :=
        hruns.delivers (ignores_counts signal) hserves (Counters.counted_counter signal) ht
      refine ⟨ps'', s'', hf, ?_⟩
      rw [if_pos hs]
      exact hcounts.sum
    · have hspares := hr.spares (fun x _ hx => hx.spares fun _ _ _ => id) (spares_pointless h hd hall hs)
      have hstart : Pointless (W := W) signal ⟨own, {}⟩ [] := Counters.points_counter signal
      obtain ⟨ps'', s'', hf, hnone⟩ := hruns.leaves (ignores_pointless signal) hspares hstart ht
      refine ⟨ps'', s'', hf, ?_⟩
      rw [if_neg hs]
      exact hnone

end

end

end

end Telemetry
