import Telemetry.Assembly.Running
import Telemetry.Proofs.Processor.Conveying

/-! # Delivery

Items end, the workers of batch processors export what has waited longest, and at last everything is
flushed. As long as no queue overflows, what was handed over and what still waits for it are together
what has ended, in order, and after the flush nothing waits. -/

namespace Telemetry

theorem flatten_batches {α : Type} (size : Nat) (queue : List α) : (batches size queue).flatten = queue := by
  fun_induction batches size queue with
  | case1 => rfl
  | case2 x rest h => simp
  | case3 x rest h ih => rw [List.flatten_cons, ih, List.cons_append, List.take_append_drop]

section
variable {W : Outside} {α : Type}

/-! ## Single processors -/

namespace Processor

/-- The worker of a batch processor exports the oldest items of its queue as one batch. -/
def work (host : Host W) (n : Nat) :
    Processor W.Exporter W.Thing → Live W (Processor W.Exporter W.Thing × Except Fault Unit)
  | .simple e closed => return (.simple e closed, .ok ())
  | .batch b => do
    let (_, result) ← b.sendAll host [b.queue.take n]
    return (.batch { b with queue := b.queue.drop n }, result)

def HasRoom : Processor W.Exporter W.Thing → Prop
  | .simple _ _ => True
  | .batch b => b.limits.isWaitable = true ∨ b.queue.length < b.limits.maxQueueSize.toNat

/-- It is open, and nothing that it exports is of interest. -/
inductive Spares (host : Host W) (Shows : Pipeline W → List Item → Prop) : Processor W.Exporter W.Thing → Prop
  | simple {e : Customized W.Thing (Exporter W.Exporter)} :
    (host.liveChannel e).Spares Shows → Spares host Shows (.simple e false)
  | batch {b : BatchProcessor W.Exporter W.Thing} :
    b.closed = false → (b.channel host).Spares Shows → Spares host Shows (.batch b)

/-- It is open and exports what is of interest, and this is still to be exported. -/
inductive Conveys (host : Host W) (Shows : Pipeline W → List Item → Prop) :
    Processor W.Exporter W.Thing → List Item → Prop
  | simple {e : Customized W.Thing (Exporter W.Exporter)} :
    (host.liveChannel e).Conveys Shows → Conveys host Shows (.simple e false) []
  | batch {b : BatchProcessor W.Exporter W.Thing} :
    b.closed = false → (b.channel host).Conveys Shows → Conveys host Shows (.batch b) b.queue

end Processor

/-- An action on processors goes on. It leaves those alone that are of no interest, and one that conveys
has more to export than before, or has exported it. -/
structure Handles (host : Host W) (Shows : Pipeline W → List Item → Prop)
    (act : Processor W.Exporter W.Thing → Live W (Processor W.Exporter W.Thing × Except Fault α)) (goesOn : α → Bool)
    (fits : Processor W.Exporter W.Thing → Prop) (more : List Item) (left : List Item → Prop) : Prop where
  spares : ∀ p s handed, p.Spares host Shows → Shows s handed →
    ∃ p' a s', (act p).run s = ((p', .ok a), s') ∧ goesOn a = true ∧ p'.Spares host Shows ∧ Shows s' handed
  conveys : ∀ p queue s handed, p.Conveys host Shows queue → fits p → Shows s handed →
    ∃ p' a queue' s' handed', (act p).run s = ((p', .ok a), s') ∧ goesOn a = true ∧ p'.Conveys host Shows queue' ∧
      Shows s' handed' ∧ handed' ++ queue' = handed ++ queue ++ more ∧ left queue'

section
variable {host : Host W} {Shows : Pipeline W → List Item → Prop}

theorem swallow_of_stays {r : Except Fault Outcome} (h : ∀ f, r = Except.error f → f.exits = false) :
    swallow r = .ok () := by
  cases r with
  | ok outcome => rfl
  | error f =>
    rw [swallow, h f rfl]
    rfl

theorem run_sendAll_cons (b : BatchProcessor W.Exporter W.Thing) (batch : List Item) (rest : List (List Item))
    {s s' : Pipeline W} {r : Except Fault Outcome} (hr : ((b.channel host).send batch).run s = (r, s'))
    (h : swallow r = .ok ()) :
    (b.sendAll host (batch :: rest)).run s = (b.sendAll host rest).run s' := by
  have hrun : StateT.run (m := Id) ((b.channel host).send batch).run s = pure (r, s') := hr
  rw [BatchProcessor.sendAll, StateT.run_bind, hrun, pure_bind, h]

theorem sendAll_spares {b : BatchProcessor W.Exporter W.Thing} (h : (b.channel host).Spares Shows) {handed : List Item} :
    ∀ (bs : List (List Item)) (s : Pipeline W), Shows s handed →
      ∃ s', (b.sendAll host bs).run s = (([], .ok ()), s') ∧ Shows s' handed
  | [], s, hs => ⟨s, rfl, hs⟩
  | batch :: bs, s, hs => by
    obtain ⟨h₁, h₂⟩ := h batch s handed hs
    cases hr : ((b.channel host).send batch).run s with
    | mk r s' =>
      rw [hr] at h₁ h₂
      rw [run_sendAll_cons b batch bs hr (swallow_of_stays h₂)]
      exact sendAll_spares h bs s' h₁

theorem sendAll_conveys {b : BatchProcessor W.Exporter W.Thing} (h : (b.channel host).Conveys Shows) :
    ∀ (bs : List (List Item)) (s : Pipeline W) (handed : List Item), Shows s handed →
      ∃ s', (b.sendAll host bs).run s = (([], .ok ()), s') ∧ Shows s' (handed ++ bs.flatten)
  | [], s, handed, hs => ⟨s, rfl, by rwa [List.flatten_nil, List.append_nil]⟩
  | batch :: bs, s, handed, hs => by
    obtain ⟨h₁, h₂⟩ := h batch s handed hs
    cases hr : ((b.channel host).send batch).run s with
    | mk r s' =>
      rw [hr] at h₁ h₂
      rw [run_sendAll_cons b batch bs hr (swallow_of_stays h₂), List.flatten_cons, ← List.append_assoc]
      exact sendAll_conveys h bs s' _ h₁

theorem enqueue_of_hasRoom {b : BatchProcessor W.Exporter W.Thing} (h : Processor.HasRoom (.batch b)) (item : Item) :
    b.enqueue item = { b with queue := b.queue ++ [item] } := by
  unfold BatchProcessor.enqueue
  rcases h with h | h
  · rw [h, if_pos rfl]
  · have hd : (b.queue ++ [item]).length - b.limits.maxQueueSize.toNat = 0 := by
      rw [List.length_append, List.length_singleton]
      omega
    simp only [hd, List.drop_zero, ite_self]

theorem channel_enqueue (host : Host W) (b : BatchProcessor W.Exporter W.Thing) (item : Item) :
    (b.enqueue item).closed = b.closed ∧ (b.enqueue item).channel host = b.channel host := by
  unfold BatchProcessor.enqueue
  simp only
  split
  · exact ⟨rfl, rfl⟩
  · exact ⟨rfl, rfl⟩

theorem run_receive_simple (host : Host W) (item : Item) (e : Customized W.Thing (Exporter W.Exporter)) (s : Pipeline W) :
    (Processor.receive host item (.simple e false)).run s =
      ((.simple e false, swallow (((host.liveChannel e).send [item]).run s).1),
        (((host.liveChannel e).send [item]).run s).2) :=
  rfl

theorem run_receive_batch (host : Host W) (item : Item) {b : BatchProcessor W.Exporter W.Thing} (hc : b.closed = false) (s : Pipeline W) :
    (Processor.receive host item (.batch b)).run s = ((.batch (b.enqueue item), .ok ()), s) := by
  rw [Processor.receive, hc, if_neg Bool.false_ne_true]
  rfl

theorem run_work_batch (host : Host W) (n : Nat) (b : BatchProcessor W.Exporter W.Thing) (s : Pipeline W) :
    (Processor.work host n (.batch b)).run s =
      ((.batch { b with queue := b.queue.drop n }, ((b.sendAll host [b.queue.take n]).run s).1.2),
        ((b.sendAll host [b.queue.take n]).run s).2) :=
  rfl

theorem run_flush_batch {b : BatchProcessor W.Exporter W.Thing} (hc : b.closed = false) {s s' : Pipeline W}
    (h : (b.sendAll host (batches b.limits.maxExportBatchSize.toNat b.queue)).run s = (([], .ok ()), s')) :
    (Processor.flush host (.batch b)).run s = ((.batch { b with queue := [] }, .ok true), s') := by
  have hd : (b.drain host).run s = (({ b with queue := [] }, .ok ()), s') := by
    unfold BatchProcessor.drain
    rw [StateT.run_bind, h]
    rfl
  cases b with
  | mk signal exporters limits queue closed =>
    cases hc
    rw [Processor.flush, if_neg Bool.false_ne_true, StateT.run_bind, hd]
    rfl

theorem handles_receive (host : Host W) (Shows : Pipeline W → List Item → Prop) (item : Item) :
    Handles host Shows (Processor.receive host item) (fun _ => true) Processor.HasRoom [item] fun _ => True where
  spares p s handed hp hs := by
    cases hp with
    | @simple e h =>
      obtain ⟨h₁, h₂⟩ := h [item] s handed hs
      have hr := run_receive_simple host item e s
      rw [swallow_of_stays h₂] at hr
      exact ⟨_, (), _, hr, rfl, .simple h, h₁⟩
    | @batch b hc h =>
      obtain ⟨hc', hw⟩ := channel_enqueue host b item
      exact ⟨_, (), s, run_receive_batch host item hc s, rfl, .batch (hc'.trans hc) (hw ▸ h), hs⟩
  conveys p queue s handed hp hf hs := by
    cases hp with
    | @simple e h =>
      obtain ⟨h₁, h₂⟩ := h [item] s handed hs
      have hr := run_receive_simple host item e s
      rw [swallow_of_stays h₂] at hr
      exact ⟨_, (), [], _, _, hr, rfl, .simple h, h₁, by simp, trivial⟩
    | @batch b hc h =>
      have hr := run_receive_batch host item hc s
      rw [enqueue_of_hasRoom hf] at hr
      exact ⟨_, (), _, s, handed, hr, rfl, .batch hc h, hs, (List.append_assoc ..).symm, trivial⟩

theorem handles_work (host : Host W) (Shows : Pipeline W → List Item → Prop) (n : Nat) :
    Handles host Shows (Processor.work host n) (fun _ => true) (fun _ => True) [] fun _ => True where
  spares p s handed hp hs := by
    cases hp with
    | simple h => exact ⟨_, (), s, rfl, rfl, .simple h, hs⟩
    | @batch b hc h =>
      obtain ⟨s', hr, hs'⟩ := sendAll_spares h [b.queue.take n] s hs
      have hw := run_work_batch host n b s
      rw [hr] at hw
      exact ⟨_, (), s', hw, rfl, .batch hc h, hs'⟩
  conveys p queue s handed hp hf hs := by
    cases hp with
    | simple h => exact ⟨_, (), [], s, handed, rfl, rfl, .simple h, hs, by simp, trivial⟩
    | @batch b hc h =>
      obtain ⟨s', hr, hs'⟩ := sendAll_conveys h [b.queue.take n] s handed hs
      have hw := run_work_batch host n b s
      rw [hr] at hw
      refine ⟨_, (), _, s', _, hw, rfl, .batch hc h, hs', ?_, trivial⟩
      rw [List.flatten_singleton, List.append_assoc, List.take_append_drop, List.append_nil]

theorem handles_flush (host : Host W) (Shows : Pipeline W → List Item → Prop) :
    Handles host Shows (Processor.flush host) id (fun _ => True) [] (· = []) where
  spares p s handed hp hs := by
    cases hp with
    | simple h => exact ⟨_, true, s, rfl, rfl, .simple h, hs⟩
    | @batch b hc h =>
      obtain ⟨s', hr, hs'⟩ := sendAll_spares h (batches b.limits.maxExportBatchSize.toNat b.queue) s hs
      exact ⟨_, true, s', run_flush_batch hc hr, rfl, .batch hc h, hs'⟩
  conveys p queue s handed hp hf hs := by
    cases hp with
    | simple h => exact ⟨_, true, [], s, handed, rfl, rfl, .simple h, hs, by simp, rfl⟩
    | @batch b hc h =>
      obtain ⟨s', hr, hs'⟩ := sendAll_conveys h (batches b.limits.maxExportBatchSize.toNat b.queue) s handed hs
      rw [flatten_batches] at hs'
      exact ⟨_, true, [], s', _, run_flush_batch hc hr, rfl, .batch hc h, hs', by simp, rfl⟩

/-! ## All processors -/

section
variable {act : Processor W.Exporter W.Thing → Live W (Processor W.Exporter W.Thing × Except Fault α)} {goesOn : α → Bool}
  {fits : Processor W.Exporter W.Thing → Prop} {more : List Item} {left : List Item → Prop}
  {p p' : Processor W.Exporter W.Thing} {ps ps' : List (Processor W.Exporter W.Thing)} {queue : List Item}

theorem run_overAll_cons (whenAll : α) {s s' : Pipeline W} {a : α} (h : (act p).run s = ((p', .ok a), s')) (ha : goesOn a = true) :
    (Processor.overAll goesOn whenAll act (p :: ps)).run s =
      ((p' :: ((Processor.overAll goesOn whenAll act ps).run s').1.1, ((Processor.overAll goesOn whenAll act ps).run s').1.2),
        ((Processor.overAll goesOn whenAll act ps).run s').2) := by
  rw [Processor.overAll, StateT.run_bind, h]
  show StateT.run (m := Id) (if goesOn a = true then _ else _) s' = _
  rw [if_pos ha]
  rfl

theorem overAll_spares (whenAll : α) (hh : Handles host Shows act goesOn fits more left) {handed : List Item} :
    ∀ {ps : List (Processor W.Exporter W.Thing)} {s : Pipeline W}, (∀ p ∈ ps, p.Spares host Shows) → Shows s handed →
      ∃ ps' s', (Processor.overAll goesOn whenAll act ps).run s = ((ps', .ok whenAll), s') ∧
        (∀ p ∈ ps', p.Spares host Shows) ∧ Shows s' handed
  | [], s, h, hs => ⟨[], s, rfl, h, hs⟩
  | p :: ps, s, h, hs => by
    obtain ⟨hp, h⟩ := List.forall_mem_cons.mp h
    obtain ⟨p', a, s₁, hr, ha, hp', hs₁⟩ := hh.spares p s handed hp hs
    obtain ⟨ps', s₂, hr', h', hs₂⟩ := overAll_spares whenAll hh h hs₁
    rw [run_overAll_cons whenAll hr ha, hr']
    exact ⟨p' :: ps', s₂, rfl, List.forall_mem_cons.mpr ⟨hp', h'⟩, hs₂⟩

/-- One of some processors conveys, and the others are of no interest. -/
inductive Serves (host : Host W) (Shows : Pipeline W → List Item → Prop) :
    List (Processor W.Exporter W.Thing) → List Item → Prop
  | here {p : Processor W.Exporter W.Thing} {ps : List (Processor W.Exporter W.Thing)} {queue : List Item} :
    p.Conveys host Shows queue → (∀ p ∈ ps, p.Spares host Shows) → Serves host Shows (p :: ps) queue
  | there {p : Processor W.Exporter W.Thing} {ps : List (Processor W.Exporter W.Thing)} {queue : List Item} :
    p.Spares host Shows → Serves host Shows ps queue → Serves host Shows (p :: ps) queue

theorem Serves.overAll (whenAll : α) (hh : Handles host Shows act goesOn fits more left) (h : Serves host Shows ps queue)
    (hf : ∀ p ∈ ps, fits p) {s : Pipeline W} {handed : List Item} (hs : Shows s handed) :
    ∃ ps' queue' s' handed', (Processor.overAll goesOn whenAll act ps).run s = ((ps', .ok whenAll), s') ∧
      Serves host Shows ps' queue' ∧ Shows s' handed' ∧ handed' ++ queue' = handed ++ queue ++ more ∧ left queue' := by
  induction h generalizing s with
  | @here p ps queue hp h =>
    obtain ⟨p', a, queue', s₁, handed', hr, ha, hp', hs₁, he, hl⟩ :=
      hh.conveys p queue s handed hp (hf p List.mem_cons_self) hs
    obtain ⟨ps', s₂, hr', h', hs₂⟩ := overAll_spares whenAll hh h hs₁
    rw [run_overAll_cons whenAll hr ha, hr']
    exact ⟨p' :: ps', queue', s₂, handed', rfl, .here hp' h', hs₂, he, hl⟩
  | @there p ps queue hp _ ih =>
    obtain ⟨p', a, s₁, hr, ha, hp', hs₁⟩ := hh.spares p s handed hp hs
    obtain ⟨ps', queue', s₂, handed', hr', h', hs₂, he, hl⟩ := ih (fun p hm => hf p (List.mem_cons_of_mem _ hm)) hs₁
    rw [run_overAll_cons whenAll hr ha, hr']
    exact ⟨p' :: ps', queue', s₂, handed', rfl, .there hp' h', hs₂, he, hl⟩

end

/-! ## Runs -/

/-- Items end on processors, and workers export some of what has waited longest. In between other things may
happen, such as other signals' work. No queue is full when an item comes. -/
inductive Runs (host : Host W) (idle : Pipeline W → Pipeline W → Prop) : Pipeline W → List (Processor W.Exporter W.Thing) →
    List Item → Pipeline W → List (Processor W.Exporter W.Thing) → Prop
  | nil (s : Pipeline W) (ps : List (Processor W.Exporter W.Thing)) : Runs host idle s ps [] s ps
  | ends {s s' s'' : Pipeline W} {ps ps' ps'' : List (Processor W.Exporter W.Thing)} {item : Item} {items : List Item}
    {r : Except Fault Unit} :
    (∀ p ∈ ps, p.HasRoom) → (Processor.receiveAll host item ps).run s = ((ps', r), s') →
      Runs host idle s' ps' items s'' ps'' → Runs host idle s ps (item :: items) s'' ps''
  | works {s s' s'' : Pipeline W} {ps ps' ps'' : List (Processor W.Exporter W.Thing)} {n : Nat} {items : List Item}
    {r : Except Fault Unit} :
    (Processor.overAll (fun _ => true) () (Processor.work host n) ps).run s = ((ps', r), s') →
      Runs host idle s' ps' items s'' ps'' → Runs host idle s ps items s'' ps''
  | idles {s s' s'' : Pipeline W} {ps ps'' : List (Processor W.Exporter W.Thing)} {items : List Item} :
    idle s s' → Runs host idle s' ps items s'' ps'' → Runs host idle s ps items s'' ps''

def Ignores (idle : Pipeline W → Pipeline W → Prop) (Shows : Pipeline W → List Item → Prop) : Prop :=
  ∀ s s' handed, idle s s' → Shows s handed → Shows s' handed

section
variable {idle : Pipeline W → Pipeline W → Prop} {s s' s'' : Pipeline W} {ps ps' ps'' : List (Processor W.Exporter W.Thing)}
  {items more handed queue : List Item}

theorem Runs.spares (h : Runs host idle s ps items s' ps') (hi : Ignores idle Shows)
    (hp : ∀ p ∈ ps, p.Spares host Shows) (hs : Shows s handed) : (∀ p ∈ ps', p.Spares host Shows) ∧ Shows s' handed := by
  induction h with
  | nil s ps => exact ⟨hp, hs⟩
  | ends hf hr _ ih =>
    obtain ⟨ps₁, s₁, hr', hp₁, hs₁⟩ := overAll_spares () (handles_receive host Shows _) hp hs
    cases hr.symm.trans hr'
    exact ih hp₁ hs₁
  | @works _ _ _ _ _ _ n _ _ hr _ ih =>
    obtain ⟨ps₁, s₁, hr', hp₁, hs₁⟩ := overAll_spares () (handles_work host Shows n) hp hs
    cases hr.symm.trans hr'
    exact ih hp₁ hs₁
  | idles hidle _ ih => exact ih hp (hi _ _ _ hidle hs)

/-- What was handed over and what waits are what had been handed over and waited before, and then what has
ended. -/
theorem Runs.conserves (h : Runs host idle s ps items s' ps') (hi : Ignores idle Shows) (hp : Serves host Shows ps queue)
    (hs : Shows s handed) :
    ∃ queue' handed', Serves host Shows ps' queue' ∧ Shows s' handed' ∧ handed' ++ queue' = handed ++ queue ++ items := by
  -- An item joins what is handed over or what waits; a worker only moves items from the one to the other.
  induction h generalizing queue handed with
  | nil s ps => exact ⟨queue, handed, hp, hs, (List.append_nil _).symm⟩
  | @ends _ _ _ _ _ _ item _ _ hf hr _ ih =>
    obtain ⟨ps₁, queue₁, s₁, handed₁, hr', hp₁, hs₁, he, -⟩ := hp.overAll () (handles_receive host Shows item) hf hs
    cases hr.symm.trans hr'
    obtain ⟨queue', handed', hp', hs', he'⟩ := ih hp₁ hs₁
    refine ⟨queue', handed', hp', hs', ?_⟩
    rw [he', he, List.append_assoc, List.singleton_append]
  | @works _ _ _ _ _ _ n _ _ hr _ ih =>
    obtain ⟨ps₁, queue₁, s₁, handed₁, hr', hp₁, hs₁, he, -⟩ :=
      hp.overAll () (handles_work host Shows n) (fun _ _ => trivial) hs
    cases hr.symm.trans hr'
    obtain ⟨queue', handed', hp', hs', he'⟩ := ih hp₁ hs₁
    refine ⟨queue', handed', hp', hs', ?_⟩
    rw [he', he, List.append_nil]
  | idles hidle _ ih => exact ih hp (hi _ _ _ hidle hs)

theorem flushProcessors_eq {time : FlushTime} (ht : time ≠ .spent) (ps : List (Processor W.Exporter W.Thing)) :
    Bundle.flushProcessors host time ps = Processor.flushAll host ps := by
  unfold Bundle.flushProcessors
  rw [if_neg]
  simp [ht]

theorem Runs.leaves (h : Runs host idle s ps items s' ps') (hi : Ignores idle Shows) (hp : ∀ p ∈ ps, p.Spares host Shows)
    (hs : Shows s handed) {time : FlushTime} (ht : time ≠ .spent) :
    ∃ ps'' s'', (Bundle.flushProcessors host time ps').run s' = ((ps'', .ok true), s'') ∧ Shows s'' handed := by
  obtain ⟨hp', hs'⟩ := h.spares hi hp hs
  obtain ⟨ps'', s'', hr, -, hs''⟩ := overAll_spares true (handles_flush host Shows) hp' hs'
  refine ⟨ps'', s'', ?_, hs''⟩
  rw [flushProcessors_eq ht]
  exact hr

/-- After a flush that had time, everything that has ended was handed over. -/
theorem Runs.delivers (h : Runs host idle s ps items s' ps') (hi : Ignores idle Shows) (hp : Serves host Shows ps [])
    (hs : Shows s []) {time : FlushTime} (ht : time ≠ .spent) :
    ∃ ps'' s'', (Bundle.flushProcessors host time ps').run s' = ((ps'', .ok true), s'') ∧ Shows s'' items := by
  obtain ⟨queue, handed, hp', hs', he⟩ := h.conserves hi hp hs
  obtain ⟨ps'', queue', s'', handed', hr, -, hs'', he', rfl⟩ :=
    hp'.overAll true (handles_flush host Shows) (fun _ _ => trivial) hs'
  rw [List.append_nil, List.append_nil, he, List.nil_append, List.nil_append] at he'
  refine ⟨ps'', s'', ?_, he' ▸ hs''⟩
  rw [flushProcessors_eq ht]
  exact hr

end

end

/-! ## Workers -/

namespace Processor

/-- It needs no worker, or has one that keeps its queue from overflowing. -/
def hasWorker {ε τ : Type} : Processor ε τ → Bool
  | .simple _ _ => true
  | .batch b => b.limits.isWaitable

theorem hasRoom_of_hasWorker {p : Processor W.Exporter W.Thing} (h : p.hasWorker = true) : p.HasRoom := by
  cases p with
  | simple e closed => trivial
  | batch b => exact .inl h

theorem limits_enqueue {ε τ : Type} (b : BatchProcessor ε τ) (item : Item) : (b.enqueue item).limits = b.limits := by
  unfold BatchProcessor.enqueue
  simp only
  split <;> rfl

def KeepsWorkers (act : Processor W.Exporter W.Thing → Live W (Processor W.Exporter W.Thing × Except Fault α)) : Prop :=
  ∀ p s, ((act p).run s).1.1.hasWorker = p.hasWorker

theorem keepsWorkers_receive (host : Host W) (item : Item) : KeepsWorkers (receive host item) := by
  intro p s
  cases p with
  | simple e closed => cases closed <;> rfl
  | batch b =>
    show (if b.closed then b else b.enqueue item).limits.isWaitable = b.limits.isWaitable
    split
    · rfl
    · rw [limits_enqueue]

theorem keepsWorkers_work (host : Host W) (n : Nat) : KeepsWorkers (work host n) := by
  intro p s
  cases p <;> rfl

theorem all_hasWorker_overAll {act : Processor W.Exporter W.Thing → Live W (Processor W.Exporter W.Thing × Except Fault Unit)}
    (h : KeepsWorkers act) : ∀ (ps : List (Processor W.Exporter W.Thing)) (s : Pipeline W),
    ((overAll (fun _ => true) () act ps).run s).1.1.all hasWorker = ps.all hasWorker
  | [], _ => rfl
  | p :: ps, s => by
    have hp := h p s
    rw [overAll, StateT.run_bind]
    revert hp
    obtain ⟨⟨p', r⟩, s'⟩ := (act p).run s
    intro hp
    cases r with
    | error f => exact congrArg (· && ps.all hasWorker) hp
    | ok a => exact congrArg₂ (· && ·) hp (all_hasWorker_overAll h ps s')

/-- Items end one after the other, and after each of them workers export some of what has waited longest. -/
def receiveEach (host : Host W) (n : Nat) :
    List Item → List (Processor W.Exporter W.Thing) → Live W (List (Processor W.Exporter W.Thing))
  | [], ps => return ps
  | item :: items, ps => do
    let (ps, _) ← receiveAll host item ps
    let (ps, _) ← overAll (fun _ => true) () (work host n) ps
    receiveEach host n items ps

end Processor

/-- Where there are workers, queues have room for whatever comes. -/
theorem runs_receiveEach (host : Host W) (idle : Pipeline W → Pipeline W → Prop) (n : Nat) :
    ∀ (items : List Item) {ps : List (Processor W.Exporter W.Thing)} (s : Pipeline W), ps.all Processor.hasWorker = true →
      Runs host idle s ps items ((Processor.receiveEach host n items ps).run s).2
        ((Processor.receiveEach host n items ps).run s).1
  | [], ps, s, _ => .nil s ps
  | item :: items, ps, s, h => by
    have hroom : ∀ p ∈ ps, p.HasRoom := fun p hp => Processor.hasRoom_of_hasWorker (List.all_eq_true.mp h p hp)
    have hreceived := (Processor.all_hasWorker_overAll (Processor.keepsWorkers_receive host item) ps s).trans h
    refine .ends hroom rfl (.works (n := n) rfl (runs_receiveEach host idle n items _ ?_))
    exact (Processor.all_hasWorker_overAll (Processor.keepsWorkers_work host n) _ _).trans hreceived

end

end Telemetry
