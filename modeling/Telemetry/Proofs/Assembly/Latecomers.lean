import Telemetry.Proofs.Assembly.Callers
import Telemetry.Proofs.Assembly.Growth
import Telemetry.Proofs.Assembly.Repetition

/-! # What latecomers miss

Only one caller merges plugins, and it looks at nothing until it is through. It finds all that merging has
contributed, and so does whoever comes to the flag after that. A caller that comes while the merge is under way, or
after it raised, goes on with what is there. -/

namespace Telemetry

open Assembly

/-! ## What is registered -/

section
variable {W : Outside}

/-- All that was added is there, in order, maybe with other things in between. -/
structure Registry.Holds (r : Registry W) (added : List (Addition W)) : Prop where
  chains : ∀ k, (customizersOf k added).Sublist (r.chains k)
  suppliers : (suppliersOf added).Sublist r.suppliers

namespace Registry.Holds
variable {r : Registry W} {added : List (Addition W)}

theorem nil (r : Registry W) : r.Holds [] := ⟨fun _ => List.nil_sublist _, List.nil_sublist _⟩

theorem extend (h : r.Holds added) (more : List (Addition W)) : (r.extend more).Holds added where
  chains k := by
    rw [chains_extend]
    exact (h.chains k).trans (List.sublist_append_left ..)
  suppliers := by
    rw [suppliers_extend]
    exact h.suppliers.trans (List.sublist_append_left ..)

theorem append (h : r.Holds added) (more : List (Addition W)) : (r.extend more).Holds (added ++ more) where
  chains k := by
    rw [chains_extend, customizersOf_append]
    exact (h.chains k).append (List.Sublist.refl _)
  suppliers := by
    rw [suppliers_extend, suppliersOf_append]
    exact h.suppliers.append (List.Sublist.refl _)

end Registry.Holds

end

/-! ## What each caller may rely on -/

section
variable {W : Outside}

/-- Nothing is seen before the flag is set, and everything once the merge has run to its end. -/
structure Sight.Fits (s : Callers W) (v : Sight W) : Prop where
  flag : s.flag = true
  holds : v.merged = true → s.merged = true ∧ v.registry.Holds s.contributed

namespace Caller

def Stage.Fits (b : Builder W) (s : Callers W) (n : Nat) (seen : List (Sight W)) : Stage W → Prop
  | .entered => seen = [] ∧ n ∉ s.begun
  | .merging left => seen = [] ∧ s.begun = [n] ∧ s.merged = false ∧ left.Looks []
  | .assembling left => s.flag = true ∧ (n ∈ s.begun → s.merged = true) ∧
    ∃ rest, left.Looks rest ∧ seen.map Sight.look ++ rest = b.looks
  | .returned _ => seen.map Sight.look = b.looks
  | .raised _ => True

structure Fits (b : Builder W) (s : Callers W) (n : Nat) (c : Caller W) : Prop where
  stage : c.stage.Fits b s n c.seen
  merger : n ∈ s.begun → ∀ v ∈ c.seen, v.merged = true
  seen : ∀ v ∈ c.seen, v.Fits s

theorem Fits.unseen {b : Builder W} {s : Callers W} {n : Nat} {stage : Stage W} (h : stage.Fits b s n []) :
    Fits b s n ⟨stage, []⟩ :=
  ⟨h, fun _ _ hv => absurd hv List.not_mem_nil, fun _ hv => absurd hv List.not_mem_nil⟩

end Caller

end

namespace Callers
variable {W : Outside}

structure Leaves (s : Callers W) (n : Nat) (t : Callers W) : Prop where
  flag : s.flag = true → t.flag = true
  merged : s.merged = true → t.merged = true ∧ t.contributed = s.contributed
  begun : ∀ m, m ≠ n → m ∈ t.begun → m ∈ s.begun
  merging : ∀ m, m ≠ n → s.begun = [m] → s.merged = false → t.begun = [m] ∧ t.merged = false

structure Sound (b : Builder W) (s : Callers W) : Prop where
  begun : s.begun.length ≤ s.flag.toNat
  here : ∀ n ∈ s.begun, n < s.calls.length
  merged : s.merged = true → s.flag = true
  holds : s.scene.registry.Holds s.contributed
  callers : ∀ n (c : Caller W), s.calls[n]? = some c → c.Fits b s n

section
variable {b : Builder W} {s t : Callers W} {n : Nat} {c : Caller W}

theorem Leaves.sight (h : s.Leaves n t) {v : Sight W} (hv : v.Fits s) : v.Fits t where
  flag := h.flag hv.flag
  holds hm := by
    obtain ⟨hs, hr⟩ := hv.holds hm
    obtain ⟨ht, hc⟩ := h.merged hs
    exact ⟨ht, hc ▸ hr⟩

theorem Leaves.caller (h : s.Leaves n t) {m : Nat} (hm : m ≠ n) (hc : c.Fits b s m) : c.Fits b t m where
  stage := by
    obtain ⟨stage, seen⟩ := c
    have hs := hc.stage
    cases stage with
    | entered => exact ⟨hs.1, fun hb => hs.2 (h.begun m hm hb)⟩
    | merging left =>
      obtain ⟨hseen, hb, hf, hleft⟩ := hs
      obtain ⟨hb', hf'⟩ := h.merging m hm hb hf
      exact ⟨hseen, hb', hf', hleft⟩
    | assembling left => exact ⟨h.flag hs.1, fun hb => (h.merged (hs.2.1 (h.begun m hm hb))).1, hs.2.2⟩
    | returned bundle => exact hs
    | raised f => trivial
  merger hb := hc.merger (h.begun m hm hb)
  seen v hv := h.sight (hc.seen v hv)

theorem calls_place {m : Nat} {d : Caller W} (h : (s.place n c).calls[m]? = some d) :
    m = n ∧ d = c ∨ m ≠ n ∧ s.calls[m]? = some d := by
  have hset : (s.calls.set n c)[m]? = some d := h
  by_cases hm : m = n
  · subst hm
    have hlt : m < (s.calls.set m c).length := (List.getElem?_eq_some_iff.1 hset).1
    rw [List.length_set] at hlt
    rw [List.getElem?_set_self hlt] at hset
    exact .inl ⟨rfl, (Option.some.inj hset).symm⟩
  · rw [List.getElem?_set_ne (Ne.symm hm)] at hset
    exact .inr ⟨hm, hset⟩

theorem calls_called {m : Nat} (h : (s.calls ++ [({} : Caller W)])[m]? = some c) :
    s.calls[m]? = some c ∨ m = s.calls.length ∧ c = {} := by
  rw [List.getElem?_append] at h
  split at h
  · exact .inl h
  · rename_i hm
    obtain ⟨hlt, hc⟩ := List.getElem?_eq_some_iff.1 h
    have hlast : m - s.calls.length < 1 := hlt
    exact .inr ⟨by omega, hc.symm.trans (List.getElem_singleton hlt)⟩

theorem Sound.called (h : s.Sound b) : Sound b { s with calls := s.calls ++ [({} : Caller W)] } := by
  have hl : s.Leaves s.calls.length { s with calls := s.calls ++ [({} : Caller W)] } :=
    ⟨id, fun hm => ⟨hm, rfl⟩, fun _ _ hb => hb, fun _ _ hb hm => ⟨hb, hm⟩⟩
  have hhere : ∀ n ∈ s.begun, n < (s.calls ++ [({} : Caller W)]).length := by
    intro n hn
    rw [List.length_append]
    exact Nat.lt_succ_of_lt (h.here n hn)
  refine ⟨h.begun, hhere, h.merged, h.holds, fun m d hd => ?_⟩
  rcases calls_called hd with hd | ⟨rfl, rfl⟩
  · exact hl.caller (Nat.ne_of_lt (List.getElem?_eq_some_iff.1 hd).1) (h.callers m d hd)
  · have hnew : s.calls.length ∉ s.begun := fun hn => Nat.lt_irrefl _ (h.here _ hn)
    exact .unseen ⟨rfl, hnew⟩

theorem Sound.placed (h : s.Sound b) {d : Caller W} (hn : s.calls[n]? = some d) (hcalls : t.calls = s.calls)
    (hl : s.Leaves n (t.place n c)) (hb : t.begun.length ≤ t.flag.toNat) (hm : t.merged = true → t.flag = true)
    (hr : t.scene.registry.Holds t.contributed) (hc : c.Fits b (t.place n c) n) : (t.place n c).Sound b where
  begun := hb
  here m hm := by
    have hlen : (t.calls.set n c).length = s.calls.length := by rw [List.length_set, hcalls]
    show m < (t.calls.set n c).length
    rw [hlen]
    by_cases hmn : m = n
    · rw [hmn]
      exact (List.getElem?_eq_some_iff.1 hn).1
    · exact h.here m (hl.begun m hmn hm)
  merged := hm
  holds := hr
  callers m d hd := by
    rcases calls_place hd with ⟨rfl, rfl⟩ | ⟨hm, hd⟩
    · exact hc
    · rw [hcalls] at hd
      exact hl.caller hm (h.callers m d hd)

theorem Sound.turned (h : s.Sound b) {d : Caller W} (hn : s.calls[n]? = some d) (hc : c.Fits b s n) :
    (s.place n c).Sound b := by
  have hl : s.Leaves n (s.place n c) :=
    ⟨id, fun hm => ⟨hm, rfl⟩, fun _ _ hb => hb, fun _ _ hb hf => ⟨hb, hf⟩⟩
  refine h.placed hn rfl hl h.begun h.merged h.holds ⟨?_, hc.merger, fun v hv => hl.sight (hc.seen v hv)⟩
  have hs := hc.stage
  obtain ⟨stage, seen⟩ := c
  cases stage <;> exact hs

theorem Sound.begins (h : s.Sound b) (hn : s.calls[n]? = some c) (hf : s.flag = false) {left : Routine W Unit}
    (hleft : left.Looks []) :
    ({ s with flag := true, begun := s.begun ++ [n] }.place n ⟨.merging left, []⟩).Sound b := by
  have hb : s.begun = [] := by
    have hlen := h.begun
    rw [hf] at hlen
    exact List.eq_nil_of_length_eq_zero (Nat.le_zero.1 hlen)
  have hone : s.begun ++ [n] = [n] := by rw [hb, List.nil_append]
  have hm : s.merged = false := Bool.eq_false_iff.2 fun hm => Bool.false_ne_true (hf.symm.trans (h.merged hm))
  have hl : s.Leaves n ({ s with flag := true, begun := s.begun ++ [n] }.place n ⟨.merging left, []⟩) := by
    refine ⟨fun _ => rfl, fun hm => ⟨hm, rfl⟩, fun m hmn hm => ?_, fun m _ hm _ => ?_⟩
    · exact (List.mem_append.1 hm).resolve_right fun hm => hmn (List.mem_singleton.1 hm)
    · rw [hb] at hm
      cases hm
  refine h.placed hn rfl hl (Nat.le_of_eq (congrArg List.length hone)) (fun _ => rfl) h.holds ?_
  exact .unseen ⟨rfl, hone, hm, hleft⟩

section
variable {left left' : Routine W Unit} {scene : Scene W} {seen : List (Sight W)}

theorem Sound.merging (h : s.Sound b) (hn : s.calls[n]? = some ⟨.merging left, seen⟩) :
    seen = [] ∧ s.begun = [n] ∧ s.merged = false ∧ left.Looks [] ∧ s.flag = true := by
  obtain ⟨hseen, hb, hm, hleft⟩ := (h.callers n _ hn).stage
  refine ⟨hseen, hb, hm, hleft, ?_⟩
  have hlen := h.begun
  rw [hb] at hlen
  cases hf : s.flag with
  | true => rfl
  | false =>
    rw [hf] at hlen
    exact absurd hlen (Nat.not_succ_le_zero 0)

theorem Sound.merges {host : Host W} (h : s.Sound b) (hn : s.calls[n]? = some ⟨.merging left, seen⟩)
    (hs : left.step host s.scene = .inr (left', scene)) :
    ({ s with scene, contributed := s.contributed ++ left.registers }.place n
      ⟨.merging left', seen ++ s.sighted left⟩).Sound b := by
  obtain ⟨rfl, hb, hm, hleft, -⟩ := h.merging hn
  obtain ⟨rest, hlooks, hleft'⟩ := hleft.step hs
  obtain ⟨hlook, rfl⟩ := List.append_eq_nil_iff.1 hlooks.symm
  have hseen : [] ++ s.sighted left = [] := by rw [sighted, hlook]; rfl
  rw [hseen]
  have hl : s.Leaves n ({ s with scene, contributed := s.contributed ++ left.registers }.place n
      ⟨.merging left', []⟩) := by
    refine ⟨id, fun hm' => ?_, fun _ _ hb => hb, fun _ _ hb hf => ⟨hb, hf⟩⟩
    -- what is contributed grows only until the merge has run to its end
    rw [hm] at hm'
    cases hm'
  have hholds : scene.registry.Holds (s.contributed ++ left.registers) := by
    rw [Routine.registry_of_step hs]
    exact h.holds.append _
  refine h.placed hn rfl hl h.begun h.merged hholds ?_
  exact .unseen ⟨rfl, hb, hm, hleft'⟩

theorem Sound.merge_ends (h : s.Sound b) (hn : s.calls[n]? = some ⟨.merging left, seen⟩)
    {assembling : Routine W (Bundle W)} (hleft : assembling.Looks b.looks) :
    ({ s with merged := true }.place n ⟨.assembling assembling, seen⟩).Sound b := by
  obtain ⟨rfl, hb, -, -, hf⟩ := h.merging hn
  have hl : s.Leaves n ({ s with merged := true }.place n ⟨.assembling assembling, []⟩) := by
    refine ⟨id, fun _ => ⟨rfl, rfl⟩, fun _ _ hb => hb, fun m hm hb' => ?_⟩
    -- another merge that were under way would be the same
    rw [hb] at hb'
    exact absurd (List.singleton_inj.1 hb').symm hm
  refine h.placed hn rfl hl h.begun (fun _ => hf) h.holds ?_
  exact .unseen ⟨hf, fun _ => rfl, b.looks, hleft, rfl⟩

end

section
variable {left left' : Routine W (Bundle W)} {seen : List (Sight W)} {scene : Scene W}

theorem mem_sighted {α : Type} {x : Routine W α} {v : Sight W} (h : v ∈ s.sighted x) :
    v.merged = s.merged ∧ v.registry = s.scene.registry := by
  obtain ⟨look, -, rfl⟩ := List.mem_map.1 h
  exact ⟨rfl, rfl⟩

theorem map_sighted {α : Type} (s : Callers W) (x : Routine W α) :
    (s.sighted x).map Sight.look = x.look?.toList := by
  rw [sighted, List.map_map]
  exact List.map_id _

theorem Sound.assembles {host : Host W} (h : s.Sound b) (hn : s.calls[n]? = some ⟨.assembling left, seen⟩)
    (hs : left.step host s.scene = .inr (left', scene)) :
    ({ s with scene }.place n ⟨.assembling left', seen ++ s.sighted left⟩).Sound b := by
  have hl : s.Leaves n ({ s with scene }.place n ⟨.assembling left', seen ++ s.sighted left⟩) :=
    ⟨id, fun hm => ⟨hm, rfl⟩, fun _ _ hb => hb, fun _ _ hb hf => ⟨hb, hf⟩⟩
  have hc := h.callers n _ hn
  obtain ⟨hf, hmerger, rest, hleft, hlooks⟩ := hc.stage
  obtain ⟨rest', rfl, hleft'⟩ := hleft.step hs
  have hholds : scene.registry.Holds s.contributed := by
    rw [Routine.registry_of_step hs]
    exact h.holds.extend _
  refine h.placed hn rfl hl h.begun h.merged hholds
    ⟨⟨hf, hmerger, rest', hleft', ?_⟩, fun hb v hv => ?_, fun v hv => ?_⟩
  · rw [List.map_append, map_sighted, List.append_assoc]
    exact hlooks
  · rcases List.mem_append.1 hv with hv | hv
    · exact hc.merger hb v hv
    · exact (mem_sighted hv).1.trans (hmerger hb)
  · refine hl.sight ?_
    rcases List.mem_append.1 hv with hv | hv
    · exact hc.seen v hv
    · obtain ⟨hm, hr⟩ := mem_sighted hv
      exact ⟨hf, fun hv => ⟨hm.symm.trans hv, hr ▸ h.holds⟩⟩

theorem Sound.ends {host : Host W} (h : s.Sound b) (hn : s.calls[n]? = some ⟨.assembling left, seen⟩)
    {result : Except Fault (Bundle W)} (hs : left.step host s.scene = .inl result) :
    (s.place n ⟨.ended result, seen⟩).Sound b := by
  have hc := h.callers n _ hn
  obtain ⟨-, -, rest, hleft, hlooks⟩ := hc.stage
  cases left with
  | done bundle =>
    cases hs
    obtain rfl : rest = [] := hleft
    rw [List.append_nil] at hlooks
    exact h.turned hn ⟨hlooks, hc.merger, hc.seen⟩
  | raise f =>
    cases hs
    exact h.turned hn ⟨trivial, hc.merger, hc.seen⟩
  | _ => cases hs

end

end

/-! ## Steps and runs -/

section
variable {host : Host W} {b : Builder W} {s s' t : Callers W}

theorem Sound.takes {n : Nat} {c : Caller W} (h : s.Sound b) (hn : s.calls[n]? = some c)
    (ht : Takes host b s n c s') : s'.Sound b := by
  have hc := h.callers n c hn
  cases ht with
  | passes hf =>
    obtain ⟨rfl, hb⟩ := hc.stage
    exact h.turned hn (.unseen ⟨hf, fun hn => absurd hn hb, b.looks, Apart.looks_assembling host b, rfl⟩)
  | begins hf =>
    obtain ⟨rfl, -⟩ := hc.stage
    exact h.begins hn hf (Apart.looks_merge host b.loader)
  | merges hs => exact h.merges hn hs
  | merged hs => exact h.merge_ends hn (Apart.looks_assembling host b)
  | raised hs => exact h.turned hn ⟨trivial, hc.merger, hc.seen⟩
  | assembles hs => exact h.assembles hn hs
  | ends hs => exact h.ends hn hs

theorem Sound.step (h : s.Sound b) {move : Move} (hs : s.step host b move = some s') : s'.Sound b := by
  cases move with
  | call =>
    cases hs
    exact h.called
  | go n =>
    obtain ⟨c, hn, ha⟩ := Option.bind_eq_some_iff.1 hs
    exact h.takes hn (takes_of_advance ha)

theorem Sound.run {moves : List Move} (h : s.Sound b) (hr : s.run host b moves = some s') : s'.Sound b :=
  kept_along_run (fun hs => hs.step) h hr

theorem sound_start (b : Builder W) (own : W.State) : (start b own).Sound b where
  begun := Nat.zero_le _
  here n hn := absurd hn List.not_mem_nil
  merged h := absurd h Bool.false_ne_true
  holds := .nil _
  callers n c hc := by cases hc

/-! ## After the merge -/

/-- The merge has run to its end, and the callers in question have looked at nothing before that. -/
structure Late (P : Nat → Prop) (s : Callers W) : Prop where
  merged : s.merged = true
  seen : ∀ n (c : Caller W), P n → s.calls[n]? = some c → ∀ v ∈ c.seen, v.merged = true

theorem Takes.seen {n : Nat} {c : Caller W} (h : Takes host b s n c s') : ∃ c', s'.calls = s.calls.set n c' ∧
    (s.merged = true → s'.merged = true) ∧ ∀ v ∈ c'.seen, v ∈ c.seen ∨ v.merged = s.merged := by
  have hnext {α : Type} (seen : List (Sight W)) (left : Routine W α) :
      ∀ v ∈ seen ++ s.sighted left, v ∈ seen ∨ v.merged = s.merged :=
    fun v hv => (List.mem_append.1 hv).imp_right fun hv => (mem_sighted hv).1
  cases h with
  | merges hs => exact ⟨_, rfl, id, hnext _ _⟩
  | merged hs => exact ⟨_, rfl, fun _ => rfl, fun v hv => .inl hv⟩
  | assembles hs => exact ⟨_, rfl, id, hnext _ _⟩
  | _ => exact ⟨_, rfl, id, fun v hv => .inl hv⟩

variable {P : Nat → Prop}

theorem Late.step (h : s.Late P) {move : Move} (hs : s.step host b move = some s') : s'.Late P := by
  cases move with
  | call =>
    cases hs
    refine ⟨h.merged, fun m c hm hc => ?_⟩
    rcases calls_called hc with hc | ⟨-, rfl⟩
    · exact h.seen m c hm hc
    · exact fun v hv => absurd hv List.not_mem_nil
  | go n =>
    obtain ⟨c, hn, ha⟩ := Option.bind_eq_some_iff.1 hs
    obtain ⟨c', hcalls, hmerged, hseen⟩ := (takes_of_advance ha).seen
    refine ⟨hmerged h.merged, fun m d hm hd v hv => ?_⟩
    rw [hcalls] at hd
    rcases calls_place hd with ⟨rfl, rfl⟩ | ⟨-, hd⟩
    · rcases hseen v hv with hv | hv
      · exact h.seen m c hm hn v hv
      · exact hv.trans h.merged
    · exact h.seen m d hm hd v hv

theorem Late.run {moves : List Move} (h : s.Late P) (hr : s.run host b moves = some s') : s'.Late P :=
  kept_along_run (fun hs => hs.step) h hr

/-- However the steps of the callers are mixed, at most one of them begins a merge, and nobody looks at what is
registered before the flag is set. A bundle that is returned comes of a look at the suppliers, if any are
needed, and one at each chain. The caller that merges, and whoever comes to the flag after the merge has run to
its end, finds in each of these looks all that merging contributes. -/
theorem sees_contributions {own : W.State} {before after : List Move} (h : (start b own).run host b before = some t)
    (hs : t.run host b after = some s) :
    s.begun.length ≤ 1 ∧ (∀ c ∈ s.calls, c.seen ≠ [] → s.flag = true) ∧
    (∀ c ∈ s.calls, ∀ bundle, c.stage = .returned bundle → c.seen.map Sight.look = b.looks) ∧
    ∀ n c, s.calls[n]? = some c →
      n ∈ s.begun ∨ t.merged = true ∧ (∀ d, t.calls[n]? = some d → d.stage = .entered) →
      ∀ v ∈ c.seen, v.merged = true ∧ v.registry.Holds s.contributed := by
  have ht := (sound_start b own).run h
  have hsound := ht.run hs
  have hfits (c : Caller W) (hc : c ∈ s.calls) : ∃ n, c.Fits b s n := by
    obtain ⟨n, hn⟩ := List.mem_iff_getElem?.1 hc
    exact ⟨n, hsound.callers n c hn⟩
  refine ⟨hsound.begun.trans (Bool.toNat_le _), fun c hc hseen => ?_, fun c hc bundle hstage => ?_,
    fun n c hn hwho v hv => ?_⟩
  · obtain ⟨n, hfits⟩ := hfits c hc
    obtain ⟨v, hv⟩ := List.exists_mem_of_ne_nil _ hseen
    exact (hfits.seen v hv).flag
  · obtain ⟨n, hfits⟩ := hfits c hc
    have hreturned := hfits.stage
    rw [hstage] at hreturned
    exact hreturned
  · have hc := hsound.callers n c hn
    have hmerged : v.merged = true := by
      rcases hwho with hbegun | ⟨hm, hentered⟩
      · exact hc.merger hbegun v hv
      · have hlate : t.Late (· = n) := by
          refine ⟨hm, fun m d hmn hd => ?_⟩
          subst hmn
          have hstage := (ht.callers m d hd).stage
          rw [hentered d hd] at hstage
          rw [hstage.1]
          exact fun v hv => absurd hv List.not_mem_nil
        exact (hlate.run hs).seen n c rfl hn v hv
    exact ⟨hmerged, ((hc.seen v hv).holds hmerged).2⟩

end

end Callers

/-! ## Two callers and one plugin -/

def Host.faulty : Host .tallied :=
  { Host.tallied with contribute := fun _ _ => throw (.raised "RuntimeError" "plugin broke" false) }

def Caller.returns {W : Outside} (c : Caller W) : Bool :=
  match c.stage with
  | .returned _ => true
  | _ => false

namespace Callers

def sharing (host : Host .tallied) (moves : List Move) : Option (Callers .tallied) :=
  (start Builder.ofPlugin (0 : Nat)).run host Builder.ofPlugin moves

theorem sees_contributions_twice : ∃ t s,
    sharing Host.tallied (.call :: List.replicate 41 (.go 0)) = some t ∧
    t.run Host.tallied Builder.ofPlugin (.call :: List.replicate 34 (.go 1)) = some s ∧
    (t.merged = true ∧ ∀ d, t.calls[1]? = some d → d.stage = .entered) ∧
    ∃ c, s.calls[1]? = some c ∧ c.returns = true ∧ c.seen.map Sight.look = Builder.ofPlugin.looks ∧
      s.contributed.length = 2 ∧ ∀ v ∈ c.seen, v.merged = true ∧ v.registry.Holds s.contributed := by
  have h : ((sharing Host.tallied (.call :: List.replicate 41 (.go 0))).bind fun t =>
      (t.run Host.tallied Builder.ofPlugin (.call :: List.replicate 34 (.go 1))).bind fun s =>
        (s.calls[1]?).map fun c => (t.merged, t.calls.length, s.contributed.length, c.returns)) =
      some (true, 1, 2, true) := by
    decide +kernel
  obtain ⟨t, ht, h⟩ := Option.bind_eq_some_iff.1 h
  obtain ⟨s, hs, h⟩ := Option.bind_eq_some_iff.1 h
  obtain ⟨c, hc, h⟩ := Option.map_eq_some_iff.1 h
  simp only [Prod.mk.injEq] at h
  obtain ⟨hm, hlen, hadded, hreturns⟩ := h
  have hentered : ∀ d, t.calls[1]? = some d → d.stage = .entered := by
    intro d hd
    rw [List.getElem?_eq_none (Nat.le_of_eq hlen)] at hd
    cases hd
  obtain ⟨-, -, hlooks, hholds⟩ := sees_contributions ht hs
  refine ⟨t, s, ht, hs, ⟨hm, hentered⟩, c, hc, hreturns, ?_, hadded, hholds 1 c hc (.inr ⟨hm, hentered⟩)⟩
  cases hstage : c.stage with
  | returned bundle => exact hlooks c (List.mem_of_getElem? hc) bundle hstage
  | _ => rw [Caller.returns, hstage] at hreturns; cases hreturns

/-- The second caller comes while the first merges, and returns before anything is registered. -/
def racing : List Move := [.call, .call, .go 0] ++ List.replicate 32 (.go 1) ++ List.replicate 40 (.go 0)

/-- The second caller comes after the first has failed to merge the plugin. -/
def retrying : List Move := .call :: List.replicate 5 (.go 0) ++ .call :: List.replicate 32 (.go 1)

theorem race_misses_contributions :
    (∃ s, sharing Host.tallied racing = some s ∧ ∃ c ∈ s.calls, c.returns = true ∧
      ∃ v ∈ c.seen, v.merged = false ∧ ¬ v.registry.Holds s.contributed) ∧
    ∃ s, sharing Host.faulty retrying = some s ∧ s.merged = false ∧ ∃ c ∈ s.calls, c.returns = true ∧
      ∃ v ∈ c.seen, v.merged = false := by
  constructor
  · have h : ((sharing Host.tallied racing).bind fun s => (s.calls[1]?).bind fun c => (c.seen[0]?).map fun v =>
        (c.returns, v.merged, v.registry.suppliers.length, (suppliersOf s.contributed).length)) =
        some (true, false, 0, 1) := by
      decide +kernel
    obtain ⟨s, hs, h⟩ := Option.bind_eq_some_iff.1 h
    obtain ⟨c, hc, h⟩ := Option.bind_eq_some_iff.1 h
    obtain ⟨v, hv, h⟩ := Option.map_eq_some_iff.1 h
    simp only [Prod.mk.injEq] at h
    obtain ⟨hreturns, hm, hfound, hadded⟩ := h
    refine ⟨s, hs, c, List.mem_of_getElem? hc, hreturns, v, List.mem_of_getElem? hv, hm, fun hholds => ?_⟩
    have hle := hholds.suppliers.length_le
    omega
  · have h : ((sharing Host.faulty retrying).bind fun s => (s.calls[1]?).bind fun c => (c.seen[0]?).map fun v =>
        (s.merged, c.returns, v.merged)) = some (false, true, false) := by
      decide +kernel
    obtain ⟨s, hs, h⟩ := Option.bind_eq_some_iff.1 h
    obtain ⟨c, hc, h⟩ := Option.bind_eq_some_iff.1 h
    obtain ⟨v, hv, h⟩ := Option.map_eq_some_iff.1 h
    simp only [Prod.mk.injEq] at h
    obtain ⟨hmerged, hreturns, hm⟩ := h
    exact ⟨s, hs, hmerged, c, List.mem_of_getElem? hc, hreturns, v, List.mem_of_getElem? hv, hm⟩

end Callers

end Telemetry
