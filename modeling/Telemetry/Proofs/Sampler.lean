import Telemetry.Proofs.Number.Nearest
import Telemetry.Proofs.Properties.Blame
import Telemetry.Proofs.Properties.Layers

/-! # The sampler that the settings name

There are six names, in any case. Four of them stand for a sampler, whatever else is set. The other two
take a rate, which is a number from zero to one, and all there is if no number is set. Any other name is a
fault of the setting of the name, and what is no rate is one of the argument. -/

namespace Telemetry

open Text

def Binary64.Share (x : Binary64) : Prop := ∃ y, x.toRat? = some y ∧ 0 ≤ y ∧ y ≤ 1

theorem Binary64.inUnitInterval_iff (x : Binary64) : x.inUnitInterval = true ↔ x.Share := by
  cases x with
  | infinite negative => exact iff_of_false nofun fun ⟨_, hy, _⟩ => nomatch hy
  | nan => exact iff_of_false nofun fun ⟨_, hy, _⟩ => nomatch hy
  | finite negative m e =>
    have hp : (0 : ℚ) < 2 ^ e := by positivity
    have hd : (0 : ℚ) < timesPower 1 2 (-e) := by exact_mod_cast timesPower_pos one_pos _
    have hle : timesPower m 2 e ≤ timesPower 1 2 (-e) ↔ (m : ℚ) * 2 ^ e ≤ 1 := by
      have hq := timesPower_div m 1 (-e)
      rw [neg_neg, Nat.cast_one, div_one, zpow_neg, div_inv_eq_mul] at hq
      rw [← hq, div_le_one hd, Nat.cast_le]
    have hs : (finite negative m e).Share ↔ 0 ≤ unit negative * (m * 2 ^ e) ∧ unit negative * (m * 2 ^ e) ≤ 1 := by
      simp only [Share, toRat?_finite, Option.some_inj, exists_eq_left']
    rw [hs]
    simp only [inUnitInterval, dyadic, Bool.or_eq_true, beq_iff_eq, Bool.and_eq_true, Bool.not_eq_true', decide_eq_true_eq, hle]
    by_cases hm : m = 0
    · simp [hm]
    · have hpos : (0 : ℚ) < m * 2 ^ e := by
        have : (0 : ℚ) < m := by exact_mod_cast Nat.pos_of_ne_zero hm
        positivity
      cases negative with
      | true => simp [hm, unit, hpos]
      | false => simp [hm, unit, hpos.le]

namespace Sampler

def unrated : List (String × Sampler) :=
  [("always_on", alwaysOn), ("always_off", alwaysOff), ("parentbased_always_on", parentBased alwaysOn),
    ("parentbased_always_off", parentBased alwaysOff)]

def rated : List (String × (Sampler → Sampler)) := [("traceidratio", id), ("parentbased_traceidratio", parentBased)]

def names : List String := unrated.map Prod.fst ++ rated.map Prod.fst

inductive Rate (p : Properties) : Binary64 → Prop
  | unset : (∀ text, p.settings.get? (Key.normalize Names.tracesSamplerArg) = some (some text) → allBlank text = true) →
      Rate p (.ofInt 1)
  | given {text : String} {x : Binary64} :
    p.settings.get? (Key.normalize Names.tracesSamplerArg) = some (some text) → allBlank text = false →
      readReal? (trim text.toList) = some x → x.Share → Rate p x

inductive Named (p : Properties) (name : String) : Sampler → Prop
  | unrated {s : Sampler} : (name, s) ∈ unrated → Named p name s
  | rated {above : Sampler → Sampler} {x : Binary64} :
    (name, above) ∈ rated → Rate p x → Named p name (above (ratio x))

/-! ## Rates -/

variable {p : Properties}

theorem ofRate_of_share {x : Binary64} (h : x.Share) : ofRate x = .ok (ratio x) :=
  if_pos (x.inUnitInterval_iff.mpr h)

theorem error_of_ofRate {x : Binary64} (h : ¬ x.Share) : ∃ f, ofRate x = .error f := by
  unfold ofRate
  rw [if_neg fun hx => h (x.inUnitInterval_iff.mp hx)]
  split
  · exact ⟨_, rfl⟩
  · exact ⟨_, rfl⟩

theorem share_one : (Binary64.ofInt 1).Share := (Binary64.inUnitInterval_iff _).mp (by decide)

theorem ratioOf_unset (h : p.string? Names.tracesSamplerArg = none) : ratioOf p = .ok (ratio (.ofInt 1)) := by
  simp only [ratioOf, Properties.float?, Properties.readWith, h, bind, Except.bind, Option.getD_none,
    ofRate_of_share share_one]

section
variable {text : String} (hs : p.string? Names.tracesSamplerArg = some (trimmed text))
include hs

theorem ratioOf_unread (h : readReal? (trim text.toList) = none) :
    ratioOf p = .error (.configuration (.notReal Names.tracesSamplerArg (trimmed text))) := by
  simp only [ratioOf, Properties.float?, Properties.readWith, hs, trimmed, String.toList_ofList, h]
  rfl

theorem ratioOf_read {x : Binary64} (h : readReal? (trim text.toList) = some x) : ratioOf p =
    match ofRate x with
    | .ok s => .ok s
    | .error _ => .error (.configuration (.outsideUnitInterval Names.tracesSamplerArg x)) := by
  simp only [ratioOf, Properties.float?, Properties.readWith, hs, trimmed, String.toList_ofList, h]
  rfl

end

theorem ratioOf_of_rate {x : Binary64} (h : Rate p x) : ratioOf p = .ok (ratio x) := by
  cases h with
  | unset hu => exact ratioOf_unset (Properties.string?_eq_none_iff.mpr hu)
  | given ht hb hr hshare => rw [ratioOf_read (Properties.string?_eq_some_iff.mpr ⟨_, ht, hb, rfl⟩) hr, ofRate_of_share hshare]

theorem ratioOf_cases (p : Properties) :
    (∃ x, Rate p x) ∨ ∃ f, ratioOf p = .error f ∧ Properties.NamesKey Names.tracesSamplerArg f := by
  cases hs : p.string? Names.tracesSamplerArg with
  | none => exact .inl ⟨_, .unset (Properties.string?_eq_none_iff.mp hs)⟩
  | some value =>
    obtain ⟨text, ht, hb, rfl⟩ := Properties.string?_eq_some_iff.mp hs
    cases hr : readReal? (trim text.toList) with
    | none => exact .inr ⟨_, ratioOf_unread hs hr, _, rfl, rfl⟩
    | some x =>
      by_cases hshare : x.Share
      · exact .inl ⟨x, .given ht hb hr hshare⟩
      · obtain ⟨f, hf⟩ := error_of_ofRate hshare
        refine .inr ⟨.configuration (.outsideUnitInterval Names.tracesSamplerArg x), ?_, _, rfl, rfl⟩
        rw [ratioOf_read hs hr, hf]

/-! ## Names -/

def nameOf (p : Properties) : String := lowered ((p.string? Names.tracesSampler).getD Names.defaultSampler)

theorem ofProperties_unrated {s : Sampler} (h : (nameOf p, s) ∈ unrated) : ofProperties p = .ok s := by
  simp only [unrated, List.mem_cons, List.not_mem_nil, or_false, Prod.mk.injEq, nameOf] at h
  unfold ofProperties
  rcases h with ⟨hn, rfl⟩ | ⟨hn, rfl⟩ | ⟨hn, rfl⟩ | ⟨hn, rfl⟩
  all_goals
    rw [hn]
    rfl

theorem ofProperties_rated {above : Sampler → Sampler} (h : (nameOf p, above) ∈ rated) :
    ofProperties p = (ratioOf p).map above := by
  simp only [rated, List.mem_cons, List.not_mem_nil, or_false, Prod.mk.injEq, nameOf] at h
  unfold ofProperties
  rcases h with ⟨hn, rfl⟩ | ⟨hn, rfl⟩
  · rw [hn]
    cases ratioOf p
    all_goals rfl
  · rw [hn]
    rfl

theorem ofProperties_other (h : nameOf p ∉ names) :
    ofProperties p = .error (.configuration (.unrecognized Names.tracesSampler (nameOf p))) := by
  simp only [names, unrated, rated, List.map_cons, List.map_nil, List.cons_append, List.nil_append, List.mem_cons,
    List.not_mem_nil, or_false, not_or, nameOf] at h
  obtain ⟨h₁, h₂, h₃, h₄, h₅, h₆⟩ := h
  unfold ofProperties
  simp only [nameOf]

theorem ofProperties_of_named {s : Sampler} (h : Named p (nameOf p) s) : ofProperties p = .ok s := by
  cases h with
  | unrated hm => exact ofProperties_unrated hm
  | rated hm hx =>
    rw [ofProperties_rated hm, ratioOf_of_rate hx]
    rfl

theorem ofProperties_cases (p : Properties) : (∃ s, Named p (nameOf p) s) ∨ ∃ f, ofProperties p = .error f ∧
    (nameOf p ∉ names ∧ Properties.NamesKey Names.tracesSampler f ∨
      nameOf p ∈ rated.map Prod.fst ∧ (∀ x, ¬ Rate p x) ∧ Properties.NamesKey Names.tracesSamplerArg f) := by
  by_cases hn : nameOf p ∈ names
  · rcases List.mem_append.mp hn with hu | hr
    · obtain ⟨⟨_, s⟩, hm, rfl⟩ := List.mem_map.mp hu
      exact .inl ⟨s, .unrated hm⟩
    · obtain ⟨⟨_, above⟩, hm, rfl⟩ := List.mem_map.mp hr
      rcases ratioOf_cases p with ⟨x, hx⟩ | ⟨f, hf, hkey⟩
      · exact .inl ⟨_, .rated hm hx⟩
      · refine .inr ⟨f, ?_, .inr ⟨hr, fun x hx => ?_, hkey⟩⟩
        · rw [ofProperties_rated hm, hf]
          rfl
        · cases hf.symm.trans (ratioOf_of_rate hx)
  · exact .inr ⟨_, ofProperties_other hn, .inl ⟨hn, _, rfl, rfl⟩⟩

theorem ofProperties_argument {q : Properties} (h : nameOf p ∉ rated.map Prod.fst)
    (hq : q.string? Names.tracesSampler = p.string? Names.tracesSampler) : ofProperties q = ofProperties p := by
  have hname : nameOf q = nameOf p := by rw [nameOf, nameOf, hq]
  by_cases hn : nameOf p ∈ names
  · have hu := (List.mem_append.mp hn).resolve_right h
    obtain ⟨⟨_, s⟩, hm, rfl⟩ := List.mem_map.mp hu
    exact (ofProperties_unrated (hname.symm ▸ hm)).trans (ofProperties_unrated hm).symm
  · rw [ofProperties_other hn, ofProperties_other (hname ▸ hn), hname]

/-- The sampler is the one that the name stands for, and the settings are refused just when it stands for none: by the
setting of the name if it is none of the six, and by the argument if it takes a rate and there is none. Without
one of these two names, no other setting than that of the name has a say. -/
theorem ofProperties_by_name (p : Properties) :
    (∀ s, ofProperties p = .ok s ↔ Named p (nameOf p) s) ∧
    (∀ f, ofProperties p = .error f →
      nameOf p ∉ names ∧ Properties.NamesKey Names.tracesSampler f ∨
        nameOf p ∈ rated.map Prod.fst ∧ (∀ x, ¬ Rate p x) ∧ Properties.NamesKey Names.tracesSamplerArg f) ∧
    (nameOf p ∉ rated.map Prod.fst → ∀ q : Properties,
      q.string? Names.tracesSampler = p.string? Names.tracesSampler → ofProperties q = ofProperties p) := by
  refine ⟨fun s => ⟨fun hs => ?_, ofProperties_of_named⟩, fun f hf => ?_, fun h _ => ofProperties_argument h⟩
  · rcases ofProperties_cases p with ⟨s', hs'⟩ | ⟨f, hf, -⟩
    · cases hs.symm.trans (ofProperties_of_named hs')
      exact hs'
    · cases hs.symm.trans hf
  · rcases ofProperties_cases p with ⟨s, hs⟩ | ⟨f', hf', h⟩
    · cases hf.symm.trans (ofProperties_of_named hs)
    · cases hf.symm.trans hf'
      exact h

/-- Blanks around the argument, a sign and an underscore in it do no harm. -/
theorem ofProperties_quarter :
    let p := Properties.ofSource (.ofList [("OTEL_TRACES_SAMPLER", some " ParentBased_TraceIdRatio"),
      ("otel-traces-sampler-arg", some "+2_5e-2\t")])
    ∃ x, x.toRat? = some (1 / 4) ∧ ofProperties p = .ok (parentBased (ratio x)) := by
  intro p
  have hname : nameOf p = "parentbased_traceidratio" := by decide +kernel
  have hm : (nameOf p, parentBased) ∈ rated := by
    rw [hname]
    exact .tail _ (.head _)
  have ht : p.settings.get? (Key.normalize Names.tracesSamplerArg) = some (some "+2_5e-2\t") := by decide +kernel
  have hr : readReal? (trim "+2_5e-2\t".toList) = some (.finite false (2 ^ 52) (-54)) := by decide +kernel
  have hx : (Binary64.finite false (2 ^ 52) (-54)).toRat? = some (1 / 4) := by
    rw [Binary64.toRat?_finite, Option.some_inj, Binary64.unit]
    norm_num
  exact ⟨_, hx, ((ofProperties_by_name p).1 _).mpr
    (.rated hm (.given ht (by decide) hr ⟨_, hx, by norm_num, by norm_num⟩))⟩

end Sampler

end Telemetry
