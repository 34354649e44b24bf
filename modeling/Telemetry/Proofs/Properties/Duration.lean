import Mathlib.Data.Nat.Digits.Defs
import Telemetry.Proofs.Text.Lowercase
import Telemetry.Properties.Getters

/-! # Durations that parse

A text spells a duration if it consists of digits and perhaps a unit, with blanks before, between and behind
them. These are the texts that parse, and there is nothing else to a duration than its digits and its unit:
blanks around a text, capital letters, zeros in front and the script of the digits make no difference. -/

namespace Telemetry

open Text

namespace Text

/-! ## Digits in front -/

theorem isDigit_of_isBlank {c : Char} (h : isBlank c = true) : isDigit c = false := by
  have hf : freeOfBlanks (zeros.map fun z => (z, z + 9)) = true := by decide +kernel
  have hr := inRanges_of_isBlank h hf
  rw [inRanges, List.any_map, List.any_eq_false] at hr
  rw [isDigit, digit?, Option.isSome_map, Option.isSome_eq_false_iff, Option.isNone_iff_eq_none, List.find?_eq_none]
  intro z hz hd
  refine hr z hz ?_
  simp only [Function.comp, Bool.and_eq_true, decide_eq_true_eq] at hd ⊢
  omega

theorem filterMap_digit? {digits : List Char} {ds : List Nat} (h : digits.map digit? = ds.map some) :
    digits.filterMap digit? = ds := by
  have hm := congrArg (List.filterMap id) h
  rw [List.filterMap_map, List.filterMap_map] at hm
  simpa using hm

theorem map_digit? : ∀ {digits : List Char}, (∀ c ∈ digits, isDigit c = true) →
    digits.map digit? = (digits.filterMap digit?).map some
  | [], _ => rfl
  | c :: digits, h => by
    obtain ⟨hc, h⟩ := List.forall_mem_cons.mp h
    obtain ⟨d, hd⟩ := Option.isSome_iff_exists.mp hc
    rw [List.filterMap_cons_some hd, List.map_cons, List.map_cons, hd, map_digit? h]

theorem isDigit_of_map {digits : List Char} {ds : List Nat} (h : digits.map digit? = ds.map some) :
    ∀ c ∈ digits, isDigit c = true := by
  intro c hc
  have hm := List.mem_map_of_mem (f := digit?) hc
  rw [h] at hm
  obtain ⟨d, -, hd⟩ := List.mem_map.mp hm
  rw [isDigit, ← hd]
  rfl

theorem span_of_not_digit {rest : List Char} (h : ∀ c ∈ rest, isDigit c = false) :
    rest.takeWhile isDigit = [] ∧ rest.dropWhile isDigit = rest := by
  cases rest with
  | nil => exact ⟨rfl, rfl⟩
  | cons c rest =>
    have hc : ¬ isDigit c = true := by simp [h c List.mem_cons_self]
    exact ⟨List.takeWhile_cons_of_neg hc, List.dropWhile_cons_of_neg hc⟩

theorem spanDigits_append {digits rest : List Char} {ds : List Nat} (hd : digits.map digit? = ds.map some)
    (hr : ∀ c ∈ rest, isDigit c = false) : spanDigits (digits ++ rest) = (ds, rest) := by
  obtain ⟨ht, hw⟩ := span_of_not_digit hr
  rw [spanDigits, List.takeWhile_append_of_pos (isDigit_of_map hd), List.dropWhile_append_of_pos (isDigit_of_map hd),
    ht, hw, List.append_nil, filterMap_digit? hd]

theorem exists_spanDigits (cs : List Char) :
    ∃ digits, digits.map digit? = (spanDigits cs).1.map some ∧ cs = digits ++ (spanDigits cs).2 :=
  ⟨cs.takeWhile isDigit, map_digit? fun _ => List.mem_takeWhile_imp, List.takeWhile_append_dropWhile.symm⟩

theorem spanDigits_append_blanks {after : List Char} (h : ∀ c ∈ after, isBlank c = true) (cs : List Char) :
    spanDigits (cs ++ after) = ((spanDigits cs).1, (spanDigits cs).2 ++ after) := by
  obtain ⟨ht, hw⟩ := span_of_not_digit fun c hc => isDigit_of_isBlank (h c hc)
  unfold spanDigits
  rw [List.takeWhile_append, List.dropWhile_append, ht, hw, List.append_nil]
  by_cases hl : (cs.takeWhile isDigit).length = cs.length
  · have ha := List.takeWhile_eq_self_iff.mp ((List.takeWhile_prefix isDigit).eq_of_length hl)
    rw [if_pos hl, List.dropWhile_eq_nil_iff.mpr ha, List.takeWhile_eq_self_iff.mpr ha]
    rfl
  · have hn : (cs.dropWhile isDigit).isEmpty = false := by
      rw [List.isEmpty_eq_false_iff, ne_eq, List.dropWhile_eq_nil_iff]
      exact fun ha => hl (congrArg List.length (List.takeWhile_eq_self_iff.mpr ha))
    rw [if_neg hl, hn]
    rfl

theorem natOfDigits_eq (ds : List Nat) : natOfDigits ds = Nat.ofDigits 10 ds.reverse := by
  induction ds using List.reverseRecOn with
  | nil => rfl
  | append_singleton ds d ih =>
    rw [List.reverse_append, List.reverse_singleton, List.singleton_append, Nat.ofDigits_cons, ← ih, natOfDigits,
      List.foldl_append]
    exact Nat.add_comm _ _

end Text

namespace Duration

/-! ## The grammar -/

/-- The units, and the milliseconds in each. A number without a unit counts milliseconds. -/
def unitTable : List (String × Nat) :=
  [("", 1), ("ms", 1), ("s", 1000), ("m", 60 * 1000), ("h", 60 * 60 * 1000), ("d", 24 * 60 * 60 * 1000)]

inductive Spells : List Char → List Nat → Nat → Prop
  | mk {before digits between after : List Char} {ds : List Nat} {unit : String} {millis : Nat} :
    (∀ c ∈ before, isBlank c = true) → digits.map digit? = ds.map some → ds ≠ [] →
    (∀ c ∈ between, isBlank c = true) → (unit, millis) ∈ unitTable → (∀ c ∈ after, isBlank c = true) →
    Spells (before ++ digits ++ between ++ unit.toList ++ after) ds millis

theorem unitMillis?_eq_some_iff {unit : String} {millis : Nat} :
    unitMillis? unit = some millis ↔ (unit, millis) ∈ unitTable := by
  constructor
  · intro h
    unfold unitMillis? at h
    split at h
    all_goals cases h
    all_goals decide
  · intro h
    simp only [unitTable, List.mem_cons, List.not_mem_nil, or_false, Prod.mk.injEq] at h
    rcases h with ⟨rfl, rfl⟩ | ⟨rfl, rfl⟩ | ⟨rfl, rfl⟩ | ⟨rfl, rfl⟩ | ⟨rfl, rfl⟩ | ⟨rfl, rfl⟩
    all_goals rfl

theorem unitTable_letters : ∀ e ∈ unitTable, ∀ c ∈ e.1.toList, isDigit c = false ∧ isBlank c = false := by
  have h : (unitTable.all fun e => e.1.toList.all fun c => !isDigit c && !isBlank c) = true := by decide +kernel
  simpa only [List.all_eq_true, Bool.and_eq_true, Bool.not_eq_true'] using h

theorem parse?_eq_some {cs : List Char} {ds : List Nat} {millis : Nat} (h : parse? cs = some (ds, millis)) :
    Spells cs ds millis := by
  obtain ⟨digits, hd, hstart⟩ := exists_spanDigits (trimStart cs)
  unfold parse? at h
  cases hs : spanDigits (trimStart cs) with
  | mk ds' rest =>
    rw [hs] at hd hstart h
    by_cases hn : ds' = []
    · subst hn
      cases h
    · obtain ⟨between, after, hbetween, hafter, hrest⟩ := exists_trimBy isBlank rest
      have hcs : cs = cs.takeWhile isBlank ++ digits ++ between ++ (String.ofList (trim rest)).toList ++ after := by
        have hsplit : cs = cs.takeWhile isBlank ++ trimStart cs := List.takeWhile_append_dropWhile.symm
        rw [hstart, hrest] at hsplit
        rw [String.toList_ofList]
        simpa only [trim, List.append_assoc] using hsplit
      simp only [List.isEmpty_eq_false_iff.mpr hn, Bool.false_eq_true, if_false, Option.map_eq_some_iff] at h
      obtain ⟨k, hk, he⟩ := h
      cases he
      rw [hcs]
      exact .mk (fun _ => List.mem_takeWhile_imp) hd hn hbetween (unitMillis?_eq_some_iff.mp hk) hafter

theorem parse?_of_spells {cs : List Char} {ds : List Nat} {millis : Nat} (h : Spells cs ds millis) :
    parse? cs = some (ds, millis) := by
  cases h with
  | @mk before digits between after _ unit _ hbefore hds hne hbetween hunit hafter =>
    have hletters := unitTable_letters _ hunit
    have hrest : ∀ c ∈ between ++ unit.toList ++ after, isDigit c = false := by
      intro c hc
      rcases List.mem_append.mp hc with hc | hc
      · rcases List.mem_append.mp hc with hc | hc
        · exact isDigit_of_isBlank (hbetween c hc)
        · exact (hletters c hc).1
      · exact isDigit_of_isBlank (hafter c hc)
    have hstart : trimStart (before ++ digits ++ between ++ unit.toList ++ after) =
        digits ++ (between ++ unit.toList ++ after) := by
      simp only [List.append_assoc, trimStart]
      rw [List.dropWhile_append_of_pos hbefore]
      cases digits with
      | nil => exact absurd (List.map_eq_nil_iff.mp hds.symm) hne
      | cons c digits =>
        refine List.dropWhile_cons_of_neg fun hb => ?_
        have hd := isDigit_of_map hds c List.mem_cons_self
        rw [isDigit_of_isBlank hb] at hd
        cases hd
    have htrim : trim (between ++ unit.toList ++ after) = unit.toList := by
      rw [trim, trimBy_append_right hafter, trimBy_append_left hbetween]
      exact trimBy_eq_self ⟨fun c hc => (hletters c (List.mem_of_mem_head? hc)).2,
        fun c hc => (hletters c (List.mem_of_getLast? hc)).2⟩
    have hemp : ds.isEmpty = false := by simpa using hne
    rw [parse?, hstart, spanDigits_append hds hrest]
    simp only [hemp, htrim, String.ofList_toList, unitMillis?_eq_some_iff.mpr hunit]
    rfl

theorem parse?_eq_some_iff {cs : List Char} {ds : List Nat} {millis : Nat} :
    parse? cs = some (ds, millis) ↔ Spells cs ds millis :=
  ⟨parse?_eq_some, parse?_of_spells⟩

theorem parse?_trim (cs : List Char) : parse? (trim cs) = parse? cs := by
  obtain ⟨before, after, hb, ha, hcs⟩ := exists_trimBy isBlank cs
  have hstart : trimStart cs = trimStart (trim cs ++ after) := by
    conv_lhs => rw [hcs, List.append_assoc]
    exact List.dropWhile_append_of_pos hb
  unfold parse?
  rw [hstart, trimStart, trimStart, List.dropWhile_append]
  by_cases hn : ((trim cs).dropWhile isBlank).isEmpty = true
  · rw [if_pos hn, List.isEmpty_iff.mp hn, List.dropWhile_eq_nil_iff.mpr ha]
  · rw [if_neg hn, spanDigits_append_blanks ha]
    simp only [trim, trimBy_append_right ha]
    rfl

end Duration

/-! ## Settings -/

namespace Properties
variable {p : Properties} {key value raw : String} {ds : List Nat} {millis : Nat}

theorem string?_of_set (h : p.settings.get? (Key.normalize key) = some (some raw)) (hb : Text.allBlank raw = false) :
    p.string? key = some (Text.trimmed raw) := by
  rw [string?, h]
  simp [hb]

theorem durationMillis?_unspelled (h : p.string? key = some value)
    (hn : ¬ ∃ ds millis, Duration.Spells (lower value.toList) ds millis) :
    p.durationMillis? key = .error (.configuration (.notDuration key value)) := by
  have hp : Duration.parse? (lower value.toList) = none := Option.eq_none_iff_forall_ne_some.mpr fun e he =>
    hn ⟨e.1, e.2, Duration.parse?_eq_some he⟩
  simp only [durationMillis?, readWith, h, hp]
  rfl

theorem durationMillis?_spelled (h : p.string? key = some value)
    (hs : Duration.Spells (lower value.toList) ds millis) :
    p.durationMillis? key =
      if ds.length ≤ 4300 then .ok (some (Nat.ofDigits 10 ds.reverse * millis : Nat))
      else .error (.tooManyDigits ds.length) := by
  have hp := Duration.parse?_of_spells hs
  simp only [durationMillis?, readWith, h, hp, readDigits?, digitLimit, ← Nat.not_le, natOfDigits_eq]
  by_cases hl : ds.length ≤ 4300
  · simp [hl, Except.map]
  · simp [hl, Except.map]

theorem spells_lower_trimmed : Duration.Spells (lower (Text.trimmed raw).toList) ds millis ↔
    Duration.Spells (lower raw.toList) ds millis := by
  rw [← Duration.parse?_eq_some_iff, ← Duration.parse?_eq_some_iff, Text.trimmed, String.toList_ofList, lower_trim,
    Duration.parse?_trim]

/-- A setting that is not blank reads as a duration if and only if it spells one in lowercase. It is as many
milliseconds as the digits say, times those of the unit, so that two settings with the same number and the
same unit read alike. -/
theorem durationMillis?_grammar (h : p.settings.get? (Key.normalize key) = some (some raw))
    (hb : Text.allBlank raw = false) :
    ((∃ c, p.durationMillis? key = .error (.configuration c)) ↔
      ¬ ∃ ds millis, Duration.Spells (lower raw.toList) ds millis) ∧
    (∀ ds millis, Duration.Spells (lower raw.toList) ds millis → ds.length ≤ 4300 →
      p.durationMillis? key = .ok (some (Nat.ofDigits 10 ds.reverse * millis : Nat))) ∧
    ∀ (q : Properties) (key' raw' : String), q.settings.get? (Key.normalize key') = some (some raw') →
      Text.allBlank raw' = false → ∀ ds ds' millis, Duration.Spells (lower raw.toList) ds millis →
        Duration.Spells (lower raw'.toList) ds' millis → ds.length ≤ 4300 → ds'.length ≤ 4300 →
          Nat.ofDigits 10 ds.reverse = Nat.ofDigits 10 ds'.reverse → q.durationMillis? key' = p.durationMillis? key := by
  have hvalue : ∀ (q : Properties) (key' raw' : String), q.settings.get? (Key.normalize key') = some (some raw') →
      Text.allBlank raw' = false → ∀ ds millis, Duration.Spells (lower raw'.toList) ds millis → ds.length ≤ 4300 →
        q.durationMillis? key' = .ok (some (Nat.ofDigits 10 ds.reverse * millis : Nat)) := by
    intro q key' raw' h' hb' ds millis hs hl
    rw [durationMillis?_spelled (string?_of_set h' hb') (spells_lower_trimmed.mpr hs), if_pos hl]
  refine ⟨⟨?_, ?_⟩, hvalue p key raw h hb, ?_⟩
  · rintro ⟨c, hc⟩ ⟨ds, millis, hs⟩
    rw [durationMillis?_spelled (string?_of_set h hb) (spells_lower_trimmed.mpr hs)] at hc
    split at hc
    · cases hc
    · cases hc
  · intro hn
    refine ⟨_, durationMillis?_unspelled (string?_of_set h hb) ?_⟩
    simpa only [spells_lower_trimmed] using hn
  · intro q key' raw' h' hb' ds ds' millis hs hs' hl hl' hd
    rw [hvalue p key raw h hb ds millis hs hl, hvalue q key' raw' h' hb' ds' millis hs' hl', hd]

def fifteenHours : Properties :=
  ⟨.ofList [("otel.padded", some "\u2003\u0660\uff115 \u00a0H\t"), ("otel.plain", some "15h"),
    ("otel.words", some "15 hours")]⟩

theorem durationMillis?_grammar_fifteenHours :
    fifteenHours.durationMillis? "otel.padded" = .ok (some 54000000) ∧
      fifteenHours.durationMillis? "OTEL_PLAIN" = fifteenHours.durationMillis? "otel.padded" ∧
      ∃ c, fifteenHours.durationMillis? "otel.words" = .error (.configuration c) := by
  have hpadded : Duration.Spells (lower "\u2003\u0660\uff115 \u00a0H\t".toList) [0, 1, 5] 3600000 :=
    Duration.parse?_eq_some (by decide +kernel)
  have hplain : Duration.Spells (lower "15h".toList) [1, 5] 3600000 := Duration.parse?_eq_some (by decide +kernel)
  have hwords : ¬ ∃ ds millis, Duration.Spells (lower "15 hours".toList) ds millis := by
    rintro ⟨ds, millis, hs⟩
    have hn : Duration.parse? (lower "15 hours".toList) = none := by decide +kernel
    rw [Duration.parse?_of_spells hs] at hn
    cases hn
  have hset : fifteenHours.settings.get? (Key.normalize "otel.padded") = some (some "\u2003\u0660\uff115 \u00a0H\t") := by
    decide +kernel
  have hset' : fifteenHours.settings.get? (Key.normalize "OTEL_PLAIN") = some (some "15h") := by decide +kernel
  have hset'' : fifteenHours.settings.get? (Key.normalize "otel.words") = some (some "15 hours") := by decide +kernel
  obtain ⟨-, hvalue, hsame⟩ := durationMillis?_grammar hset (by decide +kernel)
  exact ⟨hvalue _ _ hpadded (by decide),
    hsame _ _ _ hset' (by decide +kernel) _ _ _ hpadded hplain (by decide) (by decide) rfl,
    (durationMillis?_grammar hset'' (by decide +kernel)).1.mpr hwords⟩

end Properties

end Telemetry
