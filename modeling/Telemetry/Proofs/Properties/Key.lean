import Telemetry.Proofs.Text.Lowercase
import Telemetry.Properties.Key

/-! # Normal forms of keys

A normal form is trimmed, lowercase and free of separators other than dots, and so it is its own
normal form. -/

namespace Telemetry.Key

open Text

theorem dotted_eq (c : Char) : dotted c = '.' ∨ dotted c = c := by
  unfold dotted
  split
  · exact Or.inl rfl
  · exact Or.inr rfl

theorem dotted_of_ne {c : Char} (hu : c ≠ '_') (hd : c ≠ '-') : dotted c = c := by
  simp [dotted, hu, hd]

theorem dotted_ne (c : Char) : dotted c ≠ '_' ∧ dotted c ≠ '-' := by
  unfold dotted
  split
  · exact ⟨by decide, by decide⟩
  · rename_i h
    exact not_or.mp h

theorem isBlank_dotted {c : Char} (h : isBlank c = false) : isBlank (dotted c) = false := by
  rcases dotted_eq c with hc | hc
  · rw [hc]; rfl
  · rw [hc]; exact h

theorem low_dotted {c : Char} (h : Low c) : Low (dotted c) := by
  rcases dotted_eq c with hc | hc
  · rw [hc]
    exact low_of_uncovered (by decide +kernel)
  · rw [hc]; exact h

variable (cs : List Char)

theorem low_of_mem_normalChars {c : Char} (h : c ∈ normalChars cs) : Low c := by
  obtain ⟨d, hd, rfl⟩ := List.mem_map.mp h
  exact low_dotted (low_of_mem_lowerFrom hd)

theorem ne_of_mem_normalChars {c : Char} (h : c ∈ normalChars cs) : c ≠ '_' ∧ c ≠ '-' := by
  obtain ⟨d, -, rfl⟩ := List.mem_map.mp h
  exact dotted_ne d

theorem bounded_normalChars : Bounded isBlank (normalChars cs) := by
  obtain ⟨hh, hl⟩ : Bounded isBlank (lower (trim cs)) := bounded_lowerFrom (bounded_trimBy isBlank cs)
  unfold normalChars
  constructor
  · intro c hc
    rw [List.head?_map] at hc
    obtain ⟨d, hd, rfl⟩ := Option.map_eq_some_iff.mp hc
    exact isBlank_dotted (hh d hd)
  · intro c hc
    rw [List.getLast?_map] at hc
    obtain ⟨d, hd, rfl⟩ := Option.map_eq_some_iff.mp hc
    exact isBlank_dotted (hl d hd)

theorem lower_normalChars : lower (normalChars cs) = normalChars cs :=
  lowerFrom_eq_self [] fun _ h => low_of_mem_normalChars cs h

theorem count_le_count_normalChars : cs.count '.' ≤ (normalChars cs).count '.' := by
  have hl : Low '.' := low_of_uncovered (by decide +kernel)
  calc cs.count '.' = (trim cs).count '.' := (count_trimBy (by decide) cs).symm
    _ ≤ (lower (trim cs)).count '.' := count_le_count_lowerFrom hl _ []
    _ ≤ (normalChars cs).count (dotted '.') := List.count_le_count_map

/-! ## What a normal form looks like -/

structure Normal (key : String) : Prop where
  separators : ∀ c ∈ key.toList, c ≠ '_' ∧ c ≠ '-'
  bounded : Bounded isBlank key.toList
  lowercase : lowered key = key

theorem normal_normalize (key : String) : Normal (normalize key) where
  separators c hc := by
    rw [normalize, String.toList_ofList] at hc
    exact ne_of_mem_normalChars _ hc
  bounded := by
    rw [normalize, String.toList_ofList]
    exact bounded_normalChars _
  lowercase := by rw [lowered, normalize, String.toList_ofList, lower_normalChars]

theorem Normal.normalize_eq {key : String} (h : Normal key) : normalize key = key := by
  have hl : lower key.toList = key.toList := by
    have := congrArg String.toList h.lowercase
    rwa [lowered, String.toList_ofList] at this
  have hd : key.toList.map dotted = key.toList :=
    (List.map_congr_left fun c hc => dotted_of_ne (h.separators c hc).1 (h.separators c hc).2).trans (List.map_id _)
  rw [normalize, normalChars, trim, trimBy_eq_self h.bounded, hl, hd, String.ofList_toList]

theorem normalize_normalize (key : String) : normalize (normalize key) = normalize key :=
  (normal_normalize key).normalize_eq

/-- A normalized key is its own normal form: there is no separator but the dot in it, no blank at either end, and
nothing that has a lowercase. The keys of that kind are all the normal forms there are. -/
theorem normalize_settles (key : String) :
    normalize (normalize key) = normalize key ∧
      (∀ c ∈ (normalize key).toList, c ≠ '_' ∧ c ≠ '-') ∧ Bounded isBlank (normalize key).toList ∧
      trimmed (normalize key) = normalize key ∧ lowered (normalize key) = normalize key ∧
      (normalize key = key ↔ Normal key) := by
  have hn := normal_normalize key
  refine ⟨normalize_normalize key, hn.separators, hn.bounded, ?_, hn.lowercase, fun h => h ▸ hn,
    fun h => h.normalize_eq⟩
  rw [trimmed, trim, trimBy_eq_self hn.bounded, String.ofList_toList]

/-! ## Plain keys -/

def plain (c : Char) : Bool := c.toNat = 46 || (97 ≤ c.toNat && c.toNat ≤ 122)

theorem uncovered_of_plain {c : Char} (h : plain c = true) : Uncovered c.toNat := by
  have hall : ∀ n ≤ 122, (n = 46 ∨ 97 ≤ n) → Uncovered n := by decide +kernel
  simp only [plain, Bool.or_eq_true, Bool.and_eq_true, decide_eq_true_eq] at h
  exact hall _ (by omega) (by omega)

theorem normal_of_plain {key : String} (h : key.toList.all plain = true) : Normal key := by
  have hu : ∀ c ∈ key.toList, Uncovered c.toNat := fun c hc => uncovered_of_plain (List.all_eq_true.mp h c hc)
  refine ⟨fun c hc => ⟨?_, ?_⟩, ⟨fun c hc => (hu c (List.mem_of_mem_head? hc)).isBlank,
    fun c hc => (hu c (List.mem_of_getLast? hc)).isBlank⟩, ?_⟩
  · rintro rfl
    exact (hu _ hc).ne (by simp [specialRuns]) rfl
  · rintro rfl
    exact (hu _ hc).ne (by simp [specialRuns]) rfl
  · rw [lowered, lower, lowerFrom_eq_self [] fun c hc => low_of_uncovered (hu c hc), String.ofList_toList]

theorem normalize_of_plain {key : String} (h : key.toList.all plain = true) : normalize key = key :=
  (normal_of_plain h).normalize_eq

end Telemetry.Key
