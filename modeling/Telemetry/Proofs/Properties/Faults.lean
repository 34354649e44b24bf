import Telemetry.Properties.Reading
import Telemetry.Proofs.Properties.Blame
import Telemetry.Proofs.Properties.Duration

/-! # Faults of the getters

A setting that does not parse is a configuration fault, and it names the key as it was asked for. There is
one exception: a duration whose digits are too many to be read is a fault that names nothing. -/

namespace Telemetry.Properties

open Text

section
variable {p : Properties} {key : String} {f : Fault}

/-- The setting spells a duration with so many digits, more than are read. -/
def Overlong (p : Properties) (key : String) (digits : Nat) : Prop :=
  4300 < digits ∧ ∃ value ds millis, p.string? key = some value ∧ Duration.Spells (lower value.toList) ds millis ∧
    ds.length = digits

theorem durationMillis?_overlong {n : Nat} (h : p.Overlong key n) : p.durationMillis? key = .error (.tooManyDigits n) := by
  obtain ⟨hn, value, ds, millis, hv, hs, rfl⟩ := h
  rw [durationMillis?_spelled hv hs, if_neg (Nat.not_le.mpr hn)]

theorem names_of_durationMillis? (h : p.durationMillis? key = .error f) :
    NamesKey key f ∨ ∃ n, p.Overlong key n ∧ f = .tooManyDigits n := by
  obtain ⟨value, hv, -⟩ := string?_of_readWith_error h
  by_cases hs : ∃ ds millis, Duration.Spells (lower value.toList) ds millis
  · obtain ⟨ds, millis, hs⟩ := hs
    rw [durationMillis?_spelled hv hs] at h
    split at h
    · cases h
    · rename_i hl
      cases h
      exact .inr ⟨_, ⟨Nat.not_le.mp hl, value, ds, millis, hv, hs, rfl⟩, rfl⟩
  · rw [durationMillis?_unspelled hv hs] at h
    cases h
    exact .inl ⟨_, rfl, rfl⟩

end

/-- Whatever a getter raises is a configuration fault that names the key, unless a duration has too many digits,
which is always a fault of its own, or a list was to default to something that has no elements. -/
theorem read_names_key (p : Properties) (kind : Reading) (key : String) (default : Option Datum) :
    (∀ f, p.read kind key default = .error f → NamesKey key f ∨
      (kind = .duration ∧ ∃ n, p.Overlong key n ∧ f = .tooManyDigits n) ∨
      (kind = .list ∧ p.string? key = none ∧ ∃ d, default = some d ∧ d.elements = .error f)) ∧
    ∀ n, p.Overlong key n → p.read .duration key default = .error (.tooManyDigits n) := by
  constructor
  · intro f h
    cases kind with
    | text => cases h
    | truth => cases h
    | whole => exact .inl (names_of_int? (Except.error_of_map h)).2
    | real => exact .inl (names_of_float? (Except.error_of_map h)).2
    | duration =>
      rcases names_of_durationMillis? (Except.error_of_map h) with hn | ho
      · exact .inl hn
      · exact .inr (.inl ⟨rfl, ho⟩)
    | list =>
      simp only [read, list?] at h
      cases hs : p.string? key with
      | some value =>
        rw [hs] at h
        cases h
      | none =>
        rw [hs] at h
        cases default with
        | none => cases h
        | some d => exact .inr (.inr ⟨rfl, rfl, d, rfl, h⟩)
    | map => exact .inl (names_of_map (Except.error_of_map h)).2
  · intro n h
    simp only [read, durationMillis?_overlong h]
    rfl

def ones (n : Nat) : Properties := ⟨.ofList [("otel.delay", some (String.ofList (List.replicate n '1')))]⟩

theorem spells_ones {n : Nat} (h : n ≠ 0) : Duration.Spells (lower (List.replicate n '1')) (List.replicate n 1) 1 := by
  have hone : Low '1' := low_of_uncovered (by decide +kernel)
  have hlow : lower (List.replicate n '1') = List.replicate n '1' :=
    lowerFrom_eq_self [] fun c hc => List.eq_of_mem_replicate hc ▸ hone
  have hdigits : (List.replicate n '1').map digit? = (List.replicate n 1).map some := by
    rw [List.map_replicate, List.map_replicate]
    rfl
  have hne : List.replicate n 1 ≠ [] := fun hn => h (List.replicate_eq_nil_iff _ |>.mp hn)
  have hs := @Duration.Spells.mk [] (List.replicate n '1') [] [] _ "" 1 nofun hdigits hne nofun List.mem_cons_self nofun
  rw [hlow]
  simpa only [List.nil_append, List.append_nil, String.toList_empty] using hs

theorem overlong_ones {n : Nat} (h : 4300 < n) : (ones n).Overlong "otel.delay" n := by
  have hk : Key.normalize "otel.delay" = "otel.delay" := by decide +kernel
  have hset : (ones n).settings.get? (Key.normalize "otel.delay") = some (some (String.ofList (List.replicate n '1'))) := by
    rw [hk]
    exact OrderedMap.get?_insert_self .empty _ _
  have hb : Text.allBlank (String.ofList (List.replicate n '1')) = false := by
    rw [Text.allBlank, String.toList_ofList, List.all_replicate, if_neg (by omega)]
    rfl
  refine ⟨h, _, List.replicate n 1, 1, string?_of_set hset hb, ?_, List.length_replicate⟩
  rw [spells_lower_trimmed, String.toList_ofList]
  exact spells_ones (by omega)

/-- With one digit more than are read, the number is well formed, and what is raised is no configuration fault. -/
theorem ones_escape :
    (ones 4301).read .duration "otel.delay" none = .error (.tooManyDigits 4301) ∧
      (Fault.tooManyDigits 4301).name = "ValueError" ∧ ¬ NamesKey "otel.delay" (.tooManyDigits 4301) := by
  refine ⟨?_, rfl, ?_⟩
  · rw [read, durationMillis?_overlong (overlong_ones (by decide))]
    rfl
  · rintro ⟨c, hc, -⟩
    cases hc

end Telemetry.Properties
