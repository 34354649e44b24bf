import Mathlib.Data.List.DropRight
import Telemetry.Text.Blank

/-! # Trimmed text

A text is trimmed just when no blank stands at either end of it, which is so after trimming. Only blanks
are lost by it, and blanks put around a text are lost again. -/

namespace Telemetry.Text

theorem trimBy_eq (p : Char → Bool) (cs : List Char) : trimBy p cs = (cs.dropWhile p).rdropWhile p := rfl

def Bounded (p : Char → Bool) (cs : List Char) : Prop :=
  (∀ c ∈ cs.head?, p c = false) ∧ ∀ c ∈ cs.getLast?, p c = false

instance (p : Char → Bool) (cs : List Char) : Decidable (Bounded p cs) :=
  -- Only the two characters are looked at, where a search for instances may come upon all characters.
  @instDecidableAnd _ _ (Option.decidableForallMem cs.head?) (Option.decidableForallMem cs.getLast?)

theorem trimBy_eq_self {p : Char → Bool} {cs : List Char} (h : Bounded p cs) : trimBy p cs = cs := by
  have hd : cs.dropWhile p = cs := by
    cases cs with
    | nil => rfl
    | cons c cs => rw [List.dropWhile_cons_of_neg (by simp [h.1 c rfl])]
  rw [trimBy_eq, hd, List.rdropWhile_eq_self_iff]
  intro hn
  simp [h.2 _ (List.getLast?_eq_some_getLast hn)]

theorem head?_dropWhile (p : Char → Bool) : ∀ (cs : List Char), ∀ c ∈ (cs.dropWhile p).head?, p c = false
  | [], _, h => by cases h
  | d :: cs, c, h => by
    by_cases hd : p d = true
    · rw [List.dropWhile_cons_of_pos hd] at h
      exact head?_dropWhile p cs c h
    · rw [List.dropWhile_cons_of_neg hd] at h
      cases h
      simpa using hd

theorem bounded_trimBy (p : Char → Bool) (cs : List Char) : Bounded p (trimBy p cs) := by
  rw [trimBy_eq]
  constructor
  · intro c hc
    obtain ⟨rest, hr⟩ := List.rdropWhile_prefix p (cs.dropWhile p)
    refine head?_dropWhile p cs c ?_
    rw [← hr, List.head?_append, hc]
    rfl
  · intro c hc
    obtain ⟨hn, rfl⟩ := List.mem_getLast?_eq_getLast hc
    simpa using List.rdropWhile_last_not p _ hn

/-! ## Padding -/

section
variable {p : Char → Bool} {before after : List Char}

theorem exists_trimBy (p : Char → Bool) (cs : List Char) : ∃ before after,
    (∀ c ∈ before, p c = true) ∧ (∀ c ∈ after, p c = true) ∧ cs = before ++ trimBy p cs ++ after := by
  refine ⟨cs.takeWhile p, (cs.dropWhile p).rtakeWhile p, fun _ => List.mem_takeWhile_imp,
    fun _ => List.mem_rtakeWhile_imp, ?_⟩
  rw [trimBy_eq, List.append_assoc, List.rdropWhile_append_rtakeWhile, List.takeWhile_append_dropWhile]

theorem mem_trimBy {cs : List Char} {c : Char} (h : c ∈ trimBy p cs) : c ∈ cs := by
  obtain ⟨before, after, -, -, hcs⟩ := exists_trimBy p cs
  rw [hcs]
  exact List.mem_append_left _ (List.mem_append_right _ h)

theorem count_trimBy {c : Char} (hc : p c = false) (cs : List Char) : (trimBy p cs).count c = cs.count c := by
  obtain ⟨before, after, hb, ha, hcs⟩ := exists_trimBy p cs
  have hnone : ∀ pad : List Char, (∀ d ∈ pad, p d = true) → pad.count c = 0 := fun pad hp =>
    List.count_eq_zero_of_not_mem fun hm => by simp [hp c hm] at hc
  conv_rhs => rw [hcs, List.count_append, List.count_append, hnone before hb, hnone after ha, Nat.zero_add, Nat.add_zero]

theorem trimBy_append_left (h : ∀ c ∈ before, p c = true) (cs : List Char) : trimBy p (before ++ cs) = trimBy p cs := by
  rw [trimBy_eq, trimBy_eq, List.dropWhile_append_of_pos h]

theorem rdropWhile_append_right (h : ∀ c ∈ after, p c = true) (cs : List Char) :
    (cs ++ after).rdropWhile p = cs.rdropWhile p := by
  have hr : ∀ c ∈ after.reverse, p c = true := fun c hc => h c (List.mem_reverse.mp hc)
  rw [List.rdropWhile, List.reverse_append, List.dropWhile_append_of_pos hr]
  rfl

theorem trimBy_append_right (h : ∀ c ∈ after, p c = true) (cs : List Char) : trimBy p (cs ++ after) = trimBy p cs := by
  rw [trimBy_eq, trimBy_eq, List.dropWhile_append]
  split
  · -- There was nothing but padding, so that nothing is left of either text.
    rename_i hn
    rw [List.isEmpty_iff.mp hn, List.dropWhile_eq_nil_iff.mpr h]
  · exact rdropWhile_append_right h _

end

end Telemetry.Text
