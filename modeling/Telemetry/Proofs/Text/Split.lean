import Telemetry.Proofs.Text.Trim
import Telemetry.Text.Split

/-! # Fields of a padded text

Fields are what `List.splitOn` finds, so that joining them gives the text back. A separator that is no
blank stays where it is when blanks are trimmed: blanks around a text are blanks around its first and its last
field, and blanks around a field with a separator in it are blanks around the halves. -/

namespace Telemetry.Text

variable {sep : Char}

theorem fields_eq_splitOn (sep : Char) (cs : List Char) : fields sep cs = cs.splitOn sep := by
  induction cs with
  | nil => rfl
  | cons c cs ih =>
    rw [List.splitOn_cons_eq_if_modifyHead, ← ih, fields]
    by_cases h : c = sep
    · simp [h]
    · simp only [h, if_false, beq_iff_eq]
      cases hf : fields sep cs with
      | nil => exact absurd hf (fields_ne_nil sep cs)
      | cons f fs => rfl

theorem forall_mem_splitOn {P : Char → Prop} (cs : List Char) :
    (∀ f ∈ cs.splitOn sep, ∀ c ∈ f, P c) ↔ ∀ c ∈ cs, c = sep ∨ P c := by
  induction cs with
  | nil => simp
  | cons c cs ih =>
    rw [List.splitOn_cons_eq_if_modifyHead, List.forall_mem_cons, ← ih]
    by_cases hc : c = sep
    · simp [hc]
    · rw [if_neg (by simpa using hc)]
      cases hs : cs.splitOn sep with
      | nil => exact absurd hs (List.splitOn_ne_nil sep cs)
      | cons f fs => simp [hc, and_assoc]

theorem not_mem_of_mem_splitOn {cs f : List Char} (hf : f ∈ cs.splitOn sep) : sep ∉ f := by
  have h : ∀ f ∈ cs.splitOn sep, ∀ c ∈ f, c ≠ sep := (forall_mem_splitOn cs).mpr fun c _ => eq_or_ne c sep
  exact fun hm => h f hf sep hm rfl

/-! ## The first separator -/

theorem cut?_append {a : List Char} (h : sep ∉ a) (b : List Char) : cut? sep (a ++ sep :: b) = some (a, b) := by
  induction a with
  | nil => simp [cut?]
  | cons c a ih =>
    simp [cut?, Ne.symm (List.ne_of_not_mem_cons h), ih (List.not_mem_of_not_mem_cons h)]

theorem cut?_of_not_mem {cs : List Char} (h : sep ∉ cs) : cut? sep cs = none := by
  cases hc : cut? sep cs with
  | none => rfl
  | some halves =>
    obtain ⟨rfl, -⟩ := cut?_eq_some hc
    exact absurd (List.mem_append_right _ List.mem_cons_self) h

theorem forall_ne_of_not_mem {a : List Char} (h : sep ∉ a) : ∀ c ∈ a, decide (c ≠ sep) = true :=
  fun _ hc => decide_eq_true (ne_of_mem_of_not_mem hc h)

theorem takeWhile_ne_append {a : List Char} (h : sep ∉ a) (b : List Char) :
    (a ++ sep :: b).takeWhile (· ≠ sep) = a := by
  rw [List.takeWhile_append_of_pos (forall_ne_of_not_mem h), List.takeWhile_cons_of_neg (by simp), List.append_nil]

theorem dropWhile_ne_append {a : List Char} (h : sep ∉ a) (b : List Char) :
    (a ++ sep :: b).dropWhile (· ≠ sep) = sep :: b := by
  rw [List.dropWhile_append_of_pos (forall_ne_of_not_mem h), List.dropWhile_cons_of_neg (by simp)]

/-! ## Separators and blanks -/

theorem trim_dropWhile (cs : List Char) : trim (cs.dropWhile isBlank) = trim cs := by
  have hb : ∀ c ∈ cs.takeWhile isBlank, isBlank c = true := fun _ => List.mem_takeWhile_imp
  have h := trimBy_append_left hb (cs.dropWhile isBlank)
  rw [List.takeWhile_append_dropWhile] at h
  exact h.symm

theorem trim_rdropWhile (cs : List Char) : trim (cs.rdropWhile isBlank) = trim cs := by
  have ha : ∀ c ∈ cs.rtakeWhile isBlank, isBlank c = true := fun _ => List.mem_rtakeWhile_imp
  have h := trimBy_append_right ha (cs.rdropWhile isBlank)
  rw [List.rdropWhile_append_rtakeWhile] at h
  exact h.symm

theorem trim_eq_nil_iff {cs : List Char} : trim cs = [] ↔ ∀ c ∈ cs, isBlank c = true := by
  constructor
  · intro h
    obtain ⟨before, after, hb, ha, hcs⟩ := exists_trimBy isBlank cs
    rw [show trimBy isBlank cs = [] from h, List.append_nil] at hcs
    rw [hcs]
    exact fun c hc => (List.mem_append.mp hc).elim (hb c) (ha c)
  · intro h
    rw [trim, trimBy_eq, List.dropWhile_eq_nil_iff.mpr h]
    rfl

section
variable (hsep : isBlank sep = false)
include hsep

theorem rdropWhile_append_cons (a b : List Char) :
    (a ++ sep :: b).rdropWhile isBlank = a ++ sep :: b.rdropWhile isBlank := by
  have hr : (sep :: a.reverse).dropWhile isBlank = sep :: a.reverse := List.dropWhile_cons_of_neg (by simp [hsep])
  have h : (b.reverse ++ sep :: a.reverse).dropWhile isBlank = b.reverse.dropWhile isBlank ++ sep :: a.reverse := by
    rw [List.dropWhile_append, hr]
    split
    · rename_i hb
      rw [List.isEmpty_iff.mp hb, List.nil_append]
    · rfl
  rw [List.rdropWhile, List.reverse_append, List.reverse_cons, List.append_assoc, List.singleton_append, h,
    List.reverse_append, List.reverse_cons, List.reverse_reverse, List.append_assoc]
  rfl

theorem dropWhile_append_cons (a b : List Char) :
    (a ++ sep :: b).dropWhile isBlank = a.dropWhile isBlank ++ sep :: b := by
  rw [List.dropWhile_append, List.dropWhile_cons_of_neg (by simp [hsep])]
  split
  · rename_i ha
    rw [List.isEmpty_iff.mp ha, List.nil_append]
  · rfl

theorem trim_append_cons (a b : List Char) :
    trim (a ++ sep :: b) = a.dropWhile isBlank ++ sep :: b.rdropWhile isBlank := by
  rw [trim, trimBy_eq, dropWhile_append_cons hsep, rdropWhile_append_cons hsep]

theorem map_trim_splitOn_rdropWhile (cs : List Char) :
    ((cs.rdropWhile isBlank).splitOn sep).map trim = (cs.splitOn sep).map trim := by
  by_cases h : sep ∈ cs
  · obtain ⟨a, b, hcs, ha⟩ := List.eq_append_cons_of_mem h
    have hlt : b.length < cs.length := by
      rw [hcs, List.length_append, List.length_cons]
      omega
    rw [hcs, rdropWhile_append_cons hsep, List.splitOn_append_cons_self_of_not_mem ha,
      List.splitOn_append_cons_self_of_not_mem ha, List.map_cons, List.map_cons, map_trim_splitOn_rdropWhile b]
  · have h' : sep ∉ cs.rdropWhile isBlank := fun hm => h ((List.rdropWhile_prefix isBlank cs).mem hm)
    rw [List.splitOn_eq_singleton h, List.splitOn_eq_singleton h', List.map_singleton, List.map_singleton,
      trim_rdropWhile]
termination_by cs.length

theorem map_trim_splitOn_trim (cs : List Char) : ((trim cs).splitOn sep).map trim = (cs.splitOn sep).map trim := by
  rw [trim, trimBy_eq, map_trim_splitOn_rdropWhile hsep]
  by_cases h : sep ∈ cs
  · obtain ⟨a, b, rfl, ha⟩ := List.eq_append_cons_of_mem h
    have ha' : sep ∉ a.dropWhile isBlank := fun hm => ha ((List.dropWhile_suffix isBlank).mem hm)
    rw [dropWhile_append_cons hsep, List.splitOn_append_cons_self_of_not_mem ha,
      List.splitOn_append_cons_self_of_not_mem ha', List.map_cons, List.map_cons, trim_dropWhile]
  · have h' : sep ∉ cs.dropWhile isBlank := fun hm => h ((List.dropWhile_suffix isBlank).mem hm)
    rw [List.splitOn_eq_singleton h, List.splitOn_eq_singleton h', List.map_singleton, List.map_singleton,
      trim_dropWhile]

end

end Telemetry.Text
