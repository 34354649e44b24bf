import Mathlib.Data.List.Induction
import Telemetry.OrderedMap

/-! # Distinct names and keys

Lists of names without repetition, and maps written from lists. -/

namespace Telemetry

theorem nodup_eraseDups : ∀ names : List String, names.eraseDups.Nodup
  | [] => List.nodup_nil
  | name :: names => by
    rw [List.eraseDups_cons, List.nodup_cons]
    refine ⟨fun h => ?_, nodup_eraseDups _⟩
    have hm := List.mem_filter.mp (List.mem_eraseDups.mp h)
    simp at hm
termination_by names => names.length
decreasing_by exact Nat.lt_succ_of_le (List.length_filter_le _ _)

theorem nodup_concat {α : Type} {xs : List α} {x : α} (h : xs.Nodup) (hx : x ∉ xs) : (xs ++ [x]).Nodup := by
  rw [List.nodup_append]
  refine ⟨h, List.nodup_cons.mpr ⟨List.not_mem_nil, List.nodup_nil⟩, fun y hy z hz => ?_⟩
  rw [List.mem_singleton.mp hz]
  exact fun e => hx (e ▸ hy)

section
variable {κ υ : Type} [DecidableEq κ]

theorem putEntry_of_not_mem {k : κ} (v : υ) : ∀ {es : List (κ × υ)}, k ∉ es.map Prod.fst →
    putEntry k v es = es ++ [(k, v)]
  | [], _ => rfl
  | e :: es, h => by
    simp only [List.map_cons, List.mem_cons, not_or] at h
    simp only [putEntry, Ne.symm h.1, if_false, List.cons_append, putEntry_of_not_mem v h.2]

namespace OrderedMap

theorem entries_insert_of_not_mem {m : OrderedMap κ υ} {k : κ} (v : υ) (h : k ∉ m.keys) :
    (m.insert k v).entries = m.entries ++ [(k, v)] :=
  putEntry_of_not_mem v h

theorem get?_empty (k : κ) : (empty : OrderedMap κ υ).get? k = none := rfl

theorem get?_insert (m : OrderedMap κ υ) (k : κ) (v : υ) (k' : κ) :
    (m.insert k v).get? k' = if k' = k then some v else m.get? k' := by
  split
  · rename_i h
    rw [h, get?_insert_self]
  · rename_i h
    exact m.get?_insert_of_ne h v

theorem get?_eq_some_iff (m : OrderedMap κ υ) {k : κ} {v : υ} : m.get? k = some v ↔ (k, v) ∈ m.entries := by
  obtain ⟨es, hd⟩ := m
  show (es.find? fun e => e.1 = k).map Prod.snd = some v ↔ (k, v) ∈ es
  induction es with
  | nil => simp
  | cons e es ih =>
    rw [List.map_cons, List.nodup_cons] at hd
    by_cases h : e.1 = k
    · rw [List.find?_cons_of_pos (by simpa using h), Option.map_some, Option.some_inj, List.mem_cons]
      constructor
      · rintro rfl
        exact Or.inl (h ▸ rfl)
      · rintro (he | hm)
        · rw [← he]
        · exact absurd (List.mem_map.mpr ⟨_, hm, h.symm⟩) hd.1
    · rw [List.find?_cons_of_neg (by simpa using h), ih hd.2, List.mem_cons]
      constructor
      · exact Or.inr
      · rintro (he | hm)
        · exact absurd (he ▸ rfl) h
        · exact hm

theorem mem_keys {m : OrderedMap κ υ} {k : κ} : k ∈ m.keys ↔ ∃ v, m.get? k = some v := by
  simp only [get?_eq_some_iff, keys, List.mem_map, Prod.exists, exists_and_right, exists_eq_right]

theorem mem_values {m : OrderedMap κ υ} {v : υ} : v ∈ m.values ↔ ∃ k, m.get? k = some v := by
  simp only [get?_eq_some_iff, values, List.mem_map, Prod.exists, exists_eq_right]

theorem values_split {m : OrderedMap κ υ} {k : κ} {v : υ} (h : m.get? k = some v) :
    ∃ before after, m.values = before ++ v :: after ∧ ∀ v' ∈ before ++ after, ∃ k', m.get? k' = some v' ∧ k' ≠ k := by
  obtain ⟨before, after, he⟩ := List.append_of_mem (m.get?_eq_some_iff.mp h)
  have hd := m.distinct
  rw [he, List.map_append, List.map_cons, List.perm_middle.nodup_iff, List.nodup_cons, ← List.map_append] at hd
  refine ⟨before.map Prod.snd, after.map Prod.snd, ?_, ?_⟩
  · rw [values, he, List.map_append, List.map_cons]
  · rw [← List.map_append]
    refine List.forall_mem_map.mpr fun e hm => ⟨e.1, ?_, fun hk => hd.1 (List.mem_map.mpr ⟨e, hm, hk⟩)⟩
    rw [m.get?_eq_some_iff, he]
    exact List.mem_append.mpr ((List.mem_append.mp hm).imp id (List.mem_cons_of_mem _))

theorem isEmpty_iff {m : OrderedMap κ υ} : m.isEmpty = true ↔ ∀ k v, m.get? k ≠ some v := by
  simp only [ne_eq, get?_eq_some_iff, isEmpty, List.isEmpty_iff]
  constructor
  · intro h k v
    rw [h]
    exact List.not_mem_nil
  · exact fun h => List.eq_nil_iff_forall_not_mem.mpr fun e => h e.1 e.2

theorem insertAll_concat (m : OrderedMap κ υ) (es : List (κ × υ)) (e : κ × υ) :
    m.insertAll (es ++ [e]) = (m.insertAll es).insert e.1 e.2 := by
  unfold insertAll
  rw [List.foldl_append, List.foldl_cons, List.foldl_nil]

theorem ofList_append (es : List (κ × υ)) (e : κ × υ) : ofList (es ++ [e]) = (ofList es).insert e.1 e.2 :=
  insertAll_concat empty es e

theorem get?_ofList (k : κ) (es : List (κ × υ)) :
    (ofList es).get? k = (es.reverse.find? fun e => e.1 = k).map Prod.snd := by
  induction es using List.reverseRecOn with
  | nil => rfl
  | append_singleton es e ih =>
    rw [ofList_append, List.reverse_append, List.reverse_singleton, List.singleton_append]
    by_cases h : e.1 = k
    · rw [List.find?_cons_of_pos (by simpa using h), ← h, get?_insert_self]; rfl
    · rw [List.find?_cons_of_neg (by simpa using h), get?_insert_of_ne _ (Ne.symm h), ih]

theorem keys_ofList [BEq κ] [LawfulBEq κ] (es : List (κ × υ)) : (ofList es).keys = (es.map Prod.fst).eraseDups := by
  induction es using List.reverseRecOn with
  | nil => rfl
  | append_singleton es e ih =>
    rw [ofList_append, keys_insert, ih, List.map_append, List.eraseDups_append]
    by_cases h : e.1 ∈ es.map Prod.fst
    · rw [if_pos (List.mem_eraseDups.mpr h)]
      simp [List.removeAll, h]
    · rw [if_neg fun hm => h (List.mem_eraseDups.mp hm)]
      simp [List.removeAll, h, List.eraseDups_cons]

theorem isSome_get?_ofList (k : κ) (es : List (κ × υ)) : ((ofList es).get? k).isSome ↔ k ∈ es.map Prod.fst := by
  rw [get?_ofList, Option.isSome_map, List.find?_isSome]
  simp

theorem mem_of_get?_ofList {k : κ} {v : υ} {es : List (κ × υ)} (h : (ofList es).get? k = some v) : (k, v) ∈ es := by
  rw [get?_ofList] at h
  obtain ⟨⟨k', v'⟩, he, rfl⟩ := Option.map_eq_some_iff.mp h
  obtain rfl : k' = k := by simpa using List.find?_some he
  exact List.mem_reverse.mp (List.mem_of_find?_eq_some he)

theorem contains_eq (m : OrderedMap κ υ) (k : κ) : m.contains k = (m.get? k).isSome := by
  rw [contains, get?, Option.isSome_map, Bool.eq_iff_iff, List.any_eq_true, List.find?_isSome]

theorem insertAll_append (m : OrderedMap κ υ) (es fs : List (κ × υ)) :
    m.insertAll (es ++ fs) = (m.insertAll es).insertAll fs :=
  List.foldl_append

theorem entries_ofList {es : List (κ × υ)} (h : (es.map Prod.fst).Nodup) : (ofList es).entries = es := by
  induction es using List.reverseRecOn with
  | nil => rfl
  | append_singleton es e ih =>
    rw [List.map_append, List.nodup_append] at h
    have ih := ih h.1
    rw [ofList_append, entries_insert_of_not_mem, ih]
    unfold keys
    rw [ih]
    exact fun hm => h.2.2 _ hm _ (by simp) rfl

theorem ofList_entries (m : OrderedMap κ υ) : ofList m.entries = m := by
  have h := entries_ofList m.distinct
  generalize ofList m.entries = n at h
  cases m
  cases n
  cases h
  rfl

theorem isEmpty_eq_keys {κ υ : Type} (m : OrderedMap κ υ) : m.isEmpty = m.keys.isEmpty := by
  rw [isEmpty, keys, List.isEmpty_map]

theorem get?_erase_of_ne (m : OrderedMap κ υ) {k k' : κ} (h : k' ≠ k) : (m.erase k).get? k' = m.get? k' := by
  ext v
  have hm : (k', v) ∈ (m.erase k).entries ↔ (k', v) ∈ m.entries ∧ decide (k' ≠ k) = true := List.mem_filter
  rw [get?_eq_some_iff, get?_eq_some_iff, hm]
  exact and_iff_left (decide_eq_true h)

/-! ## One map written over another -/

theorem get?_insertAll (m : OrderedMap κ υ) (es : List (κ × υ)) (k : κ) :
    (m.insertAll es).get? k = ((ofList es).get? k).or (m.get? k) := by
  induction es using List.reverseRecOn with
  | nil => rfl
  | append_singleton es e ih =>
    rw [insertAll_concat, ofList_append]
    rw [get?_insert, get?_insert, ih]
    split
    · rfl
    · rfl

theorem keys_insertAll (m : OrderedMap κ υ) (es : List (κ × υ)) :
    (m.insertAll es).keys = m.keys ++ (ofList es).keys.filter (· ∉ m.keys) := by
  induction es using List.reverseRecOn with
  | nil => exact (List.append_nil _).symm
  | append_singleton es e ih =>
    rw [insertAll_concat, ofList_append, keys_insert, keys_insert, ih]
    by_cases hm : e.1 ∈ m.keys
    · rw [if_pos (List.mem_append_left _ hm)]
      split
      · rfl
      · rw [List.filter_append, List.filter_cons_of_neg (by simpa using hm), List.filter_nil, List.append_nil]
    · by_cases he : e.1 ∈ (ofList es).keys
      · rw [if_pos (List.mem_append_right _ (List.mem_filter.mpr ⟨he, by simpa using hm⟩)), if_pos he]
      · have hn : e.1 ∉ m.keys ++ (ofList es).keys.filter (· ∉ m.keys) := by
          rw [List.mem_append, List.mem_filter]
          exact not_or.mpr ⟨hm, fun h => he h.1⟩
        rw [if_neg hn, if_neg he, List.filter_append, List.filter_cons_of_pos (by simpa using hm), List.filter_nil,
          List.append_assoc]

theorem get?_union (m n : OrderedMap κ υ) (k : κ) : (m.union n).get? k = (n.get? k).or (m.get? k) := by
  rw [union, get?_insertAll, ofList_entries]

theorem keys_union (m n : OrderedMap κ υ) : (m.union n).keys = m.keys ++ n.keys.filter (· ∉ m.keys) := by
  rw [union, keys_insertAll, ofList_entries]

end OrderedMap

end

end Telemetry
