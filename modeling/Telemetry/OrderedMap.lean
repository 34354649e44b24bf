/-! # Ordered maps

Maps that remember the order in which their keys first came. Writing a key again changes its value
and not its place. -/

namespace Telemetry

section
variable {κ υ : Type} [DecidableEq κ]

/-- Overwrites the value of a key in place, or appends the key. -/
def putEntry (k : κ) (v : υ) : List (κ × υ) → List (κ × υ)
  | [] => [(k, v)]
  | (k', v') :: rest => if k' = k then (k, v) :: rest else (k', v') :: putEntry k v rest

theorem map_fst_putEntry (k : κ) (v : υ) (es : List (κ × υ)) :
    (putEntry k v es).map Prod.fst =
      if k ∈ es.map Prod.fst then es.map Prod.fst else es.map Prod.fst ++ [k] := by
  induction es with
  | nil => simp [putEntry]
  | cons e rest ih =>
    obtain ⟨k', v'⟩ := e
    by_cases h : k' = k
    · simp [putEntry, h]
    · have h' : ¬ k = k' := fun e => h e.symm
      simp only [putEntry, h, if_false, List.map_cons, ih, List.mem_cons, h', false_or]
      split <;> simp

theorem nodup_putEntry (k : κ) (v : υ) {es : List (κ × υ)} (h : (es.map Prod.fst).Nodup) :
    ((putEntry k v es).map Prod.fst).Nodup := by
  rw [map_fst_putEntry]
  split
  · exact h
  · rename_i hk
    rw [List.nodup_append]
    exact ⟨h, by simp, fun a ha b hb => by simp only [List.mem_singleton] at hb; grind⟩

theorem find?_putEntry_self (k : κ) (v : υ) (es : List (κ × υ)) :
    ((putEntry k v es).find? fun e => e.1 = k).map Prod.snd = some v := by
  induction es with
  | nil => simp [putEntry]
  | cons e rest ih =>
    by_cases h : e.1 = k
    · simp [putEntry, h]
    · simpa [putEntry, h] using ih

theorem find?_putEntry_of_ne {k k' : κ} (h : k' ≠ k) (v : υ) (es : List (κ × υ)) :
    ((putEntry k v es).find? fun e => e.1 = k').map Prod.snd =
      (es.find? fun e => e.1 = k').map Prod.snd := by
  induction es with
  | nil => simp [putEntry, h.symm]
  | cons e rest ih =>
    by_cases h₁ : e.1 = k
    · have h₂ : ¬ k = k' := fun e => h e.symm
      simp [putEntry, h₁, h₂]
    · by_cases h₂ : e.1 = k'
      · simp [putEntry, h₂, h]
      · simpa [putEntry, h₁, h₂] using ih

end

structure OrderedMap (κ υ : Type) where
  entries : List (κ × υ)
  distinct : (entries.map Prod.fst).Nodup

namespace OrderedMap
variable {κ υ : Type}

def empty : OrderedMap κ υ := ⟨[], by simp⟩

instance : Inhabited (OrderedMap κ υ) := ⟨empty⟩

def keys (m : OrderedMap κ υ) : List κ := m.entries.map Prod.fst

def values (m : OrderedMap κ υ) : List υ := m.entries.map Prod.snd

def size (m : OrderedMap κ υ) : Nat := m.entries.length

def isEmpty (m : OrderedMap κ υ) : Bool := m.entries.isEmpty

variable [DecidableEq κ]

def get? (m : OrderedMap κ υ) (k : κ) : Option υ :=
  (m.entries.find? fun e => e.1 = k).map Prod.snd

def contains (m : OrderedMap κ υ) (k : κ) : Bool := m.entries.any fun e => e.1 = k

def insert (m : OrderedMap κ υ) (k : κ) (v : υ) : OrderedMap κ υ :=
  ⟨putEntry k v m.entries, nodup_putEntry k v m.distinct⟩

def erase (m : OrderedMap κ υ) (k : κ) : OrderedMap κ υ :=
  ⟨m.entries.filter fun e => e.1 ≠ k, m.distinct.sublist ((List.filter_sublist).map Prod.fst)⟩

def insertAll (m : OrderedMap κ υ) (es : List (κ × υ)) : OrderedMap κ υ :=
  es.foldl (fun m e => m.insert e.1 e.2) m

def ofList (es : List (κ × υ)) : OrderedMap κ υ := empty.insertAll es

/-- The later map wins; its new keys follow. -/
def union (m n : OrderedMap κ υ) : OrderedMap κ υ := m.insertAll n.entries

theorem keys_insert (m : OrderedMap κ υ) (k : κ) (v : υ) :
    (m.insert k v).keys = if k ∈ m.keys then m.keys else m.keys ++ [k] :=
  map_fst_putEntry k v m.entries

theorem get?_insert_self (m : OrderedMap κ υ) (k : κ) (v : υ) : (m.insert k v).get? k = some v :=
  find?_putEntry_self k v m.entries

theorem get?_insert_of_ne (m : OrderedMap κ υ) {k k' : κ} (h : k' ≠ k) (v : υ) :
    (m.insert k v).get? k' = m.get? k' :=
  find?_putEntry_of_ne h v m.entries

end OrderedMap

end Telemetry
