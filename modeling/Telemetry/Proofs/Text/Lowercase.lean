import Telemetry.Proofs.Text.Trim
import Telemetry.Text.Lowercase

/-! # Lowercase text stays as it is

What a character lowers to has no lowercase of its own, so text that was lowercased once does not
change any more. Nor does lowercasing make a blank of what is none. Blanks are left alone, and as they end
every word, they make no difference to the text between them: trimming and lowercasing commute. -/

namespace Telemetry.Text

/-! ## The table of runs -/

namespace CaseRun

def image (r : CaseRun) : CaseRun := ⟨(r.first + r.shift).toNat, (r.last + r.shift).toNat, r.step, 0⟩

/-- Whether two runs are apart: one lies before the other, or the members of one lie between those of
the other. -/
def apart (r r' : CaseRun) : Bool :=
  Nat.blt r'.last r.first || Nat.blt r.last r'.first ||
    ((Nat.beq r.step 2 || Nat.beq r.first r.last) && Nat.beq r'.step 2 &&
      Nat.beq ((r.first + r'.first) % 2) 1)

theorem covers_iff (r : CaseRun) (n : Nat) :
    r.covers n = true ↔ r.first ≤ n ∧ n ≤ r.last ∧ (n - r.first) % r.step = 0 := by
  simp [covers, and_assoc]

theorem covers_image {r : CaseRun} {n : Nat} (h : r.covers n = true) (h0 : 0 ≤ r.first + r.shift) :
    r.image.covers (n + r.shift).toNat = true := by
  obtain ⟨hf, hl, hs⟩ := (r.covers_iff n).mp h
  have hd : (n + r.shift).toNat - (r.first + r.shift).toNat = n - r.first := by omega
  rw [covers_iff]
  refine ⟨?_, ?_, ?_⟩
  · simp only [image]; omega
  · simp only [image]; omega
  · simp only [image, hd, hs]

theorem not_covers_of_apart {r r' : CaseRun} {n : Nat} (hn : r.covers n = true) (h : r.apart r' = true) :
    r'.covers n = false := by
  obtain ⟨hf, hl, hs⟩ := (r.covers_iff n).mp hn
  rw [← Bool.not_eq_true, covers_iff]
  rintro ⟨hf', hl', hs'⟩
  simp only [apart, Bool.or_eq_true, Bool.and_eq_true, Nat.blt_eq, Nat.beq_eq] at h
  rcases h with (h | h) | ⟨⟨h | h, h'⟩, hp⟩
  · omega
  · omega
  · rw [h] at hs
    rw [h'] at hs'
    omega
  · rw [h'] at hs'
    omega

end CaseRun

def blankRuns : List CaseRun :=
  [⟨9, 13, 1, 0⟩, ⟨28, 32, 1, 0⟩, ⟨133, 133, 1, 0⟩, ⟨160, 160, 1, 0⟩, ⟨5760, 5760, 1, 0⟩,
   ⟨8192, 8202, 1, 0⟩, ⟨8232, 8233, 1, 0⟩, ⟨8239, 8239, 1, 0⟩, ⟨8287, 8287, 1, 0⟩,
   ⟨12288, 12288, 1, 0⟩]

theorem isBlank_iff (c : Char) : isBlank c = true ↔ ∃ r ∈ blankRuns, r.covers c.toNat = true := by
  simp only [isBlank, blankRuns, CaseRun.covers_iff, Nat.mod_one, and_true, List.mem_cons, List.not_mem_nil, or_false,
    exists_eq_or_imp, exists_eq_left, Bool.or_eq_true, Bool.and_eq_true, decide_eq_true_eq, beq_iff_eq]
  omega

def specialRuns : List CaseRun :=
  blankRuns ++ [⟨0x130, 0x130, 1, 0⟩, ⟨0x3a3, 0x3a3, 1, 0⟩, ⟨0x2d, 0x2d, 1, 0⟩, ⟨0x5f, 0x5f, 1, 0⟩,
    ⟨0xd800, 0xdfff, 1, 0⟩]

theorem caseRuns_apart : (caseRuns.all fun r => (caseRuns ++ specialRuns).all r.image.apart) = true := by
  decide +kernel

theorem caseRuns_bounds :
    (caseRuns.all fun r => decide (0 ≤ r.first + r.shift) && decide (r.image.last < 0x110000)) = true := by
  decide +kernel

def Uncovered (n : Nat) : Prop := ∀ r ∈ caseRuns ++ specialRuns, r.covers n = false

instance (n : Nat) : Decidable (Uncovered n) :=
  inferInstanceAs (Decidable (∀ r ∈ caseRuns ++ specialRuns, r.covers n = false))

theorem uncovered_image {r : CaseRun} (hr : r ∈ caseRuns) {n : Nat} (h : r.covers n = true) :
    Uncovered (n + r.shift).toNat ∧ (n + r.shift).toNat < 0x110000 := by
  have ha := List.all_eq_true.mp caseRuns_apart r hr
  have hb := List.all_eq_true.mp caseRuns_bounds r hr
  simp only [Bool.and_eq_true, decide_eq_true_eq] at hb
  have hi := CaseRun.covers_image h hb.1
  refine ⟨fun r' hr' => CaseRun.not_covers_of_apart hi (List.all_eq_true.mp ha r' hr'), ?_⟩
  have := (r.image.covers_iff _).mp hi
  omega

namespace Uncovered
variable {n : Nat}

theorem outside (h : Uncovered n) {first last : Nat} (hr : ⟨first, last, 1, 0⟩ ∈ specialRuns) :
    n < first ∨ last < n := by
  have hc := h _ (List.mem_append_right _ hr)
  simp only [← Bool.not_eq_true, CaseRun.covers_iff, Nat.mod_one, and_true] at hc
  omega

theorem ne (h : Uncovered n) {m : Nat} (hr : ⟨m, m, 1, 0⟩ ∈ specialRuns) : n ≠ m := by
  have := h.outside hr
  omega

theorem toNat_ofNat (h : Uncovered n) (hn : n < 0x110000) : (Char.ofNat n).toNat = n := by
  have hs : n < 0xd800 ∨ 0xdfff < n := h.outside (by simp [specialRuns])
  have hv : n.isValidChar := by
    unfold Nat.isValidChar
    omega
  rw [Char.ofNat, dif_pos hv]
  rfl

theorem isBlank {c : Char} (h : Uncovered c.toNat) : isBlank c = false := by
  rw [← Bool.not_eq_true, isBlank_iff]
  rintro ⟨r, hr, hc⟩
  rw [h r (List.mem_append_right _ (List.mem_append_left _ hr))] at hc
  cases hc

end Uncovered

/-! ## Characters that are lowercase -/

structure Low (c : Char) : Prop where
  lowerChar : lowerChar c = [c]
  notSigma : c.toNat ≠ 0x3a3

theorem low_of_uncovered {c : Char} (h : Uncovered c.toNat) : Low c := by
  have hi : c.toNat ≠ 0x130 := h.ne (by simp [specialRuns])
  have hs : c.toNat ≠ 0x3a3 := h.ne (by simp [specialRuns])
  have hf : caseRuns.find? (·.covers c.toNat) = none :=
    List.find?_eq_none.mpr fun r hr => by simp [h r (List.mem_append_left _ hr)]
  refine ⟨?_, hs⟩
  rw [Text.lowerChar, if_neg hi, hf]

theorem mem_lowerChar {c d : Char} (h : d ∈ lowerChar c) : d = c ∧ lowerChar c = [c] ∨ Uncovered d.toNat := by
  unfold lowerChar at h ⊢
  by_cases hi : c.toNat = 0x130
  · rw [if_pos hi] at h
    right
    rcases List.mem_cons.mp h with rfl | h
    · decide +kernel
    · rw [List.mem_singleton.mp h]
      decide +kernel
  · rw [if_neg hi] at h ⊢
    cases hf : caseRuns.find? (·.covers c.toNat) with
    | none =>
      rw [hf] at h
      exact Or.inl ⟨List.mem_singleton.mp h, rfl⟩
    | some r =>
      rw [hf] at h
      have hc : r.covers c.toNat = true := by simpa using List.find?_some hf
      obtain ⟨hu, hb⟩ := uncovered_image (List.mem_of_find?_eq_some hf) hc
      right
      rw [List.mem_singleton.mp h, hu.toNat_ofNat hb]
      exact hu

theorem lowerChar_ne_nil (c : Char) : lowerChar c ≠ [] := by
  unfold lowerChar
  split
  · exact List.cons_ne_nil _ _
  · split <;> exact List.cons_ne_nil _ _

/-! ## Whole texts -/

def lowerAt (before : List Char) (c : Char) (after : List Char) : List Char :=
  if c.toNat = 0x3a3 then [Char.ofNat (if endsWord before after then 0x3c2 else 0x3c3)] else lowerChar c

theorem lowerFrom_cons (before : List Char) (c : Char) (after : List Char) :
    lowerFrom before (c :: after) = lowerAt before c after ++ lowerFrom (c :: before) after := rfl

section
variable {before after : List Char} {c d : Char}

theorem lowerAt_ne_nil : lowerAt before c after ≠ [] := by
  unfold lowerAt
  split
  · exact List.cons_ne_nil _ _
  · exact lowerChar_ne_nil c

theorem mem_lowerAt (h : d ∈ lowerAt before c after) : d = c ∧ Low c ∨ Uncovered d.toNat := by
  unfold lowerAt at h
  by_cases hs : c.toNat = 0x3a3
  · rw [if_pos hs] at h
    right
    rw [List.mem_singleton.mp h]
    split <;> decide +kernel
  · rw [if_neg hs] at h
    rcases mem_lowerChar h with ⟨hd, hc⟩ | hu
    · exact Or.inl ⟨hd, hc, hs⟩
    · exact Or.inr hu

theorem low_of_mem_lowerAt (h : d ∈ lowerAt before c after) : Low d := by
  rcases mem_lowerAt h with ⟨rfl, hl⟩ | hu
  · exact hl
  · exact low_of_uncovered hu

theorem isBlank_of_mem_lowerAt (hc : isBlank c = false) (h : d ∈ lowerAt before c after) : isBlank d = false := by
  rcases mem_lowerAt h with ⟨rfl, -⟩ | hu
  · exact hc
  · exact hu.isBlank

theorem lowerAt_of_low (h : Low c) : lowerAt before c after = [c] := by
  rw [lowerAt, if_neg h.notSigma, h.lowerChar]

end

theorem low_of_mem_lowerFrom {d : Char} : ∀ {cs before : List Char}, d ∈ lowerFrom before cs → Low d
  | [], _, h => absurd h List.not_mem_nil
  | c :: cs, before, h => by
    rw [lowerFrom_cons] at h
    rcases List.mem_append.mp h with h | h
    · exact low_of_mem_lowerAt h
    · exact low_of_mem_lowerFrom h

theorem lowerFrom_eq_self : ∀ {cs : List Char} (before : List Char), (∀ c ∈ cs, Low c) → lowerFrom before cs = cs
  | [], _, _ => rfl
  | c :: cs, before, h => by
    rw [lowerFrom_cons, lowerAt_of_low (h c List.mem_cons_self), List.singleton_append,
      lowerFrom_eq_self _ fun d hd => h d (List.mem_cons_of_mem c hd)]

theorem count_le_count_lowerFrom {d : Char} (hd : Low d) : ∀ cs before : List Char,
    cs.count d ≤ (lowerFrom before cs).count d
  | [], _ => Nat.zero_le _
  | c :: cs, before => by
    have ih := count_le_count_lowerFrom hd cs (c :: before)
    rw [lowerFrom_cons, List.count_append, List.count_cons]
    by_cases hc : c = d
    · subst hc
      rw [lowerAt_of_low hd, List.count_singleton_self, if_pos (beq_self_eq_true c)]
      omega
    · rw [if_neg (by simpa using hc)]
      omega

theorem lower_lower (cs : List Char) : lower (lower cs) = lower cs :=
  lowerFrom_eq_self [] fun _ h => low_of_mem_lowerFrom h

theorem lowerFrom_eq_nil {before cs : List Char} : lowerFrom before cs = [] ↔ cs = [] := by
  cases cs with
  | nil => exact iff_of_true rfl rfl
  | cons c cs =>
    refine iff_of_false (fun h => ?_) (List.cons_ne_nil _ _)
    rw [lowerFrom_cons] at h
    exact lowerAt_ne_nil (List.append_eq_nil_iff.mp h).1

theorem getLast?_lowerFrom {d : Char} : ∀ {cs before : List Char}, (∀ c ∈ cs.getLast?, isBlank c = false) →
    d ∈ (lowerFrom before cs).getLast? → isBlank d = false
  | [], _, _, h => by cases h
  | c :: cs, before, hc, h => by
    rw [lowerFrom_cons] at h
    by_cases hn : cs = []
    · subst hn
      rw [lowerFrom, List.append_nil] at h
      exact isBlank_of_mem_lowerAt (hc c rfl) (List.mem_of_getLast? h)
    · rw [List.getLast?_append_of_ne_nil _ (fun h => hn (lowerFrom_eq_nil.mp h))] at h
      refine getLast?_lowerFrom (fun e he => hc e ?_) h
      rw [List.getLast?_cons_of_ne_nil hn]
      exact he

theorem bounded_lowerFrom {before cs : List Char} (h : Bounded isBlank cs) : Bounded isBlank (lowerFrom before cs) := by
  refine ⟨fun d hd => ?_, fun d hd => getLast?_lowerFrom h.2 hd⟩
  cases cs with
  | nil => cases hd
  | cons c cs =>
    rw [lowerFrom_cons, List.head?_append_of_ne_nil _ lowerAt_ne_nil] at hd
    exact isBlank_of_mem_lowerAt (h.1 c rfl) (List.mem_of_mem_head? hd)

/-! ## Blanks around a text -/

theorem caseRuns_notBlank : (blankRuns.all fun b => caseRuns.all b.apart) = true := by
  decide +kernel

def freeOfBlanks (ranges : List (Nat × Nat)) : Bool :=
  ranges.all fun r => blankRuns.all fun b => Nat.blt b.last r.1 || Nat.blt r.2 b.first

theorem freeOfBlanks_cased : freeOfBlanks casedRanges = true := by decide +kernel

theorem freeOfBlanks_ignorable : freeOfBlanks ignorableRanges = true := by decide +kernel

section
variable {c : Char} (h : isBlank c = true)
include h

theorem inRanges_of_isBlank {ranges : List (Nat × Nat)} (hf : freeOfBlanks ranges = true) :
    inRanges ranges c.toNat = false := by
  obtain ⟨b, hb, hc⟩ := (isBlank_iff c).mp h
  obtain ⟨hfirst, hlast, -⟩ := (b.covers_iff _).mp hc
  rw [inRanges, List.any_eq_false]
  intro r hr
  have hbr := List.all_eq_true.mp (List.all_eq_true.mp hf r hr) b hb
  simp only [Bool.or_eq_true, Nat.blt_eq] at hbr
  simp only [Bool.and_eq_true, decide_eq_true_eq]
  omega

theorem low_of_isBlank : Low c := by
  have hi : c.toNat ≠ 0x130 := fun he => by simp [isBlank, he] at h
  have hs : c.toNat ≠ 0x3a3 := fun he => by simp [isBlank, he] at h
  obtain ⟨b, hb, hc⟩ := (isBlank_iff c).mp h
  have hf : caseRuns.find? (·.covers c.toNat) = none := List.find?_eq_none.mpr fun r hr => by
    have ha := List.all_eq_true.mp (List.all_eq_true.mp caseRuns_notBlank b hb) r hr
    simp [CaseRun.not_covers_of_apart hc ha]
  refine ⟨?_, hs⟩
  rw [lowerChar, if_neg hi, hf]

end

/-- A word ends at a blank, so that what comes behind it does not matter. -/
theorem facesCased_append {after : List Char} (h : ∀ c ∈ after.head?, isBlank c = true) :
    ∀ cs : List Char, facesCased (cs ++ after) = facesCased cs
  | [] => by
    cases after with
    | nil => rfl
    | cons b after =>
      have hi : ¬ isIgnorable b = true := by simp [isIgnorable, inRanges_of_isBlank (h b rfl) freeOfBlanks_ignorable]
      rw [List.nil_append, facesCased, List.dropWhile_cons_of_neg hi]
      exact inRanges_of_isBlank (h b rfl) freeOfBlanks_cased
  | c :: cs => by
    have ih := facesCased_append h cs
    unfold facesCased at ih ⊢
    by_cases hi : isIgnorable c = true
    · rw [List.cons_append, List.dropWhile_cons_of_pos hi, List.dropWhile_cons_of_pos hi, ih]
    · rw [List.cons_append, List.dropWhile_cons_of_neg hi, List.dropWhile_cons_of_neg hi]

theorem lowerFrom_low_append {xs : List Char} (h : ∀ c ∈ xs, Low c) (before ys : List Char) :
    lowerFrom before (xs ++ ys) = xs ++ lowerFrom (xs.reverse ++ before) ys := by
  induction xs generalizing before with
  | nil => rfl
  | cons c xs ih =>
    obtain ⟨hc, h⟩ := List.forall_mem_cons.mp h
    rw [List.cons_append, lowerFrom_cons, lowerAt_of_low hc, ih h, List.reverse_cons, List.append_assoc]
    rfl

section
variable {left right : List Char} (hr : ∀ c ∈ right, isBlank c = true)
include hr

theorem lowerFrom_padded (hl : ∀ c ∈ left.head?, isBlank c = true) : ∀ (before cs : List Char),
    lowerFrom (before ++ left) (cs ++ right) = lowerFrom before cs ++ right
  | before, [] => lowerFrom_eq_self _ fun c hc => low_of_isBlank (hr c hc)
  | before, c :: cs => by
    have hh : ∀ c ∈ right.head?, isBlank c = true := fun c hc => hr c (List.mem_of_mem_head? hc)
    have hc : lowerAt (before ++ left) c (cs ++ right) = lowerAt before c cs := by
      unfold lowerAt endsWord
      rw [facesCased_append hl, facesCased_append hh]
    rw [List.cons_append, lowerFrom_cons, lowerFrom_cons, hc, List.append_assoc, ← lowerFrom_padded hl (c :: before) cs]
    rfl

theorem lower_padded (hl : ∀ c ∈ left, isBlank c = true) (cs : List Char) :
    lower (left ++ cs ++ right) = left ++ lower cs ++ right := by
  have hh : ∀ c ∈ left.reverse.head?, isBlank c = true := fun c hc =>
    hl c (List.mem_reverse.mp (List.mem_of_mem_head? hc))
  have hp := lowerFrom_padded hr hh [] cs
  rw [lower, List.append_assoc, lowerFrom_low_append (fun c hc => low_of_isBlank (hl c hc)), List.append_nil,
    List.append_assoc]
  exact congrArg (left ++ ·) hp

end

theorem lower_trim (cs : List Char) : lower (trim cs) = trim (lower cs) := by
  obtain ⟨left, right, hl, hr, hcs⟩ := exists_trimBy isBlank cs
  have hb : Bounded isBlank (lower (trim cs)) := bounded_lowerFrom (bounded_trimBy isBlank cs)
  calc lower (trim cs) = trim (lower (trim cs)) := (trimBy_eq_self hb).symm
    _ = trim (left ++ lower (trim cs) ++ right) :=
      ((trimBy_append_right hr _).trans (trimBy_append_left hl _)).symm
    _ = trim (lower (left ++ trim cs ++ right)) := by rw [lower_padded hr hl]
    _ = trim (lower cs) := congrArg (fun x => trim (lower x)) hcs.symm

end Telemetry.Text
