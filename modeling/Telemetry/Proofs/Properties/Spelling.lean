import Mathlib.Data.List.Forall2
import Telemetry.Proofs.Properties.Layers

/-! # Keys with other separators

A key may be spelled with other separators. Its normal form is the same then, but for the capital sigmas in it:
which of the two small letters becomes of one is settled while the separators are still there, and a dot does
not end a word as the other two do. Without a capital sigma, or if the dots stay where they are, every spelling is
the same key. -/

namespace Telemetry.Key

open Text

/-! ## Respelling -/

def separators : List Char := ['_', '-', '.']

/-- One character stands for another: it is the same, or both are separators. -/
def StandsFor (c d : Char) : Prop := c = d ∨ c ∈ separators ∧ d ∈ separators

def Respells (k k' : String) : Prop := List.Forall₂ StandsFor k.toList k'.toList

/-- For each capital sigma in a text, whether it ends a word. -/
def wordEnds (before : List Char) : List Char → List Bool
  | [] => []
  | c :: after =>
    if c.toNat = 0x3a3 then endsWord before after :: wordEnds (c :: before) after else wordEnds (c :: before) after

def sigmas (key : String) : List Bool := wordEnds [] (trim key.toList)

def unended (c : Char) : Char := if c.toNat = 0x3c2 then Char.ofNat 0x3c3 else c

section
variable {c d : Char}

theorem mem_separators : c ∈ separators ↔ c = '_' ∨ c = '-' ∨ c = '.' := by
  simp only [separators, List.mem_cons, List.not_mem_nil, or_false]

theorem isBlank_separator (h : c ∈ separators) : isBlank c = false := by
  rcases mem_separators.mp h with rfl | rfl | rfl
  all_goals rfl

theorem dotted_separator (h : c ∈ separators) : dotted c = '.' := by
  rcases mem_separators.mp h with rfl | rfl | rfl
  all_goals rfl

theorem low_separator (h : c ∈ separators) : Low c := by
  rcases mem_separators.mp h with rfl | rfl | rfl
  all_goals exact ⟨by decide +kernel, by decide⟩

theorem dotted_not_separator (h : c ∉ separators) : dotted c = c := by
  rw [mem_separators, not_or, not_or] at h
  exact dotted_of_ne h.1 h.2.1

theorem mem_separators_iff : c ∈ separators ↔ dotted c = '.' := by
  refine ⟨dotted_separator, fun h => ?_⟩
  by_contra hc
  rw [dotted_not_separator hc] at h
  exact hc (h ▸ by decide)

theorem standsFor_iff : StandsFor c d ↔ dotted c = dotted d := by
  constructor
  · rintro (rfl | ⟨hc, hd⟩)
    · rfl
    · rw [dotted_separator hc, dotted_separator hd]
  · intro h
    by_cases hc : c ∈ separators
    · exact .inr ⟨hc, mem_separators_iff.mpr (h ▸ dotted_separator hc)⟩
    · have hd : d ∉ separators := fun hd => hc (mem_separators_iff.mpr (h ▸ dotted_separator hd))
      rw [dotted_not_separator hc, dotted_not_separator hd] at h
      exact .inl h

theorem StandsFor.isBlank (h : StandsFor c d) : isBlank c = isBlank d := by
  rcases h with rfl | ⟨hc, hd⟩
  · rfl
  · rw [isBlank_separator hc, isBlank_separator hd]

/-- Unless a character is a capital sigma, what becomes of it and of what stands for it does not depend on the
characters around them. -/
theorem StandsFor.lowerAt (h : StandsFor c d) :
    (c.toNat = 0x3a3 ∧ d = c) ∨ (c.toNat ≠ 0x3a3 ∧ d.toNat ≠ 0x3a3 ∧ ∀ before after before' after',
      (lowerAt before c after).map dotted = (lowerAt before' d after').map dotted) := by
  rcases h with rfl | ⟨hc, hd⟩
  · by_cases hs : c.toNat = 0x3a3
    · exact .inl ⟨hs, rfl⟩
    · refine .inr ⟨hs, hs, fun before after before' after' => ?_⟩
      rw [Text.lowerAt, Text.lowerAt, if_neg hs, if_neg hs]
  · refine .inr ⟨(low_separator hc).notSigma, (low_separator hd).notSigma, fun before after before' after' => ?_⟩
    rw [lowerAt_of_low (low_separator hc), lowerAt_of_low (low_separator hd), List.map_singleton, List.map_singleton,
      dotted_separator hc, dotted_separator hd]

end

/-! ## Trimming -/

section
variable {α β : Type} {R : α → β → Prop} {p : α → Bool} {q : β → Bool}

theorem forall₂_dropWhile (hpq : ∀ a b, R a b → p a = q b) {as : List α} {bs : List β} (h : List.Forall₂ R as bs) :
    List.Forall₂ R (as.dropWhile p) (bs.dropWhile q) := by
  induction h with
  | nil => exact .nil
  | @cons a b as bs hab hs ih =>
    by_cases ha : p a = true
    · rw [List.dropWhile_cons_of_pos ha, List.dropWhile_cons_of_pos (hpq a b hab ▸ ha)]
      exact ih
    · rw [List.dropWhile_cons_of_neg ha, List.dropWhile_cons_of_neg (hpq a b hab ▸ ha)]
      exact .cons hab hs

end

theorem forall₂_trim {R : Char → Char → Prop} (hR : ∀ c d, R c d → isBlank c = isBlank d) {cs ds : List Char}
    (h : List.Forall₂ R cs ds) : List.Forall₂ R (trim cs) (trim ds) :=
  List.rel_reverse (forall₂_dropWhile hR (List.rel_reverse (forall₂_dropWhile hR h)))

/-! ## Normal forms -/

section
variable {cs ds : List Char} (h : List.Forall₂ StandsFor cs ds)
include h

theorem map_unended_lowerFrom (before before' : List Char) :
    ((lowerFrom before cs).map dotted).map unended = ((lowerFrom before' ds).map dotted).map unended := by
  induction h generalizing before before' with
  | nil => rfl
  | @cons c d cs ds hcd _ ih =>
    simp only [lowerFrom_cons, List.map_append]
    congr 1
    · rcases hcd.lowerAt with ⟨hs, rfl⟩ | ⟨-, -, hl⟩
      · rw [lowerAt, lowerAt, if_pos hs, if_pos hs]
        cases endsWord before cs
        all_goals cases endsWord before' ds
        all_goals decide
      · rw [hl]
    · exact ih _ _

theorem map_lowerFrom_eq_iff (before before' : List Char) :
    (lowerFrom before cs).map dotted = (lowerFrom before' ds).map dotted ↔
      wordEnds before cs = wordEnds before' ds := by
  induction h generalizing before before' with
  | nil => exact iff_of_true rfl rfl
  | @cons c d cs ds hcd _ ih =>
    simp only [lowerFrom_cons, List.map_append, wordEnds]
    -- What becomes of a character depends on its place only if it is a capital sigma.
    rcases hcd.lowerAt with ⟨hs, rfl⟩ | ⟨hc, hd, hl⟩
    · have hsigma : ∀ b b' : Bool, dotted (Char.ofNat (if b then 0x3c2 else 0x3c3)) =
          dotted (Char.ofNat (if b' then 0x3c2 else 0x3c3)) ↔ b = b' := by decide
      rw [if_pos hs, if_pos hs, lowerAt, lowerAt, if_pos hs, if_pos hs, List.map_singleton, List.map_singleton,
        List.singleton_append, List.singleton_append, List.cons.injEq, List.cons.injEq, hsigma, ih]
    · rw [if_neg hc, if_neg hd, hl before cs before' ds, List.append_cancel_left_eq, ih]

theorem wordEnds_of_no_sigma (hc : ∀ c ∈ cs, c.toNat ≠ 0x3a3) (before before' : List Char) :
    wordEnds before cs = wordEnds before' ds := by
  induction h generalizing before before' with
  | nil => rfl
  | @cons c d cs ds hcd _ ih =>
    obtain ⟨hc, hcs⟩ := List.forall_mem_cons.mp hc
    rcases hcd.lowerAt with ⟨hs, -⟩ | ⟨-, hd, -⟩
    · exact absurd hs hc
    · rw [wordEnds, wordEnds, if_neg hc, if_neg hd, ih hcs]

end

/-! ## Dots that stay -/

/-- The same, or both of them separators that end a word. -/
def Interchanged (c d : Char) : Prop := c = d ∨ (c = '_' ∨ c = '-') ∧ (d = '_' ∨ d = '-')

theorem Interchanged.standsFor {c d : Char} (h : Interchanged c d) : StandsFor c d := by
  rcases h with rfl | ⟨hc, hd⟩
  · exact .inl rfl
  · refine .inr ⟨?_, ?_⟩
    · rcases hc with rfl | rfl
      all_goals decide
    · rcases hd with rfl | rfl
      all_goals decide

theorem Interchanged.classes {c d : Char} (h : Interchanged c d) :
    isIgnorable c = isIgnorable d ∧ isCased c = isCased d := by
  rcases h with rfl | ⟨rfl | rfl, rfl | rfl⟩
  · exact ⟨rfl, rfl⟩
  all_goals decide +kernel

theorem facesCased_interchanged {cs ds : List Char} (h : List.Forall₂ Interchanged cs ds) :
    facesCased cs = facesCased ds := by
  have hi : ∀ c d, Interchanged c d → isIgnorable c = isIgnorable d := fun _ _ hcd => hcd.classes.1
  have hd := forall₂_dropWhile hi h
  unfold facesCased
  generalize cs.dropWhile isIgnorable = cs', ds.dropWhile isIgnorable = ds' at hd
  cases hd with
  | nil => rfl
  | cons hcd _ => exact hcd.classes.2

theorem wordEnds_interchanged {cs ds before before' : List Char} (h : List.Forall₂ Interchanged cs ds)
    (hb : List.Forall₂ Interchanged before before') : wordEnds before cs = wordEnds before' ds := by
  induction h generalizing before before' with
  | nil => rfl
  | @cons c d cs ds hcd hs ih =>
    have hsigma : c.toNat = 0x3a3 ↔ d.toNat = 0x3a3 := by
      rcases hcd with rfl | ⟨rfl | rfl, rfl | rfl⟩
      · exact Iff.rfl
      all_goals decide
    simp only [wordEnds, endsWord, hsigma, facesCased_interchanged hs, facesCased_interchanged hb, ih (.cons hcd hb)]

/-! ## Keys -/

theorem respells_iff {k k' : String} : Respells k k' ↔ k.toList.map dotted = k'.toList.map dotted := by
  rw [← List.forall₂_eq_eq_eq, List.forall₂_map_left_iff, List.forall₂_map_right_iff]
  exact ⟨fun h => h.imp fun _ _ => standsFor_iff.mp, fun h => h.imp fun _ _ => standsFor_iff.mpr⟩

instance (k k' : String) : Decidable (Respells k k') := decidable_of_iff _ respells_iff.symm

def RespelledSource (k k' : String) (s s' : Source) : Prop :=
  s'.entries = s.entries.map fun e => (if e.1 = k then k' else e.1, e.2)

theorem normalEntries_respelled {k k' : String} {s s' : Source} (hs : RespelledSource k k' s s')
    (h : normalize k = normalize k') : s'.normalEntries = s.normalEntries := by
  unfold Source.normalEntries
  rw [hs, List.map_map]
  refine List.map_congr_left fun e _ => ?_
  by_cases he : e.1 = k
  · simp [he, h]
  · simp [he]

theorem toOption_map {α β : Type} (f : α → β) {x y : Except Fault α} (h : x.toOption = y.toOption) :
    (x.map f).toOption = (y.map f).toOption := by
  cases x with
  | error e =>
    cases y with
    | error e' => rfl
    | ok b => cases h
  | ok a =>
    cases y with
    | error e => cases h
    | ok b =>
      cases h
      rfl

section
variable {k k' : String} (h : normalize k = normalize k')
include h

theorem string?_respelled (p : Properties) : p.string? k = p.string? k' := by
  rw [Properties.string?, Properties.string?, h]

theorem readWith_respelled (p : Properties) {α : Type} {read read' : String → Except Fault α}
    (hr : ∀ value, (read value).toOption = (read' value).toOption) :
    (p.readWith k read).toOption = (p.readWith k' read').toOption := by
  rw [Properties.readWith, Properties.readWith, string?_respelled h]
  cases p.string? k' with
  | none => rfl
  | some value => exact toOption_map some (hr value)

theorem read_respelled (p : Properties) (kind : Reading) (default : Option Datum) :
    (p.read kind k default).toOption = (p.read kind k' default).toOption := by
  have hs := string?_respelled h p
  cases kind with
  | text => simp only [Properties.read, hs]
  | truth => simp only [Properties.read, Properties.bool?, hs]
  | list => simp only [Properties.read, Properties.list?, hs]
  | whole =>
    refine toOption_map _ (readWith_respelled h p fun value => ?_)
    cases readWhole value.toList
    all_goals rfl
  | real =>
    refine toOption_map _ (readWith_respelled h p fun value => ?_)
    cases readReal? value.toList
    all_goals rfl
  | duration =>
    refine toOption_map _ (readWith_respelled h p fun value => ?_)
    cases Duration.parse? (lower value.toList)
    all_goals rfl
  | map =>
    refine toOption_map _ ?_
    unfold Properties.map
    rw [hs]
    cases p.string? k' with
    | none => rfl
    | some value =>
      simp only
      cases (Properties.listItems value.toList).mapM Properties.mapEntry?
      all_goals rfl

end

/-- With other separators a key has the same normal form, but that a small sigma may be the one that ends a word or
not. So both spellings are one key just when the same capital sigmas end words in them, as is so without any, or if
no dot is put in the place of another separator or the other way round. One key is one setting for every getter, and
it makes no difference which of its spellings a source sets. -/
theorem respelled_same_key {k k' : String} (h : Respells k k') :
    (normalize k).toList.map unended = (normalize k').toList.map unended ∧
    (normalize k = normalize k' ↔ sigmas k = sigmas k') ∧
    ((∀ c ∈ k.toList, c.toNat ≠ 0x3a3) ∨ List.Forall₂ Interchanged k.toList k'.toList → sigmas k = sigmas k') ∧
    (sigmas k = sigmas k' →
      (∀ p : Properties, p.contains k = p.contains k' ∧ p.string? k = p.string? k' ∧
        ∀ kind default, (p.read kind k default).toOption = (p.read kind k' default).toOption) ∧
      ∀ (before after : List Source) (s s' : Source), RespelledSource k k' s s' →
        Source.layer (before ++ s' :: after) = Source.layer (before ++ s :: after)) := by
  have ht : List.Forall₂ StandsFor (trim k.toList) (trim k'.toList) := forall₂_trim (fun _ _ => StandsFor.isBlank) h
  have hn : normalize k = normalize k' ↔ sigmas k = sigmas k' := String.ofList_inj.trans (map_lowerFrom_eq_iff ht [] [])
  refine ⟨?_, hn, ?_, fun hs => ⟨fun p => ⟨?_, ?_, ?_⟩, fun before after s s' hr => ?_⟩⟩
  · rw [normalize, normalize, String.toList_ofList, String.toList_ofList]
    exact map_unended_lowerFrom ht [] []
  · rintro (hk | hi)
    · exact wordEnds_of_no_sigma ht (fun c hc => hk c (mem_trimBy hc)) [] []
    · exact wordEnds_interchanged (forall₂_trim (fun _ _ hcd => hcd.standsFor.isBlank) hi) .nil
  · rw [Properties.contains, Properties.contains, hn.mpr hs]
  · exact string?_respelled (hn.mpr hs) p
  · exact read_respelled (hn.mpr hs) p
  · rw [Source.layer_eq, Source.layer_eq, List.flatMap_append, List.flatMap_append, List.flatMap_cons,
      List.flatMap_cons, normalEntries_respelled hr (hn.mpr hs)]

theorem respelled_same_key_exporter :
    Respells "OTEL_TRACES-EXPORTER" "OTEL.TRACES_EXPORTER" ∧
      normalize "OTEL_TRACES-EXPORTER" = normalize "OTEL.TRACES_EXPORTER" := by
  have h : Respells "OTEL_TRACES-EXPORTER" "OTEL.TRACES_EXPORTER" := by decide +kernel
  have hc : "OTEL_TRACES-EXPORTER".toList.all (fun c => c.toNat != 0x3a3) = true := by decide +kernel
  obtain ⟨-, hn, hs, -⟩ := respelled_same_key h
  exact ⟨h, hn.mpr (hs (.inl fun c hm => bne_iff_ne.mp (List.all_eq_true.mp hc c hm)))⟩

/-- A dot does not end the word in front of it, so that what is set with an underscore is not found with a dot. -/
theorem sigma_parts_spellings :
    Respells "ΟΔΟΣ_ΑΡΙΘΜΟΣ" "ΟΔΟΣ.ΑΡΙΘΜΟΣ" ∧
      normalize "ΟΔΟΣ_ΑΡΙΘΜΟΣ" = "οδος.αριθμος" ∧ normalize "ΟΔΟΣ.ΑΡΙΘΜΟΣ" = "οδοσ.αριθμος" ∧
      let p := Properties.ofSource (.ofList [("ΟΔΟΣ_ΑΡΙΘΜΟΣ", some "3")])
      p.string? "ΟΔΟΣ_ΑΡΙΘΜΟΣ" = some "3" ∧ p.string? "ΟΔΟΣ.ΑΡΙΘΜΟΣ" = none := by
  decide +kernel

end Telemetry.Key
