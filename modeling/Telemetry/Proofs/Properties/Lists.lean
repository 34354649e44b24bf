import Telemetry.Proofs.Properties.Layers
import Telemetry.Proofs.Properties.Duration
import Telemetry.Proofs.Text.Split

/-! # Lists and maps in settings

A list is written with commas between its items, a map as a list of names and values with an equals sign
between them. What can be written so is read back, and whatever is read can be written so: reading tidies a
text up, once and for all. -/

namespace Telemetry

open Text

namespace Properties

/-! ## What can be written -/

/-- An item of a list: it is not empty, there is no comma in it and no blank at its ends. -/
structure Listable (item : String) : Prop where
  nonempty : item ≠ ""
  noComma : ',' ∉ item.toList
  bounded : Bounded isBlank item.toList

/-- An entry of a map. The value may be empty, and there may be equals signs in it. -/
structure Mappable (name value : String) : Prop where
  named : Listable name
  noEquals : '=' ∉ name.toList
  noComma : ',' ∉ value.toList
  bounded : Bounded isBlank value.toList

instance (item : String) : Decidable (Listable item) :=
  decidable_of_iff (item ≠ "" ∧ ',' ∉ item.toList ∧ Bounded isBlank item.toList)
    ⟨fun ⟨hn, hc, hb⟩ => ⟨hn, hc, hb⟩, fun ⟨hn, hc, hb⟩ => ⟨hn, hc, hb⟩⟩

instance (name value : String) : Decidable (Mappable name value) :=
  decidable_of_iff (Listable name ∧ '=' ∉ name.toList ∧ ',' ∉ value.toList ∧ Bounded isBlank value.toList)
    ⟨fun ⟨hn, he, hc, hb⟩ => ⟨hn, he, hc, hb⟩, fun ⟨hn, he, hc, hb⟩ => ⟨hn, he, hc, hb⟩⟩

def written (m : OrderedMap String String) : String := ",".intercalate (m.entries.map fun e => e.1 ++ "=" ++ e.2)

/-! ## What a text consists of -/

def fieldsOf (text : String) : List (List Char) := (text.toList.splitOn ',').filter fun field => !field.all isBlank

/-- The name and the value around the first equals sign of a field. -/
def entryOf (field : List Char) : String × String :=
  (String.ofList (trim (field.takeWhile (· ≠ '='))), String.ofList (trim (field.dropWhile (· ≠ '=')).tail))

/-- There is no equals sign in the field, or no name in front of the first one. -/
def Nameless (field : List Char) : Prop := '=' ∉ field ∨ ∀ c ∈ field.takeWhile (· ≠ '='), isBlank c = true

instance (field : List Char) : Decidable (Nameless field) :=
  @instDecidableOr _ _ inferInstance (List.decidableBAll _ (field.takeWhile (· ≠ '=')))

section
variable {field : List Char} {text : String}

theorem mem_fieldsOf : field ∈ fieldsOf text ↔ field ∈ text.toList.splitOn ',' ∧ ∃ c ∈ field, isBlank c = false := by
  rw [fieldsOf, List.mem_filter, Bool.not_eq_true', List.all_eq_false]
  simp only [Bool.not_eq_true]

theorem notComma_of_mem_fieldsOf (h : field ∈ fieldsOf text) : ',' ∉ field :=
  not_mem_of_mem_splitOn (mem_fieldsOf.mp h).1

theorem fieldsOf_eq_nil_iff : fieldsOf text = [] ↔ ∀ c ∈ text.toList, c = ',' ∨ isBlank c = true := by
  rw [← forall_mem_splitOn, fieldsOf, List.filter_eq_nil_iff]
  simp only [Bool.not_eq_true', Bool.not_eq_false, List.all_eq_true]

theorem listItems_eq (text : String) : listItems text.toList = (fieldsOf text).map trim := by
  rw [listItems, fields_eq_splitOn, List.filter_map, fieldsOf]
  refine congrArg (List.map trim) (List.filter_congr fun field _ => ?_)
  rw [Function.comp_apply, Bool.not_inj_iff, Bool.eq_iff_iff, List.isEmpty_iff, trim_eq_nil_iff, List.all_eq_true]

theorem listItems_trimmed (text : String) : listItems (Text.trimmed text).toList = (fieldsOf text).map trim := by
  rw [← listItems_eq, Text.trimmed, String.toList_ofList, listItems, listItems, fields_eq_splitOn, fields_eq_splitOn,
    map_trim_splitOn_trim (by decide)]

theorem listable_trim (hf : field ∈ fieldsOf text) : Listable (String.ofList (trim field)) := by
  obtain ⟨c, hc, hb⟩ := (mem_fieldsOf.mp hf).2
  refine ⟨fun he => ?_, ?_, ?_⟩
  · have ht : trim field = [] := by simpa using congrArg String.toList he
    exact absurd (trim_eq_nil_iff.mp ht c hc) (by simp [hb])
  · rw [String.toList_ofList]
    exact fun hm => notComma_of_mem_fieldsOf hf (mem_trimBy hm)
  · rw [String.toList_ofList]
    exact bounded_trimBy isBlank field

/-! ## Fields and entries -/

theorem mapEntry?_trim (field : List Char) :
    mapEntry? (trim field) = if Nameless field then none else some (entryOf field) := by
  by_cases h : '=' ∈ field
  · obtain ⟨a, b, rfl, ha⟩ := List.eq_append_cons_of_mem h
    have ha' : '=' ∉ a.dropWhile isBlank := fun hm => ha ((List.dropWhile_suffix isBlank).mem hm)
    have hn : Nameless (a ++ '=' :: b) ↔ (trim a).isEmpty = true := by
      rw [Nameless, takeWhile_ne_append ha, List.isEmpty_iff, trim_eq_nil_iff]
      exact or_iff_right (not_not_intro h)
    have he : entryOf (a ++ '=' :: b) = (String.ofList (trim a), String.ofList (trim b)) := by
      rw [entryOf, takeWhile_ne_append ha, dropWhile_ne_append ha, List.tail_cons]
    simp only [trim_append_cons (by decide : isBlank '=' = false), mapEntry?, cut?_append ha', trim_dropWhile,
      trim_rdropWhile, he, hn]
  · have ht : '=' ∉ trim field := fun hm => h (mem_trimBy hm)
    have hn : Nameless field := Or.inl h
    rw [if_pos hn, mapEntry?, cut?_of_not_mem ht]

theorem mapM_named : ∀ {fs : List (List Char)}, (∀ f ∈ fs, ¬ Nameless f) →
    (fs.map trim).mapM mapEntry? = some (fs.map entryOf)
  | [], _ => rfl
  | f :: fs, h => by
    obtain ⟨hf, hfs⟩ := List.forall_mem_cons.mp h
    rw [List.map_cons, List.mapM_cons, mapEntry?_trim, if_neg hf, mapM_named hfs]
    rfl

theorem mapM_nameless : ∀ {fs : List (List Char)}, (∃ f ∈ fs, Nameless f) →
    (fs.map trim).mapM mapEntry? = none
  | [], h => by simp at h
  | f :: fs, h => by
    rw [List.map_cons, List.mapM_cons, mapEntry?_trim]
    by_cases hf : Nameless f
    · rw [if_pos hf]
      rfl
    · have hfs : ∃ g ∈ fs, Nameless g := by
        obtain ⟨g, hg, hn⟩ := h
        rcases List.mem_cons.mp hg with rfl | hg
        · exact absurd hn hf
        · exact ⟨g, hg, hn⟩
      rw [if_neg hf, mapM_nameless hfs]
      rfl

theorem mappable_entryOf (hf : field ∈ fieldsOf text) (hn : ¬ Nameless field) :
    Mappable (entryOf field).1 (entryOf field).2 := by
  obtain ⟨h, hb⟩ := not_or.mp hn
  obtain ⟨a, b, rfl, ha⟩ := List.eq_append_cons_of_mem (not_not.mp h)
  have hc := notComma_of_mem_fieldsOf hf
  rw [takeWhile_ne_append ha, ← trim_eq_nil_iff] at hb
  unfold entryOf
  rw [takeWhile_ne_append ha, dropWhile_ne_append ha, List.tail_cons]
  refine ⟨⟨fun he => hb (by simpa using congrArg String.toList he), ?_, ?_⟩, ?_, ?_, ?_⟩
  · rw [String.toList_ofList]
    exact fun hm => hc (List.mem_append_left _ (mem_trimBy hm))
  · rw [String.toList_ofList]
    exact bounded_trimBy isBlank a
  · rw [String.toList_ofList]
    exact fun hm => ha (mem_trimBy hm)
  · rw [String.toList_ofList]
    exact fun hm => hc (List.mem_append_right _ (List.mem_cons_of_mem _ (mem_trimBy hm)))
  · rw [String.toList_ofList]
    exact bounded_trimBy isBlank b

end

/-! ## Texts that were written -/

theorem Listable.notBlank {item : String} (h : Listable item) : ∃ c ∈ item.toList, isBlank c = false := by
  have hne : item.toList ≠ [] := fun he => h.nonempty (String.toList_eq_nil_iff.mp he)
  obtain ⟨c, hc⟩ := Option.isSome_iff_exists.mp (List.isSome_head?.mpr hne)
  exact ⟨c, List.mem_of_mem_head? hc, h.bounded.1 c hc⟩

theorem fieldsOf_intercalate {items : List String} (hne : items ≠ []) (hc : ∀ item ∈ items, ',' ∉ item.toList)
    (hb : ∀ item ∈ items, ∃ c ∈ item.toList, isBlank c = false) :
    fieldsOf (",".intercalate items) = items.map String.toList := by
  have hs : (",".intercalate items).toList.splitOn ',' = items.map String.toList := by
    rw [String.toList_intercalate]
    exact List.splitOn_intercalate ',' (List.forall_mem_map.mpr hc) (by simpa using hne)
  rw [fieldsOf, hs, List.filter_eq_self]
  refine List.forall_mem_map.mpr fun item hi => ?_
  rw [Bool.not_eq_true', List.all_eq_false]
  simpa only [Bool.not_eq_true] using hb item hi

section
variable {name value : String}

theorem toList_entry : (name ++ "=" ++ value).toList = name.toList ++ '=' :: value.toList := by
  simp

theorem Mappable.not_nameless (h : Mappable name value) : ¬ Nameless (name ++ "=" ++ value).toList := by
  rw [toList_entry]
  rintro (hm | hb)
  · exact hm (List.mem_append_right _ List.mem_cons_self)
  · rw [takeWhile_ne_append h.noEquals] at hb
    obtain ⟨c, hc, hn⟩ := h.named.notBlank
    exact absurd (hb c hc) (by simp [hn])

theorem Mappable.entryOf (h : Mappable name value) : entryOf (name ++ "=" ++ value).toList = (name, value) := by
  rw [toList_entry, Properties.entryOf, takeWhile_ne_append h.noEquals, dropWhile_ne_append h.noEquals, List.tail_cons,
    trim, trim, trimBy_eq_self h.named.bounded, trimBy_eq_self h.bounded, String.ofList_toList, String.ofList_toList]

end

theorem fieldsOf_written {m : OrderedMap String String} (h : ∀ e ∈ m.entries, Mappable e.1 e.2) :
    fieldsOf (written m) = m.entries.map fun e => (e.1 ++ "=" ++ e.2).toList := by
  by_cases hn : m.entries = []
  · rw [written, hn]
    rfl
  · rw [written, fieldsOf_intercalate (by simpa using hn), List.map_map]
    · rfl
    · refine List.forall_mem_map.mpr fun e he => ?_
      rw [toList_entry, List.mem_append, List.mem_cons]
      rintro (hm | hm | hm)
      · exact (h e he).named.noComma hm
      · exact absurd hm (by decide)
      · exact (h e he).noComma hm
    · refine List.forall_mem_map.mpr fun e _ => ⟨'=', ?_, rfl⟩
      rw [toList_entry]
      exact List.mem_append_right _ List.mem_cons_self

/-! ## Settings -/

theorem exists_set_of_string? {p : Properties} {key value : String} (h : p.string? key = some value) :
    ∃ text, p.settings.get? (Key.normalize key) = some (some text) := by
  obtain ⟨text, ht, -⟩ := string?_eq_some_iff.mp h
  exact ⟨text, ht⟩

section
variable {p : Properties} {key text : String} (h : p.settings.get? (Key.normalize key) = some (some text))
include h

theorem string?_cases : p.string? key = none ∧ fieldsOf text = [] ∨ p.string? key = some (Text.trimmed text) := by
  by_cases hb : Text.allBlank text = true
  · have hi : (fieldsOf text).map trim = [] := by
      rw [← listItems_trimmed, Text.trimmed, trim_eq_nil_iff.mpr (List.all_eq_true.mp hb)]
      rfl
    refine Or.inl ⟨?_, List.map_eq_nil_iff.mp hi⟩
    rw [string?, h]
    exact if_pos hb
  · exact Or.inr (string?_of_set h (Bool.eq_false_iff.mpr hb))

theorem list?_of_set (hb : Text.allBlank text = false) :
    p.list? key = some ((fieldsOf text).map fun f => String.ofList (trim f)) := by
  rw [list?, string?_of_set h hb, Option.map_some, listItems_trimmed, List.map_map]
  rfl

theorem read_list_of_set : p.read .list key none = .ok (.texts ((fieldsOf text).map fun f => String.ofList (trim f))) := by
  rcases string?_cases h with ⟨hs, hf⟩ | hs
  · rw [hf, read, list?, hs]
    rfl
  · simp only [read, list?, hs, Option.map_some, listItems_trimmed, List.map_map, Function.comp_def]

theorem map_of_set : p.map key = if ∃ f ∈ fieldsOf text, Nameless f
    then .error (.configuration (.notMap key (Text.trimmed text))) else .ok (.ofList ((fieldsOf text).map entryOf)) := by
  rcases string?_cases h with ⟨hs, hf⟩ | hs
  · rw [Properties.map, hs, hf]
    rfl
  · simp only [Properties.map, hs, listItems_trimmed]
    by_cases hn : ∃ f ∈ fieldsOf text, Nameless f
    · rw [if_pos hn, mapM_nameless hn]
    · rw [if_neg hn, mapM_named fun f hf hn' => hn ⟨f, hf, hn'⟩]

theorem map_of_ok {m : OrderedMap String String} (hm : p.map key = .ok m) :
    m = .ofList ((fieldsOf text).map entryOf) ∧ ∀ f ∈ fieldsOf text, ¬ Nameless f := by
  rw [map_of_set h] at hm
  split at hm
  · cases hm
  · rename_i hn
    cases hm
    exact ⟨rfl, fun f hf hn' => hn ⟨f, hf, hn'⟩⟩

end

theorem map_of_written {p : Properties} {key : String} {m : OrderedMap String String}
    (h : p.settings.get? (Key.normalize key) = some (some (written m))) (hm : ∀ e ∈ m.entries, Mappable e.1 e.2) :
    p.map key = .ok m := by
  have hn : ¬ ∃ f ∈ fieldsOf (written m), Nameless f := by
    rw [fieldsOf_written hm]
    rintro ⟨f, hf, hn⟩
    obtain ⟨e, he, rfl⟩ := List.mem_map.mp hf
    exact (hm e he).not_nameless hn
  have he : (fieldsOf (written m)).map entryOf = m.entries := by
    rw [fieldsOf_written hm, List.map_map]
    exact (List.map_congr_left fun e he => (hm e he).entryOf).trans (List.map_id _)
  rw [map_of_set h, if_neg hn, he, OrderedMap.ofList_entries]

theorem mappable_of_map {p : Properties} {key : String} {m : OrderedMap String String} (hm : p.map key = .ok m) :
    ∀ e ∈ m.entries, Mappable e.1 e.2 := by
  cases hs : p.string? key with
  | none =>
    rw [Properties.map, hs] at hm
    cases hm
    exact fun e he => absurd he List.not_mem_nil
  | some value =>
    obtain ⟨text, h⟩ := exists_set_of_string? hs
    obtain ⟨rfl, hn⟩ := map_of_ok h hm
    intro e he
    have he : e ∈ (fieldsOf text).map entryOf := OrderedMap.mem_of_get?_ofList ((OrderedMap.get?_eq_some_iff _).mpr he)
    obtain ⟨field, hf, rfl⟩ := List.mem_map.mp he
    exact mappable_entryOf hf (hn field hf)

/-- Whatever can be written as a list or as a map is read back from its text. Conversely a text is read as items
that can be written, and it is read as a map unless one of its fields has no name; then the map has each name
where it first came, with the value that came last, and is read back from its text. -/
theorem reads_what_is_written {p : Properties} {key text : String}
    (h : p.settings.get? (Key.normalize key) = some (some text)) :
    (∀ items : List String, items ≠ [] → (∀ item ∈ items, Listable item) → text = ",".intercalate items →
      p.read .list key none = .ok (.texts items)) ∧
    (∀ m : OrderedMap String String, (∀ e ∈ m.entries, Mappable e.1 e.2) → text = written m → p.map key = .ok m) ∧
    (∃ items, p.read .list key none = .ok (.texts items) ∧ ∀ item ∈ items, Listable item) ∧
    ((∃ c, p.map key = .error (.configuration c)) ↔
      ∃ field ∈ text.toList.splitOn ',', (∃ c ∈ field, isBlank c = false) ∧ Nameless field) ∧
    (∀ f, p.map key = .error f → f = .configuration (.notMap key (Text.trimmed text))) ∧
    ∀ m, p.map key = .ok m →
      m.keys = ((fieldsOf text).map fun field => (entryOf field).1).eraseDups ∧
      (∀ name, m.get? name = (((fieldsOf text).map entryOf).reverse.find? fun e => e.1 = name).map Prod.snd) ∧
      ∀ (q : Properties) (key' : String), q.settings.get? (Key.normalize key') = some (some (written m)) →
        q.map key' = .ok m := by
  refine ⟨?_, ?_, ?_, ?_, ?_, ?_⟩
  · rintro items hne hi rfl
    have hc : ∀ item ∈ items, ',' ∉ item.toList := fun item hm => (hi item hm).noComma
    have hb : ∀ item ∈ items, ∃ c ∈ item.toList, isBlank c = false := fun item hm => (hi item hm).notBlank
    have ht : ∀ item ∈ items, String.ofList (trim item.toList) = item := fun item hm => by
      rw [trim, trimBy_eq_self (hi item hm).bounded, String.ofList_toList]
    rw [read_list_of_set h, fieldsOf_intercalate hne hc hb, List.map_map]
    exact congrArg (fun items => Except.ok (Datum.texts items)) ((List.map_congr_left ht).trans (List.map_id _))
  · rintro m hm rfl
    exact map_of_written h hm
  · exact ⟨_, read_list_of_set h, List.forall_mem_map.mpr fun field hf => listable_trim hf⟩
  · simp only [← and_assoc, ← mem_fieldsOf]
    rw [map_of_set h]
    split
    · rename_i hn
      exact iff_of_true ⟨_, rfl⟩ hn
    · rename_i hn
      refine iff_of_false ?_ hn
      rintro ⟨c, hc⟩
      cases hc
  · intro f hf
    rw [map_of_set h] at hf
    split at hf
    · cases hf
      rfl
    · cases hf
  · intro m hm
    obtain ⟨he, -⟩ := map_of_ok h hm
    refine ⟨?_, fun name => ?_, fun q key' hq => map_of_written hq (mappable_of_map hm)⟩
    · rw [he, OrderedMap.keys_ofList, List.map_map]
      rfl
    · rw [he, OrderedMap.get?_ofList]

def threeTexts : Properties :=
  ⟨.ofList [("otel.list", some "a b,c"), ("otel.map", some "team=,tier=a=b"),
    ("otel.untidy", some "\ttier = a=b ,, team= ,tier=c\u2003")]⟩

theorem reads_what_is_written_threeTexts :
    threeTexts.read .list "otel.list" none = .ok (.texts ["a b", "c"]) ∧
      threeTexts.map "otel.map" = .ok (.ofList [("team", ""), ("tier", "a=b")]) ∧
      ∃ m, threeTexts.map "otel.untidy" = .ok m ∧ m.keys = ["tier", "team"] ∧ m.get? "tier" = some "c" ∧
        m.get? "team" = some "" := by
  have hlist : threeTexts.settings.get? (Key.normalize "otel.list") = some (some "a b,c") := by
    rw [Key.normalize_of_plain (by decide)]
    decide
  have hmap : threeTexts.settings.get? (Key.normalize "otel.map") = some (some "team=,tier=a=b") := by
    rw [Key.normalize_of_plain (by decide)]
    decide
  have huntidy : threeTexts.settings.get? (Key.normalize "otel.untidy") =
      some (some "\ttier = a=b ,, team= ,tier=c\u2003") := by
    rw [Key.normalize_of_plain (by decide)]
    decide
  refine ⟨(reads_what_is_written hlist).1 ["a b", "c"] (by decide) (by decide) (by decide),
    (reads_what_is_written hmap).2.1 (.ofList [("team", ""), ("tier", "a=b")]) (by decide) (by decide), ?_⟩
  obtain ⟨-, -, -, hfails, hfault, hread⟩ := reads_what_is_written huntidy
  cases hm : threeTexts.map "otel.untidy" with
  | error f =>
    have hnamed : ¬ ∃ field ∈ fieldsOf "\ttier = a=b ,, team= ,tier=c\u2003", Nameless field := by decide
    obtain rfl := hfault f hm
    obtain ⟨field, hf, hn⟩ := hfails.mp ⟨_, hm⟩
    exact absurd ⟨field, mem_fieldsOf.mpr ⟨hf, hn.1⟩, hn.2⟩ hnamed
  | ok m =>
    obtain ⟨hk, hg, -⟩ := hread m hm
    exact ⟨m, rfl, hk.trans (by decide), (hg "tier").trans (by decide +kernel),
      (hg "team").trans (by decide)⟩

end Properties

end Telemetry
