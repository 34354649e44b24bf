import Mathlib.Data.List.Nodup
import Telemetry.Proofs.Shutdown.Outcome

/-! # What a verdict says

A verdict goes by the errors, and a request to leave the program is none. So a shutdown can be
reported as clean that was not. -/

namespace Telemetry.Closing

section
variable {s : Closing} {providers : List String} {verdict : Bool}

theorem Sound.ending_unique (h : s.Sound) {p : String} {e e' : Ending} (he : (p, e) ∈ s.endings)
    (he' : (p, e') ∈ s.endings) : e = e' := by
  have := List.inj_on_of_nodup_map h.books.endings_nodup he he' rfl
  exact (Prod.mk.inj this).2

theorem Sound.listed (h : s.Sound) {p : String} {f : Fault} (hf : (p, .raised f) ∈ s.endings) :
    p ∈ s.coordinator.errors.keys ↔ f.exits = false := by
  rw [OrderedMap.mem_keys]
  constructor
  · rintro ⟨g, hg⟩
    obtain ⟨hm, hx⟩ := (h.books.errors p g).mp hg
    cases h.ending_unique hf hm
    exact hx
  · exact fun hx => ⟨f, (h.books.errors p f).mpr ⟨hf, hx⟩⟩

theorem Settled.isEmpty_errors (h : s.Settled verdict) (ho : s.Complete providers verdict) :
    s.coordinator.errors.isEmpty = true ↔ ∀ p ∈ providers,
      (p, .returned) ∈ s.endings ∨ ∃ f, (p, .raised f) ∈ s.endings ∧ f.exits = true := by
  rw [OrderedMap.isEmpty_iff]
  constructor
  · intro hn p hp
    obtain ⟨⟨q, e⟩, hm, rfl⟩ := List.mem_map.mp ((ho.ended p).mpr hp)
    cases e with
    | returned => exact Or.inl hm
    | raised f =>
      cases hx : f.exits with
      | true => exact Or.inr ⟨f, hm, hx⟩
      | false => exact absurd ((ho.errors q f).mpr ⟨hm, hx⟩) (hn q f)
  · intro ha p f hf
    obtain ⟨hm, hx⟩ := (ho.errors p f).mp hf
    rcases ha p ((ho.ended p).mp (List.mem_map_of_mem hm)) with hr | ⟨g, hg, hx'⟩
    · cases h.sound.ending_unique hm hr
    · cases h.sound.ending_unique hm hg
      rw [hx] at hx'
      cases hx'

/-- Whatever the providers raise, a call returns true just when nothing was pending and every provider
returned or asked to leave the program. A provider that raised is listed unless it asked for that. -/
theorem verdict_eq_true_iff {timeout : Quantity} {moves : List Move}
    (h : (start providers timeout).run moves = some s) {n : Nat} {pending : List String}
    (hn : s.calls[n]? = some (.returned verdict pending)) :
    (verdict = true ↔ pending = [] ∧ ∀ p ∈ providers,
      (p, .returned) ∈ s.endings ∨ ∃ f, (p, .raised f) ∈ s.endings ∧ f.exits = true) ∧
      ∀ p f, (p, .raised f) ∈ s.endings → (p ∈ s.coordinator.errors.keys ↔ f.exits = false) := by
  obtain ⟨hs, hp⟩ := (sound_start providers timeout).run h
  have hp : s.coordinator.providers = providers.eraseDups := hp.providers
  refine ⟨?_, fun p f hf => hs.listed hf⟩
  cases pending with
  | nil =>
    have hd := hs.settled hn
    rw [hd.verdict, hd.isEmpty_errors (hd.complete hp)]
    simp only [true_and]
  | cons p rest =>
    obtain ⟨-, hv⟩ := hs.calls _ (List.mem_of_getElem? hn)
    rw [if_neg nofun] at hv
    rw [hv]
    simp

def endBoth (first second : Ending) : List Move :=
  [.call .shutdown, .go 0 false, .go 0 false, .begin 0, .begin 1, .settle 1 second, .settle 0 first, .signal 0, .signal 1,
    .go 0 false, .go 0 false, .go 0 false]

def failure : Fault := .raised "ValueError" "x" false

def leave : Fault := .raised "SystemExit" "y" true

theorem run_endBoth :
    ((start ["a", "b"] defaultShutdownTimeout).run (endBoth (.raised failure) (.raised leave))).map
      (fun s => (s.calls, s.endings)) = some ([.returned false []], [("b", .raised leave), ("a", .raised failure)]) :=
  rfl

/-- One provider fails, and another one asks to leave the program. Only the first is listed. -/
theorem verdict_eq_true_iff_endBoth :
    ∃ s, (start ["a", "b"] defaultShutdownTimeout).run (endBoth (.raised failure) (.raised leave)) = some s ∧
      s.calls[0]? = some (.returned false []) ∧ "a" ∈ s.coordinator.errors.keys ∧ "b" ∉ s.coordinator.errors.keys ∧
      ¬ ∀ p ∈ ["a", "b"], (p, .returned) ∈ s.endings ∨ ∃ f, (p, .raised f) ∈ s.endings ∧ f.exits = true := by
  obtain ⟨s, hs, hshown⟩ := Option.map_eq_some_iff.mp run_endBoth
  obtain ⟨hcalls, hendings⟩ := Prod.mk.inj hshown
  have hcall : s.calls[0]? = some (.returned false []) := by
    rw [hcalls]
    rfl
  obtain ⟨hverdict, hlisted⟩ := verdict_eq_true_iff hs hcall
  have hleave : ("b", .raised leave) ∈ s.endings := hendings ▸ .head _
  have hfailure : ("a", .raised failure) ∈ s.endings := hendings ▸ .tail _ (.head _)
  refine ⟨s, hs, hcall, (hlisted "a" failure hfailure).mpr rfl, fun h => ?_, fun h => ?_⟩
  · cases (hlisted "b" leave hleave).mp h
  · cases hverdict.mpr ⟨rfl, h⟩

def endsWith (ending : Ending) : List Move :=
  [.call .shutdown, .go 0 false, .go 0 false, .begin 0, .settle 0 ending, .signal 0, .go 0 false, .go 0 false]

/-- A provider asks to leave the program. It has raised, but is reported to have shut down cleanly. -/
theorem exit_reported_clean :
    ∃ s, (start ["a"] defaultShutdownTimeout).run (endsWith (.raised (.raised "SystemExit" "x" true))) = some s ∧
      s.calls[0]? = some (.returned true []) ∧ ("a", .raised (.raised "SystemExit" "x" true)) ∈ s.endings ∧
      s.coordinator.errors.keys = [] :=
  ⟨_, rfl, rfl, List.mem_singleton.mpr rfl, rfl⟩

end

end Telemetry.Closing
