import Telemetry.Estate

/-! # Named bundles

The process-wide state, where bundles go by name. A name that is given again stands for the later
bundle, and the earlier one has no name any more. -/

namespace Telemetry.Scripted

structure Roster where
  estate : Estate := {}
  numbers : OrderedMap String Nat := .empty

/-- Who holds each slot, and whose propagators were made the current one, by name. -/
structure Holders where
  tracer : Option String
  meter : Option String
  logger : Option String
  propagators : List String

namespace Roster

/-- Another component's provider stands in a slot from now on, whatever stood there before. -/
def preset (r : Roster) (slot : Slot) : Roster :=
  let globals := r.estate.globals
  let globals : Globals Owner := match slot with
    | .tracer => { globals with tracer := some .foreign }
    | .meter => { globals with meter := some .foreign }
    | .logger => { globals with logger := some .foreign }
  { r with estate := { r.estate with globals } }

def number? (r : Roster) (name : String) : Option Nat := r.numbers.get? name

def enter (r : Roster) (name : String) (n : Nat) : Roster :=
  { r with numbers := r.numbers.insert name n }

def name? (r : Roster) (n : Nat) : Option String :=
  (r.numbers.entries.find? fun e => e.2 = n).map Prod.fst

/-- The name of an owner, or a given word for one that has none. -/
def ownerName (r : Roster) (nameless : String) : Owner → String
  | .bundle n => (r.name? n).getD nameless
  | .foreign => nameless

def default? (r : Roster) : Option String :=
  r.estate.globals.default.map (r.ownerName "other")

def holders (r : Roster) : Holders :=
  let globals := r.estate.globals
  let named := r.ownerName "foreign"
  ⟨globals.tracer.map named, globals.meter.map named, globals.logger.map named,
    globals.propagators.map named⟩

def coordinator? (r : Roster) (n : Nat) : Option Coordinator := r.estate.coordinators[n]?

section
variable {m : Type → Type} [Monad m] (shut : Nat → String → m (Option Ending))

def shutdown (r : Roster) (n : Nat) : m (Except Fault Bool × Roster) := do
  let (result, estate) ← r.estate.shutdown shut n
  return (result, { r with estate })

def exit (r : Roster) : m (List (Except Fault Bool) × Roster) := do
  let (results, estate) ← r.estate.runExits shut
  return (results, { r with estate })

end

/-- The log so far, which is empty afterwards. -/
def takeLog (r : Roster) : List Event × Roster :=
  (r.estate.journal, { r with estate := { r.estate with journal := [] } })

end Roster

end Telemetry.Scripted
