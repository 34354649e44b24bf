import Telemetry.Installation
import Telemetry.Shutdown.Coordinator

/-! # Process-wide state

What a process keeps beyond any single assembly: the coordinators of all bundles, the callbacks to
run at exit, the installed default, and the log. A bundle is known by its number. -/

namespace Telemetry

/-- Who set a slot: a bundle, or some other component. -/
inductive Owner
  | bundle (number : Nat)
  | foreign
  deriving DecidableEq

structure Estate where
  coordinators : List Coordinator := []
  /-- The bundles to shut down at exit, in the order of registration. -/
  exits : List Nat := []
  globals : Globals Owner := {}
  journal : List Event := []

namespace Estate

def log (s : Estate) (events : List Event) : Estate := { s with journal := s.journal ++ events }

def enroll (s : Estate) : Nat × Estate :=
  (s.coordinators.length,
    { s with
      coordinators := s.coordinators ++ [.ofProviders providerNames defaultShutdownTimeout] })

def setCoordinator (s : Estate) (n : Nat) (c : Coordinator) : Estate :=
  { s with coordinators := s.coordinators.set n c }

/-- Arms a bundle's coordinator and has it run at exit. -/
def registerShutdown (s : Estate) (n : Nat) : Estate :=
  match s.coordinators[n]? with
  | some c =>
    { s.setCoordinator n c.arm with exits := s.exits ++ [n] }.log
      [.hookRegistered c.timeout.toDatum]
  | none => s

def installable (n : Nat) : Installable Owner :=
  ⟨.bundle n, .bundle n, .bundle n, .bundle n, .bundle n⟩

def install (s : Estate) (n : Nat) (resource : OrderedMap String Datum) : Bool × Estate :=
  let (result, globals, events) := s.globals.install (installable n) resource
  (result, { s with globals }.log events)

section
variable {m : Type → Type} [Monad m] (shut : Nat → String → m (Option Ending))

def shutdown (s : Estate) (n : Nat) : m (Except Fault Bool × Estate) := do
  match s.coordinators[n]? with
  | some c =>
    let (result, c, events) ← c.shutdown (shut n)
    return (result, (s.setCoordinator n c).log events)
  | none => return (.ok true, s)

/-- Runs the exit callbacks, the last one registered first, and forgets them. -/
def runExits (s : Estate) : m (List (Except Fault Bool) × Estate) :=
  s.exits.reverse.foldlM
    (fun (results, s) n => do
      let (result, s) ← s.shutdown shut n
      return (results ++ [result], s))
    ([], { s with exits := [] })

end

end Estate

end Telemetry
