import Telemetry.Shutdown.Coordinator

/-! # Schedules

Calls and workers share a coordinator, and what they do is interleaved in any order. A `Closing` is
what there is between two moves; `Closing.step` says which moves are possible and what they lead to.
Whatever holds a lock, or is done by an event at once, is one move. -/

namespace Telemetry

inductive Errand
  | arm
  | shutdown
  /-- A bundle is shut down by its coordinator. -/
  | bundle
  | register
  /-- A callback that was registered is called at exit. -/
  | exit
  deriving DecidableEq

/-- Whether a call is made to shut down, and not only to have that prepared. -/
def Errand.shuts : Errand → Bool
  | shutdown | bundle | exit => true
  | arm | register => false

/-- How far a call has come. One that waits has some providers left to wait for, and found others
pending when its time was over. -/
inductive Station
  | entered (errand : Errand)
  | armed (errand : Errand)
  | waiting (left pending : List String)
  | returned (verdict : Bool) (pending : List String)
  | refused (f : Fault)
  | gone

structure Closing where
  coordinator : Coordinator
  /-- How many callbacks are registered and were not called yet. -/
  callbacks : Nat := 0
  calls : List Station := []
  /-- The providers whose shutdown was invoked, in this order. -/
  invoked : List String := []
  /-- How the invocations ended that did. -/
  endings : List (String × Ending) := []

inductive Move
  | call (errand : Errand)
  /-- A call goes on. If it waits, its time may be over. -/
  | go (n : Nat) (late : Bool)
  | begin (i : Nat)
  | settle (i : Nat) (ending : Ending)
  | signal (i : Nat)

namespace Closing

def start (providers : List String) (timeout : Quantity) : Closing :=
  { coordinator := .ofProviders providers timeout }

def place (s : Closing) (n : Nat) (station : Station) : Closing :=
  { s with calls := s.calls.set n station }

/-- A call that pulls the trigger, and then computes its deadline. -/
def pull (s : Closing) (n : Nat) : Closing :=
  { s with coordinator := s.coordinator.trigger }.place n <|
    if s.coordinator.timeout.isReal then .waiting s.coordinator.awaited.keys []
    else .refused (.overflow .real)

/-- What a call does next. It waits for one provider after the other, and no longer for one that is
done. -/
def advance (s : Closing) (n : Nat) (late : Bool) : Station → Option Closing
  | .entered errand => some ({ s with coordinator := s.coordinator.arm }.place n (.armed errand))
  | .armed .arm => some (s.place n .gone)
  | .armed .register => some ({ s with callbacks := s.callbacks + 1 }.place n .gone)
  | .armed _ => some (s.pull n)
  | .waiting [] pending => some (s.place n (.returned (s.coordinator.verdict pending).1 pending))
  | .waiting (provider :: rest) pending =>
    if s.coordinator.isDone provider then some (s.place n (.waiting rest pending))
    else if !Deadline.canWait s.coordinator.timeout then some (s.place n (.refused (.overflow .wait)))
    else if late then some (s.place n (.waiting rest (pending ++ [provider])))
    else none
  | .returned .. | .refused _ | .gone => none

def step (s : Closing) : Move → Option Closing
  | .call .exit =>
    if s.callbacks = 0 then none
    else some { s with callbacks := s.callbacks - 1, calls := s.calls ++ [.entered .exit] }
  | .call errand => some { s with calls := s.calls ++ [.entered errand] }
  | .go n late => (s.calls[n]?).bind (s.advance n late)
  | .begin i =>
    match s.coordinator.workers[i]? with
    | some w =>
      if s.coordinator.canBegin i then
        some { s with coordinator := s.coordinator.begin i, invoked := s.invoked ++ [w.provider] }
      else none
    | none => none
  | .settle i ending =>
    match s.coordinator.workers[i]? with
    | some ⟨provider, .running⟩ =>
      some { s with
        coordinator := (s.coordinator.settle i ending).1
        endings := s.endings ++ [(provider, ending)] }
    | _ => none
  | .signal i =>
    if s.coordinator.workers[i]?.map (·.phase) = some .ended then
      some { s with coordinator := s.coordinator.signal i }
    else none

/-- Where a sequence of moves leads, if each is possible. -/
def run (s : Closing) : List Move → Option Closing
  | [] => some s
  | move :: moves => (s.step move).bind fun s => s.run moves

end Closing

end Telemetry
