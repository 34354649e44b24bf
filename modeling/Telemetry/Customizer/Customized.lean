import Telemetry.Fault

/-! # Customized values

A customizer is asked for something of a kind and may return anything. What is not of the kind goes
on through the assembly like everything else, and only whoever uses it meets with a fault. -/

namespace Telemetry

/-- What is not of the kind that was asked for: plain data, or some other thing, of which the
library knows no more than the name of its type. -/
inductive Stray (τ : Type)
  | datum (d : Datum)
  | object (typeName : String) (thing : τ)

namespace Stray
variable {τ : Type}

def typeName : Stray τ → String
  | datum d => d.typeName
  | object name _ => name

/-- Whether it holds where a condition is expected, as all that is not data does. -/
def holds : Stray τ → Bool
  | datum d => d.holds
  | object .. => true

end Stray

inductive Customized (τ α : Type)
  | proper (value : α)
  | stray (value : Stray τ)

namespace Customized
variable {τ α : Type}

/-- What a customizer returns that returns nothing. -/
def nothing : Customized τ α := stray (.datum .null)

def isNothing : Customized τ α → Bool
  | stray (.datum .null) => true
  | _ => false

/-- The value, for the use of one of its members. -/
def use (member : String) : Customized τ α → Except Fault α
  | proper value => .ok value
  | stray s => .error (.noMember s.typeName member)

/-- The value or what came instead, unless that does not hold. -/
def orElse (fallback : α) : Customized τ α → Customized τ α
  | proper value => proper value
  | stray s => if s.holds then stray s else proper fallback

end Customized

end Telemetry
