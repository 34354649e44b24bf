import Telemetry.Fault

/-! # Scripted faults

Faults that outside code raises, given by a name and a message. -/

namespace Telemetry.Scripted

/-- Faults of these names ask to leave the program. -/
def exitNames : List String := ["SystemExit", "KeyboardInterrupt", "GeneratorExit", "BaseException"]

def faultName (name : String) : String :=
  if name = "IOError" ∨ name = "EnvironmentError" then "OSError" else name

def fault (name message : String) : Fault :=
  if name = "ConfigurationError" then .configuration (.reported message none .empty)
  else .raised (faultName name) message (exitNames.contains name)

def typeError (text : String) : Fault := .raised "TypeError" text false

/-- The fault of calling something that is no function. -/
def notCallable (value : Datum) : Fault :=
  typeError s!"{Text.quoted value.typeName} object is not callable"

end Telemetry.Scripted
