import Telemetry.Datum

/-! # Faults

What can go wrong, by its cause. The wording of every message is here, and nowhere else. A fault
that asks to leave the program is no failure: whoever handles failures lets it pass. -/

namespace Telemetry

/-- A setting that cannot be used. -/
inductive ConfigurationFault
  | notWhole (key value : String)
  | notReal (key value : String)
  | notDuration (key value : String)
  | notMap (key value : String)
  | noneAmongOthers (key noun : String)
  | unrecognized (key name : String)
  | outsideUnitInterval (key : String) (ratio : Binary64)
  | reported (message : String) (key : Option String) (details : OrderedMap String Datum)

namespace ConfigurationFault

def message : ConfigurationFault → String
  | notWhole key value => s!"Invalid value for property {key}={value}. Must be an integer."
  | notReal key value => s!"Invalid value for property {key}={value}. Must be a number."
  | notDuration key value => s!"Invalid duration property {key}={value}."
  | notMap key value => s!"Invalid map property: {key}={value}"
  | noneAmongOthers key noun => s!"{key} contains none along with other {noun}"
  | unrecognized key name => s!"Unrecognized value for {key}: {name}"
  | outsideUnitInterval key ratio => s!"Invalid value for {key}: {ratio.written}"
  | reported message _ _ => message

def key : ConfigurationFault → Option String
  | notWhole key _ | notReal key _ | notDuration key _ | notMap key _ | noneAmongOthers key _
  | unrecognized key _ | outsideUnitInterval key _ => some key
  | reported _ key _ => key

/-- The details given with the fault, and the key unless it is missing or empty. -/
def details (f : ConfigurationFault) : OrderedMap String Datum :=
  let given :=
    match f with
    | reported _ _ details => details
    | _ => .empty
  match f.key with
  | none => given
  | some key => if key.isEmpty then given else given.insert "key" (.text key)

end ConfigurationFault

/-- A number that a batch processor or a metric reader does not accept. -/
inductive LimitFault
  | queueSize
  | scheduleDelay
  | batchSize
  | batchOverQueue
  | interval (millis : Int)

def LimitFault.message : LimitFault → String
  | queueSize => "max_queue_size must be a positive integer."
  | scheduleDelay => "schedule_delay_millis must be positive."
  | batchSize => "max_export_batch_size must be a positive integer."
  | batchOverQueue => "max_export_batch_size must be less than or equal to max_queue_size."
  | interval millis =>
    s!"interval value {millis} is invalid                 and needs to be larger than zero."

/-- A number that does not fit where it has to be kept. -/
inductive OverflowFault
  | quotient
  | real
  | length
  | count
  | repetition
  | wait

def OverflowFault.message : OverflowFault → String
  | quotient => "integer division result too large for a float"
  | real => "int too large to convert to float"
  | length => "Python int too large to convert to C ssize_t"
  | count => "cannot fit 'int' into an index-sized integer"
  | repetition => "repeated string is too long"
  | wait => "timestamp too large to convert to C _PyTime_t"

inductive Fault
  | configuration (fault : ConfigurationFault)
  | report (message : String) (details : OrderedMap String Datum)
  | pluginLoad (group name : String) (cause : Fault)
  | notAFunction (role typeName : String)
  | notIterable (typeName : String)
  | notAKind (shown : String)
  | notGiven (role : String)
  | tooManyDigits (digits : Nat)
  | overflow (fault : OverflowFault)
  | limit (fault : LimitFault)
  | notReal (text : String)
  | notAProbability
  | undefinedRate
  | notAnInstrument (length : Nat) (text : String)
  | unsupportedOperands (operator left right : String)
  | noMember (owner member : String)
  | frozen (field : String)
  | readerTimedOut
  | readersNotFlushed (faults : List String)
  | readersNotClosed (faults : List String)
  | raised (name argument : String) (exits : Bool)

namespace Fault

/-- The metric readers that failed, a line for each. -/
def readerLines (faults : List String) : String :=
  "\n".intercalate (faults.map fun f => "PeriodicExportingMetricReader: " ++ f)

/-- What a fault says, and the details it carries. A missing key is shown quoted. -/
def parts : Fault → String × OrderedMap String Datum
  | configuration fault => (fault.message, fault.details)
  | report message details => (message, details)
  | pluginLoad group name cause =>
    let (m, d) := cause.parts
    let text := if d.isEmpty then m else m ++ " | Details: " ++ (Datum.ofMap d).shown
    (s!"Failed to load plugin {Text.quoted name} from group {Text.quoted group}: {text}",
      .ofList [("group", .text group), ("name", .text name)])
  | notAFunction role typeName => (s!"{role} must be callable, got {typeName}", .empty)
  | notIterable typeName => (s!"{Text.quoted typeName} object is not iterable", .empty)
  | notAKind shown => (s!"{shown} is not a valid CustomizerKind", .empty)
  | notGiven role => (s!"{role} must not be None", .empty)
  | tooManyDigits digits =>
    (s!"Exceeds the limit ({digitLimit} digits) for integer string conversion: value has " ++
      s!"{digits} digits; use sys.set_int_max_str_digits() to increase the limit", .empty)
  | overflow fault => (fault.message, .empty)
  | limit fault => (fault.message, .empty)
  | notReal text => (s!"could not convert string to float: {Text.quoted text}", .empty)
  | notAProbability => ("Probability must be in range [0.0, 1.0].", .empty)
  | undefinedRate => ("cannot convert float NaN to integer", .empty)
  | notAnInstrument length text =>
    (s!"Expected ASCII string of maximum length {length} characters but got {text}", .empty)
  | unsupportedOperands operator left right =>
    (s!"unsupported operand type(s) for {operator}: {Text.quoted left} and {Text.quoted right}",
      .empty)
  | noMember owner member =>
    (s!"'{owner}' object has no attribute '{member}'", .empty)
  | frozen field => (s!"cannot assign to field {Text.quoted field}", .empty)
  | readerTimedOut => ("Timed out while flushing metric readers", .empty)
  | readersNotFlushed faults =>
    ("MeterProvider.force_flush failed because the following metric readers failed during " ++
      "collect:\n" ++ readerLines faults, .empty)
  | readersNotClosed faults =>
    ("MeterProvider.shutdown failed because the following metric readers failed during " ++
      "shutdown:\n" ++ readerLines faults, .empty)
  | raised name argument _ =>
    (if name = "KeyError" then Text.quoted argument else argument, .empty)

def message (f : Fault) : String := f.parts.1

def details (f : Fault) : OrderedMap String Datum := f.parts.2

/-- What the fault was made with: its message, or the key that is missing. -/
def argument : Fault → String
  | raised _ argument _ => argument
  | f => f.message

/-- The message, with the details behind it if there are any. -/
def text (f : Fault) : String :=
  if f.details.isEmpty then f.message
  else f.message ++ " | Details: " ++ (Datum.ofMap f.details).shown

def name : Fault → String
  | configuration _ => "ConfigurationError"
  | report .. => "AutoConfigurationError"
  | pluginLoad .. => "PluginLoadError"
  | notAFunction .. | notIterable _ | notGiven _ | unsupportedOperands .. => "TypeError"
  | notAKind _ | tooManyDigits _ | limit _ | notReal _ | notAProbability | undefinedRate =>
    "ValueError"
  | overflow _ => "OverflowError"
  | noMember .. => "AttributeError"
  | frozen _ => "FrozenInstanceError"
  | readerTimedOut => "MetricsTimeoutError"
  | notAnInstrument .. | readersNotFlushed _ | readersNotClosed _ => "Exception"
  | raised name _ _ => name

/-- How a fault is shown inside the message of another one. -/
def shown (f : Fault) : String := s!"{f.name}({Text.quoted f.argument})"

/-- Whether the fault asks to leave the program. -/
def exits : Fault → Bool
  | raised _ _ exits => exits
  | _ => false

end Fault

end Telemetry
