/-! # Signals

The three kinds of telemetry. -/

namespace Telemetry

inductive Signal
  | traces
  | metrics
  | logs
  deriving DecidableEq

def Signal.name : Signal → String
  | traces => "traces"
  | metrics => "metrics"
  | logs => "logs"

end Telemetry
