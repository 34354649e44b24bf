/-! # Waiting

A wait is counted in nanoseconds, by a word of 63 bits, and one that does not fit cannot be made. -/

namespace Telemetry

/-- Whether so many seconds can be waited for. -/
def isWaitable (seconds : Rat) : Bool := seconds * 1000000000 < 9223372036854775808

end Telemetry
