import Telemetry.Properties.Getters
import Telemetry.Properties.Names
import Telemetry.Signal
import Telemetry.Wait

/-! # Limits of batch processors

Delays and sizes of a batch processor: the settings they come from, what holds without a setting,
and what is accepted. -/

namespace Telemetry

structure BatchLimits where
  scheduleDelayMillis : Int
  maxExportBatchSize : Int
  exportTimeoutMillis : Int
  maxQueueSize : Int
  deriving DecidableEq

structure BatchSettings where
  scheduleDelayMillis : Option Int := none
  maxExportBatchSize : Option Int := none
  exportTimeoutMillis : Option Int := none
  maxQueueSize : Option Int := none
  deriving DecidableEq

structure BatchKeys where
  scheduleDelay : String
  maxExportBatchSize : String
  exportTimeout : String
  maxQueueSize : String

namespace BatchLimits

def standard : Signal → BatchLimits
  | .logs => ⟨1000, 512, 30000, 2048⟩
  | _ => ⟨5000, 512, 30000, 2048⟩

/-- A queue is no longer than a word of 63 bits can tell. -/
def longestQueue : Int := 9223372036854775807

/-- The first limit that is not acceptable, and then the first that does not fit. The export timeout
is not checked. -/
def check (l : BatchLimits) : Except Fault Unit :=
  if l.maxQueueSize ≤ 0 then .error (.limit .queueSize)
  else if l.scheduleDelayMillis ≤ 0 then .error (.limit .scheduleDelay)
  else if l.maxExportBatchSize ≤ 0 then .error (.limit .batchSize)
  else if l.maxQueueSize < l.maxExportBatchSize then .error (.limit .batchOverQueue)
  else if (Binary64.ofInt l.scheduleDelayMillis).isInfinite then .error (.overflow .real)
  else if longestQueue < l.maxQueueSize then .error (.overflow .length)
  else .ok ()

/-- Whether the worker of a batch processor can wait from one export to the next. One that cannot
is gone at once. -/
def isWaitable (l : BatchLimits) : Bool :=
  Telemetry.isWaitable ((l.scheduleDelayMillis : Rat) / 1000)

end BatchLimits

namespace BatchSettings

def keys : Signal → BatchKeys
  | .logs => ⟨Names.recordScheduleDelay, Names.recordMaxExportBatchSize,
      Names.recordExportTimeout, Names.recordMaxQueueSize⟩
  | _ => ⟨Names.spanScheduleDelay, Names.spanMaxExportBatchSize, Names.spanExportTimeout,
      Names.spanMaxQueueSize⟩

/-- Reads the settings in this order, so the first one that does not parse is the fault. -/
def read (p : Properties) (keys : BatchKeys) : Except Fault BatchSettings := do
  let delay ← p.durationMillis? keys.scheduleDelay
  let size ← p.int? keys.maxExportBatchSize
  let timeout ← p.durationMillis? keys.exportTimeout
  let queue ← p.int? keys.maxQueueSize
  return ⟨delay, size, timeout, queue⟩

def limits (s : BatchSettings) (standard : BatchLimits) : BatchLimits where
  scheduleDelayMillis := s.scheduleDelayMillis.getD standard.scheduleDelayMillis
  maxExportBatchSize := s.maxExportBatchSize.getD standard.maxExportBatchSize
  exportTimeoutMillis := s.exportTimeoutMillis.getD standard.exportTimeoutMillis
  maxQueueSize := s.maxQueueSize.getD standard.maxQueueSize

end BatchSettings

end Telemetry
