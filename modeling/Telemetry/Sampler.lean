import Telemetry.Properties.Getters
import Telemetry.Properties.Names

/-! # Samplers

Which spans are recorded, decided by the trace id, and the sampler that the settings name. -/

namespace Telemetry

inductive Sampler
  | alwaysOn
  | alwaysOff
  | ratio (rate : Binary64)
  | parentBased (root : Sampler)

namespace Sampler

def description : Sampler → String
  | alwaysOn => "AlwaysOnSampler"
  | alwaysOff => "AlwaysOffSampler"
  | ratio rate => s!"TraceIdRatioBased\x7b{rate.written}\x7d"
  | parentBased root =>
    s!"ParentBased\x7broot:{root.description},remoteParentSampled:AlwaysOnSampler," ++
      "remoteParentNotSampled:AlwaysOffSampler,localParentSampled:AlwaysOnSampler," ++
      "localParentNotSampled:AlwaysOffSampler\x7d"

/-- The name of the kind of sampler. Above a ratio the parent based one has a name of its own. -/
def typeName : Sampler → String
  | alwaysOn | alwaysOff => "StaticSampler"
  | ratio _ => "TraceIdRatioBased"
  | parentBased (ratio _) => "ParentBasedTraceIdRatio"
  | parentBased _ => "ParentBased"

/-- Whether the root span of a trace is recorded. A ratio samples the trace ids whose low 64 bits
lie below its share of all of them. -/
def samplesRoot : Sampler → Nat → Bool
  | alwaysOn, _ => true
  | alwaysOff, _ => false
  | ratio rate, traceId => (((traceId % Nat.pow 2 64 : Nat) : Int) < rate.scaled 64 : Bool)
  | parentBased root, traceId => root.samplesRoot traceId

def standard : Sampler := parentBased alwaysOn

/-- A sampler of a given share of all traces, which must lie between zero and one. -/
def ofRate (rate : Binary64) : Except Fault Sampler :=
  if rate.inUnitInterval then .ok (ratio rate)
  else if rate = .nan then .error .undefinedRate
  else .error .notAProbability

/-- The ratio sampler that the argument asks for; all traces without an argument. -/
def ratioOf (p : Properties) : Except Fault Sampler := do
  let rate := (← p.float? Names.tracesSamplerArg).getD (.ofInt 1)
  match ofRate rate with
  | .ok s => .ok s
  | .error _ => .error (.configuration (.outsideUnitInterval Names.tracesSamplerArg rate))

/-- The sampler that the settings name, in any case. Only the ratio samplers read the argument. -/
def ofProperties (p : Properties) : Except Fault Sampler :=
  let name := Text.lowered ((p.string? Names.tracesSampler).getD Names.defaultSampler)
  match name with
  | "always_on" => .ok alwaysOn
  | "always_off" => .ok alwaysOff
  | "parentbased_always_on" => .ok (parentBased alwaysOn)
  | "parentbased_always_off" => .ok (parentBased alwaysOff)
  | "traceidratio" => ratioOf p
  | "parentbased_traceidratio" => (ratioOf p).map parentBased
  | _ => .error (.configuration (.unrecognized Names.tracesSampler name))

end Sampler

end Telemetry
