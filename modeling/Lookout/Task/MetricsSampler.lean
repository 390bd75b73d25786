import Lookout.Task.Basic
import Lookout.Task.Ticker

/-!
# Sampling the host

A metrics sampler takes a snapshot of the host at each tick and sends it. A snapshot that cannot be
taken is left out; only a message that cannot be sent ends the task.
-/

namespace Lookout

/-- The message about a snapshot. -/
def HostMetrics.toMessage (m : HostMetrics) : Envelope := .of .metrics m.toJson

/-- What a metrics sampler is at. -/
inductive MetricsPhase where
  | waiting
  | collecting
  | sending (m : HostMetrics)
  | finished
  deriving DecidableEq

/-- A task that samples the host. -/
structure MetricsSampler where
  ticker : Ticker
  phase : MetricsPhase := .waiting
  deriving DecidableEq

namespace MetricsSampler

/-- A sampler that starts now; its first tick is due at once. -/
def start (now period : Nat) : MetricsSampler := { ticker := ⟨now, period⟩ }

/-- What the sampler waits for: its tick, its snapshot, room for its message. -/
def wait (t : MetricsSampler) : Wait :=
  match t.phase with
  | .waiting => .time t.ticker.due
  | .collecting => .snapshot
  | .sending m => .room m.toMessage
  | .finished => .finished

/-- The sampler after it was told something. -/
def resume (t : MetricsSampler) (n : Notice) : MetricsSampler :=
  match t.phase, n with
  | .waiting, .time now =>
    -- A tick is taken when the snapshot is asked for, not when it is there.
    if t.ticker.due ≤ now then { ticker := t.ticker.tick now, phase := .collecting } else t
  | .collecting, .snapshot (.ok m) => { t with phase := .sending m }
  -- Nothing is sent for a snapshot that failed, and the next tick is waited for.
  | .collecting, .snapshot (.error _) => { t with phase := .waiting }
  | _, _ => t

/-- The sampler after its message was queued, or never will be. -/
def sent (t : MetricsSampler) (accepted : Bool) : MetricsSampler :=
  match t.phase with
  | .sending _ => { t with phase := if accepted then .waiting else .finished }
  | _ => t

end MetricsSampler

end Lookout
