/-
# Counters

Every measurement raises one counter by one; an issuance also enters a histogram of durations.
The state of the counters is the list of measurements made so far, and the number of a series is
how often it was raised.

* `Measurement.counter` : the counter that a measurement raises;
* `Measurement.buckets` : the cumulative buckets that a duration falls into;
* `growth` : all series that measurements raise, with their numbers;
* `Exporter` : what writes the numbers for a collector.
-/
import BearerBridge.Trace

namespace BearerBridge

/-! ## Series -/

/-- A named number with labels. -/
structure Series where
  name : String
  labels : List (String × String)
  deriving DecidableEq, Repr

/-- The name of a series with its labels. -/
def Series.text (s : Series) : String :=
  s.name ++ "\x7b"
    ++ ",".intercalate (s.labels.map (fun l => l.1 ++ "=\"" ++ l.2 ++ "\"")) ++ "\x7d"

/-- The upper bounds of the buckets, in microseconds and as written in seconds. -/
def bucketBounds : List (Nat × String) :=
  [(100, "0.0001"), (250, "0.00025"), (500, "0.0005"), (1000, "0.001"), (2500, "0.0025"),
    (5000, "0.005"), (10000, "0.01"), (25000, "0.025"), (50000, "0.05")]

namespace Measurement

/-- The counter that a measurement raises. -/
def counter : Measurement → Series
  | handshake status => ⟨"bridge_handshake_total", [("status", status)]⟩
  | issuance status _ => ⟨"bridge_token_issuance_total", [("status", status)]⟩
  | validation status category =>
    ⟨"bridge_token_validations_total",
      [("status", status), ("error_category", category.getD "none")]⟩

/-- The cumulative buckets that a duration falls into, and the number of all durations. -/
def buckets : Measurement → List Series
  | issuance status micros =>
    let bounds := (bucketBounds.filter (micros ≤ ·.1)).map (·.2) ++ ["+Inf"]
    bounds.map (fun le => ⟨"bridge_token_issuance_duration_seconds_bucket",
      [("status", status), ("le", le)]⟩)
      ++ [⟨"bridge_token_issuance_duration_seconds_count", [("status", status)]⟩]
  | _ => []

end Measurement

/-! ## Numbers -/

/-- Each series of a list once, with the number of times that it is there. -/
def tally : List Series → List (Series × Nat)
  | [] => []
  | s :: ss =>
    (s, ss.count s + 1) :: (tally ss).filter (·.1 ≠ s)

/-- The counters that measurements raise, with their numbers. -/
def counterGrowth (ms : List Measurement) : List (Series × Nat) :=
  tally (ms.map Measurement.counter)

/-- All series that measurements raise, with their numbers. -/
def growth (ms : List Measurement) : List (Series × Nat) :=
  counterGrowth ms ++ tally (ms.flatMap Measurement.buckets)

/-! ## Exporters -/

/-- What writes the numbers for a collector, from the measurements made so far. -/
abbrev Exporter := List Measurement → String

/-- The exporter of a recorder that nothing is reported to. -/
def Exporter.detached : Exporter := fun _ => ""

/-- Why a second recorder cannot be set up in one process. -/
def secondRecorderFault : String :=
  "Failed to install Prometheus recorder: failed to install exporter as global recorder: "
    ++ "attempted to set a recorder after the metrics system was already initialized"

end BearerBridge
