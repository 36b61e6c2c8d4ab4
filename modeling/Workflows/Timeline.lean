import Workflows.Decimal.Written
import Workflows.Execution.Record

/-!
# Timelines

A timeline places the steps of an execution in time, in the order in which they were carried out. A
step that was carried out more than once has an entry for each time.

* `Timeline.Entry`, `Timeline.ofRecords`: the entries, measured in milliseconds from an origin;
* `Timeline.total`: the end of the last step; `Timeline.durations`: the time spent in every step;
* `Timeline.chart`: one bar a step, for people.
-/

namespace Workflows

namespace Timeline

/-- A step placed in time. -/
structure Entry where
  stepId : String
  status : StepStatus
  /-- The execution waited for a decision after the step. -/
  blocking : Bool
  /-- Milliseconds from the origin to the start of the step. -/
  offset : Float
  /-- Milliseconds that the step took. -/
  duration : Float

/-- The greater of two amounts; one that is not a number does not count. -/
def greater (x y : Float) : Float := if x > y || y.isNaN then x else y

/-- The largest number of microseconds that is measured. -/
def maxMicros : Int := 0x7fffffffffffffff

/-- Milliseconds from `origin` to `t`, in whole microseconds; none before the origin or where there are
too many. -/
def offsetOf (origin t : Time) : Float :=
  let micros := t.nanosSince origin / 1000
  Float.ofInt (if 0 ≤ micros ∧ micros ≤ maxMicros then micros else 0) / 1000.0

/-- The entry of a record. -/
def entryOf (origin : Time) (r : StepRecord) : Entry :=
  { stepId := r.stepId
    status := r.status
    blocking := r.blocking
    offset := offsetOf origin r.startedAt
    duration := greater r.duration.toFloat 0.0 }

/-- The end of a step, in milliseconds from the origin. -/
def Entry.finish (e : Entry) : Float := e.offset + e.duration

end Timeline

/-- The steps of an execution, placed in time. -/
abbrev Timeline := List Timeline.Entry

namespace Timeline

/-- The timeline of records, measured from `origin`. -/
def ofRecords (origin : Time) (records : List StepRecord) : Timeline := records.map (entryOf origin)

/-- The timeline of an execution. -/
def ofExecution (e : Execution) : Timeline := ofRecords e.startedAt e.records

/-- The end of the last step, in milliseconds from the origin. -/
def total (t : Timeline) : Float := t.foldl (fun latest e => greater latest e.finish) 0.0

/-- Milliseconds spent in every step, all its entries together. -/
def durations (t : Timeline) : Dict Float :=
  t.foldl (fun sums e => sums.insert e.stepId ((sums.get? e.stepId).getD 0.0 + e.duration)) {}

/-! ## Charts -/

/-- How many characters the whole time takes. -/
def chartWidth : Nat := 50

/-- How many characters the name of a step takes. -/
def labelWidth : Nat := 12

/-- `s` with blanks after it up to a length of `width`. -/
def padEnd (width : Nat) (s : String) : String :=
  s ++ String.ofList (List.replicate (width - s.length) ' ')

/-- The name of a step in the width of a label; of a longer name the end is left out. -/
def label (stepId : String) : String :=
  if stepId.length ≤ labelWidth then padEnd labelWidth stepId
  else String.ofList (stepId.toList.take (labelWidth - 3)) ++ "..."

/-- The sign that a bar is made of. -/
def fill : StepStatus → Char
  | .succeeded => '#'
  | .failed => 'x'

/-- A bar of at least one sign that starts at `start`, as far as the chart has room for it; the last sign
of a step that waits for a decision is a stroke. -/
def bar (e : Entry) (start length : Nat) : String :=
  let start := min start (chartWidth - 1)
  let length := min (max length 1) (chartWidth - start)
  let signs := List.replicate start ' ' ++ List.replicate length (fill e.status)
  String.ofList (if e.blocking then signs.dropLast ++ ['|'] else signs)

/-- An amount in whole characters of `1 / scale` milliseconds. -/
def characters (scale x : Float) : Nat := (x * scale).toUInt64.toNat

/-- An amount of milliseconds, to a tenth. -/
def millis (x : Float) : String := Decimal.fixedText 1 x ++ " ms"

/-- The row of an entry whose bar starts at `start`. -/
def row (e : Entry) (start length : Nat) : String :=
  label e.stepId ++ " |" ++ padEnd chartWidth (bar e start length) ++ "| (" ++ millis e.duration ++ ")\n"

/-- The row of an entry, with `scale` characters a millisecond. -/
def rowOf (scale : Float) (e : Entry) : String :=
  row e (characters scale e.offset) (characters scale e.duration)

/-- The heading of a chart. -/
def heading : String := "\nExecution Timeline:\n\n"

/-- A chart of a timeline: its heading only, if no time was spent. -/
def chart (t : Timeline) : String :=
  let total := t.total
  if t.isEmpty || total <= 0.0 then heading
  else
    let scale := 50.0 / total
    heading ++ String.join (t.map (rowOf scale)) ++ "\nTotal: " ++ millis total ++ "\n"

end Timeline

end Workflows
