import FeedDesk.Number.Binary64

namespace FeedDesk

/-!
The mean of a list of doubles. Beside the running total a second sum collects what the additions
lose to rounding, and both are added at the end, unless the lost part is not a number. The order
of the values matters and is the order of the list.
-/

structure RunningSum where
  total : Binary64
  /-- What the additions have lost so far. -/
  lost : Binary64

namespace RunningSum

def start : RunningSum := ⟨.zero, .zero⟩

def add (sum : RunningSum) (value : Binary64) : RunningSum :=
  let next := sum.total + value
  let lost :=
    if value.abs.lt sum.total.abs then (sum.total - next) + value
    else (value - next) + sum.total
  ⟨next, sum.lost + lost⟩

def result (sum : RunningSum) : Binary64 :=
  if sum.lost.isNaN then sum.total else sum.total + sum.lost

end RunningSum

namespace Binary64

/-- The mean of the values; there is none without values, nor when it is not a number. -/
def mean? (values : List Binary64) : Option Binary64 :=
  if values.isEmpty then none
  else
    let mean := (values.foldl RunningSum.add RunningSum.start).result / ofNat values.length
    if mean.isNaN then none else some mean

/-- The first of the least values. -/
def least? : List Binary64 → Option Binary64
  | [] => none
  | value :: values =>
    some (values.foldl (fun least other => if other.lt least then other else least) value)

/-- The first of the greatest values. -/
def greatest? : List Binary64 → Option Binary64
  | [] => none
  | value :: values =>
    some (values.foldl (fun greatest other => if greatest.lt other then other else greatest) value)

end Binary64
end FeedDesk
