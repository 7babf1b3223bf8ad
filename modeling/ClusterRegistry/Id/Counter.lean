import ClusterRegistry.Id

/-!
# Ids from the clock

Ids start with the time in milliseconds and end in 22 bits that count. All calls for an id
share one counter, which holds the last id given out. A call reads the clock once, looks at
the counter, and tries to move it on to the first id of its millisecond, or to the id after
the last one where that is larger. The move fails if the counter has changed since it was
seen, and may fail for no reason; then the call has seen the counter anew and tries again. So
the counter only ever goes up, even if the clock goes back, and whatever turns the calls take.
-/

namespace ClusterRegistry.Id

/-- The bits of an id below the time. -/
def counterBits : Nat := 22

/-- The first id of a millisecond; a time before the epoch counts as the epoch. -/
def firstOf (millis : Int) : UInt64 := .ofNat (millis.toNat <<< counterBits)

/-- The id that is asked for from the floor of a call when the counter is at `last`. -/
def nextAbove (floor last : UInt64) : UInt64 := max floor (last + 1)

/-- Where a call for an id stands. -/
inductive Draw
  /-- The clock was read; no id below `floor` will do. -/
  | started (floor : UInt64)
  /-- The counter was seen at `last`. -/
  | looked (floor last : UInt64)
  /-- The counter was moved on to the id that the call answers. -/
  | answered (id : UInt64)
deriving DecidableEq

/-- The id that a call has answered. -/
def Draw.id? : Draw → Option UInt64
  | .answered id => some id
  | _ => none

/-- The next step of a call on a counter at `last`, with the counter after it. An attempt
succeeds if the counter is as it was seen, unless it `fails` for no reason. -/
def Draw.advance (last : UInt64) (fails : Bool) : Draw → Draw × UInt64
  | .started floor => (.looked floor last, last)
  | .looked floor seen =>
    if seen = last ∧ fails = false then
      let id := nextAbove floor last
      (.answered id, id)
    else (.looked floor last, last)
  | .answered id => (.answered id, last)

/-- The shared counter with all calls that were made, in the order in which they started. -/
structure Counter where
  /-- The last id given out, zero before the first one. -/
  last : UInt64 := 0
  draws : Array Draw := #[]

/-- A turn in the use of a counter. -/
inductive Counter.Turn
  /-- A new call starts by reading the clock. -/
  | start (millis : Int)
  /-- A call that was made takes its next step. -/
  | advance (call : Nat) (fails : Bool)

namespace Counter

/-- A counter after a turn. -/
def step (c : Counter) : Turn → Counter
  | .start millis => { c with draws := c.draws.push (.started (firstOf millis)) }
  | .advance call fails =>
    match c.draws[call]? with
    | none => c
    | some d =>
      let (d, last) := d.advance c.last fails
      { last, draws := c.draws.setIfInBounds call d }

/-- A counter after some turns. -/
def run (c : Counter) (turns : List Turn) : Counter := turns.foldl step c

/-- The ids that were answered, in the order in which their calls started. -/
def ids (c : Counter) : List UInt64 := c.draws.toList.filterMap Draw.id?

/-- The turns of a call that no other call comes in between. -/
def undisturbed (call : Nat) (millis : Int) : List Turn :=
  [.start millis, .advance call false, .advance call false]

/-- The ids that a new counter gives out at some clock readings, one call after the other. -/
def drawAt (readings : List Int) : List UInt64 :=
  (run {} (readings.zipIdx.flatMap fun r => undisturbed r.2 r.1)).ids

/-- Whether every id in a list is larger than the one before it. -/
def ascends : List UInt64 → Bool
  | a :: b :: rest => decide (a < b) && ascends (b :: rest)
  | _ => true

/-- Whether every id is from the given millisecond or the minute after it. -/
def fromClock (millis : Int) (ids : List UInt64) : Bool :=
  ids.all fun i => decide (firstOf millis ≤ i ∧ i ≤ firstOf (millis + 60000))

end Counter

end ClusterRegistry.Id
