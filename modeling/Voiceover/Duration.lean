import Voiceover.Binary64

/-! Spans of time in whole nanoseconds, and what cannot be counted. What a machine word counts is a
natural number here, and the range is asked for where a count has to fit: arithmetic that does not
fit has no result but a fault, which ends the run it happens in. The seconds of a span fit 64 bits,
which bounds every span; sums past the bound are refused or stop at it, as the operation says. -/

namespace Voiceover

def word16 : Nat := 65536

def word32 : Nat := 4294967296

def word64 : Nat := 18446744073709551616

inductive Fault
  /-- A product is above the width of its word. -/
  | product
  /-- A sum is above the width of its word. -/
  | sum
  | durationSum
  /-- A buffer would be larger than the address space. -/
  | capacity
deriving DecidableEq

namespace Fault

def message : Fault → String
  | product => "attempt to multiply with overflow"
  | sum => "attempt to add with overflow"
  | durationSum => "overflow when adding durations"
  | capacity => "capacity overflow"

end Fault

def nanosPerSecond : Nat := 1000000000

def durationLimit : Nat := word64 * nanosPerSecond

theorem durationLimit_pos : 0 < durationLimit := by decide

structure Duration where
  nanos : Nat
  inRange : nanos < durationLimit
deriving DecidableEq

namespace Duration

@[ext]
theorem ext {first second : Duration} (nanos : first.nanos = second.nanos) : first = second := by
  cases first
  cases second
  cases nanos
  rfl

def zero : Duration := ⟨0, by decide⟩

def clamped (nanos : Nat) : Duration :=
  ⟨min nanos (durationLimit - 1), by have := durationLimit_pos; omega⟩

def seconds (span : Duration) : Nat := span.nanos / nanosPerSecond

def subsecond (span : Duration) : Nat := span.nanos % nanosPerSecond

def add (first second : Duration) : Except Fault Duration :=
  if inRange : first.nanos + second.nanos < durationLimit then
    .ok ⟨first.nanos + second.nanos, inRange⟩
  else .error .durationSum

def addClamped (first second : Duration) : Duration :=
  clamped (first.nanos + second.nanos)

def doubleClamped (span : Duration) : Duration :=
  clamped (2 * span.nanos)

@[simp] theorem nanos_clamped (nanos : Nat) :
    (clamped nanos).nanos = min nanos (durationLimit - 1) := rfl

theorem nanos_addClamped {first second : Duration}
    (inRange : first.nanos + second.nanos < durationLimit) :
    (first.addClamped second).nanos = first.nanos + second.nanos := by
  rw [addClamped, nanos_clamped]
  omega

theorem add_eq_ok_iff {first second sum : Duration} :
    first.add second = .ok sum ↔ sum.nanos = first.nanos + second.nanos := by
  have bound := sum.inRange
  unfold add
  split
  · rw [Except.ok.injEq, Duration.ext_iff, eq_comm]
  · constructor
    · intro failed
      cases failed
    · omega

theorem add_eq_addClamped {first second : Duration}
    (inRange : first.nanos + second.nanos < durationLimit) :
    first.add second = .ok (first.addClamped second) :=
  add_eq_ok_iff.mpr (nanos_addClamped inRange)

/-- A fraction of `places` decimal digits behind a point, without its last zeros; nothing when it
is zero. -/
def fractionText (fraction places : Nat) : String :=
  let digits := (toString fraction).toList
  let padded := List.replicate (places - digits.length) '0' ++ digits
  match (padded.reverse.dropWhile (· = '0')).reverse with
  | [] => ""
  | kept => "." ++ String.ofList kept

def text (span : Duration) : String :=
  let nanos := span.nanos
  if nanosPerSecond ≤ nanos then
    toString span.seconds ++ fractionText span.subsecond 9 ++ "s"
  else if 1000000 ≤ nanos then
    toString (nanos / 1000000) ++ fractionText (nanos % 1000000) 6 ++ "ms"
  else if 1000 ≤ nanos then
    toString (nanos / 1000) ++ fractionText (nanos % 1000) 3 ++ "µs"
  else toString nanos ++ "ns"

open Binary64

/-- The span in seconds, as a double. Its whole seconds and its fraction are rounded on their own
before they are added. -/
def inSeconds (span : Duration) : Rat :=
  nearest (nearest span.seconds + nearest (span.subsecond / nanosPerSecond))

def inMillis (span : Duration) : Rat :=
  nearest (span.inSeconds * 1000)

end Duration

end Voiceover
