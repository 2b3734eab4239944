import PodRunner.Text.Digits

/-!
# Durations

A duration is a number of nanoseconds. The longest duration that a computation may produce is one
nanosecond short of `2 ^ 64` seconds.
-/

namespace PodRunner

structure Duration where
  nanos : Nat
deriving DecidableEq, Repr

namespace Duration

def nanosPerSec : Nat := 1000000000

def zero : Duration := ⟨0⟩

def ofSecs (secs : Nat) : Duration := ⟨secs * nanosPerSec⟩

def ofMillis (millis : Nat) : Duration := ⟨millis * 1000000⟩

def longest : Duration := ⟨UInt64.size * nanosPerSec - 1⟩

def secs (d : Duration) : Nat := d.nanos / nanosPerSec

def subsecNanos (d : Duration) : Nat := d.nanos % nanosPerSec

instance : LE Duration := ⟨fun a b => a.nanos ≤ b.nanos⟩

instance : LT Duration := ⟨fun a b => a.nanos < b.nanos⟩

instance (a b : Duration) : Decidable (a ≤ b) := inferInstanceAs (Decidable (a.nanos ≤ b.nanos))

instance (a b : Duration) : Decidable (a < b) := inferInstanceAs (Decidable (a.nanos < b.nanos))

instance : Min Duration := ⟨fun a b => ⟨min a.nanos b.nanos⟩⟩

theorem le_def {a b : Duration} : a ≤ b ↔ a.nanos ≤ b.nanos := Iff.rfl

theorem lt_def {a b : Duration} : a < b ↔ a.nanos < b.nanos := Iff.rfl

@[simp] theorem nanos_min (a b : Duration) : (min a b).nanos = min a.nanos b.nanos := rfl

@[simp] theorem nanos_ofSecs (n : Nat) : (ofSecs n).nanos = n * nanosPerSec := rfl

@[simp] theorem secs_ofSecs (n : Nat) : (ofSecs n).secs = n := by
  simp [secs, nanosPerSec]

@[simp] theorem subsecNanos_ofSecs (n : Nat) : (ofSecs n).subsecNanos = 0 := by
  simp [subsecNanos, nanosPerSec]

/-- A count of a unit with its decimal fraction of `width` digits. -/
private def inUnit (unit : String) (width whole part : Nat) : String :=
  let fraction := Text.fraction width part
  if fraction.isEmpty then s!"{whole}{unit}" else s!"{whole}.{fraction}{unit}"

/-- In the largest unit of which the duration holds at least one. -/
def describe (d : Duration) : String :=
  if d.nanos ≥ 1000000000 then inUnit "s" 9 (d.nanos / 1000000000) (d.nanos % 1000000000)
  else if d.nanos ≥ 1000000 then inUnit "ms" 6 (d.nanos / 1000000) (d.nanos % 1000000)
  else if d.nanos ≥ 1000 then inUnit "µs" 3 (d.nanos / 1000) (d.nanos % 1000)
  else inUnit "ns" 0 d.nanos 0

def inSeconds (d : Duration) : String :=
  s!"{d.secs}.{Text.zeroPad 9 d.subsecNanos}"

end Duration

end PodRunner
