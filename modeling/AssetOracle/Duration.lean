/-!
# Durations

Spans of time in whole microseconds, and moments as the span since the clock started.
-/

namespace AssetOracle

/-- A span of time. -/
structure Duration where
  micros : Nat
deriving DecidableEq, Repr

namespace Duration

/-- No time at all. -/
def zero : Duration := ⟨0⟩

/-- Whole milliseconds. -/
def ofMillis (n : Nat) : Duration := ⟨n * 1000⟩

/-- Whole seconds. -/
def ofSeconds (n : Nat) : Duration := ⟨n * 1000000⟩

/-- The whole milliseconds in a span; a rest below one is dropped. -/
def millis (d : Duration) : Nat := d.micros / 1000

instance : Add Duration := ⟨fun a b => ⟨a.micros + b.micros⟩⟩
instance : Sub Duration := ⟨fun a b => ⟨a.micros - b.micros⟩⟩
instance : LE Duration := ⟨fun a b => a.micros ≤ b.micros⟩
instance : LT Duration := ⟨fun a b => a.micros < b.micros⟩
instance : Max Duration := ⟨fun a b => ⟨max a.micros b.micros⟩⟩
instance (a b : Duration) : Decidable (a ≤ b) := inferInstanceAs (Decidable (a.micros ≤ b.micros))
instance (a b : Duration) : Decidable (a < b) := inferInstanceAs (Decidable (a.micros < b.micros))

@[simp] theorem millis_ofMillis (n : Nat) : (ofMillis n).millis = n := by
  simp [millis, ofMillis]

end Duration

end AssetOracle
