/-!
# Link speeds

A link runs at one of three speeds.  The speed fixes two lengths of time, counted in ticks of a
60 MHz clock from the end of a received packet: the least gap a device leaves before it
transmits, and the window after which the host no longer waits for it.

| speed | bit time | least gap | window |
|-------|----------|-----------|--------|
| high  | 1/8 tick | 1         | 24     |
| full  | 5 ticks  | 10        | 32     |
| low   | 40 ticks | 80        | 260    |

## Main definitions

* `Speed.leastGap`, `Speed.window`: the two lengths of time
* `Speed.code`, `Speed.ofCode?`: the 2-bit code of a speed
-/

namespace ControlEndpoint

/-- The speed negotiated on a link. -/
inductive Speed where
  /-- 480 Mbit/s. -/
  | high
  /-- 12 Mbit/s. -/
  | full
  /-- 1.5 Mbit/s. -/
  | low
deriving DecidableEq, Repr

namespace Speed

/-- A link is taken to run at high speed until it is known to be slower. -/
instance : Inhabited Speed := ⟨.high⟩

/-- The 2-bit code of a speed. -/
def code : Speed → UInt8
  | .high => 0
  | .full => 1
  | .low => 2

/-- The speed with the given code; the code `3` is reserved, and wider numbers are no codes. -/
def ofCode? (bits : UInt8) : Option Speed := [high, full, low].find? (·.code == bits)

theorem ofCode?_eq_some_iff {bits : UInt8} {s : Speed} : ofCode? bits = some s ↔ s.code = bits := by
  constructor
  · intro h
    simpa using List.find?_some h
  · rintro rfl
    cases s <;> rfl

/-- The least number of ticks between the end of a received packet and a transmission. -/
def leastGap : Speed → UInt16
  | .high => 1
  | .full => 10
  | .low => 80

/-- The number of ticks after which the host gives up on a response. -/
def window : Speed → UInt16
  | .high => 24
  | .full => 32
  | .low => 260

theorem one_le_leastGap (s : Speed) : 1 ≤ s.leastGap := by cases s <;> decide

theorem leastGap_le_window (s : Speed) : s.leastGap ≤ s.window := by cases s <;> decide

/-- Low speed has the longest window. -/
theorem window_le (s : Speed) : s.window ≤ 260 := by cases s <;> decide

end Speed

end ControlEndpoint
