import Vivarium.Value.Number

/-!
# Clocks

Between two rounds a run pauses. How it waits is up to a clock, and a clock may be unable to: that of
the system counts nanoseconds in 63 bits, which is enough for 292 years.
-/

namespace Vivarium

/-- A way of waiting for a number of seconds. -/
structure Clock where
  wait : Value → Except Fault Unit

namespace Clock

/-- The nanoseconds that the clock of the system counts are fewer than this. -/
def nanoseconds : Int := Nat.pow 2 63

def system : Clock where
  wait seconds :=
    match seconds.number? with
    | none => .error (.notCount seconds.kind)
    | some (.whole n) =>
      if n * Nat.pow 10 9 < nanoseconds then .ok () else .error (.longPause seconds)
    | some (.double x) =>
      if Number.lt (.double (x * 1000000000)) (.whole nanoseconds) then .ok ()
      else .error (.longPause seconds)

/-- Pauses, if there is anything to wait for; the result tells whether there was. -/
def pause (clock : Clock) (seconds : Value) : Except Fault Bool := do
  let long ← seconds.gt (.int 0)
  if long then clock.wait seconds
  return long

end Clock

end Vivarium
