/-!
Spans of time in whole nanoseconds, and instants of the virtual clock in whole milliseconds.
-/

set_option autoImplicit false

namespace Workcell

abbrev Duration := Nat

namespace Duration

def ofMillis (ms : Nat) : Duration := ms * 1000000

def ofMicros (us : Nat) : Duration := us * 1000

def micros (d : Duration) : Nat := d / 1000

-- The first instant, in nanoseconds, that has no name: `2 ^ 63` seconds.
def horizon : Nat := Nat.pow 2 63 * 1000000000

-- Where the end of a span beyond the horizon is put instead: thirty years on, in milliseconds.
def farAway : Nat := 30 * 365 * 86400000

def beyond (now : Nat) (d : Duration) : Bool := decide (horizon ≤ now * 1000000 + d)

-- The millisecond at which a span begun at `now` has passed: parts of a millisecond round up.
def due (now : Nat) (d : Duration) : Nat :=
  if beyond now d then now + farAway else now + (d + 999999) / 1000000

def decimalText (whole rest places : Nat) : String :=
  if rest = 0 then toString whole
  else
    let digits := Nat.toDigits 10 rest
    let padded := List.replicate (places - digits.length) '0' ++ digits
    let kept := (padded.reverse.dropWhile (fun c => c == '0')).reverse
    toString whole ++ "." ++ String.ofList kept

def dump (d : Duration) : String :=
  if 1000000000 ≤ d then decimalText (d / 1000000000) (d % 1000000000) 9 ++ "s"
  else if 1000000 ≤ d then decimalText (d / 1000000) (d % 1000000) 6 ++ "ms"
  else if 1000 ≤ d then decimalText (d / 1000) (d % 1000) 3 ++ "µs"
  else decimalText d 0 0 ++ "ns"

end Duration

end Workcell
