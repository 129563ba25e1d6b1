import RackTraffic.Decimal.Notation

/-!
# Durations

A duration is a number of nanoseconds. It is shown in the largest unit of which it has at least one,
without zeros at its end: `0ns`, `300ms`, `1.5s`.
-/

namespace RackTraffic

structure Duration where
  nanoseconds : Nat
  deriving DecidableEq, Repr

namespace Duration

def ofSeconds (n : Nat) : Duration := ⟨n * Nat.pow 10 9⟩

def ofMilliseconds (n : Nat) : Duration := ⟨n * Nat.pow 10 6⟩

/-- The units of `10 ^ e` nanoseconds that durations are shown in, the largest first. -/
def units : List (Nat × String) := [(9, "s"), (6, "ms"), (3, "µs")]

def text (d : Duration) : String :=
  match units.find? fun (e, _) => Nat.pow 10 e ≤ d.nanoseconds with
  | none => s!"{d.nanoseconds}ns"
  | some (e, name) =>
    String.ofList (Decimal.positional false (Decimal.Digits.strip ⟨d.nanoseconds, -e⟩)).text ++ name

end Duration

end RackTraffic
