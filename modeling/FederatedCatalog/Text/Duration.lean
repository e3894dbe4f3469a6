namespace FederatedCatalog.Text

/-- The first `places` decimals of `part / 10 ^ places`, trailing zeros dropped. -/
def decimals (part : Nat) : Nat → List Char
  | 0 => []
  | places + 1 =>
    if part = 0 then []
    else Nat.digitChar (part / Nat.pow 10 places) :: decimals (part % Nat.pow 10 places) places

/-- The amount `nanos` in a unit of `10 ^ places` nanoseconds. -/
def inUnit (nanos places : Nat) (unit : String) : String :=
  let whole := toString (nanos / Nat.pow 10 places)
  match decimals (nanos % Nat.pow 10 places) places with
  | [] => whole ++ unit
  | fraction => whole ++ "." ++ String.ofList fraction ++ unit

def duration (nanos : Nat) : String :=
  if Nat.pow 10 9 ≤ nanos then inUnit nanos 9 "s"
  else if Nat.pow 10 6 ≤ nanos then inUnit nanos 6 "ms"
  else if Nat.pow 10 3 ≤ nanos then inUnit nanos 3 "µs"
  else inUnit nanos 0 "ns"

end FederatedCatalog.Text
