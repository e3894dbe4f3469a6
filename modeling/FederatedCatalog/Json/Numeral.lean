namespace FederatedCatalog.Json

/-- A number's digits, by value. -/
structure Numeral where
  negative : Bool
  whole : List Nat
  fraction? : Option (List Nat)
  /-- Whether the exponent is negative, and its digits. -/
  exponent? : Option (Bool × List Nat)
  deriving DecidableEq

namespace Numeral

def ofNat (n : Nat) : Numeral :=
  ⟨false, (Nat.toDigits 10 n).map fun c => c.toNat - '0'.toNat, none, none⟩

def digitsValue (digits : List Nat) : Nat :=
  digits.foldl (fun value digit => 10 * value + digit) 0

/-- The number, if it is written without sign, fraction and exponent. -/
def nat? (numeral : Numeral) : Option Nat :=
  match numeral with
  | ⟨false, whole, none, none⟩ => some (digitsValue whole)
  | _ => none

def significandLimit : Nat :=
  UInt64.size - 1

/-- The significand of the leading digits of the whole part, and the number of digits after them. -/
def readWhole : Nat → List Nat → Nat × Nat
  | value, [] => (value, 0)
  | value, digit :: rest =>
    if 10 * value + digit ≤ significandLimit then readWhole (10 * value + digit) rest
    else (value, rest.length + 1)

/-- The significand with as many of the fraction's digits as fit, and their number. -/
def readFraction : Nat → List Nat → Nat × Nat
  | value, [] => (value, 0)
  | value, digit :: rest =>
    if 10 * value + digit ≤ significandLimit then
      let (value, count) := readFraction (10 * value + digit) rest
      (value, count + 1)
    else (value, 0)

/-- The nearest number of at most 53 significant bits, the even one of two. -/
def roundBits (n : Nat) : Nat :=
  let unit := Nat.pow 2 (Nat.log2 n + 1 - 53)
  let low := n / unit
  let remainder := n % unit
  if 2 * remainder < unit ∨ (2 * remainder = unit ∧ low % 2 = 0) then low * unit else (low + 1) * unit

/-- The least magnitude that is rounded to infinity. -/
def overflow : Nat :=
  Nat.pow 2 1024 - Nat.pow 2 970

/-- Whether the number is within range. Digits that do not fit into the significand only scale it,
and the scaled value is a product of two rounded numbers. -/
def inRange (numeral : Numeral) : Bool :=
  let (whole, scaled) := readWhole 0 numeral.whole
  let (significand, places) := readFraction whole (numeral.fraction?.getD [])
  let exponent : Int :=
    match numeral.exponent? with
    | none => scaled - places
    | some (true, digits) => scaled - places - digitsValue digits
    | some (false, digits) => scaled - places + digitsValue digits
  significand = 0 || exponent < 0
    || (exponent ≤ 308 && roundBits significand * roundBits (Nat.pow 10 exponent.toNat) < overflow)

end Numeral

end FederatedCatalog.Json
