/-!
# The shortest decimal of a binary fraction

A finite binary number of double precision is `m · 2^q`. Among the decimals that round to it there are
some with the fewest digits; the nearest of those is its text, and of two equally near ones the one
whose last digit is even. Small and great numbers are written with an exponent.
-/

namespace SoapClasses

/-- Digits of a decimal, without zeros at the end, and the power of ten of the last one. -/
structure ShortDecimal where
  digits : Nat
  exponent : Int
  deriving DecidableEq, Repr

namespace ShortDecimal

/-- A nonnegative fraction with the bounds of the reals that round to it, over one denominator. -/
structure Rounding where
  low : Nat
  value : Nat
  high : Nat
  denominator : Nat
  /-- Whether the bounds themselves round to the value. -/
  closed : Bool

/-- The bounds around `m · 2^q`; below a power of two the gap is half as wide. -/
def rounding (m : Nat) (q : Int) (narrowBelow : Bool) : Rounding :=
  let up := Nat.pow 2 (q - 2).toNat
  { low := (4 * m - (if narrowBelow then 1 else 2)) * up
    value := 4 * m * up
    high := (4 * m + 2) * up
    denominator := Nat.pow 2 (2 - q).toNat
    closed := m % 2 == 0 }

def Rounding.holds (r : Rounding) (digits : Nat) (exponent : Int) : Bool :=
  let point := digits * Nat.pow 10 exponent.toNat * r.denominator
  let scale := Nat.pow 10 (-exponent).toNat
  if r.closed then r.low * scale ≤ point && point ≤ r.high * scale
  else r.low * scale < point && point < r.high * scale

/-- Twice the distance of `digits · 10^exponent` from the value, up to a common factor. -/
def Rounding.distance (r : Rounding) (digits : Nat) (exponent : Int) : Nat :=
  let point := digits * Nat.pow 10 exponent.toNat * r.denominator
  let value := r.value * Nat.pow 10 (-exponent).toNat
  if point ≤ value then value - point else point - value

/-- The largest multiple of the power of ten that does not exceed the value, as a count. -/
def Rounding.floorAt (r : Rounding) (exponent : Int) : Nat :=
  r.value * Nat.pow 10 (-exponent).toNat / (r.denominator * Nat.pow 10 exponent.toNat)

/-- The better of the two neighbours of the value on a decimal grid, if one rounds to the value. -/
def Rounding.best? (r : Rounding) (exponent : Int) : Option ShortDecimal :=
  let below := r.floorAt exponent
  match r.holds below exponent && below != 0, r.holds (below + 1) exponent with
  | true, true =>
    let down := r.distance below exponent
    let up := r.distance (below + 1) exponent
    if down < up || (down == up && below % 2 == 0) then some ⟨below, exponent⟩
    else some ⟨below + 1, exponent⟩
  | true, false => some ⟨below, exponent⟩
  | false, true => some ⟨below + 1, exponent⟩
  | false, false => none

/-- The first hit on the grids from a power of ten downwards. -/
def Rounding.search (r : Rounding) : Nat → Int → ShortDecimal
  | 0, exponent => ⟨r.floorAt exponent, exponent⟩
  | grids + 1, exponent =>
    match r.best? exponent with
    | some found => found
    | none => r.search grids (exponent - 1)

/-- The decimal without zeros at its end, if it has at most that many of them. -/
def withoutZeros : Nat → ShortDecimal → ShortDecimal
  | 0, decimal => decimal
  | count + 1, decimal =>
    if decimal.digits != 0 && decimal.digits % 10 == 0 then
      withoutZeros count ⟨decimal.digits / 10, decimal.exponent + 1⟩
    else decimal

/-- The shortest decimal of `m · 2^q`. The search starts above the greatest power of ten that a double
can reach and needs seventeen digits at most. -/
def ofBinary (m : Nat) (q : Int) (narrowBelow : Bool) : ShortDecimal :=
  withoutZeros 20 ((rounding m q narrowBelow).search 700 310)

/-- The digits with the mark at its place, or with an exponent from `10^16` on and below `10^-5`. -/
def text (decimal : ShortDecimal) : String :=
  let digits := (Nat.toDigits 10 decimal.digits)
  let point : Int := digits.length + decimal.exponent
  if 0 ≤ decimal.exponent && point ≤ 16 then
    String.ofList (digits ++ List.replicate decimal.exponent.toNat '0') ++ ".0"
  else if 0 < point && point ≤ 16 then
    String.ofList (digits.take point.toNat) ++ "." ++ String.ofList (digits.drop point.toNat)
  else if -5 < point && point ≤ 0 then
    "0." ++ String.ofList (List.replicate (-point).toNat '0' ++ digits)
  else if digits.length == 1 then
    String.ofList digits ++ "e" ++ toString (point - 1)
  else
    String.ofList (digits.take 1) ++ "." ++ String.ofList (digits.drop 1) ++ "e"
      ++ toString (point - 1)

end ShortDecimal

/-- The text of a finite number of double precision. -/
def floatText (x : Float) : String :=
  let bits := x.toBits.toNat
  let sign := if bits / Nat.pow 2 63 == 1 then "-" else ""
  let fraction : Nat := bits % Nat.pow 2 52
  let biased : Nat := bits / Nat.pow 2 52 % 2048
  if fraction == 0 && biased == 0 then sign ++ "0.0"
  else if biased == 0 then sign ++ (ShortDecimal.ofBinary fraction (-1074) false).text
  else
    sign ++ (ShortDecimal.ofBinary (fraction + Nat.pow 2 52) (Int.ofNat biased - 1075)
      (fraction == 0 && 1 < biased)).text

end SoapClasses
