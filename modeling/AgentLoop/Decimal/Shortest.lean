/-!
# Shortest decimals

- `Binary`: a positive double as `mantissa · 2 ^ exponent`, with the doubles next to it;
- `Tie`: which of two decimals is taken that are as near;
- `shortest`: the decimal `digits · 10 ^ exponent` with the fewest digits that reads back as the double, the nearest
  one if there are several;
- `Decimal.positional` and `Decimal.scientific`: the two ways to write it.
-/

namespace AgentLoop

/-- A finite positive double: `mantissa · 2 ^ exponent`. -/
structure Binary where
  mantissa : Nat
  exponent : Int
  /-- The double below is half as far away as the one above. -/
  narrowBelow : Bool

namespace Binary

/-- The finite positive double with these bits, the sign bit left out. -/
def ofBits (bits : UInt64) : Binary :=
  let fraction : Nat := bits.toNat % Nat.pow 2 52
  let biased : Nat := bits.toNat / Nat.pow 2 52 % Nat.pow 2 11
  if biased = 0 then ⟨fraction, -1074, false⟩
  else ⟨Nat.pow 2 52 + fraction, (biased : Int) - 1075, fraction = 0 && biased != 1⟩

end Binary

/-- Which of two neighbouring decimals is taken that are as near. -/
inductive Tie where
  | even
  | up
  deriving DecidableEq, Repr

/-- A positive decimal: `digits · 10 ^ exponent`. -/
structure Decimal where
  digits : Nat
  exponent : Int

namespace Decimal

/-- `2 ^ e` or `10 ^ e` as a quotient of naturals. -/
def quotient (base : Nat) (e : Int) : Nat × Nat :=
  if 0 ≤ e then (base.pow e.toNat, 1) else (1, base.pow (-e).toNat)

/-- A decimal without trailing zeros in its digits. -/
def stripped (d : Decimal) : Decimal :=
  go 32 d
where
  go : Nat → Decimal → Decimal
    | 0, d => d
    | fuel + 1, d => if d.digits ≠ 0 ∧ d.digits % 10 = 0 then go fuel ⟨d.digits / 10, d.exponent + 1⟩ else d

/-- Where the digits of `b` begin: the least `e` with `b < 10 ^ e`. -/
def magnitude (b : Binary) : Int :=
  let (num, den) := quotient 2 b.exponent
  let whole := b.mantissa * num * Nat.pow 10 400 / den
  (Nat.toDigits 10 whole).length - 400

/-- The point of the grid of steps `10 ^ step` that reads back as `b`: of the two next to `b` the nearer. -/
def onGrid (tie : Tie) (b : Binary) (step : Int) : Option Decimal :=
  let (num2, den2) := quotient 2 (b.exponent - 2)
  let (num10, den10) := quotient 10 step
  let unit := num10 * den2
  let scale := num2 * den10
  let value := 4 * b.mantissa * scale
  let low := (4 * b.mantissa - if b.narrowBelow then 1 else 2) * scale
  let high := (4 * b.mantissa + 2) * scale
  let inside (x : Nat) : Bool := if b.mantissa % 2 = 0 then low ≤ x && x ≤ high else low < x && x < high
  let below := value / unit
  let above := below + 1
  match inside (below * unit) && below != 0, inside (above * unit) with
  | true, true =>
    let down := value - below * unit
    let up := above * unit - value
    if down < up ∨ (down = up ∧ tie = .even ∧ below % 2 = 0) then some ⟨below, step⟩ else some ⟨above, step⟩
  | true, false => some ⟨below, step⟩
  | false, true => some ⟨above, step⟩
  | false, false => none

/-- The decimal with the fewest digits that reads back as `b`; 17 digits always do. -/
def shortest (tie : Tie) (b : Binary) : Decimal :=
  let top := magnitude b
  match (List.range 17).findSome? fun n => onGrid tie b (top - (n + 1 : Nat)) with
  | some d => d.stripped
  | none => ⟨b.mantissa, 0⟩

/-- The digits as text. -/
def digitText (d : Decimal) : String := String.ofList (Nat.toDigits 10 d.digits)

/-- Where the decimal point stands, counted from the first digit. -/
def point (d : Decimal) : Int := d.digitText.length + d.exponent

/-- Written with all its places: `1500`, `0.015`; a whole number gets no point. -/
def positional (d : Decimal) : String :=
  let text := d.digitText
  let point := d.point
  if point ≤ 0 then "0." ++ String.ofList (List.replicate (-point).toNat '0') ++ text
  else if text.length ≤ point.toNat then text ++ String.ofList (List.replicate (point.toNat - text.length) '0')
  else String.ofList (text.toList.take point.toNat) ++ "." ++ String.ofList (text.toList.drop point.toNat)

/-- Written with one digit before the point and a signed exponent: `1.5e+300`, `5e-324`. -/
def scientific (d : Decimal) : String :=
  let exponent := d.point - 1
  let mantissa := match d.digitText.toList with
    | [] => ""
    | [c] => c.toString
    | c :: rest => c.toString ++ "." ++ String.ofList rest
  mantissa ++ "e" ++ (if exponent < 0 then "-" else "+") ++ toString exponent.natAbs

end Decimal

/-- How the text of doubles is laid out. -/
structure DoubleFormat where
  /-- Least position of the point that is written with all places. -/
  leastPoint : Int
  /-- Greatest position of the point that is written with all places. -/
  greatestPoint : Int
  /-- Added to a whole number that is written with all places. -/
  wholeMark : String
  tie : Tie

/-- The text of a finite double in a format; a zero keeps its sign. -/
def DoubleFormat.write (format : DoubleFormat) (x : Float) : String :=
  let bits := x.toBits
  let magnitude := bits &&& 0x7FFFFFFFFFFFFFFF
  let sign := if bits = magnitude then "" else "-"
  if magnitude = 0 then sign ++ "0" ++ format.wholeMark
  else
    let d := Decimal.shortest format.tie (Binary.ofBits magnitude)
    let text :=
      if format.leastPoint ≤ d.point && d.point ≤ format.greatestPoint then
        d.positional ++ (if 0 ≤ d.exponent then format.wholeMark else "")
      else d.scientific
    sign ++ text

end AgentLoop
