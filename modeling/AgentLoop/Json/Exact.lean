import AgentLoop.Json.Basic
import AgentLoop.Decimal.Shortest

/-!
# Numbers by their value

- `Number.exact`: the value of a number as a fraction;
- `Number.cmp`, `Json.alike`: order and equality by value, so that `1` and `1.0` are alike;
- `Json.allDistinct`: are no two values of a list alike?
- `Number.isMultipleOf`: is a number a multiple of a positive double?
-/

namespace AgentLoop

namespace Number

/-- The value of a double as a fraction. -/
def exactFloat (x : Float) : Int × Nat :=
  let bits := x.toBits
  let magnitude := bits &&& 0x7FFFFFFFFFFFFFFF
  let b := Binary.ofBits magnitude
  let (num, den) := Decimal.quotient 2 b.exponent
  let n : Int := b.mantissa * num
  (if bits = magnitude then n else -n, den)

/-- The value of a number as a fraction. -/
def exact : Number → Int × Nat
  | int n => (n, 1)
  | float x => exactFloat x

/-- The order of two numbers by value. -/
def cmp (a b : Number) : Ordering :=
  let (m, d) := a.exact
  let (n, e) := b.exact
  compare (m * e) (n * d)

/-- Is it a whole number, as in `1` and `1.0`? -/
def isWhole (a : Number) : Bool := a.exact.1 % a.exact.2 == 0

/-- The part of a double behind its point, with the double's sign. -/
def fraction (x : Float) : Float := x - (if x < 0 then x.ceil else x.floor)

/-- Is a double a multiple of a positive double, with the step taken for its shortest decimal? -/
def isDecimalMultiple (x step : Float) : Bool :=
  let d := Decimal.shortest .even (Binary.ofBits step.toBits)
  let (num, den) := Decimal.quotient 10 d.exponent
  let (n, e) := exactFloat x
  n * den % (e * d.digits * num) == 0

/-- Is a number a multiple of a positive double? A whole step divides whole numbers only; with another step the
quotient may miss a whole number from below by any part, and from above by less than `2^-52`. Where the quotient is too
large for a double, a step up to `2^-52` divides everything, and a larger one goes by its decimals. -/
def isMultipleOf (a : Number) (step : Float) : Bool :=
  let s := exactFloat step
  if s.1 % s.2 == 0 then
    let v := exactFloat a.toFloat
    v.1 % v.2 == 0 && v.1 / v.2 % (s.1 / s.2) == 0
  else
    let q := a.toFloat / step
    if q.isFinite then fraction q < 2.220446049250313e-16
    else step ≤ 2.220446049250313e-16 || isDecimalMultiple a.toFloat step

end Number

namespace Json

mutual
/-- Equality of values, their numbers compared by `same`. -/
def agree (same : Number → Number → Bool) : Json → Json → Bool
  | null, null => true
  | bool a, bool b => a == b
  | num a, num b => same a b
  | str a, str b => a == b
  | arr a, arr b => agreeItems same a b
  | obj a, obj b => agreeEntries same a b
  | _, _ => false
/-- `agree` on lists of values. -/
def agreeItems (same : Number → Number → Bool) : List Json → List Json → Bool
  | [], [] => true
  | a :: as, b :: bs => agree same a b && agreeItems same as bs
  | _, _ => false
/-- `agree` on lists of entries. -/
def agreeEntries (same : Number → Number → Bool) : List (String × Json) → List (String × Json) → Bool
  | [], [] => true
  | (k, a) :: as, (l, b) :: bs => k == l && agree same a b && agreeEntries same as bs
  | _, _ => false
end

/-- Equality of values by the values of their numbers. -/
def alike : Json → Json → Bool := agree fun a b => a.cmp b == .eq

/-- `alike`, but `0` is not `-0.0`. -/
def alikeBySign : Json → Json → Bool := agree fun a b => a.cmp b == .eq && a.toFloat.toBits == b.toFloat.toBits

/-- Are no two values of a list the same? -/
def distinctBy (same : Json → Json → Bool) : List Json → Bool
  | [] => true
  | v :: rest => !rest.any (same v) && distinctBy same rest

/-- Are no two values of a list alike? In a list of more than 15 values the sign of a zero counts. -/
def allDistinct (vs : List Json) : Bool := distinctBy (if vs.length ≤ 15 then alike else alikeBySign) vs

end Json

end AgentLoop
