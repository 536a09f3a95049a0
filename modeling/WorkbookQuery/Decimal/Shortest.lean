/-
  Shortest decimals. Of all decimals that round to a given floating-point number, the one with
  the fewest digits, and of several such the nearest to the number.
-/
import WorkbookQuery.Decimal.Binary64

namespace WorkbookQuery.Decimal

/-- Which way a decimal goes whose two candidates are equally near. -/
inductive Tie where
  | even
  | up
  deriving DecidableEq

/-- The decimal `digits · 10^scale`. -/
structure Scaled where
  digits : Nat
  scale : Int
  deriving DecidableEq

/-- The same decimal without the zeros at the end of its digits. -/
def Scaled.strip (x : Scaled) : Nat → Scaled
  | 0 => x
  | fuel + 1 =>
    if x.digits % 10 = 0 then Scaled.strip ⟨x.digits / 10, x.scale + 1⟩ fuel else x

def digitCount (n : Nat) : Nat := (Nat.toDigits 10 n).length

/-- The `p` with `10^(p-1) ≤ num / den < 10^p`, for a positive fraction. -/
def magnitude (num den : Nat) : Int :=
  if den ≤ num then digitCount (num / den)
  else
    let l := digitCount (den / num)
    let zeros := if den ≤ num * 10 ^ (l - 1) then l - 1 else l
    1 - (zeros : Int)

/-- A positive fraction with the bounds between which everything rounds to it. -/
structure Interval where
  low : Nat
  value : Nat
  high : Nat
  den : Nat
  closed : Bool

/-- The interval of `m · 2^e`: half a unit of the last place to both sides, a quarter below
a power of two. Its ends round to it exactly when `m` is even. -/
def Interval.around (m : Nat) (e : Int) : Interval :=
  let (num, den) := Binary64.ratio m e
  let unit := num / m
  { low := 4 * num - (if m = 2 ^ 52 ∧ -1074 < e then unit else 2 * unit)
    value := 4 * num
    high := 4 * num + 2 * unit
    den := 4 * den
    closed := m % 2 = 0 }

/-- The interval in units of `10^k`. -/
def Interval.inUnits (i : Interval) (k : Int) : Interval :=
  let f := 10 ^ (-k).toNat
  { i with low := i.low * f, value := i.value * f, high := i.high * f, den := i.den * 10 ^ k.toNat }

def Interval.holds (i : Interval) (n : Nat) : Bool :=
  if i.closed then i.low ≤ n * i.den && n * i.den ≤ i.high
  else i.low < n * i.den && n * i.den < i.high

/-- The whole number of the interval that is nearest to its value, among the value's two
neighbours. -/
def Interval.nearest? (i : Interval) (tie : Tie) : Option Nat :=
  let n := i.value / i.den
  let r := i.value % i.den
  match i.holds n, i.holds (n + 1) with
  | false, false => none
  | true, false => some n
  | false, true => some (n + 1)
  | true, true =>
    if 2 * r < i.den then some n
    else if i.den < 2 * r then some (n + 1)
    else match tie with
      | .even => some (if n % 2 = 0 then n else n + 1)
      | .up => some (n + 1)

/-- The first grid `10^(p-1)`, `10^(p-2)`, … with a point in the interval, and that point. -/
def Interval.search (i : Interval) (tie : Tie) (p : Int) : Nat → Nat → Scaled
  | _, 0 => ⟨0, 0⟩
  | n, fuel + 1 =>
    match (i.inUnits (p - n)).nearest? tie with
    | some d => ⟨d, p - n⟩
    | none => Interval.search i tie p (n + 1) fuel

/-- The shortest decimal that rounds to `m · 2^e`; seventeen digits always suffice. -/
def shortest (tie : Tie) (m : Nat) (e : Int) : Scaled :=
  if m = 0 then ⟨0, 0⟩
  else
    let i := Interval.around m e
    (i.search tie (magnitude i.value i.den) 1 17).strip 18

end WorkbookQuery.Decimal
