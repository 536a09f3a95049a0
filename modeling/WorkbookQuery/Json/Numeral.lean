/-
  JSON numerals, and the numbers they are read as. Whole numbers that fit 64 bits are exact.
  All others are read from their leading digits and one multiplication or division by a power
  of ten, which may miss the nearest number by a little.
-/
import WorkbookQuery.Decimal.Numeral

namespace WorkbookQuery

/-- The parts of a numeral: its digits before and after the point, and its exponent. -/
structure JsonNumeral where
  negative : Bool
  whole : List Char
  fraction : Option (List Char)
  /-- Whether the exponent is negative, and its digits. -/
  exponent : Option (Bool × List Char)

namespace JsonNumeral

/-- One or more digits. -/
def digits? (s : List Char) : Option (List Char × List Char) :=
  let (ds, rest) := Decimal.spanDigits s
  if ds = [] then none else some (ds, rest)

/-- Digits before the point; a leading zero stands alone. -/
def whole? (s : List Char) : Option (List Char × List Char) := do
  let (ds, rest) ← digits? s
  if ds.head? = some '0' ∧ 1 < ds.length then none else some (ds, rest)

def fraction? : List Char → Option (Option (List Char) × List Char)
  | '.' :: s => (digits? s).map fun (ds, rest) => (some ds, rest)
  | s => some (none, s)

def exponent? : List Char → Option (Option (Bool × List Char))
  | [] => some none
  | c :: s =>
    if c = 'e' ∨ c = 'E' then
      let (negative, s) := Decimal.splitSign s
      match digits? s with
      | some (ds, []) => some (some (negative, ds))
      | _ => none
    else none

def ofChars? (s : List Char) : Option JsonNumeral := do
  let (negative, s) := match s with
    | '-' :: t => (true, t)
    | s => (false, s)
  let (whole, s) ← whole? s
  let (fraction, s) ← fraction? s
  let exponent ← exponent? s
  return { negative, whole, fraction, exponent }

/-- The numeral has neither a point nor an exponent. -/
def isWhole (n : JsonNumeral) : Bool := n.fraction.isNone && n.exponent.isNone

/-- The value of a whole numeral; minus zero is no whole number. -/
def toInt? (n : JsonNumeral) : Option Int :=
  let magnitude := Decimal.digitsValue n.whole
  if !n.isWhole || (n.negative && magnitude == 0) then none
  else some (if n.negative then -(magnitude : Int) else (magnitude : Int))

/-! ## Floating-point numbers -/

/-- Take digits into a significand while it fits 64 bits; how many were taken. -/
def accumulate (significand : Nat) : List Char → Nat × Nat
  | [] => (significand, 0)
  | d :: ds =>
    let next := 10 * significand + (d.toNat - '0'.toNat)
    if next < 2 ^ 64 then
      let (n, taken) := accumulate next ds
      (n, taken + 1)
    else (significand, 0)

/-- The leading digits as a significand, and the power of ten that they are short of. -/
def significand (n : JsonNumeral) : Nat × Int :=
  let (m, taken) := accumulate 0 n.whole
  let (m, places) := accumulate m (n.fraction.getD [])
  (m, ((n.whole.length - taken : Nat) : Int) - places)

/-- `x · 10^e`, in steps of at most `10^308`. What grows too large is refused. -/
def scale (x : Binary64) (e : Int) : Nat → Option Binary64
  | 0 => some x
  | fuel + 1 =>
    if e.natAbs ≤ 308 then
      let power := Binary64.ofDecimal false 1 e.natAbs
      let y := if 0 ≤ e then x.mul power else x.div power
      if y.isFinite then some y else none
    else if x.isZero then some x
    else if 0 ≤ e then none
    else scale (x.div (Binary64.ofDecimal false 1 308)) (e + 308) fuel

/-- The floating-point number of a numeral. An exponent beyond 32 bits makes zero of what is
zero or gets smaller, and is refused for all else. -/
def toBinary64? (n : JsonNumeral) : Option Binary64 :=
  let (m, e) := n.significand
  if n.isWhole ∧ e = 0 then some (Binary64.ofRatio n.negative m 1)
  else
    let (down, ds) := n.exponent.getD (false, [])
    let exponent := Decimal.digitsValue ds
    let x? :=
      if exponent < 2 ^ 31 then
        scale (Binary64.ofRatio false m 1) (if down then e - exponent else e + exponent) 8
      else if m = 0 ∨ down then some (Binary64.zero false)
      else none
    x?.map fun x => if n.negative then x.negate else x

end JsonNumeral

end WorkbookQuery
