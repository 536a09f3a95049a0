/-
  Reading whole numbers and floating-point numbers from text.
-/
import WorkbookQuery.Decimal.Binary64

namespace WorkbookQuery.Decimal

/-- The leading ASCII digits and what follows them. -/
def spanDigits (s : List Char) : List Char × List Char :=
  (s.takeWhile Char.isDigit, s.dropWhile Char.isDigit)

/-- The value of a row of digits, the first the most significant. -/
def digitsValue (ds : List Char) : Nat :=
  ds.foldl (fun n d => 10 * n + (d.toNat - '0'.toNat)) 0

/-- An optional sign: whether it is a minus, and the rest. -/
def splitSign : List Char → Bool × List Char
  | '-' :: s => (true, s)
  | '+' :: s => (false, s)
  | s => (false, s)

/-- A whole number: an optional sign and one or more digits. -/
def readInt? (s : List Char) : Option Int :=
  let (negative, ds) := splitSign s
  if ds ≠ [] ∧ ds.all Char.isDigit then
    some (if negative then -(digitsValue ds : Int) else (digitsValue ds : Int))
  else none

/-- The exponent at the end of a numeral, zero when there is none. -/
def readExponent? : List Char → Option Int
  | [] => some 0
  | c :: s => if c = 'e' ∨ c = 'E' then readInt? s else none

/-- Digits with an optional point among them and an optional exponent. -/
def readMagnitude? (negative : Bool) (s : List Char) : Option Binary64 :=
  let (whole, rest) := spanDigits s
  let (fraction, rest) := match rest with
    | '.' :: t => spanDigits t
    | _ => ([], rest)
  if whole = [] ∧ fraction = [] then none
  else (readExponent? rest).map fun e =>
    Binary64.ofDecimal negative (digitsValue (whole ++ fraction)) (e - fraction.length)

/-- A floating-point number, rounded to nearest: a decimal numeral, or the name of an infinity
or of what is not a number in any case. -/
def readBinary64? (s : List Char) : Option Binary64 :=
  let (negative, s) := splitSign s
  let name := String.ofList (s.map Char.toLower)
  if name = "inf" ∨ name = "infinity" then some (.infinite negative)
  else if name = "nan" then some .nan
  else readMagnitude? negative s

end WorkbookQuery.Decimal
