/-
  How a floating-point number is written: with a point and never an exponent in the text of
  values, and in JSON with an exponent for the very large and the very small.
-/
import WorkbookQuery.Decimal.Shortest

namespace WorkbookQuery.Decimal

def zeros (n : Nat) : List Char := List.replicate n '0'

/-- The decimal with all its places and no exponent. -/
def Scaled.positional (x : Scaled) : List Char :=
  let ds := Nat.toDigits 10 x.digits
  if 0 ≤ x.scale then ds ++ zeros x.scale.toNat
  else
    let places := (-x.scale).toNat
    if places < ds.length then
      ds.take (ds.length - places) ++ '.' :: ds.drop (ds.length - places)
    else '0' :: '.' :: zeros (places - ds.length) ++ ds

/-- One digit before the point, and the power of ten behind an `e` with its sign. -/
def Scaled.scientific (x : Scaled) : List Char :=
  let ds := Nat.toDigits 10 x.digits
  let fraction := match ds.drop 1 with
    | [] => []
    | rest => '.' :: rest
  let exponent := x.scale + (ds.length : Int) - 1
  ds.take 1 ++ fraction ++ 'e' :: (if exponent < 0 then '-' else '+') ::
    Nat.toDigits 10 exponent.natAbs

/-- The decimal as a JSON number that reads as a fraction: positional while the point falls
within 16 digits and at most four zeros follow it, scientific beyond. -/
def Scaled.json (x : Scaled) : List Char :=
  let point := (Nat.toDigits 10 x.digits).length + x.scale
  if 0 ≤ x.scale ∧ point ≤ 16 then x.positional ++ ['.', '0']
  else if -5 < point ∧ point ≤ 16 then x.positional
  else x.scientific

end WorkbookQuery.Decimal

namespace WorkbookQuery.Binary64

open Decimal

def sign (negative : Bool) : List Char := if negative then ['-'] else []

/-- The text of a number: its shortest digits, the larger of two equally near. -/
def text : Binary64 → String
  | .nan => "NaN"
  | .infinite s => String.ofList (sign s ++ ['i', 'n', 'f'])
  | .finite s m e _ => String.ofList (sign s ++ (shortest .up m e).positional)

/-- The JSON number; JSON has none for what is not finite. -/
def jsonText? : Binary64 → Option String
  | .finite s m e _ => some (String.ofList (sign s ++ (shortest .even m e).json))
  | _ => none

end WorkbookQuery.Binary64
