/-
  Floating-point numbers of 64 bits, by what they mean: not a number, an infinity, or
  `± m · 2^e`. Every operation is exact arithmetic followed by one rounding to the nearest
  number, a tie going to the even neighbour.
-/

-- Powers of whole numbers are the core library's here and in every module above, also beside a
-- library that has powers of its own.
attribute [instance (high), default_instance 20000] instPowNat

namespace WorkbookQuery

/-- `m · 2^e` in normal form: 53 significant bits, or fewer at the least exponent. -/
def Binary64.Normal (m : Nat) (e : Int) : Prop :=
  m < 2 ^ 53 ∧ -1074 ≤ e ∧ e ≤ 971 ∧ (e = -1074 ∨ 2 ^ 52 ≤ m)

instance (m : Nat) (e : Int) : Decidable (Binary64.Normal m e) := by
  unfold Binary64.Normal; infer_instance

/-- Zero keeps its sign; all values that are not a number are one value. -/
inductive Binary64 where
  | nan
  | infinite (negative : Bool)
  | finite (negative : Bool) (mantissa : Nat) (exponent : Int)
      (normal : Binary64.Normal mantissa exponent)
  deriving DecidableEq

namespace Binary64

/-- `± m · 2^e` for a pair in normal form; a pair past the greatest exponent is infinite. -/
def pack (negative : Bool) (m : Nat) (e : Int) : Binary64 :=
  if h : Normal m e then .finite negative m e h else .infinite negative

def zero (negative : Bool) : Binary64 := pack negative 0 (-1074)

instance : Inhabited Binary64 := ⟨zero false⟩

/-! ## Rounding -/

/-- The whole number nearest to `num / den`, of two the even one. -/
def nearestEven (num den : Nat) : Nat :=
  let q := num / den
  let r := num % den
  if 2 * r < den then q
  else if den < 2 * r then q + 1
  else if q % 2 = 0 then q
  else q + 1

/-- The fraction `(num / den) / 2^e`. -/
def scaleDown (num den : Nat) (e : Int) : Nat × Nat :=
  (num * 2 ^ (-e).toNat, den * 2 ^ e.toNat)

/-- The `k` with `2^k ≤ num / den < 2^(k+1)`, for a positive fraction. -/
def log2Ratio (num den : Nat) : Int :=
  let k : Int := (num.log2 : Int) - (den.log2 : Int)
  let (n, d) := scaleDown num den k
  if d ≤ n then k else k - 1

/-- The number nearest to `± num / den`. -/
def ofRatio (negative : Bool) (num den : Nat) : Binary64 :=
  if num = 0 then zero negative
  else
    let e := max (log2Ratio num den - 52) (-1074)
    let (n, d) := scaleDown num den e
    let m := nearestEven n d
    if m = 2 ^ 53 then pack negative (2 ^ 52) (e + 1) else pack negative m e

/-- The number nearest to a whole number. -/
def ofInt (n : Int) : Binary64 := ofRatio (n < 0) n.natAbs 1

/-- The number nearest to `± digits · 10^scale`. Beyond `10^400` everything is infinite and
below `10^-400` everything is zero, so that far exponents cost nothing. -/
def ofDecimal (negative : Bool) (digits : Nat) (scale : Int) : Binary64 :=
  let magnitude : Int := ((Nat.toDigits 10 digits).length : Int) + scale
  if digits = 0 ∨ magnitude < -400 then zero negative
  else if 400 < magnitude then .infinite negative
  else ofRatio negative (digits * 10 ^ scale.toNat) (10 ^ (-scale).toNat)

/-! ## Parts and arithmetic -/

def isFinite : Binary64 → Bool
  | .finite .. => true
  | _ => false

def isZero : Binary64 → Bool
  | .finite _ m _ _ => m == 0
  | _ => false

def negate : Binary64 → Binary64
  | .nan => .nan
  | .infinite s => .infinite !s
  | .finite s m e h => .finite (!s) m e h

/-- `m · 2^e` as a fraction. -/
def ratio (m : Nat) (e : Int) : Nat × Nat := (m * 2 ^ e.toNat, 2 ^ (-e).toNat)

def mul : Binary64 → Binary64 → Binary64
  | .nan, _ | _, .nan => .nan
  | .infinite s, .infinite t => .infinite (s != t)
  | .infinite s, .finite t m _ _ => if m = 0 then .nan else .infinite (s != t)
  | .finite s m _ _, .infinite t => if m = 0 then .nan else .infinite (s != t)
  | .finite s m e _, .finite t n f _ =>
    let (a, b) := ratio m e
    let (c, d) := ratio n f
    ofRatio (s != t) (a * c) (b * d)

def div : Binary64 → Binary64 → Binary64
  | .nan, _ | _, .nan => .nan
  | .infinite _, .infinite _ => .nan
  | .infinite s, .finite t .. => .infinite (s != t)
  | .finite s .., .infinite t => zero (s != t)
  | .finite s m e _, .finite t n f _ =>
    let (a, b) := ratio m e
    let (c, d) := ratio n f
    if n = 0 then (if m = 0 then .nan else .infinite (s != t))
    else ofRatio (s != t) (a * d) (b * c)

/-! ## Whole numbers -/

/-- The value, when it is a whole number. -/
def toInt? : Binary64 → Option Int
  | .finite s m e _ =>
    let (a, b) := ratio m e
    if a % b = 0 then some (if s then -((a / b : Nat) : Int) else ((a / b : Nat) : Int))
    else none
  | _ => none

/-- The whole number nearest to the value, of two the one farther from zero. -/
def nearestInt? : Binary64 → Option Int
  | .finite s m e _ =>
    let (a, b) := ratio m e
    let n := (2 * a + b) / (2 * b)
    some (if s then -(n : Int) else (n : Int))
  | _ => none

/-- The value lies between zero and `n`. -/
def isUpTo (n : Nat) : Binary64 → Bool
  | .finite s m e _ =>
    let (a, b) := ratio m e
    (!s || m == 0) && a ≤ n * b
  | _ => false

end Binary64

end WorkbookQuery
