import Mathlib.Algebra.Order.Floor
import Mathlib.Data.Rat.Floor
set_option autoImplicit false

/-!
# Python floats that are not negative

The binary64 doubles `float()` and the arithmetic of `parse_log` make from texts of digits. A
finite double is `significand * 2 ^ exponent` with a significand of 53 bits (`2 ^ 52` to
`2 ^ 53 - 1`) and an exponent from `-1074` to `971`, or a smaller significand at `-1074` for the
subnormals; zero is `finite 0 0`. Every operation takes the exact result and rounds it to the
nearest double, ties to the even significand (IEEE 754 round to nearest, as CPython's `float()`
of a text and its `+` and `*` do), and goes to `+∞` at `2 ^ 1024 - 2 ^ 970`.
-/

namespace DemeterBench

inductive Double where
  | finite (significand : Nat) (exponent : Int)
  | inf
  | nan
  deriving DecidableEq, Repr

namespace Double

/-- `count` plus the number of binary digits of `n` (`fuel ≥ n`). -/
def bits : Nat → Nat → Nat → Nat
  | 0, _, count => count
  | fuel + 1, n, count => if n = 0 then count else bits fuel (n / 2) (count + 1)

def atLeast (n d : Nat) (k : Int) : Bool :=
  if 0 ≤ k then d * 2 ^ k.toNat ≤ n else d ≤ n * 2 ^ (-k).toNat

def roundHalfEven (n d : Nat) : Nat :=
  if d < 2 * (n % d) ∨ 2 * (n % d) = d ∧ n / d % 2 = 1 then n / d + 1 else n / d

/-- The double nearest to `n / d`, for `0 < d`. -/
def ofFrac (n d : Nat) : Double :=
  if n = 0 then finite 0 0 else
  let k₀ : Int := (bits n n 0 : Int) - bits d d 0
  -- `2 ^ k ≤ n / d < 2 ^ (k + 1)`
  let k := if atLeast n d k₀ then k₀ else k₀ - 1
  let e := max (k - 52) (-1074)
  let m := if 0 ≤ e then roundHalfEven n (d * 2 ^ e.toNat) else roundHalfEven (n * 2 ^ (-e).toNat) d
  let (m, e) := if m = 2 ^ 53 then (2 ^ 52, e + 1) else (m, e)
  if 971 < e then inf else if m = 0 then finite 0 0 else finite m e

def ofScaled (n : Nat) (e : Int) : Double :=
  if 0 ≤ e then ofFrac (n * 2 ^ e.toNat) 1 else ofFrac n (2 ^ (-e).toNat)

def zero : Double := finite 0 0

/-- `float(n)` of an int. -/
def ofNat (n : Nat) : Double := ofFrac n 1

def add : Double → Double → Double
  | finite a ea, finite b eb =>
    let e := min ea eb
    ofScaled (a * 2 ^ (ea - e).toNat + b * 2 ^ (eb - e).toNat) e
  | nan, _ | _, nan => nan
  | _, _ => inf

def mul : Double → Double → Double
  | finite a ea, finite b eb => ofScaled (a * b) (ea + eb)
  | nan, _ | _, nan => nan
  | inf, finite 0 _ | finite 0 _, inf => nan
  | _, _ => inf

end Double

end DemeterBench
