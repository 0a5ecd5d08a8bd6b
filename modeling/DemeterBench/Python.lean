import Mathlib.Algebra.Order.Floor
import Mathlib.Data.Rat.Floor

set_option autoImplicit false

/-!
# Python values used by the orchestrator

Only what the modelled code computes with: exceptions by kind, and numbers that remember
whether they are an `int` or a `float`. A float is taken as the exact rational it denotes;
every float in the counterexamples below is a dyadic rational whose products are exact.
-/

namespace DemeterBench

inductive PyError where
  | typeError
  | zeroDivisionError
  | runtimeError (message : String)
  -- fabric's `GroupException`: a command run on a group of guests failed
  | groupException
  deriving DecidableEq, Repr

/-- Python's `int(x)` on a float: truncation toward zero. -/
def pyInt (x : ℚ) : Int := if 0 ≤ x then ⌊x⌋ else ⌈x⌉

theorem pyInt_of_nonneg {x : ℚ} (nonneg : 0 ≤ x) : pyInt x = ⌊x⌋ := if_pos nonneg

inductive PyNum where
  | int (value : Int)
  | float (value : ℚ)
  deriving DecidableEq, Repr

namespace PyNum

def value : PyNum → ℚ
  | int v => v
  | float v => v

/-- `a * b`: an `int` only when both operands are. -/
def mul : PyNum → PyNum → PyNum
  | int a, int b => int (a * b)
  | a, b => float (a.value * b.value)

/-- `a // b`: floor division, `int` only when both operands are. -/
def floorDiv : PyNum → PyNum → Except PyError PyNum
  | int a, int b => if b = 0 then .error .zeroDivisionError else .ok (int (a.fdiv b))
  | a, b => if b.value = 0 then .error .zeroDivisionError else .ok (float ⌊a.value / b.value⌋)

/-- The builtin `min(a, b)`: the first argument unless the second is strictly smaller. -/
def pyMin : PyNum → PyNum → PyNum
  | int a, int b => if b < a then int b else int a
  | a, b => if b.value < a.value then b else a

def isZero : PyNum → Bool
  | int v => v = 0
  | float v => v = 0

@[simp] theorem value_int (v : Int) : (int v).value = v := rfl
@[simp] theorem value_float (v : ℚ) : (float v).value = v := rfl

theorem isZero_iff (a : PyNum) : a.isZero ↔ a.value = 0 := by
  cases a <;> simp [isZero]

theorem pyMin_cases (a b : PyNum) : a.pyMin b = (if b.value < a.value then b else a) := by
  cases a <;> cases b <;> simp only [pyMin, value_int, Int.cast_lt]

theorem floorDiv_int {a b : Int} (nonzero : b ≠ 0) : floorDiv (int a) (int b) = .ok (int (a.fdiv b)) := by
  simp [floorDiv, nonzero]

theorem floorDiv_float {a : PyNum} {b : ℚ} (nonzero : b ≠ 0) :
    floorDiv a (float b) = .ok (float ⌊a.value / b⌋) := by
  cases a <;> simp [floorDiv, nonzero]

end PyNum

/-- One character of `repr` of a `str`; characters past ASCII are kept. -/
def reprChar (quote c : Char) : List Char :=
  if c = quote ∨ c = '\\' then ['\\', c]
  else if c = '\t' then ['\\', 't']
  else if c = '\n' then ['\\', 'n']
  else if c = '\r' then ['\\', 'r']
  else if c.toNat < 32 ∨ c.toNat = 127 then
    ['\\', 'x', Nat.digitChar (c.toNat / 16 % 16), Nat.digitChar (c.toNat % 16)]
  else [c]

/-- Python's `repr` of a `str` (`unicode_repr`). -/
def pyRepr (s : String) : String :=
  let quote := if '\'' ∈ s.data ∧ '"' ∉ s.data then '"' else '\''
  String.mk (quote :: s.data.flatMap (reprChar quote) ++ [quote])

/-- Python's `a | b` on two dicts. -/
def dictMerge (a b : List (String × String)) : List (String × String) :=
  a.map (fun (k, v) => (k, (b.lookup k).getD v)) ++ b.filter fun (k, _) => (a.lookup k).isNone

theorem mem_of_lookup_eq_some {k v : String} : ∀ {l : List (String × String)}, l.lookup k = some v →
    (k, v) ∈ l
  | [], h => by cases h
  | (k', v') :: l, h => by
    by_cases same : k = k'
    · subst same
      simp only [List.lookup_cons, beq_self_eq_true, Option.some.injEq] at h
      simp [h]
    · simp only [List.lookup_cons, beq_eq_false_iff_ne.mpr same] at h
      exact List.mem_cons_of_mem _ (mem_of_lookup_eq_some h)

theorem mem_dictMerge {a b : List (String × String)} {e : String × String} (mem : e ∈ dictMerge a b) :
    (∃ v, (e.1, v) ∈ a ∧ (e.2 = v ∨ e ∈ b)) ∨ e ∈ b := by
  simp only [dictMerge, List.mem_append, List.mem_map, List.mem_filter] at mem
  rcases mem with ⟨⟨k, v⟩, entry, rfl⟩ | ⟨fromB, -⟩
  · refine .inl ⟨v, entry, ?_⟩
    cases found : b.lookup k with
    | none => exact .inl rfl
    | some w => exact .inr (by simpa [found] using mem_of_lookup_eq_some found)
  · exact .inr fromB

end DemeterBench
