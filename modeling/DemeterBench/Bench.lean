import DemeterBench.Utils

set_option autoImplicit false

namespace DemeterBench

/-- `class Bench(BaseModel)` with its defaults; `dram_ratio` is taken exactly. -/
structure Bench where
  num : Nat := 1
  cpu : Nat := 4
  mem : Nat := 16 <<< 30
  dramRatio : ℚ := 2 / 5
  dramNode : Nat := 1
  pmemNode : Nat := 3
  kernel : Kernel := .demeter
  hetero : Bool := true
  timeout : Int := 60
  balloon : Option Balloon := some .hetero
  gdb : Bool := false
  env : List (String × String) := []
  pml : Bool := false

namespace Bench

def dramSize (b : Bench) : Int := roundDown (b.mem * b.dramRatio) pageSize

def pmemSize (b : Bench) : Int := roundUp (b.mem * (1 - b.dramRatio)) pageSize

section Split

variable (b : Bench) (lower : 0 ≤ b.dramRatio) (upper : b.dramRatio ≤ 1)

include lower in
theorem dramSize_eq : b.dramSize = ⌊(b.mem * b.dramRatio : ℚ)⌋ / 4096 * 4096 := by
  rw [dramSize, roundDown, pyInt_of_nonneg (by positivity), Int.fdiv_eq_ediv _ (by decide)]
  rfl

include upper in
theorem pmemSize_eq :
    b.pmemSize = (b.mem - ⌈(b.mem * b.dramRatio : ℚ)⌉ + 4095) / 4096 * 4096 := by
  have split : (b.mem * (1 - b.dramRatio) : ℚ) = -(b.mem * b.dramRatio) + (b.mem : Int) := by
    push_cast; ring
  have nonneg : (0 : ℚ) ≤ b.mem * (1 - b.dramRatio) :=
    mul_nonneg (Nat.cast_nonneg _) (sub_nonneg.mpr upper)
  rw [pmemSize, roundUp, pyInt_of_nonneg nonneg, split, Int.floor_add_int, Int.floor_neg,
    Int.fdiv_eq_ediv _ (by decide)]
  simp only [pageSize, Nat.cast_ofNat]
  omega

include lower upper in
theorem floor_ceil_bounds :
    0 ≤ ⌊(b.mem * b.dramRatio : ℚ)⌋ ∧ ⌈(b.mem * b.dramRatio : ℚ)⌉ ≤ b.mem ∧
      ⌊(b.mem * b.dramRatio : ℚ)⌋ ≤ ⌈(b.mem * b.dramRatio : ℚ)⌉ ∧
      ⌈(b.mem * b.dramRatio : ℚ)⌉ ≤ ⌊(b.mem * b.dramRatio : ℚ)⌋ + 1 := by
  have atMost : (b.mem * b.dramRatio : ℚ) ≤ (b.mem : Int) := by
    push_cast
    exact mul_le_of_le_one_right (Nat.cast_nonneg _) upper
  exact ⟨Int.floor_nonneg.mpr (by positivity), Int.ceil_le.mpr atMost, Int.floor_le_ceil _,
    Int.ceil_le_floor_add_one _⟩

end Split

structure PageSplit (b : Bench) : Prop where
  dram_page : (pageSize : Int) ∣ b.dramSize
  pmem_page : (pageSize : Int) ∣ b.pmemSize
  dram_nonneg : 0 ≤ b.dramSize
  dram_le : b.dramSize ≤ b.mem
  pmem_nonneg : 0 ≤ b.pmemSize
  pmem_le : b.pmemSize ≤ b.mem
  short_by_page : b.mem - pageSize ≤ b.dramSize + b.pmemSize
  sum_le : b.dramSize + b.pmemSize ≤ b.mem
  exact_of_integral : ∀ k : Int, (b.mem * b.dramRatio : ℚ) = k → b.dramSize + b.pmemSize = b.mem

theorem dramSize_pmemSize_split (b : Bench) (page : pageSize ∣ b.mem)
    (lower : 0 ≤ b.dramRatio) (upper : b.dramRatio ≤ 1) : b.PageSplit := by
  obtain ⟨floorNonneg, ceilLe, floorLe, ceilLe'⟩ := floor_ceil_bounds b lower upper
  have dram := dramSize_eq b lower
  have pmem := pmemSize_eq b upper
  obtain ⟨pages, hpages⟩ := page
  refine ⟨roundDown_dvd _ _, roundUp_dvd _ _, ?_, ?_, ?_, ?_, ?_, ?_, fun k integral => ?_⟩
  all_goals simp only [pageSize, Nat.cast_ofNat] at hpages ⊢
  any_goals omega
  simp only [integral, Int.floor_intCast, Int.ceil_intCast] at dram pmem
  omega

theorem dramSize_pmemSize_split_default :
    let b : Bench := {}
    pageSize ∣ b.mem ∧ 0 ≤ b.dramRatio ∧ b.dramRatio ≤ 1 ∧ b.PageSplit :=
  ⟨by decide, by norm_num, by norm_num, dramSize_pmemSize_split {} (by decide) (by norm_num) (by norm_num)⟩

theorem dramSize_pmemSize_counterexample :
    let b : Bench := { mem := 16 <<< 30, dramRatio := 1 - 1 / 2 ^ 35 }
    pageSize ∣ b.mem ∧ 0 < b.mem ∧ 0 ≤ b.dramRatio ∧ b.dramRatio ≤ 1 ∧
      b.dramSize + b.pmemSize ≠ b.mem := by
  norm_num [pageSize, dramSize, pmemSize, roundDown, roundUp, pyInt, Int.floor_eq_iff,
    Nat.shiftLeft_eq]
  decide

end Bench

end DemeterBench
