import DemeterBench.Python

set_option autoImplicit false

/-!
# `bench/utils.py`

Page rounding, the guest-kernel and balloon enums, and the host queries that go through
`libnuma`. The `numa` package is not part of the repository: what it returns is a parameter
(`node_memory_info` gives `(total, free)`, `numa_node_to_cpus` a cpu mask or a failure).
-/

namespace DemeterBench

def pageSize : Nat := 4096

inductive Kernel where
  | demeter
  | memtis
  | nomad
  | tpp
  deriving DecidableEq, Repr

def Kernel.value : Kernel → String
  | .demeter => "demeter"
  | .memtis => "memtis"
  | .nomad => "nomad"
  | .tpp => "tpp"

inductive Balloon where
  | hetero
  | legacy
  deriving DecidableEq, Repr

def Balloon.toSize (balloon : Balloon) (totalMem dramAvail pmemAvail : Int) : Int × Int :=
  match balloon with
  | .hetero => (totalMem - dramAvail, totalMem - pmemAvail)
  | .legacy => (totalMem - dramAvail + totalMem - pmemAvail, 0)

def Balloon.toCmdline (balloon : Balloon) (totalMem dramAvail pmemAvail : Int) : String :=
  let (d, p) := balloon.toSize totalMem dramAvail pmemAvail
  match balloon with
  | .hetero => s!"size=[{d},{p}],heterogeneous_memory=on"
  | .legacy => s!"size=[{d},{p}]"

def roundDown (n : ℚ) (m : Int) : Int := (pyInt n).fdiv m * m

def roundUp (n : ℚ) (m : Int) : Int := (pyInt n + m - 1).fdiv m * m

/-- `numa.memory.node_memory_info(node)[0]`, the node's total memory. -/
def nodeMemoryTotal (nodeMemoryInfo : Nat → Nat × Nat) (node : Nat) : Nat :=
  (nodeMemoryInfo node).1

/-- Indexes the same component as `nodeMemoryTotal`. -/
def nodeMemoryFree (nodeMemoryInfo : Nat → Nat × Nat) (node : Nat) : Nat :=
  (nodeMemoryInfo node).1

/-- `numa.utils.get_bitset_list`: the set bits of a mask, in increasing order. -/
def getBitsetList (mask : List Bool) : List Nat :=
  (List.range mask.length).filter (fun cpu => mask.getD cpu false)

/-- `numa_node_to_cpus` either fills a mask or fails with a non-zero code. -/
def nodeToCpus (numaNodeToCpus : Nat → Option (List Bool)) (node : Nat) : List Nat :=
  match numaNodeToCpus node with
  | some mask => getBitsetList mask
  | none => []

theorem getBitsetList_nodup (mask : List Bool) : (getBitsetList mask).Nodup :=
  (List.nodup_range _).filter _

theorem nodeToCpus_nodup (numaNodeToCpus : Nat → Option (List Bool)) (node : Nat) :
    (nodeToCpus numaNodeToCpus node).Nodup := by
  unfold nodeToCpus
  split
  · exact getBitsetList_nodup _
  · exact List.nodup_nil

theorem roundDown_dvd (n : ℚ) (m : Int) : m ∣ roundDown n m := Dvd.intro_left _ rfl

theorem roundUp_dvd (n : ℚ) (m : Int) : m ∣ roundUp n m := Dvd.intro_left _ rfl

end DemeterBench
