import Mathlib.Data.Int.CardIntervalMod
import DemeterBench.Bench

set_option autoImplicit false

namespace DemeterBench

/-- `itertools.cycle` over a list: the saved elements and the rest of the current pass. -/
structure Cycle (α : Type) where
  saved : List α
  pending : List α

namespace Cycle

variable {α : Type}

def next (it : Cycle α) : Option (α × Cycle α) :=
  match it.pending, it.saved with
  | x :: rest, saved => some (x, ⟨saved, rest⟩)
  | [], [] => none
  | [], x :: rest => some (x, ⟨x :: rest, rest⟩)

def skip : Nat → Cycle α → Option (Cycle α)
  | 0, it => some it
  | n + 1, it =>
    match it.next with
    | none => none
    | some (_, it) => skip n it

def take : Nat → Cycle α → List α
  | 0, _ => []
  | n + 1, it =>
    match it.next with
    | none => []
    | some (x, it) => x :: take n it

def after (xs : List α) (j : Nat) : Cycle α := ⟨xs, xs.drop j⟩

variable [Inhabited α] {xs : List α}

theorem next_after (nonempty : xs ≠ []) {j : Nat} (within : j ≤ xs.length) :
    (after xs j).next = some (xs.getD (j % xs.length) default, after xs (j % xs.length + 1)) := by
  rcases Nat.lt_or_eq_of_le within with inside | rfl
  · rw [after, List.drop_eq_getElem_cons inside, Nat.mod_eq_of_lt inside,
      List.getD_eq_getElem _ _ inside]
    rfl
  · obtain ⟨x, rest, rfl⟩ := List.exists_cons_of_ne_nil nonempty
    simp [after, next]

theorem skip_after (nonempty : xs ≠ []) (k : Nat) {j : Nat} (within : j ≤ xs.length) :
    ∃ j', j' ≤ xs.length ∧ j' % xs.length = (j + k) % xs.length ∧
      (after xs j).skip k = some (after xs j') := by
  induction k generalizing j with
  | zero => exact ⟨j, within, rfl, rfl⟩
  | succ k ih =>
    have positive := List.length_pos.mpr nonempty
    obtain ⟨j', bound, congruent, h⟩ := ih (j := j % xs.length + 1) (Nat.mod_lt _ positive)
    refine ⟨j', bound, ?_, by rw [skip, next_after nonempty within]; exact h⟩
    rw [congruent, Nat.add_assoc, Nat.mod_add_mod, Nat.add_comm 1 k]

theorem take_after (nonempty : xs ≠ []) (m : Nat) {j : Nat} (within : j ≤ xs.length) :
    (after xs j).take m = (List.range m).map (fun i => xs.getD ((j + i) % xs.length) default) := by
  induction m generalizing j with
  | zero => rfl
  | succ m ih =>
    have positive := List.length_pos.mpr nonempty
    simp only [take, next_after nonempty within, List.range_succ_eq_map, List.map_cons,
      List.map_map, Nat.add_zero, ih (Nat.mod_lt _ positive)]
    refine congrArg _ (List.map_congr_left fun i _ => ?_)
    simp only [Function.comp_apply, Nat.succ_eq_add_one]
    rw [Nat.add_assoc, Nat.mod_add_mod, Nat.add_comm 1 i]

end Cycle

def cycle {α : Type} (xs : List α) : Cycle α := ⟨xs, xs⟩

/-- `itertools.islice(it, start, stop)`. -/
def islice {α : Type} (it : Cycle α) (start stop : Nat) : List α :=
  match it.skip start with
  | none => []
  | some it => it.take (stop - start)

theorem islice_cycle {α : Type} [Inhabited α] {xs : List α} (nonempty : xs ≠ []) (start stop : Nat) :
    islice (cycle xs) start stop =
      (List.range (stop - start)).map (fun i => xs.getD ((start + i) % xs.length) default) := by
  obtain ⟨j', bound, congruent, h⟩ := Cycle.skip_after nonempty start (Nat.zero_le _)
  have fresh : cycle xs = Cycle.after xs 0 := rfl
  simp only [islice, fresh, h, Cycle.take_after nonempty _ bound]
  refine List.map_congr_left fun i _ => ?_
  rw [← Nat.mod_add_mod, congruent, Nat.zero_add, Nat.mod_add_mod]

/-- The host CPUs of VM `id`: its block of `vcpus` in the cycled CPU list of the node. -/
def hostCpus (cpus : List Nat) (vcpus id : Nat) : List Nat :=
  islice (cycle cpus) (vcpus * id) (vcpus * (id + 1))

def roundRobinBlock (cpus : List Nat) (vcpus id : Nat) : List Nat :=
  (List.range vcpus).map fun j => cpus.getD ((id * vcpus + j) % cpus.length) 0

theorem hostCpus_eq {cpus : List Nat} (nonempty : cpus ≠ []) (vcpus id : Nat) :
    hostCpus cpus vcpus id = roundRobinBlock cpus vcpus id := by
  rw [hostCpus, islice_cycle nonempty, Nat.mul_succ, Nat.add_sub_cancel_left, Nat.mul_comm]
  rfl

theorem pool_roundRobinBlock (cpus : List Nat) (vcpus num : Nat) :
    (List.range num).flatMap (roundRobinBlock cpus vcpus) =
      (List.range (num * vcpus)).map fun k => cpus.getD (k % cpus.length) 0 := by
  induction num with
  | zero => simp
  | succ num ih =>
    rw [List.range_succ, List.flatMap_append, ih, Nat.succ_mul, List.range_add, List.map_append,
      List.map_map]
    simp [roundRobinBlock, Function.comp_def]

theorem count_cycled {cpus : List Nat} (nodup : cpus.Nodup) {p : Nat} (position : p < cpus.length)
    (slots : Nat) :
    ((List.range slots).map fun k => cpus.getD (k % cpus.length) 0).count (cpus.getD p 0) =
      slots / cpus.length + if p < slots % cpus.length then 1 else 0 := by
  have positive : 0 < cpus.length := by omega
  have same (k : Nat) : (cpus.getD (k % cpus.length) 0 == cpus.getD p 0) =
      decide (Nat.ModEq cpus.length k p) := by
    rw [List.getD_eq_getElem _ _ (Nat.mod_lt _ positive), List.getD_eq_getElem _ _ position]
    rw [Bool.eq_iff_iff, beq_iff_eq, decide_eq_true_iff, nodup.getElem_inj_iff, Nat.ModEq,
      Nat.mod_eq_of_lt position]
  have counted := Nat.count_modEq_card (b := slots) positive p
  rw [Nat.mod_eq_of_lt position] at counted
  rw [← counted, Nat.count, List.count, List.countP_map]
  exact List.countP_congr fun k _ => by simp only [Function.comp_apply, same]

theorem ceil_div_of_mod_pos {n d : Nat} (positive : 0 < d) (inexact : 0 < n % d) :
    (n + d - 1) / d = n / d + 1 := by
  have split := Nat.div_add_mod n d
  have below := Nat.mod_lt n positive
  rw [Nat.mul_comm] at split
  apply Nat.div_eq_of_lt_le <;> rw [Nat.succ_mul] <;> try rw [Nat.succ_mul]
  all_goals omega

theorem roundRobinBlock_disjoint {cpus : List Nat} (nodup : cpus.Nodup) {vcpus num : Nat}
    (fits : num * vcpus ≤ cpus.length) {i j : Nat} (hi : i < num) (hj : j < num) (distinct : i ≠ j) :
    (roundRobinBlock cpus vcpus i).Disjoint (roundRobinBlock cpus vcpus j) := by
  -- the block of VM `m` ends no later than that of any VM after it begins
  have slice {m n : Nat} (lt : m < n) : m * vcpus + vcpus ≤ n * vcpus := by
    simpa [Nat.succ_mul] using Nat.mul_le_mul_right vcpus (Nat.succ_le_of_lt lt)
  have index {m a : Nat} (hm : m < num) (ha : a < vcpus) : m * vcpus + a < cpus.length := by
    have := slice hm
    omega
  intro x inI inJ
  simp only [roundRobinBlock, List.mem_map, List.mem_range] at inI inJ
  obtain ⟨a, ha, rfl⟩ := inI
  obtain ⟨c, hc, same⟩ := inJ
  rw [Nat.mod_eq_of_lt (index hi ha), Nat.mod_eq_of_lt (index hj hc),
    List.getD_eq_getElem _ _ (index hi ha), List.getD_eq_getElem _ _ (index hj hc),
    nodup.getElem_inj_iff] at same
  rcases Nat.lt_or_gt_of_ne distinct with lt | lt <;> have := slice lt <;> omega

/-- The `--cpus` value: `boot=<vcpus>,affinity=[v@[<host cpus>],...]`. -/
structure CpusArg where
  boot : Nat
  hostCpus : List Nat

def CpusArg.affinity (arg : CpusArg) : List (Nat × List Nat) :=
  (List.range arg.boot).map fun v => (v, arg.hostCpus)

def CpusArg.render (arg : CpusArg) : String :=
  let host := ",".intercalate (arg.hostCpus.map toString)
  let affinity := ",".intercalate (arg.affinity.map fun (v, _) => s!"{v}@[{host}]")
  s!"boot={arg.boot},affinity=[{affinity}]"

/-- One `--memory-zone` value; the flat `ram` zone has no host node. -/
structure MemoryZone where
  id : String
  size : Int
  hostNumaNode : Option Nat
  deriving DecidableEq

def MemoryZone.render (zone : MemoryZone) : String :=
  match zone.hostNumaNode with
  | some node => s!"id={zone.id},size={zone.size},shared=on,host_numa_node={node}"
  | none => s!"id={zone.id},size={zone.size},shared=on"

/-- The `--balloon` value: `size=[d,p]`, with `heterogeneous_memory=on` for ours. -/
structure BalloonArg where
  size : Int × Int
  heterogeneousMemory : Bool
  deriving DecidableEq

def BalloonArg.render (arg : BalloonArg) : String :=
  let (d, p) := arg.size
  if arg.heterogeneousMemory then s!"size=[{d},{p}],heterogeneous_memory=on" else s!"size=[{d},{p}]"

def Balloon.toArg (balloon : Balloon) (totalMem dramAvail pmemAvail : Int) : BalloonArg :=
  ⟨balloon.toSize totalMem dramAvail pmemAvail, balloon = .hetero⟩

theorem Balloon.toArg_render (balloon : Balloon) (totalMem dramAvail pmemAvail : Int) :
    (balloon.toArg totalMem dramAvail pmemAvail).render = balloon.toCmdline totalMem dramAvail pmemAvail := by
  cases balloon <;> rfl

/-- The `args` dict of `Vm.args`, one field per key whose value is computed. -/
structure VmArgs where
  cpus : CpusArg
  zones : List MemoryZone
  numa : List String
  kernel : String
  cmdline : String
  rootfs : String
  dataSocket : String
  outSocket : String
  tap : String
  mac : String
  balloon : Option BalloonArg
  gdb : Option String
  pml : Bool
  api : String

/-- `args.values()`, in the order the dict is built. -/
def VmArgs.groups (a : VmArgs) : List (List String) :=
  [["cloud-hypervisor"], ["--cpus", a.cpus.render], ["--memory", "size=0,shared=on"],
    "--memory-zone" :: a.zones.map MemoryZone.render, a.numa, ["--kernel", a.kernel],
    ["--cmdline", a.cmdline], ["--disk", s!"path={a.rootfs}"],
    ["--fs", s!"tag=data,socket={a.dataSocket}", s!"tag=out,socket={a.outSocket}"],
    ["--net", s!"tap={a.tap},mac={a.mac}"],
    (match a.balloon with | some arg => ["--balloon", arg.render] | none => []),
    ["--console", "off"], ["--serial", "tty"],
    (match a.gdb with | some path => ["--gdb", s!"path={path}"] | none => []),
    (if a.pml then ["--hmem", "delay=10s,interval=100ms"] else []),
    ["--api-socket", s!"path={a.api}"]]

/-- `list(chain.from_iterable(args.values()))`. -/
def VmArgs.toList (a : VmArgs) : List String := a.groups.flatten

theorem VmArgs.infix_toList {a : VmArgs} {group : List String} (mem : group ∈ a.groups) :
    group <:+: a.toList :=
  List.infix_of_mem_flatten mem

theorem VmArgs.cpus_contiguous (a : VmArgs) : ["--cpus", a.cpus.render] <:+: a.toList :=
  a.infix_toList (by simp [VmArgs.groups])

theorem VmArgs.zones_contiguous (a : VmArgs) :
    ("--memory-zone" :: a.zones.map MemoryZone.render) <:+: a.toList :=
  a.infix_toList (by simp [VmArgs.groups])

theorem VmArgs.balloon_contiguous (a : VmArgs) (arg : BalloonArg) (some : a.balloon = some arg) :
    ["--balloon", arg.render] <:+: a.toList :=
  a.infix_toList (by simp [VmArgs.groups, some])

namespace Vm

def args (numaNodeToCpus : Nat → Option (List Bool)) (hetero : Bool) (id cpuNode vcpus : Nat)
    (totalMem : Int) (dramNode : Nat) (dramSize : Int) (pmemNode : Nat) (pmemSize : Int)
    (kernel cmdline rootfs dataSocket outSocket tap mac : String) (balloon : Option Balloon)
    (gdb : Option String) (pml : Bool) (api : String) : VmArgs :=
  let lastVcpu : Int := vcpus - 1
  { cpus := ⟨vcpus, hostCpus (nodeToCpus numaNodeToCpus cpuNode) vcpus id⟩
    zones :=
      if hetero then
        [⟨"dram", if balloon.isSome then totalMem else dramSize, some dramNode⟩,
          ⟨"pmem", if balloon.isSome then totalMem else pmemSize, some pmemNode⟩]
      else [⟨"ram", totalMem, none⟩]
    numa :=
      if hetero then
        ["--numa", s!"guest_numa_id=0,cpus=[0-{lastVcpu}]", "guest_numa_id=1,memory_zones=[dram]",
          "guest_numa_id=2,memory_zones=[pmem]"]
      else []
    kernel, cmdline, rootfs, dataSocket, outSocket, tap, mac
    balloon := balloon.map fun balloon =>
      if hetero then balloon.toArg totalMem dramSize pmemSize else ⟨(0, 0), false⟩
    gdb, pml, api }

/-- `Vm.cmdline`: every guest kernel gets the same command line. -/
def cmdline : String :=
  " ".intercalate ["root=/dev/vda2", "rw", "tsc=reliable", "console=ttyS0", "noreplace-smp",
    "cryptomgr.notests", "no_timer_check", "no_hash_pointers", "log_buf_len=32M",
    "initcall_debug", "mitigations=off", "kunit.enable=1", "nokaslr",
    "modprobe.blacklist=virtio_balloon", "transparent_hugepage=never", "cgroup_no_v1=all"]

/-- `{id:02x}`: lower-case hex, at least two digits. -/
def hex2 (n : Nat) : String :=
  let digits := Nat.toDigits 16 n
  String.mk (List.replicate (2 - digits.length) '0' ++ digits)

def tap (id : Nat) : String := s!"ichb{id}"

def mac (id : Nat) : String := s!"2e:89:a8:e4:92:{hex2 id}"

/-- `self.out_dir`, below the run's directory `outDir`. -/
def outDir (runDir : String) (id : Nat) : String := s!"{runDir}/{id}"

/-- The arguments `Vm.__enter__` passes to `args` for VM `id` of a run writing to `runDir`. -/
def enterArgs (numaNodeToCpus : Nat → Option (List Bool)) (b : Bench) (runDir : String) (id : Nat) :
    VmArgs :=
  let out := outDir runDir id
  args numaNodeToCpus b.hetero id b.dramNode b.cpu b.mem b.dramNode b.dramSize b.pmemNode
    b.pmemSize s!"data/{b.kernel.value}/vmlinux.bin" cmdline s!"data/root{id}.img"
    s!"{out}/virtiofsd.data.socket" s!"{out}/virtiofsd.out.socket" (tap id) (mac id) b.balloon
    (if b.gdb then some s!"{out}/cloud-hypervisor-gdb.socket" else none) b.pml
    s!"{out}/cloud-hypervisor.socket"

end Vm

structure RoundRobinPinning (cpus : List Nat) (vcpus num : Nat) (argv : Nat → List String) : Prop where
  pinned : ∀ id, ["--cpus", "boot=" ++ toString vcpus ++ ",affinity=[" ++
    ",".intercalate ((List.range vcpus).map fun v => toString v ++ "@[" ++
      ",".intercalate ((roundRobinBlock cpus vcpus id).map toString) ++ "]") ++ "]"] <:+: argv id
  balanced : ∀ p < cpus.length,
    let uses := ((List.range num).flatMap (roundRobinBlock cpus vcpus)).count (cpus.getD p 0)
    uses = num * vcpus / cpus.length ∨ uses = (num * vcpus + cpus.length - 1) / cpus.length
  disjoint : num * vcpus ≤ cpus.length → ∀ i < num, ∀ j < num, i ≠ j →
    (roundRobinBlock cpus vcpus i).Disjoint (roundRobinBlock cpus vcpus j)

theorem enterArgs_roundRobin (numaNodeToCpus : Nat → Option (List Bool)) (b : Bench) (runDir : String)
    (nonempty : nodeToCpus numaNodeToCpus b.dramNode ≠ []) :
    RoundRobinPinning (nodeToCpus numaNodeToCpus b.dramNode) b.cpu b.num
      fun id => (Vm.enterArgs numaNodeToCpus b runDir id).toList := by
  have nodup := nodeToCpus_nodup numaNodeToCpus b.dramNode
  refine ⟨fun id => ?_, fun p position => ?_, fun fits i hi j hj distinct =>
    roundRobinBlock_disjoint nodup fits hi hj distinct⟩
  · simpa [Vm.enterArgs, Vm.args, CpusArg.render, CpusArg.affinity, hostCpus_eq nonempty,
      instToStringString, Function.comp_def] using (Vm.enterArgs numaNodeToCpus b runDir id).cpus_contiguous
  · rw [pool_roundRobinBlock, count_cycled nodup position]
    have positive := List.length_pos.mpr nonempty
    split
    · exact .inr (ceil_div_of_mod_pos positive (by omega)).symm
    · exact .inl (Nat.add_zero _)

theorem enterArgs_roundRobin_fourCpus :
    nodeToCpus (fun _ => some [true, true, false, true, true]) 1 ≠ [] ∧
      RoundRobinPinning (nodeToCpus (fun _ => some [true, true, false, true, true]) 1) 4 1
        fun id => (Vm.enterArgs (fun _ => some [true, true, false, true, true]) {} "archive/run" id).toList :=
  ⟨by decide, enterArgs_roundRobin _ {} "archive/run" (by decide)⟩

theorem balloonFlag_ne {t : String} (head : t.data.head? ≠ some '-') : "--balloon" ≠ t :=
  fun same => head (same ▸ rfl)

theorem balloonFlag_ne_zone (z : MemoryZone) : "--balloon" ≠ z.render :=
  balloonFlag_ne (by unfold MemoryZone.render; split <;> simp [instToStringString])

theorem enterArgs_no_balloon (numaNodeToCpus : Nat → Option (List Bool)) {b : Bench} (runDir : String)
    (id : Nat) (none : b.balloon = none) : "--balloon" ∉ (Vm.enterArgs numaNodeToCpus b runDir id).toList := by
  have cmdline : "--balloon" ≠ Vm.cmdline := by decide
  intro mem
  obtain ⟨group, listed, flag⟩ := List.mem_flatten.mp mem
  simp only [VmArgs.groups, Vm.enterArgs, Vm.args, none, Option.map_none', List.mem_cons,
    List.not_mem_nil, or_false] at listed
  -- one case per group of the argv; the groups under an `if` are split first
  rcases listed with rfl | rfl | rfl | rfl | rfl | rfl | rfl | rfl | rfl | rfl | rfl | rfl | rfl | rfl | rfl | rfl <;>
    (try split_ifs at flag) <;>
    simp [cmdline, balloonFlag_ne, instToStringString, CpusArg.render, balloonFlag_ne_zone] at flag

def heteroZones (b : Bench) (zd zp : Int) : List String :=
  ["--memory-zone", "id=dram,size=" ++ toString zd ++ ",shared=on,host_numa_node=" ++ toString b.dramNode,
    "id=pmem,size=" ++ toString zp ++ ",shared=on,host_numa_node=" ++ toString b.pmemNode]

structure BalloonMatchesSplit (b : Bench) (argv : List String) : Prop where
  none : b.balloon = none → heteroZones b b.dramSize b.pmemSize <:+: argv ∧ "--balloon" ∉ argv
  hetero : b.balloon = some .hetero → ∃ d p, heteroZones b b.mem b.mem <:+: argv ∧
    ["--balloon", "size=[" ++ toString d ++ "," ++ toString p ++ "],heterogeneous_memory=on"] <:+: argv ∧
    0 ≤ d ∧ 0 ≤ p ∧ b.mem - d = b.dramSize ∧ b.mem - p = b.pmemSize
  legacy : b.balloon = some .legacy → ∃ d p, heteroZones b b.mem b.mem <:+: argv ∧
    ["--balloon", "size=[" ++ toString d ++ "," ++ toString p ++ "]"] <:+: argv ∧
    0 ≤ d ∧ 0 ≤ p ∧ b.mem + b.mem - (d + p) = b.dramSize + b.pmemSize

theorem enterArgs_balloon_matches_split (numaNodeToCpus : Nat → Option (List Bool)) (b : Bench)
    (runDir : String) (id : Nat) (hetero : b.hetero = true) (page : pageSize ∣ b.mem)
    (lower : 0 ≤ b.dramRatio) (upper : b.dramRatio ≤ 1) :
    BalloonMatchesSplit b (Vm.enterArgs numaNodeToCpus b runDir id).toList := by
  have split := Bench.dramSize_pmemSize_split b page lower upper
  have dram := split.dram_le
  have pmem := split.pmem_le
  have noBalloon := enterArgs_no_balloon numaNodeToCpus (b := b) runDir id
  generalize enter : Vm.enterArgs numaNodeToCpus b runDir id = a at noBalloon ⊢
  have zones : a.zones = [⟨"dram", if b.balloon.isSome then b.mem else b.dramSize, some b.dramNode⟩,
      ⟨"pmem", if b.balloon.isSome then b.mem else b.pmemSize, some b.pmemNode⟩] := by
    simp [← enter, Vm.enterArgs, Vm.args, hetero]
  have balloon : a.balloon = b.balloon.map (·.toArg b.mem b.dramSize b.pmemSize) := by
    simp [← enter, Vm.enterArgs, Vm.args, hetero]
  have zones := zones ▸ a.zones_contiguous
  have balloon (mode : Balloon) (configured : b.balloon = some mode) :=
    a.balloon_contiguous (mode.toArg b.mem b.dramSize b.pmemSize) (by simp [balloon, configured])
  refine ⟨fun none => ⟨?_, noBalloon none⟩,
    fun mode => ⟨b.mem - b.dramSize, b.mem - b.pmemSize, ?_, ?_, by omega, by omega, by omega, by omega⟩,
    fun mode => ⟨b.mem - b.dramSize + b.mem - b.pmemSize, 0, ?_, ?_, by omega, le_rfl, by omega⟩⟩
  · simpa [heteroZones, MemoryZone.render, instToStringString, none] using zones
  · simpa [heteroZones, MemoryZone.render, instToStringString, mode] using zones
  · simpa [Balloon.toArg, Balloon.toSize, BalloonArg.render, instToStringString] using balloon _ mode
  · simpa [heteroZones, MemoryZone.render, instToStringString, mode] using zones
  · simpa [Balloon.toArg, Balloon.toSize, BalloonArg.render, instToStringString] using balloon _ mode

theorem enterArgs_balloon_matches_split_default :
    ({} : Bench).hetero = true ∧ pageSize ∣ ({} : Bench).mem ∧ 0 ≤ ({} : Bench).dramRatio ∧
      ({} : Bench).dramRatio ≤ 1 ∧
      BalloonMatchesSplit {} (Vm.enterArgs (fun _ => none) {} "archive/run" 0).toList :=
  ⟨rfl, by decide, by norm_num, by norm_num,
    enterArgs_balloon_matches_split _ {} "archive/run" 0 rfl (by decide) (by norm_num) (by norm_num)⟩

end DemeterBench

