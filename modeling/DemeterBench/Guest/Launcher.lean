import DemeterBench.Guest.Run
import DemeterBench.Vm.KvmLogs

set_option autoImplicit false

/-!
# `script/launcher.py`

The launcher is installed as `demeter.py`, `memtis.py`, `nomad.py`, `tpp.py` and `noop.py`; the
name it runs under picks the tiering policy. It moves itself into the cgroup `bench`, forks, and
the child `execvp`s the workload while the parent enables the policy for the child's pid, waits
for it, and exits with its status.

`main` takes the program name `Path(parser.prog).stem` and the words argparse gathered into
`CHILD`. What the script prints is left out, and so are argparse's own options (`-h`). `int()` is
modelled on ASCII text. On a text with other characters CPython first turns Unicode blanks into
spaces and Unicode decimal digits into ASCII ones, which `pyIntOfStr` does not: it rejects such a
text, so a rejection is read as `ValueError` only for an ASCII text.
-/

namespace DemeterBench.Guest

/-! ### `int()` of an environment variable -/

/-- The blanks `int()` strips around its argument (CPython's `Py_ISSPACE`). -/
def isPySpace (c : Char) : Bool :=
  c == ' ' || c == '\t' || c == '\n' || c == '\x0b' || c == '\x0c' || c == '\r'

def pyStrip (s : List Char) : List Char :=
  ((s.dropWhile isPySpace).reverse.dropWhile isPySpace).reverse

def splitSign : List Char → Bool × List Char
  | [] => (false, [])
  | c :: ds => if c = '-' then (true, ds) else if c = '+' then (false, ds) else (false, c :: ds)

def digitGroups (afterDigit : Bool) : List Char → Bool
  | [] => afterDigit
  | c :: cs => if c = '_' then afterDigit && digitGroups false cs else c.isDigit && digitGroups true cs

/-- Python's `int(text)` in base 10; `none` where it raises `ValueError`. -/
def pyIntOfStr (text : String) : Option Int :=
  let (negative, digits) := splitSign (pyStrip text.data)
  if digitGroups false digits then
    let n : Int := digitsValue (digits.filter (· ≠ '_'))
    some (if negative then -n else n)
  else none

/-- The `exec` loop of `demeter` and `memtis`: `int()` of each variable of `modargs` set non-empty. -/
def execModargs (environ : List (String × String)) : List String → Except Exc (List (String × Int))
  | [] => .ok []
  | modarg :: modargs =>
    match environ.lookup modarg with
    | some text =>
      if text = "" then execModargs environ modargs
      else match pyIntOfStr text with
        | some value => do
          let rest ← execModargs environ modargs
          pure ((modarg, value) :: rest)
        | none => .error .valueError
    | none => execModargs environ modargs

/-! ### The tiering policies -/

def numaBalancing : String := "/proc/sys/kernel/numa_balancing"

def demotionEnabled : String := "/sys/kernel/mm/numa/demotion_enabled"

def demoteScaleFactor : String := "/proc/sys/vm/demote_scale_factor"

def targetsPid : String := "/sys/kernel/mm/demeter/targets/0/pid"

def demeterModargs : List String :=
  ["load_latency_threshold", "load_latency_sample_period", "load_l3_miss_sample_period",
    "retired_stores_sample_period", "split_period_ms", "throttle_pulse_width_ms",
    "throttle_pulse_period_ms", "rtree_split_thresh", "rtree_exch_thresh"]

/-- The `try` block of `demeter`, up to its `yield`. -/
def demeterSetup (pid : Int) (modargs : List (String × Int)) : List Effect :=
  let modprobe := ["modprobe", "demeter_placement"] ++ modargs.map fun (modarg, value) =>
    s!"{modarg}={value}"
  [.write numaBalancing "0", .write demotionEnabled "0", .run modprobe,
    .write "/sys/kernel/mm/demeter/targets/nr_targets" "3", .write targetsPid (toString pid)]

def demeter {α : Type} (w : World) (pid : Int) (body : Run α) : Run α := do
  let modargs ← fromExcept (execModargs w.environ demeterModargs)
  bracket w (demeterSetup pid modargs) body [.write targetsPid "-1"]

/-- `Syscall.htmm_start` and `Syscall.htmm_end`. -/
def htmmStart : Nat := 449

def htmmEnd : Nat := 450

def memtisModargs : List String :=
  ["htmm_adaptation_period", "htmm_cooling_period", "htmm_cxl_mode", "htmm_demotion_period_in_ms",
    "htmm_gamma", "htmm_inst_sample_period", "htmm_mode", "htmm_nowarm",
    "htmm_promotion_period_in_ms", "htmm_sample_period", "htmm_skip_cooling", "htmm_split_period",
    "htmm_thres_cooling_alloc", "htmm_thres_hot", "htmm_thres_split", "htmm_util_weight",
    "ksampled_max_sample_ratio", "ksampled_min_sample_ratio", "ksampled_soft_cpu_quota"]

/-- The `try` block of `memtis`, up to its `yield`. -/
def memtisSetup (pid : Int) (modargs : List (String × Int)) : List Effect :=
  [.write numaBalancing "0", .write demotionEnabled "0"] ++
    modargs.map (fun (key, value) => .write ("/sys/kernel/mm/htmm/" ++ key) (toString value)) ++
    [.syscall htmmStart [pid, 0]]

def memtis {α : Type} (w : World) (pid : Int) (body : Run α) : Run α := do
  let modargs ← fromExcept (execModargs w.environ memtisModargs)
  bracket w (memtisSetup pid modargs) body [.syscall htmmEnd [pid]]

/-- The `try` block of `tpp`; `nomad` then loads its module. -/
def tppSetup : List Effect :=
  [.write numaBalancing "2", .write demotionEnabled "1", .write demoteScaleFactor "1000"]

def nomadSetup : List Effect := tppSetup ++ [.run ["modprobe", "async_promote"]]

def nomad {α : Type} (w : World) (_pid : Int) (body : Run α) : Run α := bracket w nomadSetup body []

def tpp {α : Type} (w : World) (_pid : Int) (body : Run α) : Run α := bracket w tppSetup body []

def noop {α : Type} (w : World) (_pid : Int) (body : Run α) : Run α := bracket w [] body []

/-- `trace()`: its list of tracers is empty, so its `ExitStack` enters nothing. -/
def trace {α : Type} (w : World) (body : Run α) : Run α := bracket w [] body []

/-- The context managers `prog2ctx` chooses from. -/
inductive Policy where
  | demeter
  | memtis
  | nomad
  | tpp
  | noop
  deriving DecidableEq, Repr

def Policy.enter {α : Type} (w : World) (pid : Int) (body : Run α) : Policy → Run α
  | .demeter => Guest.demeter w pid body
  | .memtis => Guest.memtis w pid body
  | .nomad => Guest.nomad w pid body
  | .tpp => Guest.tpp w pid body
  | .noop => Guest.noop w pid body

def ctxTable : List (String × Policy) :=
  [("demeter", .demeter), ("memtis", .memtis), ("nomad", .nomad), ("tpp", .tpp), ("noop", .noop)]

def prog2ctx (prog : String) : Run Policy :=
  match ctxTable.lookup prog with
  | some ctx => pure ctx
  | none => raise .keyError

/-! ### The two processes -/

def waitstatusToExitcode : WaitStatus → Int
  | .exited code => code
  | .signaled signal => -signal

def sigint : Nat := 2

/-- The `try` block of `parent` with its `KeyboardInterrupt` handler: the `err` it leaves. -/
def waitChild (w : World) (child : Int) : Run Int :=
  tryExcept (do perform w (.waitpid child); pure (waitstatusToExitcode w.status))
    .keyboardInterrupt (do perform w (.kill child sigint); pure (-1))

def parent (w : World) (ctxfn : Policy) (child : Int) : Run Unit := do
  let err ← ctxfn.enter w child (trace w (waitChild w child))
  raise (.systemExit err)

def child (w : World) (file : String) (args : List String) : Run Unit := do
  perform w (.execvp file args)
  ⟨[], .error (.exec file args)⟩

def cgroupPath : String := "/sys/fs/cgroup/bench"

/-- The `try` block of `cgroup`. -/
def cgroupSetup (pid : Int) (memtis : Bool) : List Effect :=
  [.mkdir cgroupPath] ++ (if memtis then [.write "/sys/fs/cgroup/bench/memory.htmm_enabled" "enabled"] else []) ++
    [.write "/sys/fs/cgroup/bench/cgroup.procs" (toString pid)]

/-- The `finally` block of `cgroup`. -/
def cgroupRelease (pid : Int) : List Effect :=
  [.write "/sys/fs/cgroup/cgroup.procs" (toString pid), .rmdir cgroupPath]

def cgroup {α : Type} (w : World) (pid : Int) (memtis : Bool) (body : Run α) : Run α :=
  bracket w (cgroupSetup pid memtis) body (cgroupRelease pid)

/-- `child_args`, with a leading `--` popped. -/
def childArgs (CHILD : List String) : List String :=
  if CHILD.head? = some "--" then CHILD.tail else CHILD

def einval : Int := 22

/-- The body of `with cgroup(...)` in the `__main__` block. `parser.print_help()` is left out. -/
def mainBody (w : World) (prog : String) (CHILD : List String) : Run Unit := do
  let ctxfn ← prog2ctx prog
  match childArgs CHILD with
  | [] => raise (.systemExit einval)
  | file :: args => do
    perform w .fork
    if w.forked > 0 then parent w ctxfn w.forked else child w file (file :: args)

/-- The `__main__` block. -/
def main (w : World) (prog : String) (CHILD : List String) : Run Unit :=
  cgroup w w.pid (prog == "memtis") (mainBody w prog CHILD)

/-! ### `int()` reads back what `str()` prints -/

theorem isPySpace_eq_false {c : Char} (h : c.isDigit ∨ c = '-') : isPySpace c = false := by
  cases space : isPySpace c
  · rfl
  · simp only [isPySpace, Bool.or_eq_true, beq_iff_eq] at space
    rcases space with ((((rfl | rfl) | rfl) | rfl) | rfl) | rfl <;> exact absurd h (by decide)

theorem dropWhile_isPySpace {s : List Char} (h : ∀ c ∈ s, isPySpace c = false) :
    s.dropWhile isPySpace = s := by
  cases s with
  | nil => rfl
  | cons c s => simp [List.dropWhile_cons, h c (List.mem_cons_self c s)]

theorem pyStrip_of_no_space {s : List Char} (h : ∀ c ∈ s, isPySpace c = false) : pyStrip s = s := by
  rw [pyStrip, dropWhile_isPySpace h,
    dropWhile_isPySpace fun c mem => h c (List.mem_reverse.mp mem), List.reverse_reverse]

theorem digitGroups_digits (afterDigit : Bool) :
    ∀ {ds : List Char}, (∀ c ∈ ds, c.isDigit) → ds ≠ [] → digitGroups afterDigit ds = true
  | [], _, nonempty => absurd rfl nonempty
  | c :: ds, digits, _ => by
    have digit := digits c (List.mem_cons_self c ds)
    rw [digitGroups, if_neg (by rintro rfl; exact absurd digit (by decide)), digit, Bool.true_and]
    cases ds with
    | nil => rfl
    | cons d ds =>
      exact digitGroups_digits true (fun x mem => digits x (List.mem_cons_of_mem c mem)) (List.cons_ne_nil d ds)

theorem pyIntOfStr_digits (negative : Bool) (n : Nat) (text : List Char)
    (signed : splitSign (pyStrip text) = (negative, decimal n)) :
    pyIntOfStr ⟨text⟩ = some (if negative then -(n : Int) else n) := by
  have digits := decimal_isDigit n
  have noUnderscore : (decimal n).filter (· ≠ '_') = decimal n :=
    List.filter_eq_self.mpr fun c mem => by
      simpa using fun underscore : c = '_' => absurd (underscore ▸ digits c mem) (by decide)
  simp only [pyIntOfStr, signed, digitGroups_digits false digits (decimal_ne_nil n), if_true,
    noUnderscore, digitsValue_decimal]

theorem decimal_no_space (n : Nat) : ∀ c ∈ decimal n, isPySpace c = false :=
  fun c mem => isPySpace_eq_false (.inl (decimal_isDigit n c mem))

theorem splitSign_decimal (n : Nat) : splitSign (decimal n) = (false, decimal n) := by
  obtain ⟨c, ds, eq⟩ := List.exists_cons_of_ne_nil (decimal_ne_nil n)
  have digit : c.isDigit := decimal_isDigit n c (eq ▸ List.mem_cons_self c ds)
  rw [eq, splitSign, if_neg (by rintro rfl; exact absurd digit (by decide)),
    if_neg (by rintro rfl; exact absurd digit (by decide))]

theorem pyIntOfStr_toString (n : Int) : pyIntOfStr (toString n) = some n := by
  cases n with
  | ofNat m =>
    show pyIntOfStr ⟨decimal m⟩ = some (m : Int)
    exact pyIntOfStr_digits false m _ (by rw [pyStrip_of_no_space (decimal_no_space m), splitSign_decimal])
  | negSucc m =>
    show pyIntOfStr ⟨'-' :: decimal (m + 1)⟩ = some (Int.negSucc m)
    have stripped : pyStrip ('-' :: decimal (m + 1)) = '-' :: decimal (m + 1) :=
      pyStrip_of_no_space fun x mem => (List.mem_cons.mp mem).elim
        (fun dash => isPySpace_eq_false (.inr dash)) (decimal_no_space _ x)
    exact pyIntOfStr_digits true (m + 1) _ (by rw [stripped]; rfl)

theorem toString_int_injective {m n : Int} (h : toString m = toString n) : m = n :=
  Option.some.inj ((pyIntOfStr_toString m).symm.trans (h ▸ pyIntOfStr_toString n))

/-! ### The parameters read from the environment -/

def setModargs (environ : List (String × String)) (modargs : List String) : List (String × String) :=
  modargs.filterMap fun modarg => match environ.lookup modarg with
    | some text => if text = "" then none else some (modarg, text)
    | none => none

theorem execModargs_rejected (environ : List (String × String)) :
    ∀ modargs : List String, (∃ q ∈ setModargs environ modargs, pyIntOfStr q.2 = none) →
      execModargs environ modargs = .error .valueError
  | [], ⟨_, mem, _⟩ => absurd mem (List.not_mem_nil _)
  | modarg :: modargs, ⟨q, mem, rejected⟩ => by
    have rest := execModargs_rejected environ modargs
    cases found : environ.lookup modarg with
    | none =>
      simp only [setModargs, List.filterMap_cons, found] at mem
      simp only [execModargs, found]
      exact rest ⟨q, mem, rejected⟩
    | some text =>
      by_cases empty : text = ""
      · simp only [setModargs, List.filterMap_cons, found, empty, if_true] at mem
        simp only [execModargs, found, empty, if_true]
        exact rest ⟨q, mem, rejected⟩
      · simp only [setModargs, List.filterMap_cons, found, empty, if_false, List.mem_cons] at mem
        simp only [execModargs, found, empty, if_false]
        rcases mem with rfl | mem
        · rw [rejected]
        · cases pyIntOfStr text <;> simp [rest ⟨q, mem, rejected⟩, bind, Except.bind]

theorem execModargs_canonical (environ : List (String × String)) :
    ∀ modargs : List String, (∀ q ∈ setModargs environ modargs, ∃ v : Int, q.2 = toString v) →
      ∃ values, execModargs environ modargs = .ok values ∧
        values.map (fun m => (m.1, toString m.2)) = setModargs environ modargs
  | [], _ => ⟨[], rfl, rfl⟩
  | modarg :: modargs, canonical => by
    have rest := execModargs_canonical environ modargs
    cases found : environ.lookup modarg with
    | none =>
      simp only [setModargs, List.filterMap_cons, found] at canonical ⊢
      simp only [execModargs, found]
      exact rest canonical
    | some text =>
      by_cases empty : text = ""
      · simp only [setModargs, List.filterMap_cons, found, empty, if_true] at canonical ⊢
        simp only [execModargs, found, empty, if_true]
        exact rest canonical
      · simp only [setModargs, List.filterMap_cons, found, empty, if_false, List.forall_mem_cons]
          at canonical ⊢
        obtain ⟨⟨v, rfl⟩, later⟩ := canonical
        obtain ⟨values, ok, printed⟩ := rest later
        refine ⟨(modarg, v) :: values, ?_, by rw [List.map_cons, printed]; rfl⟩
        simp only [execModargs, found, empty, if_false, pyIntOfStr_toString, ok]
        rfl

end DemeterBench.Guest
