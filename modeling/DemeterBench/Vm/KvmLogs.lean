import Mathlib.Data.List.Basic

set_option autoImplicit false

/-!
# `utils.pid_children` and `Vm.collect_kvm_logs`

`pid_children(pid)` runs `sudo pstree -p {pid} | grep -o '[[:digit:]]*'` and reads every number
printed back as an id; `collect_kvm_logs` runs `sudo find /sys/kernel/debug/kvm/ -name '{pid}-*'`
for each of them and asserts that exactly one directory was found. The host side is a model:
the task tree as psmisc's `pstree` holds it and its `dump_tree` layout under `-p` (lines are
not cut at the output width), and the VM directories that `kvm_create_vm_debugfs` names
`"%d-%s"` after the creating task and the VM's file descriptor.
-/

namespace DemeterBench

/-! ### Numbers as the tools print and read them -/

/-- The digits `printf("%d")`, pstree's `out_int` and an f-string print for a number. -/
def decimal (n : Nat) : List Char := Nat.toDigits 10 n

def digitsValue (ds : List Char) : Nat :=
  ds.foldl (fun acc c => 10 * acc + (c.toNat - '0'.toNat)) 0

theorem digitsValue_append_singleton (ds : List Char) (c : Char) :
    digitsValue (ds ++ [c]) = 10 * digitsValue ds + (c.toNat - '0'.toNat) := by
  simp [digitsValue]

theorem toDigitsCore_ten_succ (f n : Nat) (ds : List Char) :
    Nat.toDigitsCore 10 (f + 1) n ds =
      if n / 10 = 0 then Nat.digitChar (n % 10) :: ds
      else Nat.toDigitsCore 10 f (n / 10) (Nat.digitChar (n % 10) :: ds) := rfl

theorem toDigitsCore_ten_append (f n : Nat) (ds : List Char) :
    Nat.toDigitsCore 10 f n ds = Nat.toDigitsCore 10 f n [] ++ ds := by
  induction f generalizing n ds with
  | zero => rfl
  | succ f ih =>
    simp only [toDigitsCore_ten_succ]
    split
    · rfl
    · rw [ih _ (_ :: ds), ih _ [_], List.append_assoc, List.singleton_append]

theorem digitChar_digit {k : Nat} (h : k < 10) :
    (Nat.digitChar k).isDigit ∧ (Nat.digitChar k).toNat - '0'.toNat = k := by
  have table : ∀ i : Fin 10,
      (Nat.digitChar i).isDigit ∧ (Nat.digitChar i).toNat - '0'.toNat = i := by decide
  exact table ⟨k, h⟩

theorem toDigitsCore_ten_digits (f n : Nat) (h : n < f) :
    (∀ c ∈ Nat.toDigitsCore 10 f n [], c.isDigit) ∧
      digitsValue (Nat.toDigitsCore 10 f n []) = n := by
  induction f generalizing n with
  | zero => omega
  | succ f ih =>
    obtain ⟨digit, value⟩ := digitChar_digit (Nat.mod_lt n (by decide : 10 > 0))
    simp only [toDigitsCore_ten_succ]
    split
    · refine ⟨by simpa using digit, ?_⟩
      simp only [digitsValue, List.foldl_cons, List.foldl_nil, value]
      omega
    · obtain ⟨digits, high⟩ := ih (n / 10) (by omega)
      rw [toDigitsCore_ten_append, digitsValue_append_singleton, high, value]
      refine ⟨?_, by omega⟩
      simp only [List.mem_append, List.mem_singleton]
      rintro c (hc | rfl)
      exacts [digits c hc, digit]

theorem decimal_isDigit (n : Nat) : ∀ c ∈ decimal n, c.isDigit :=
  (toDigitsCore_ten_digits _ n (by omega)).1

@[simp] theorem digitsValue_decimal (n : Nat) : digitsValue (decimal n) = n :=
  (toDigitsCore_ten_digits _ n (by omega)).2

theorem decimal_ne_nil (n : Nat) : decimal n ≠ [] := by
  show Nat.toDigitsCore 10 (n + 1) n [] ≠ []
  rw [toDigitsCore_ten_succ]
  split
  · simp
  · rw [toDigitsCore_ten_append]; simp

theorem decimal_injective {x y : Nat} (h : decimal x = decimal y) : x = y := by
  rw [← digitsValue_decimal x, h, digitsValue_decimal]

/-! ### `grep -o '[[:digit:]]*'` -/

def flushRun (run : List Char) : List (List Char) := if run = [] then [] else [run]

/-- `grep -o '[[:digit:]]*'`: the non-empty digit runs, one a line. -/
def digitRunsFrom (run : List Char) : List Char → List (List Char)
  | [] => flushRun run
  | c :: cs => if c.isDigit then digitRunsFrom (run ++ [c]) cs else flushRun run ++ digitRunsFrom [] cs

/-- The lines `grep -o '[[:digit:]]*'` prints, as `.strip().split()` returns them. -/
def digitRuns (s : List Char) : List (List Char) := digitRunsFrom [] s

theorem digitRunsFrom_digits (run ds rest : List Char) (digits : ∀ c ∈ ds, c.isDigit) :
    digitRunsFrom run (ds ++ rest) = digitRunsFrom (run ++ ds) rest := by
  induction ds generalizing run with
  | nil => simp
  | cons d ds ih =>
    simp only [List.forall_mem_cons] at digits
    simp [digitRunsFrom, digits.1, ih _ digits.2]

theorem digitRunsFrom_sep (run a rest : List Char) {c : Char} (sep : c.isDigit = false) :
    digitRunsFrom run (a ++ c :: rest) = digitRunsFrom run a ++ digitRuns rest := by
  induction a generalizing run with
  | nil => simp [digitRunsFrom, sep, digitRuns]
  | cons x a ih => by_cases hx : x.isDigit <;> simp [digitRunsFrom, hx, ih]

theorem digitRuns_sep (a rest : List Char) {c : Char} (sep : c.isDigit = false) :
    digitRuns (a ++ c :: rest) = digitRuns a ++ digitRuns rest :=
  digitRunsFrom_sep [] a rest sep

theorem digitRuns_digitFree (a rest : List Char) (free : ∀ c ∈ a, c.isDigit = false) :
    digitRuns (a ++ rest) = digitRuns rest := by
  induction a with
  | nil => rfl
  | cons x a ih =>
    simp only [List.forall_mem_cons] at free
    simpa [digitRuns, digitRunsFrom, free.1, flushRun] using ih free.2

theorem digitRuns_number (n : Nat) (rest : List Char) {c : Char} (sep : c.isDigit = false) :
    digitRuns (decimal n ++ c :: rest) = decimal n :: digitRuns rest := by
  rw [digitRuns_sep _ _ sep, digitRuns, ← List.append_nil (decimal n),
    digitRunsFrom_digits _ _ _ (decimal_isDigit n)]
  simp [digitRunsFrom, flushRun, decimal_ne_nil]

/-! ### `pstree -p` -/

/-- A task's `comm` as the kernel keeps it: bytes, one `Char` per byte. -/
structure Comm where
  name : String
  bytes : ∀ c ∈ name.data, c.toNat < 256

/-- pstree's `PROC`, with the tasks `dump_tree` prints beneath it. -/
inductive Proc where
  | mk (id : Nat) (comm : Comm) (thread : Bool) (children : List Proc)

/-- psmisc's `out_args` on one byte of a name. -/
def outArg (c : Char) : List Char :=
  if c = '\\' then ['\\', '\\']
  else if ' ' ≤ c ∧ c ≤ '~' then [c]
  else ['\\', Nat.digitChar (c.toNat / 64 % 8), Nat.digitChar (c.toNat / 8 % 8),
    Nat.digitChar (c.toNat % 8)]

/-- The name `dump_tree` prints; pstree reads a thread's `comm` wrapped in braces. -/
def printedName (comm : Comm) (thread : Bool) : List Char :=
  (if thread then '{' :: comm.name.toList ++ ['}'] else comm.name.toList).flatMap outArg

/-- A task's label under `-p`: its name, then its id in parentheses. -/
def procLabel (id : Nat) (comm : Comm) (thread : Bool) : List Char :=
  printedName comm thread ++ '(' :: (decimal id ++ [')'])

/-- The connectors of `dump_tree`, `sym_ascii` or `sym_utf`; none holds a digit. -/
structure Symbols where
  empty2 : List Char
  branch2 : List Char
  vert2 : List Char
  last2 : List Char
  single3 : List Char
  first3 : List Char
  digitFree : ∀ s ∈ [empty2, branch2, vert2, last2, single3, first3], ∀ c ∈ s, c.isDigit = false

def Symbols.ascii : Symbols :=
  ⟨ "  ".toList, "|-".toList, "| ".toList, "`-".toList, "---".toList, "-+-".toList, by decide⟩

def Symbols.utf : Symbols :=
  ⟨ "  ".toList, "├─".toList, "│ ".toList, "└─".toList, "───".toList, "─┬─".toList, by decide⟩

/-- What `dump_tree` prints before a task that starts a new line. -/
def indent (syms : Symbols) (last : Bool) : List (Nat × Bool) → List Char
  | [] => []
  | [(w, _)] => List.replicate (w + 1) ' ' ++ if last then syms.last2 else syms.branch2
  | (w, _) :: (w', more) :: rest =>
    List.replicate (w + 1) ' ' ++ (if more then syms.vert2 else syms.empty2) ++
      indent syms last ((w', more) :: rest)

mutual
/-- psmisc's `dump_tree` under `-p`, which turns compaction off. -/
def dumpTree (syms : Symbols) (ancestors : List (Nat × Bool)) (leaf last : Bool) :
    Proc → List Char
  | .mk id comm thread children =>
    (if leaf then [] else indent syms last ancestors) ++ procLabel id comm thread ++
      if children.isEmpty then ['\n']
      else (if children.length = 1 then syms.single3 else syms.first3) ++
        dumpChildren syms (ancestors ++ [((procLabel id comm thread).length, !last)]) true
          children

def dumpChildren (syms : Symbols) (ancestors : List (Nat × Bool)) (first : Bool) :
    List Proc → List Char
  | [] => []
  | p :: ps => dumpTree syms ancestors first ps.isEmpty p ++ dumpChildren syms ancestors false ps
end

mutual
/-- pstree's `find_proc`: the task with this id, anywhere in the trees. -/
def Proc.find (pid : Nat) : Proc → Option Proc
  | .mk id comm thread children =>
    if id = pid then some (.mk id comm thread children) else findIn pid children

def findIn (pid : Nat) : List Proc → Option Proc
  | [] => none
  | p :: ps =>
    match p.find pid with
    | some q => some q
    | none => findIn pid ps
end

/-- The output of `pstree -p {pid}` on a host whose tasks form the trees `host`. -/
def pstree (syms : Symbols) (host : List Proc) (pid : Nat) : List Char :=
  match findIn pid host with
  | none => []
  | some p => dumpTree syms [] true true p

mutual
def Proc.tasks : Proc → List (Nat × Comm × Bool)
  | .mk id comm thread children => (id, comm, thread) :: tasksIn children

def tasksIn : List Proc → List (Nat × Comm × Bool)
  | [] => []
  | p :: ps => p.tasks ++ tasksIn ps
end

/-! ### `pid_children` and `collect_kvm_logs` -/

inductive KvmLogsError where
  /-- `check_output` saw a failure: `pstree` printed nothing, so `grep` read no line. -/
  | calledProcessError
  | assertionError (message : String)
  deriving DecidableEq, Repr

/-- `pid_children(pid)`; the pipeline's status is `grep`'s. -/
def pidChildren (syms : Symbols) (host : List Proc) (pid : Nat) : Except KvmLogsError (List Nat) :=
  let out := pstree syms host pid
  if out.isEmpty then .error .calledProcessError else .ok ((digitRuns out).map digitsValue)

/-- A VM directory, named `"%d-%s"` by `kvm_create_vm_debugfs`. -/
structure KvmDir where
  creator : Nat
  fd : Nat
  deriving DecidableEq, Repr

def KvmDir.name (d : KvmDir) : List Char := decimal d.creator ++ '-' :: decimal d.fd

def KvmDir.path (d : KvmDir) : String := "/sys/kernel/debug/kvm/" ++ String.mk d.name

/-- `find /sys/kernel/debug/kvm/ -name '{pid}-*'`, split into lines. -/
def findKvmDirs (dirs : List KvmDir) (pid : Nat) : List String :=
  (dirs.filter fun d => (decimal pid ++ ['-']).isPrefixOf d.name).map KvmDir.path

/-- `Vm.collect_kvm_logs` up to the copy. -/
def collectKvmLogs (syms : Symbols) (host : List Proc) (dirs : List KvmDir) (pid : Nat) :
    Except KvmLogsError String := do
  let pids ← pidChildren syms host pid
  let vmDebugfs := pids.flatMap (findKvmDirs dirs)
  match vmDebugfs with
  | [dir] => pure dir
  | _ =>
    let found := vmDebugfs.length
    throw (.assertionError
      s!"there should only be one vm_debugfs for each vm, found {found} directories")

/-! ### What `grep` reads back from the tree -/

def labelNumbers (task : Nat × Comm × Bool) : List (List Char) :=
  digitRuns (printedName task.2.1 task.2.2) ++ [decimal task.1]

theorem Symbols.ite_digitFree (syms : Symbols) {p : Prop} [Decidable p] {x y : List Char}
    (hx : x ∈ [syms.empty2, syms.branch2, syms.vert2, syms.last2, syms.single3, syms.first3])
    (hy : y ∈ [syms.empty2, syms.branch2, syms.vert2, syms.last2, syms.single3, syms.first3]) :
    ∀ c ∈ (if p then x else y), c.isDigit = false := by
  split
  exacts [syms.digitFree x hx, syms.digitFree y hy]

theorem indent_digitFree (syms : Symbols) (last : Bool) :
    ∀ ancestors, ∀ c ∈ indent syms last ancestors, c.isDigit = false
  | [] => by simp [indent]
  | [(w, _)] => by
    intro c hc
    simp only [indent, List.mem_append, List.mem_replicate] at hc
    rcases hc with ⟨-, rfl⟩ | hc
    · rfl
    · exact syms.ite_digitFree (by simp) (by simp) c hc
  | (w, _) :: (w', more) :: rest => by
    intro c hc
    simp only [indent, List.mem_append, List.mem_replicate] at hc
    rcases hc with (⟨-, rfl⟩ | hc) | hc
    · rfl
    · exact syms.ite_digitFree (by simp) (by simp) c hc
    · exact indent_digitFree syms last _ c hc

theorem connector_digitFree (syms : Symbols) (n : Nat) :
    ∀ c ∈ (if n = 1 then syms.single3 else syms.first3), c.isDigit = false :=
  syms.ite_digitFree (by simp) (by simp)

theorem digitRuns_label (id : Nat) (comm : Comm) (thread : Bool) (rest : List Char) :
    digitRuns (procLabel id comm thread ++ rest) =
      labelNumbers (id, comm, thread) ++ digitRuns rest := by
  simp only [procLabel, List.append_assoc, List.cons_append, labelNumbers]
  rw [digitRuns_sep _ _ (by decide), digitRuns_number _ _ (by decide)]
  simp

mutual
theorem digitRuns_dumpTree (syms : Symbols) (ancestors : List (Nat × Bool)) (leaf last : Bool)
    (p : Proc) (rest : List Char) :
    digitRuns (dumpTree syms ancestors leaf last p ++ rest) =
      p.tasks.flatMap labelNumbers ++ digitRuns rest :=
  match p with
  | .mk id comm thread children => by
    have skip : digitRuns ((if leaf then [] else indent syms last ancestors) ++
        (procLabel id comm thread ++ (if children.isEmpty then ['\n'] else
          (if children.length = 1 then syms.single3 else syms.first3) ++
            dumpChildren syms (ancestors ++ [((procLabel id comm thread).length, !last)]) true
              children) ++ rest)) = _ :=
      digitRuns_digitFree _ _ (by
        split
        · simp
        · exact indent_digitFree _ _ _)
    simp only [dumpTree, List.append_assoc] at skip ⊢
    rw [skip, digitRuns_label]
    split
    · rename_i empty
      simp only [List.isEmpty_iff] at empty
      subst empty
      simp [Proc.tasks, tasksIn, digitRuns, digitRunsFrom, flushRun]
    · rw [List.append_assoc, digitRuns_digitFree _ _ (connector_digitFree _ _),
        digitRuns_dumpChildren]
      simp [Proc.tasks]

theorem digitRuns_dumpChildren (syms : Symbols) (ancestors : List (Nat × Bool)) (first : Bool)
    (ps : List Proc) (rest : List Char) :
    digitRuns (dumpChildren syms ancestors first ps ++ rest) =
      (tasksIn ps).flatMap labelNumbers ++ digitRuns rest :=
  match ps with
  | [] => by simp [dumpChildren, tasksIn]
  | p :: ps => by
    rw [dumpChildren, List.append_assoc, digitRuns_dumpTree, digitRuns_dumpChildren]
    simp [tasksIn]
end

theorem dumpTree_ne_nil (syms : Symbols) (ancestors : List (Nat × Bool)) (leaf last : Bool)
    (p : Proc) : dumpTree syms ancestors leaf last p ≠ [] := by
  cases p
  simp [dumpTree, procLabel]

theorem pidChildren_found (syms : Symbols) (host : List Proc) (pid : Nat) (p : Proc)
    (found : findIn pid host = some p) :
    pidChildren syms host pid = .ok ((p.tasks.flatMap labelNumbers).map digitsValue) := by
  have runs := digitRuns_dumpTree syms [] true true p []
  simp only [List.append_nil, digitRuns, digitRunsFrom, flushRun, if_true] at runs
  simp [pidChildren, pstree, found, dumpTree_ne_nil, digitRuns, runs]

theorem pidChildren_label_numbers (syms : Symbols) (host : List Proc) (pid : Nat) (p : Proc)
    (found : findIn pid host = some p) :
    pidChildren syms host pid = .ok (p.tasks.flatMap fun task =>
      (digitRuns (printedName task.2.1 task.2.2)).map digitsValue ++ [task.1]) := by
  simp [pidChildren_found syms host pid p found, List.map_flatMap, labelNumbers]

theorem pidChildren_digitFree_names (syms : Symbols) (host : List Proc) (pid : Nat) (p : Proc)
    (found : findIn pid host = some p)
    (plain : ∀ task ∈ p.tasks, ∀ c ∈ printedName task.2.1 task.2.2, c.isDigit = false) :
    pidChildren syms host pid = .ok (p.tasks.map (·.1)) := by
  rw [pidChildren_found syms host pid p found]
  generalize p.tasks = tasks at plain ⊢
  induction tasks with
  | nil => rfl
  | cons task tasks ih =>
    simp only [List.forall_mem_cons] at plain
    have none : digitRuns (printedName task.2.1 task.2.2) = [] := by
      simpa using digitRuns_digitFree _ [] plain.1
    simpa [labelNumbers, none] using ih plain.2

theorem isDigit_ne_dash {y : Char} (digit : y.isDigit) : y ≠ '-' := by
  rintro rfl
  exact absurd digit (by decide)

theorem isPrefixOf_dash (a b c : List Char) (ha : ∀ x ∈ a, x.isDigit) (hb : ∀ x ∈ b, x.isDigit) :
    (a ++ ['-']).isPrefixOf (b ++ '-' :: c) = decide (a = b) := by
  induction a generalizing b with
  | nil =>
    cases b with
    | nil => simp [List.isPrefixOf]
    | cons y b => simp [List.isPrefixOf, (isDigit_ne_dash (hb y (by simp))).symm]
  | cons x a ih =>
    simp only [List.forall_mem_cons] at ha
    cases b with
    | nil => simp [List.isPrefixOf, isDigit_ne_dash ha.1]
    | cons y b =>
      simp only [List.forall_mem_cons] at hb
      by_cases same : x = y <;> simp [List.isPrefixOf, ih b ha.2 hb.2, same]

theorem findKvmDirs_eq (dirs : List KvmDir) (pid : Nat) :
    findKvmDirs dirs pid = (dirs.filter (·.creator = pid)).map KvmDir.path := by
  simp only [findKvmDirs, KvmDir.name]
  congr 1
  refine List.filter_congr fun d _ => ?_
  rw [isPrefixOf_dash _ _ _ (decimal_isDigit _) (decimal_isDigit _)]
  exact decide_eq_decide.mpr ⟨fun h => (decimal_injective h).symm, fun h => h ▸ rfl⟩

theorem flatMap_findKvmDirs (dirs : List KvmDir) (ids : List Nat) (d : KvmDir)
    (distinct : ids.Nodup) (own : dirs.filter (fun e => e.creator ∈ ids) = [d]) :
    ids.flatMap (findKvmDirs dirs) = [d.path] := by
  have each : ∀ x ∈ ids, findKvmDirs dirs x = if d.creator = x then [d.path] else [] := by
    intro x hx
    have narrow : dirs.filter (·.creator = x) = [d].filter (·.creator = x) := by
      rw [← own, List.filter_filter]
      refine List.filter_congr fun e _ => ?_
      by_cases h : e.creator = x <;> simp [h, hx]
    rw [findKvmDirs_eq, narrow]
    by_cases h : d.creator = x <;> simp [h]
  have mine : d.creator ∈ ids := by
    have : d ∈ dirs.filter (fun e => e.creator ∈ ids) := own ▸ List.mem_singleton_self d
    simpa using (List.mem_filter.mp this).2
  suffices ∀ l : List Nat, l.Nodup → (∀ x ∈ l, x ∈ ids) →
      l.flatMap (findKvmDirs dirs) = if d.creator ∈ l then [d.path] else [] by
    simpa [mine] using this ids distinct fun _ h => h
  intro l
  induction l with
  | nil => simp
  | cons x l ih =>
    intro nodup sub
    rw [List.nodup_cons] at nodup
    simp only [List.forall_mem_cons] at sub
    rw [List.flatMap_cons, each x sub.1, ih nodup.2 sub.2]
    by_cases h : d.creator = x
    · subst h; simp [nodup.1]
    · simp [h]

theorem collectKvmLogs_digitFree_names (syms : Symbols) (host : List Proc) (dirs : List KvmDir)
    (pid : Nat) (p : Proc) (d : KvmDir) (found : findIn pid host = some p)
    (plain : ∀ task ∈ p.tasks, ∀ c ∈ printedName task.2.1 task.2.2, c.isDigit = false)
    (distinct : (p.tasks.map (·.1)).Nodup)
    (own : dirs.filter (fun e => e.creator ∈ p.tasks.map (·.1)) = [d]) :
    collectKvmLogs syms host dirs pid = .ok d.path := by
  simp only [collectKvmLogs, pidChildren_digitFree_names syms host pid p found plain, bind,
    Except.bind, flatMap_findKvmDirs dirs _ d distinct own]
  rfl

def twoGuests : List Proc :=
  [.mk 100 ⟨"cloud-hyperviso", by decide⟩ false [.mk 101 ⟨"vcpu7", by decide⟩ true []],
    .mk 7 ⟨"cloud-hyperviso", by decide⟩ false []]

def twoGuestsKvm : List KvmDir := [⟨100, 13⟩, ⟨7, 13⟩]

theorem pidChildren_label_numbers_twoGuests :
    pidChildren Symbols.ascii twoGuests 100 = .ok [100, 7, 101] :=
  pidChildren_label_numbers Symbols.ascii twoGuests 100 _ rfl

def twoGuestsPlain : List Proc :=
  [.mk 100 ⟨"cloud-hyperviso", by decide⟩ false [.mk 101 ⟨"vmm", by decide⟩ true []],
    .mk 7 ⟨"cloud-hyperviso", by decide⟩ false []]

theorem collectKvmLogs_digitFree_names_twoGuests :
    collectKvmLogs Symbols.utf twoGuestsPlain twoGuestsKvm 100 =
      .ok "/sys/kernel/debug/kvm/100-13" :=
  collectKvmLogs_digitFree_names Symbols.utf twoGuestsPlain twoGuestsKvm 100 _ ⟨100, 13⟩ rfl
    (by decide) (by decide) (by decide)

example : pstree Symbols.utf twoGuests 100 =
    "cloud-hyperviso(100)───\x7bvcpu7\x7d(101)\n".toList := by decide

theorem collectKvmLogs_vcpu_name_finds_other_vm :
    pidChildren Symbols.utf twoGuests 100 = .ok [100, 7, 101] ∧
      (([100, 7, 101].flatMap (findKvmDirs twoGuestsKvm)) =
        ["/sys/kernel/debug/kvm/100-13", "/sys/kernel/debug/kvm/7-13"]) ∧
      collectKvmLogs Symbols.utf twoGuests twoGuestsKvm 100 = .error (.assertionError
        "there should only be one vm_debugfs for each vm, found 2 directories") :=
  ⟨rfl, by decide, rfl⟩

end DemeterBench
