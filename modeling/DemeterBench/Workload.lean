import DemeterBench.Python

set_option autoImplicit false

/-!
# `bench/workload.py`

The argument strings of the workloads, which `Bench._benchmark` gets through
`eval(f"{name}_args(**kwargs)")`. A `Path` argument is the text `str()` prints for it, and the
float `exponent` of `gups_args` is the text `repr()` prints for it. Each builder renders its
arguments as words with a blank after each; `unwords` is that rendering.
-/

namespace DemeterBench

structure ValueError where
  message : String
  deriving DecidableEq, Repr

/-- `text(x) if x is not None else ""`. -/
def ifSome {α : Type} (x : Option α) (text : α → String) : String :=
  match x with
  | some a => text a
  | none => ""

def gupsArgs (bin : String := "/data/gups") (thread : Int := 4) (update : Int := 800000000)
    (granularity : Int := 8) (len : Int := ((14 <<< 30 : Nat) : Int)) (workload : String := "hotset")
    (hot : Int := ((1 <<< 30 : Nat) : Int)) (weight : Int := 9) (reverse : Bool := true)
    (exponent : String := "0.99") (report : Option Int := some 1000)
    (dramRatio : Option Int := none) : Except ValueError String :=
  let delta := ((2 <<< 20 : Nat) : Int) * thread
  let len := len - delta
  let hot := hot - delta
  let args := s!"{bin} --thread={thread} --update={update} --len={len} --granularity={granularity} "
  let args := args ++ ifSome report fun report => s!"--report={report} "
  let args := args ++ ifSome dramRatio fun dramRatio => s!"--dram-ratio {dramRatio} "
  if workload = "hotset" then
    .ok (args ++ s!"{workload} --hot={hot} --weight={weight} " ++ if reverse then "--reverse " else "")
  else if workload = "zipf" then
    .ok (args ++ s!"{workload} --exponent={exponent} " ++ if reverse then "--reverse " else "")
  else if workload = "random" then .ok args
  else .error ⟨s!"workload {workload} not supported"⟩

def graph500Args (bin : String := "/data/omp-csr") (s : Int := 24) (e : Int := 24) (n : Int := 10) :
    String :=
  s!"{bin} -V -s {s} -e {e} -n {n} "

def pagerankArgs (bin : String := "/data/pr") (f : String := "/data/twitter.sg") (i : Int := 20)
    (n : Int := 5) : String :=
  s!"{bin} -l -a -f {f} -n {n} -i {i} "

def xsbenchArgs (bin : String := "/data/XSBench") (t : Int := 4) (l : Int := 34) (g : Int := 25000)
    (p : Int := 10000000) : String :=
  s!"{bin} -m history -G unionized -t {t} -l {l} -g {g} -p {p} "

def bwavesArgs : String := "/data/bind-stdin /data/bwaves_s.in /data/bwaves_s "

def liblinearArgs (bin : String := "/data/train") (m : Int := 4) (s : Int := 2)
    (model : String := "/data/kdda") : String :=
  s!"{bin} -m {m} -s {s} {model} /dev/null "

def btreeArgs (bin : String := "/data/bench_btree_mt") (n : Int := 2 * 10 ^ 8) (l : Int := 2 * 10 ^ 10) :
    String :=
  s!"{bin} -- -n {n} -l {l} "

def siloArgs (bin : String := "/data/dbtest") (b : String := "ycsb") (t : Int := 4) (s : Int := 55000)
    (n : Int := 100000000) : String :=
  bin ++ " --verbose --slow-exit --parallel-loading " ++
    s!"--bench={b} --num-threads={t} --scale-factor={s} --ops-per-worker={n} "

/-! ### The words each builder renders -/

def unwords (ws : List String) : String := ⟨ws.flatMap fun w => w.data ++ [' ']⟩

@[simp] theorem unwords_data (ws : List String) :
    (unwords ws).data = ws.flatMap fun w => w.data ++ [' '] := rfl

theorem unwords_append (ws vs : List String) : unwords (ws ++ vs) = unwords ws ++ unwords vs := by
  simp [String.ext_iff]

def gupsWords (bin : String) (thread update granularity len : Int) (workload : String) (hot weight : Int)
    (reverse : Bool) (exponent : String) (report dramRatio : Option Int) : List String :=
  let delta := ((2 <<< 20 : Nat) : Int) * thread
  [bin, s!"--thread={thread}", s!"--update={update}", s!"--len={len - delta}",
      s!"--granularity={granularity}"] ++
    (report.toList.flatMap fun report => [s!"--report={report}"]) ++
    (dramRatio.toList.flatMap fun dramRatio => ["--dram-ratio", toString dramRatio]) ++
    (if workload = "hotset" then [workload, s!"--hot={hot - delta}", s!"--weight={weight}"]
      else if workload = "zipf" then [workload, s!"--exponent={exponent}"] else []) ++
    (if (workload = "hotset" ∨ workload = "zipf") ∧ reverse then ["--reverse"] else [])

theorem ifSome_unwords {α : Type} (x : Option α) (words : α → List String) :
    ifSome x (fun a => unwords (words a)) = unwords (x.toList.flatMap words) := by
  cases x
  · rfl
  · simp [ifSome]

theorem gupsArgs_ok (bin : String) (thread update granularity len : Int) (workload : String)
    (hot weight : Int) (reverse : Bool) (exponent : String) (report dramRatio : Option Int)
    (supported : workload ∈ ["hotset", "zipf", "random"]) :
    gupsArgs bin thread update granularity len workload hot weight reverse exponent report dramRatio =
      .ok (unwords (gupsWords bin thread update granularity len workload hot weight reverse exponent
        report dramRatio)) := by
  have common (len : Int) :
      s!"{bin} --thread={thread} --update={update} --len={len} --granularity={granularity} " =
        unwords [bin, s!"--thread={thread}", s!"--update={update}", s!"--len={len}",
          s!"--granularity={granularity}"] := by
    simp [String.ext_iff, toString]
  have reportText : (fun r : Int => s!"--report={r} ") = fun r => unwords [s!"--report={r}"] := by
    funext r
    simp [String.ext_iff, toString]
  have dramText : (fun d : Int => s!"--dram-ratio {d} ") = fun d => unwords ["--dram-ratio", toString d] := by
    funext d
    simp [String.ext_iff, toString]
  have hotset (w : String) (hot : Int) :
      s!"{w} --hot={hot} --weight={weight} " = unwords [w, s!"--hot={hot}", s!"--weight={weight}"] := by
    simp [String.ext_iff, toString]
  have zipf (w : String) : s!"{w} --exponent={exponent} " = unwords [w, s!"--exponent={exponent}"] := by
    simp [String.ext_iff, toString]
  have flag : (if reverse = true then "--reverse " else "") = unwords (if reverse then ["--reverse"] else []) := by
    cases reverse <;> rfl
  have names : "zipf" ≠ "hotset" ∧ "random" ≠ "hotset" ∧ "random" ≠ "zipf" := by decide
  simp only [List.mem_cons, List.not_mem_nil, or_false] at supported
  simp only [gupsArgs, gupsWords, common, reportText, dramText, ifSome_unwords, ← unwords_append]
  rcases supported with rfl | rfl | rfl
  · simp only [if_pos, hotset, flag, ← unwords_append, true_or, true_and]
  · simp only [if_pos, if_neg names.1, zipf, flag, ← unwords_append, or_true, true_and]
  · simp [names, unwords_append]

theorem gupsArgs_unsupported (bin : String) (thread update granularity len : Int) (workload : String)
    (hot weight : Int) (reverse : Bool) (exponent : String) (report dramRatio : Option Int)
    (unsupported : workload ∉ ["hotset", "zipf", "random"]) :
    gupsArgs bin thread update granularity len workload hot weight reverse exponent report dramRatio =
      .error ⟨s!"workload {workload} not supported"⟩ := by
  simp only [List.mem_cons, List.not_mem_nil, or_false, not_or] at unsupported
  simp [gupsArgs, unsupported.1, unsupported.2.1, unsupported.2.2]

end DemeterBench
