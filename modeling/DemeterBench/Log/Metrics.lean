import DemeterBench.Log.Double
import DemeterBench.Log.Matching
import DemeterBench.Vm.KvmLogs
import Mathlib.Data.String.Basic

set_option autoImplicit false

/-!
# `script/parse_log.py`

The metrics `parse_log` reads from the archive of runs. Each run folder holds one folder per VM,
named by its number, with the files the benchmark left there; a metric searches one of them
with a pattern and keeps its default when the file is missing, cannot be read, or has no match.
`TRANSFORM` (a jq program) turns each VM's metrics into one record, and `parse_log` collects the
records of a slice of the run folders sorted by name. The DataFrame `json_normalize` builds from the records, and the logging, are left out.
-/

namespace DemeterBench.ParseLog

open Re

/-- A value a metric holds, as `asdict` and the JSON round trip carry it. -/
inductive PyValue where
  | none
  | str (s : String)
  | int (n : Int)
  | float (x : Double)
  deriving DecidableEq, Repr

/-- The exceptions that escape `parse_log`. -/
inductive Raised where
  | osError
  | reError
  | unicodeDecodeError
  | indexError
  | keyError
  | typeError
  | valueError
  deriving DecidableEq, Repr

/-- A file of a VM folder: missing, unreadable, not text in the locale's encoding, or text. -/
inductive LogFile where
  | missing
  | unreadable
  | undecodable
  | text (s : String)
  deriving DecidableEq, Repr

structure Metric where
  key : String
  value : PyValue
  deriving DecidableEq, Repr

/-! ### Python's conversions of a captured text -/

/-- Python's `float(s)` on a decimal text, the only texts that reach it here. -/
def pyFloat (s : List Char) : Option Double :=
  match s.span (· != '.') with
  | (whole, []) => if whole ≠ [] ∧ whole.all Char.isDigit then some (.ofNat (digitsValue whole)) else none
  | (whole, _ :: frac) =>
    if (whole ≠ [] ∨ frac ≠ []) ∧ whole.all Char.isDigit ∧ frac.all Char.isDigit then
      some (.ofFrac (digitsValue whole * 10 ^ frac.length + digitsValue frac) (10 ^ frac.length))
    else none

def isHexDigit (c : Char) : Bool := c.isDigit || ('a' ≤ c && c ≤ 'f') || ('A' ≤ c && c ≤ 'F')

def hexDigitValue (c : Char) : Nat :=
  if c.isDigit then c.toNat - '0'.toNat
  else if c ≤ 'F' then c.toNat - 'A'.toNat + 10 else c.toNat - 'a'.toNat + 10

/-- Python's `int(s, 0)` on a hexadecimal literal; only such literals reach it here. -/
def pyIntBase0 : List Char → Option Int
  | '0' :: x :: ds =>
    if (x = 'x' ∨ x = 'X') ∧ ds ≠ [] ∧ ds.all isHexDigit then
      some (ds.foldl (fun acc c => 16 * acc + hexDigitValue c) 0 : Nat)
    else none
  | _ => none

/-! ### A match, as `parse_log` reads it -/

/-- `m.group(name)`; `IndexError` for a name the pattern does not have. -/
def group (pattern : Node) (caps : Captures) (name : String) : Except Raised PyValue :=
  if name ∈ pattern.groupNames then .ok (((caps.lookup name).map fun t => PyValue.str ⟨t⟩).getD .none)
  else .error .indexError

/-- `m.groupdict()`: each named group with what it captured, `None` if it took no part. -/
def groupdict (pattern : Node) (caps : Captures) : List (String × Option String) :=
  pattern.groupNames.map fun name => (name, (caps.lookup name).map String.mk)

/-- `re.compile(regex)`; `re.error` is not caught. -/
def compiled (regex : String) : Except Raised Node :=
  match compile regex with
  | some pattern => .ok pattern
  | none => .error .reError

/-- The `try` block of the `__post_init__`s; an `OSError` from the read keeps the default. -/
def readMetric (key : String) (value : PyValue) (file : LogFile) (pattern : Node)
    (read : Node → Captures → Except Raised PyValue) : Except Raised Metric :=
  match file with
  | .text s =>
    match search pattern s.data with
    | some caps => return ⟨key, ← read pattern caps⟩
    | none => return ⟨key, value⟩
  | .undecodable => .error .unicodeDecodeError
  | .missing | .unreadable => return ⟨key, value⟩

/-- The shared `__post_init__` of `RegexMetric` and `FnRegexMetric`. -/
def searchMetric (key : String) (value : PyValue) (file : LogFile) (regex : String)
    (read : Node → Captures → Except Raised PyValue) : Except Raised Metric :=
  match file with
  | .missing => .ok ⟨key, value⟩
  | file => do readMetric key value file (← compiled regex) read

def regexMetric (key : String) (value : PyValue) (file : LogFile) (regex : String) :
    Except Raised Metric :=
  searchMetric key value file regex fun pattern caps => group pattern caps key

def fnRegexMetric (key : String) (value : PyValue) (file : LogFile) (regex : String)
    (fn : List (String × Option String) → Except Raised PyValue) : Except Raised Metric :=
  searchMetric key value file regex fun pattern caps => fn (groupdict pattern caps)

/-- `ElapsedMetric.regex`: the line of GNU time's verbose report. -/
def elapsedRegex : String :=
  "Elapsed \\(wall clock\\) time \\(h:mm:ss or m:ss\\): ((?P<hh>\\d+):)?(?P<mm>\\d+):(?P<ss>\\d+\\.?\\d*)"

/-- `float(d.get(k) or 0)`: a group that took no part, or captured nothing, counts as 0. -/
def floatOrZero (d : List (String × Option String)) (k : String) : Except Raised Double :=
  match (d.lookup k).join with
  | some t => if t = "" then .ok (.ofNat 0) else match pyFloat t.data with
    | some x => .ok x
    | none => .error .valueError
  | none => .ok (.ofNat 0)

/-- `ElapsedMetric.fn`; `sum` starts from the int `0`. -/
def elapsedFn (d : List (String × Option String)) : Except Raised PyValue :=
  PyValue.float <$> (["hh", "mm", "ss"].zip [3600, 60, 1]).foldlM
    (fun total (k, r) => return total.add ((← floatOrZero d k).mul (.ofNat r))) (.ofNat 0)

def elapsedMetric (key : String) (value : PyValue) (file : LogFile) : Except Raised Metric :=
  fnRegexMetric key value file elapsedRegex elapsedFn

/-! ### The metric table -/

def FLOAT : String := "[+-]?(\\d*\\.\\d+|\\d+\\.)([eE][+-]?\\d+)?"

def KERNEL : String := "\\d+\\.\\d+\\.\\d+(-\\w+)?\\+?"

/-- `dict(...).get(d[k], d[k])`. -/
def displayName (names : List (String × String)) (k : String) (d : List (String × Option String)) :
    Except Raised PyValue :=
  match d.lookup k with
  | some (some t) => .ok (.str ((names.lookup t).getD t))
  | some none => .ok .none
  | none => .error .keyError

/-- `int(d[k], 0)`. -/
def intOfGroup (k : String) (d : List (String × Option String)) : Except Raised PyValue :=
  match d.lookup k with
  | some (some t) => match pyIntBase0 t.data with
    | some n => .ok (.int n)
    | none => .error .valueError
  | some none => .error .typeError
  | none => .error .keyError

inductive Fn where
  | design
  | balloon
  | threshold
  deriving DecidableEq, Repr

def Fn.apply : Fn → List (String × Option String) → Except Raised PyValue
  | .design => displayName [("tpp", "TPP"), ("nomad", "Nomad"), ("memtis", "Memtis"), ("demeter", "Demeter")]
      "design"
  | .balloon => displayName [("demeter", "Demeter Balloon"), ("virtio", "VirtIO Balloon")] "balloon"
  | .threshold => intOfGroup "load_latency_threshold"

inductive MetricDef where
  | regex (key : String) (value : PyValue) (file regex : String)
  | fnRegex (key : String) (value : PyValue) (file regex : String) (fn : Fn)
  | elapsed (key : String) (value : PyValue) (file : String)
  deriving DecidableEq, Repr

def MetricDef.key : MetricDef → String
  | .regex key .. | .fnRegex key .. | .elapsed key .. => key

def MetricDef.value : MetricDef → PyValue
  | .regex _ value .. | .fnRegex _ value .. | .elapsed _ value _ => value

def MetricDef.file : MetricDef → String
  | .regex _ _ file _ | .fnRegex _ _ file .. | .elapsed _ _ file => file

def MetricDef.pattern : MetricDef → String
  | .regex _ _ _ r | .fnRegex _ _ _ r _ => r
  | .elapsed .. => elapsedRegex

def MetricDef.init (files : String → LogFile) : MetricDef → Except Raised Metric
  | .regex key value file r => regexMetric key value (files file) r
  | .fnRegex key value file r fn => fnRegexMetric key value (files file) r fn.apply
  | .elapsed key value file => elapsedMetric key value (files file)

/-- The table of `VmMetrics.__post_init__` after its first three, file-less, metrics. -/
def vmMetricDefs : List MetricDef := [
  .regex "kernel" .none "cloud-hypervisor.stdout"
    s!"Linux version (?P<kernel>{KERNEL})",
  .fnRegex "design" .none "cloud-hypervisor.stdout"
    "Linux version (?P<kernel>\\d+\\.\\d+\\.\\d+(-(?P<design>\\w+))?\\+?)"
    .design,
  .fnRegex "balloon" (.str "Static") "dmesg"
    "initcall init_module\\+0x0/0x1000 \\[(?P<balloon>\\w+)_balloon\\]"
    .balloon,
  .regex "pgmigrate_success" .none "vmstat"
    "pgmigrate_success (?P<pgmigrate_success>\\d+)",
  .regex "folio_exchange_success" .none "vmstat"
    "folio_exchange_success (?P<folio_exchange_success>\\d+)",
  .regex "folio_exchange_failed" .none "vmstat"
    "folio_exchange_failed (?P<folio_exchange_failed>\\d+)",
  .regex "pebs_nr_sampled" .none "vmstat"
    "pebs_nr_sampled (?P<pebs_nr_sampled>\\d+)",
  .regex "pebs_nr_sampled_fmem" .none "vmstat"
    "pebs_nr_sampled_fmem (?P<pebs_nr_sampled_fmem>\\d+)",
  .regex "pebs_nr_sampled_smem" .none "vmstat"
    "pebs_nr_sampled_smem (?P<pebs_nr_sampled_smem>\\d+)",
  .regex "gups_throughput" .none "gups.log"
    s!"iteration (?P<label>last) final (?P<gups_throughput>{FLOAT}) elapsed (?P<gups_elapsed>{FLOAT})s",
  .regex "gups_elapsed" .none "gups.log"
    s!"iteration (?P<label>last) final (?P<gups_throughput>{FLOAT}) elapsed (?P<gups_elapsed>{FLOAT})s",
  .regex "exit_status" .none "gups.err"
    "Exit status: (?P<exit_status>\\d+)",
  .regex "percent_of_cpu" .none "gups.err"
    "Percent of CPU this job got: (?P<percent_of_cpu>\\d+)%",
  .regex "user_time" .none "gups.err"
    s!"User time \\(seconds\\): (?P<user_time>{FLOAT})",
  .regex "system_time" .none "gups.err"
    s!"System time \\(seconds\\): (?P<system_time>{FLOAT})",
  .elapsed "gups" .none "gups.err",
  .elapsed "xsbench" .none "xsbench.err",
  .elapsed "graph500" .none "graph500.err",
  .elapsed "pagerank" .none "pagerank.err",
  .elapsed "liblinear" .none "liblinear.err",
  .elapsed "bwaves" .none "bwaves.err",
  .elapsed "btree" .none "btree.err",
  .elapsed "silo" .none "silo.err",
  .regex "memtis_cpu_usage" .none "cloud-hypervisor.stdout"
    "total runtime: (?P<memtis_runtime>\\d+) ns, total cputime: (?P<memtis_cputime>\\d+) us, cpu usage: (?P<memtis_cpu_usage>\\d+)",
  .regex "dram_ratio_first_gib" .none "gups.log"
    s!"iteration (?P<label>last) dram portion per gb: \\[(?P<dram_ratio_first_gib>{FLOAT})(, {FLOAT})*, (?P<dram_ratio_last_gib>{FLOAT})\\]",
  .regex "dram_ratio_last_gib" .none "gups.log"
    s!"iteration (?P<label>last) dram portion per gb: \\[(?P<dram_ratio_first_gib>{FLOAT})(, {FLOAT})*, (?P<dram_ratio_last_gib>{FLOAT})\\]",
  .regex "local_dram_miss_sample_period" .none "cloud-hypervisor.stdout"
    "created config=0x1d3 sample_period=(?P<local_dram_miss_sample_period>\\d+)",
  .regex "load_latency_sample_period" .none "cloud-hypervisor.stdout"
    "created config=0x1cd config1=(?P<load_latency_threshold>0x[\\da-f]+) sample_period=(?P<load_latency_sample_period>\\d+)",
  .fnRegex "load_latency_threshold" .none "cloud-hypervisor.stdout"
    "created config=0x1cd config1=(?P<load_latency_threshold>0x[\\da-f]+) sample_period=(?P<load_latency_sample_period>\\d+)"
    .threshold,
  .regex "retired_stores_sample_period" .none "cloud-hypervisor.stdout"
    "created config=0x82d0 sample_period=(?P<retired_stores_sample_period>\\d+)",
  .regex "util_overflow_handler" .none "cloud-hypervisor.stdout"
    "overflow_handler=(?P<overflow_handler_ns>\\d+) permyriad=(?P<util_overflow_handler>\\d+)",
  .regex "overflow_handler_ns" .none "cloud-hypervisor.stdout"
    "overflow_handler=(?P<overflow_handler_ns>\\d+) permyriad=(?P<util_overflow_handler>\\d+)",
  .regex "util_policy" .none "cloud-hypervisor.stdout"
    "policy=(?P<policy_ns>\\d+) permyriad=(?P<util_policy>\\d+)",
  .regex "policy_ns" .none "cloud-hypervisor.stdout"
    "policy=(?P<policy_ns>\\d+) permyriad=(?P<util_policy>\\d+)",
  .regex "util_migration" .none "cloud-hypervisor.stdout"
    "migration=(?P<migration_ns>\\d+) permyriad=(?P<util_migration>\\d+)",
  .regex "migration_ns" .none "cloud-hypervisor.stdout"
    "migration=(?P<migration_ns>\\d+) permyriad=(?P<util_migration>\\d+)",
  .regex "util_perf_prepare" .none "cloud-hypervisor.stdout"
    "perf_prepare=(?P<perf_prepare_ns>\\d+) permyriad=(?P<util_perf_prepare>\\d+)",
  .regex "perf_prepare_ns" .none "cloud-hypervisor.stdout"
    "perf_prepare=(?P<perf_prepare_ns>\\d+) permyriad=(?P<util_perf_prepare>\\d+)",
  .regex "util_split" .none "cloud-hypervisor.stdout"
    "split=(?P<split_ns>\\d+) permyriad=(?P<util_split>\\d+)",
  .regex "split_ns" .none "cloud-hypervisor.stdout"
    "split=(?P<split_ns>\\d+) permyriad=(?P<util_split>\\d+)",
  .regex "ptea_scan_ns" .none "vmstat"
    "ptea_scan_ns (?P<ptea_scan_ns>\\d+)",
  .regex "ptea_scanned" .none "vmstat"
    "ptea_scanned (?P<ptea_scanned>\\d+)",
  .regex "lru_rotate_ns" .none "vmstat"
    "lru_rotate_ns (?P<lru_rotate_ns>\\d+)",
  .regex "demote_ns" .none "vmstat"
    "demote_ns (?P<demote_ns>\\d+)",
  .regex "hint_fault_ns" .none "vmstat"
    "hint_fault_ns (?P<hint_fault_ns>\\d+)",
  .regex "promote_ns" .none "vmstat"
    "promote_ns (?P<promote_ns>\\d+)",
  .regex "sampling_ns" .none "vmstat"
    "sampling_ns (?P<sampling_ns>\\d+)",
  .regex "ptext_ns" .none "vmstat"
    "ptext_ns (?P<ptext_ns>\\d+)",
  .regex "split_period_ms" .none "gups.err"
    "split_period_ms=(?P<split_period_ms>\\d+)",
  .regex "rtree_split_thresh" .none "gups.err"
    "rtree_split_thresh=(?P<rtree_split_thresh>\\d+)",
  .regex "nr_tlb_remote_flush" .none "vmstat"
    "nr_tlb_remote_flush (?P<nr_tlb_remote_flush>\\d+)",
  .regex "nr_tlb_local_flush_all" .none "vmstat"
    "nr_tlb_local_flush_all (?P<nr_tlb_local_flush_all>\\d+)",
  .regex "nr_tlb_local_flush_one" .none "vmstat"
    "nr_tlb_local_flush_one (?P<nr_tlb_local_flush_one>\\d+)",
  .regex "tlb_flush" .none "kvm/tlb_flush"
    "(?P<tlb_flush>\\d+)",
  .regex "remote_tlb_flush" .none "kvm/remote_tlb_flush"
    "(?P<remote_tlb_flush>\\d+)",
  .regex "silo_p50_latency" .none "silo.err"
    "p50_latency: (?P<silo_p50_latency>\\d+.?\\d*) ns",
  .regex "silo_p90_latency" .none "silo.err"
    "p90_latency: (?P<silo_p90_latency>\\d+.?\\d*) ns",
  .regex "silo_p95_latency" .none "silo.err"
    "p95_latency: (?P<silo_p95_latency>\\d+.?\\d*) ns",
  .regex "silo_p99_latency" .none "silo.err"
    "p99_latency: (?P<silo_p99_latency>\\d+.?\\d*) ns"

]

/-- `VmMetrics.__post_init__`; the first exception escapes. -/
def vmMetrics (runid vmid : String) (vmnum : Nat) (files : String → LogFile) :
    Except Raised (List Metric) := do
  let found ← vmMetricDefs.mapM (·.init files)
  return [⟨"runid", .str runid⟩, ⟨"vmid", .str vmid⟩, ⟨"vmnum", .str (toString vmnum)⟩] ++ found

/-! ### Runs and the archive -/

/-- `str.isdigit`, `digit` standing for the Unicode database's digits. -/
def isDigitName (digit : Char → Bool) (name : String) : Bool := name ≠ "" && name.data.all digit

inductive RunEntry where
  | folder (name : String) (files : String → LogFile)
  | other (name : String)

/-- `p.is_dir() and p.name.isdigit()`: a VM folder, with its name and files. -/
def RunEntry.vmFolder (digit : Char → Bool) : RunEntry → Option (String × (String → LogFile))
  | .folder name files => if isDigitName digit name then some (name, files) else none
  | .other _ => none

/-- `RunMetrics.__post_init__` on a run folder's listing, `none` where `iterdir` raises `OSError`. -/
def runMetrics (digit : Char → Bool) (runid : String) :
    Option (List RunEntry) → Except Raised (List (List Metric))
  | none => .error .osError
  | some entries =>
    let vms := entries.filterMap (RunEntry.vmFolder digit)
    vms.mapM fun (vmid, files) => vmMetrics runid vmid vms.length files

/-- jq's `add` of one-key objects: a later key replaces the value of an earlier one in place. -/
def addObject (record : List (String × PyValue)) (m : Metric) : List (String × PyValue) :=
  if record.any (·.1 == m.key) then record.map fun e => if e.1 = m.key then (e.1, m.value) else e
  else record ++ [(m.key, m.value)]

/-- `TRANSFORM`: `.vms | map(.metrics | map({ (.key): (.value) }) | add)`. -/
def transform (vms : List (List Metric)) : List (List (String × PyValue)) :=
  vms.map fun metrics => metrics.foldl addObject []

inductive ArchiveEntry where
  | run (name : String) (entries : Option (List RunEntry))
  | other (name : String)

def ArchiveEntry.runFolder : ArchiveEntry → Option (String × Option (List RunEntry))
  | .run name entries => some (name, entries)
  | .other _ => none

def sliceBound (len : Nat) (i : Int) : Nat := if i < 0 then (i + len).toNat else Nat.min i.toNat len

def pySlice {α : Type} (xs : List α) (start : Int) (stop : Option Int) : List α :=
  let lo := sliceBound xs.length start
  let hi := (stop.map (sliceBound xs.length)).getD xs.length
  (xs.drop lo).take (hi - lo)

/-- The run folders of the archive sorted by name, as `sorted(..., key=lambda x: x.name)`. -/
def sortedRuns (archive : List ArchiveEntry) : List (String × Option (List RunEntry)) :=
  (archive.filterMap ArchiveEntry.runFolder).mergeSort fun a b => decide (a.1 ≤ b.1)

def records (digit : Char → Bool) (runs : List (String × Option (List RunEntry))) :
    Except Raised (List (List (String × PyValue))) := do
  let data ← runs.mapM fun (name, entries) => transform <$> runMetrics digit name entries
  return data.flatten

/-- `parse_log(start, stop, dir)` up to the DataFrame, `none` where `iterdir` raises `OSError`. -/
def parseLog (digit : Char → Bool) (archive : Option (List ArchiveEntry)) (start : Int)
    (stop : Option Int) : Except Raised (List (List (String × PyValue))) :=
  match archive with
  | none => .error .osError
  | some archive => records digit (pySlice (sortedRuns archive) start stop)

end DemeterBench.ParseLog
