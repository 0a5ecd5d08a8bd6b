import DemeterBench.Log.Metrics

set_option autoImplicit false

/-!
# The patterns of the metric table

What the readers of the table's metrics rely on: Python's `float()` and `int(x, 0)` accept the
texts the elapsed and threshold patterns capture, and every pattern of the table compiles and
has the group its metric reads. The facts about the whole table are checked by evaluation.
-/

namespace DemeterBench.ParseLog

open Re

/-! ### Python's conversions of the texts the patterns capture -/

theorem span_append_of_all {p : Char → Bool} {l₁ l₂ : List Char} (all : ∀ a ∈ l₁, p a)
    (stop : ∀ b rest, l₂ = b :: rest → p b = false) : (l₁ ++ l₂).span p = (l₁, l₂) := by
  rw [List.span_eq_take_drop, List.takeWhile_append_of_pos all, List.dropWhile_append_of_pos all]
  cases l₂ with
  | nil => simp
  | cons b rest => simp [stop b rest rfl]

theorem not_point_of_isDigit {c : Char} (digit : c.isDigit) : (c != '.') = true := by
  have differ : c ≠ '.' := by rintro rfl; exact absurd digit (by decide)
  simpa using differ

theorem pyFloat_digits {ds : List Char} (nonempty : ds ≠ []) (digits : ∀ c ∈ ds, c.isDigit) :
    pyFloat ds = some (.ofNat (digitsValue ds)) := by
  have whole := @span_append_of_all _ ds [] (fun c mem => not_point_of_isDigit (digits c mem))
    (fun _ _ h => nomatch h)
  rw [List.append_nil] at whole
  simp only [pyFloat, whole]
  simp [nonempty, List.all_eq_true.mpr digits]

theorem pyFloat_point {whole frac : List Char} (nonempty : whole ≠ []) (wholeDigits : ∀ c ∈ whole, c.isDigit)
    (fracDigits : ∀ c ∈ frac, c.isDigit) :
    pyFloat (whole ++ '.' :: frac) =
      some (.ofFrac (digitsValue whole * 10 ^ frac.length + digitsValue frac) (10 ^ frac.length)) := by
  have split := @span_append_of_all _ whole ('.' :: frac) (fun c mem => not_point_of_isDigit (wholeDigits c mem))
    (fun b rest h => by cases h; rfl)
  simp only [pyFloat, split]
  simp [nonempty, List.all_eq_true.mpr wholeDigits, List.all_eq_true.mpr fracDigits]

/-! ### The patterns the readers depend on -/

def digitsNode : Node := .rep 1 none (.set [.digit])

def elapsedPhrase : List Char := "Elapsed (wall clock) time (h:mm:ss or m:ss): ".data

def hoursNode : Node := .rep 0 (some 1) (.group none (seqOf [.group (some "hh") (seqOf [digitsNode]), .lit ':']))

def secondsNode : Node :=
  .group (some "ss") (seqOf [digitsNode, .rep 0 (some 1) (.lit '.'), .rep 0 none (.set [.digit])])

def elapsedNode : Node :=
  seqOf (lits elapsedPhrase ++ [hoursNode, .group (some "mm") (seqOf [digitsNode]), .lit ':', secondsNode])

theorem compile_elapsedRegex : compile elapsedRegex = some elapsedNode := by decide

def thresholdRegex : String :=
  "created config=0x1cd config1=(?P<load_latency_threshold>0x[\\da-f]+) sample_period=(?P<load_latency_sample_period>\\d+)"

def thresholdNode : Node :=
  seqOf (lits "created config=0x1cd config1=".data ++
    [.group (some "load_latency_threshold") (seqOf (lits "0x".data ++ [.rep 1 none (.set [.digit, .range 'a' 'f'])]))] ++
    lits " sample_period=".data ++ [.group (some "load_latency_sample_period") (seqOf [digitsNode])])

theorem compile_thresholdRegex : compile thresholdRegex = some thresholdNode := by decide

def MetricDef.readsGroup : MetricDef → Option String
  | .regex key .. => some key
  | .fnRegex _ _ _ _ .design => some "design"
  | .fnRegex _ _ _ _ .balloon => some "balloon"
  | _ => none

def MetricDef.wellFormed : MetricDef → Bool
  | .fnRegex _ _ _ r .threshold => r == thresholdRegex
  | .elapsed .. => true
  | d => match compile d.pattern, d.readsGroup with
    | some p, some n => n ∈ p.groupNames
    | _, _ => false

set_option maxRecDepth 20000 in
theorem vmMetricDefs_wellFormed : ∀ d ∈ vmMetricDefs, d.wellFormed := by decide

end DemeterBench.ParseLog
