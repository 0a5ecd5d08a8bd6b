import DemeterBench.Log.Table
import Mathlib.Data.List.Forall2

set_option autoImplicit false

/-!
# What `parse_log` returns

What each metric of the table can raise, the record `TRANSFORM` makes of a VM folder, and the
slice of the archive `parse_log` reads.
-/

namespace DemeterBench.ParseLog

open Re

/-! ### Lists of steps that can raise -/

section MapM

variable {α β ε : Type} {f : α → Except ε β}

theorem bind_eq_ok_iff {γ : Type} {x : Except ε α} {g : α → Except ε γ} {r : γ} :
    (x >>= g) = .ok r ↔ ∃ a, x = .ok a ∧ g a = .ok r := by
  cases x <;> simp [bind, Except.bind]

theorem map_eq_ok_iff {γ : Type} {g : α → γ} {x : Except ε α} {r : γ} :
    (g <$> x) = .ok r ↔ ∃ a, x = .ok a ∧ g a = r := by
  cases x <;> simp [Functor.map, Except.map]

theorem mapM_eq_ok_iff : ∀ {xs : List α} {ys : List β},
    xs.mapM f = .ok ys ↔ List.Forall₂ (fun x y => f x = .ok y) xs ys
  | [], ys => by
    rw [List.mapM_nil, List.forall₂_nil_left_iff]
    exact ⟨fun h => (Except.ok.inj h).symm, fun h => h ▸ rfl⟩
  | x :: xs, ys => by
    simp only [List.mapM_cons, bind_eq_ok_iff, mapM_eq_ok_iff, List.forall₂_cons_left_iff, pure, Except.pure,
      Except.ok.injEq]
    exact ⟨fun ⟨y, head, zs, tail, built⟩ => ⟨y, zs, head, tail, built.symm⟩,
      fun ⟨y, zs, head, tail, built⟩ => ⟨y, head, zs, tail, built.symm⟩⟩

theorem exists_of_forall₂ {R : α → β → Prop} : ∀ {xs : List α} {ys : List β}, List.Forall₂ R xs ys →
    ∀ x ∈ xs, ∃ y ∈ ys, R x y
  | _, _, .nil, _, mem => nomatch mem
  | _, _, .cons head tail, x, mem => by
    rcases List.mem_cons.mp mem with rfl | mem
    · exact ⟨_, List.mem_cons_self _ _, head⟩
    · obtain ⟨y, found, related⟩ := exists_of_forall₂ tail x mem
      exact ⟨y, List.mem_cons_of_mem _ found, related⟩

end MapM

theorem lookup_map_self {γ : Type} (g : String → γ) (k : String) :
    ∀ names : List String, (names.map fun n => (n, g n)).lookup k = if k ∈ names then some (g k) else none
  | [] => rfl
  | n :: names => by
    by_cases same : k = n
    · subst same; simp
    · have differ : (k == n) = false := by simp [same]
      simp only [List.map_cons, List.lookup_cons, differ, List.mem_cons, same, false_or]
      exact lookup_map_self g k names

theorem lookup_groupdict {pattern : Node} {n : String} (caps : Captures) (named : n ∈ pattern.groupNames) :
    (groupdict pattern caps).lookup n = some ((caps.lookup n).map String.mk) := by
  rw [groupdict, lookup_map_self, if_pos named]

/-! ### What a metric can raise -/

section ReadMetric

variable {key : String} {value : PyValue} {file : LogFile} {regex : String}
  {read : Node → Captures → Except Raised PyValue} {pattern : Node}

theorem searchMetric_of_compile (compiles : compile regex = some pattern) :
    searchMetric key value file regex read = readMetric key value file pattern read := by
  cases file <;> simp [searchMetric, compiled, compiles, readMetric, bind, Except.bind, pure, Except.pure]

theorem readMetric_default (skipped : file = .missing ∨ file = .unreadable) :
    readMetric key value file pattern read = .ok ⟨key, value⟩ := by
  rcases skipped with rfl | rfl <;> rfl

theorem readMetric_key {m : Metric} (h : readMetric key value file pattern read = .ok m) : m.key = key := by
  cases file with
  | text s =>
    simp only [readMetric] at h
    split at h
    · cases hv : read pattern _ <;> rw [hv] at h <;> cases h; rfl
    · cases h; rfl
  | undecodable => cases h
  | missing | unreadable => cases h; rfl

end ReadMetric


/-! ### The readers -/

theorem floatOrZero_captured {caps : Captures} {k : String} (named : k ∈ elapsedNode.groupNames) {t : List Char}
    (found : caps.lookup k = some t) (nonempty : t ≠ []) {x : Double} (parsed : pyFloat t = some x) :
    floatOrZero (groupdict elapsedNode caps) k = .ok x := by
  have text : String.mk t ≠ "" := fun blank => nonempty (congrArg String.data blank)
  simp [floatOrZero, lookup_groupdict caps named, found, text, parsed]

theorem floatOrZero_absent {caps : Captures} {k : String} (named : k ∈ elapsedNode.groupNames)
    (found : caps.lookup k = none) : floatOrZero (groupdict elapsedNode caps) k = .ok (.ofNat 0) := by
  rw [floatOrZero, lookup_groupdict caps named, found]
  rfl

theorem elapsedFn_eq {d : List (String × Option String)} {hh mm ss : Double} (hours : floatOrZero d "hh" = .ok hh)
    (minutes : floatOrZero d "mm" = .ok mm) (seconds : floatOrZero d "ss" = .ok ss) :
    elapsedFn d = .ok (.float ((((Double.ofNat 0).add (hh.mul (.ofNat 3600))).add (mm.mul (.ofNat 60))).add
      (ss.mul (.ofNat 1)))) := by
  simp only [elapsedFn, List.zip_cons_cons, List.zip_nil_right, List.foldlM_cons, List.foldlM_nil, hours,
    minutes, seconds, bind, Except.bind, pure, Except.pure, Functor.map, Except.map]

theorem MetricDef.compiles {d : MetricDef} (wf : d.wellFormed) :
    ∃ p, compile d.pattern = some p ∧ ∀ n, d.readsGroup = some n → n ∈ p.groupNames := by
  have matched : ∀ {r : String} {g : Option String}, (match compile r, g with
      | some p, some n => decide (n ∈ p.groupNames)
      | _, _ => false) = true → ∃ p, compile r = some p ∧ ∀ n, g = some n → n ∈ p.groupNames := by
    intro r g wf
    split at wf
    · rename_i p n found
      exact ⟨p, found, fun _ same => Option.some.inj same ▸ of_decide_eq_true wf⟩
    · cases wf
  cases d with
  | regex => exact matched wf
  | fnRegex key value file r fn =>
    cases fn with
    | threshold =>
      simp only [MetricDef.wellFormed, beq_iff_eq] at wf
      exact ⟨_, wf ▸ compile_thresholdRegex, fun _ none => nomatch none⟩
    | design | balloon => exact matched wf
  | elapsed => exact ⟨_, compile_elapsedRegex, fun _ none => nomatch none⟩

theorem searchMetric_key {key : String} {value : PyValue} {file : LogFile} {regex : String}
    {read : Node → Captures → Except Raised PyValue} {m : Metric}
    (h : searchMetric key value file regex read = .ok m) : m.key = key := by
  cases hc : compile regex with
  | none =>
    cases file with
    | missing => cases h; rfl
    | _ => simp [searchMetric, compiled, hc, bind, Except.bind] at h
  | some p => exact readMetric_key ((searchMetric_of_compile hc).symm.trans h)

theorem MetricDef.init_key (files : String → LogFile) {d : MetricDef} {m : Metric}
    (h : d.init files = .ok m) : m.key = d.key := by
  cases d <;> exact searchMetric_key h

theorem init_keys (files : String → LogFile) : ∀ {ds : List MetricDef} {ms : List Metric},
    List.Forall₂ (fun d m => d.init files = .ok m) ds ms → ms.map Metric.key = ds.map MetricDef.key
  | _, _, .nil => rfl
  | _, _, .cons head tail => by
    rw [List.map_cons, List.map_cons, MetricDef.init_key files head, init_keys files tail]

theorem MetricDef.init_default {d : MetricDef} (wf : d.wellFormed) (files : String → LogFile)
    (skipped : files d.file = .missing ∨ files d.file = .unreadable) :
    d.init files = .ok ⟨d.key, d.value⟩ := by
  obtain ⟨p, compiles, -⟩ := MetricDef.compiles wf
  cases d <;> exact (searchMetric_of_compile compiles).trans (readMetric_default skipped)

theorem foldl_addObject : ∀ (ms : List Metric) (record : List (String × PyValue)),
    (ms.map Metric.key).Nodup → (∀ m ∈ ms, m.key ∉ record.map Prod.fst) →
      ms.foldl addObject record = record ++ ms.map fun m => (m.key, m.value)
  | [], record, _, _ => (List.append_nil _).symm
  | m :: ms, record, distinct, fresh => by
    rw [List.map_cons, List.nodup_cons] at distinct
    have new : record.any (·.1 == m.key) = false := by
      rw [List.any_eq_false]
      intro e mem same
      apply fresh m (List.mem_cons_self _ _)
      rw [← beq_iff_eq.mp same]
      exact List.mem_map_of_mem _ mem
    rw [List.foldl_cons, addObject, if_neg (by simp [new]),
      foldl_addObject ms _ distinct.2 fun m' mem => ?_, List.map_cons, List.append_assoc, List.singleton_append]
    simp only [List.map_append, List.map_cons, List.map_nil, List.mem_append, List.mem_singleton, not_or]
    exact ⟨fresh m' (List.mem_cons_of_mem _ mem), fun same => distinct.1 (same ▸ List.mem_map_of_mem _ mem)⟩

theorem vmMetric_keys_nodup : (["runid", "vmid", "vmnum"] ++ vmMetricDefs.map MetricDef.key).Nodup := by
  decide

section VmMetrics

variable {runid vmid : String} {vmnum : Nat} {files : String → LogFile} {ms : List Metric}

theorem vmMetrics_keys (computed : vmMetrics runid vmid vmnum files = .ok ms) :
    ms.map Metric.key = ["runid", "vmid", "vmnum"] ++ vmMetricDefs.map MetricDef.key := by
  obtain ⟨found, table, built⟩ := bind_eq_ok_iff.mp computed
  cases Except.ok.inj built
  rw [List.map_append, init_keys files (mapM_eq_ok_iff.mp table)]
  rfl

theorem foldl_addObject_vmMetrics (computed : vmMetrics runid vmid vmnum files = .ok ms) :
    ms.foldl addObject [] = ms.map fun m => (m.key, m.value) := by
  rw [foldl_addObject _ [] (vmMetrics_keys computed ▸ vmMetric_keys_nodup) (by simp), List.nil_append]

theorem vmMetrics_labels (computed : vmMetrics runid vmid vmnum files = .ok ms) :
    ms.take 3 = [⟨"runid", .str runid⟩, ⟨"vmid", .str vmid⟩, ⟨"vmnum", .str (toString vmnum)⟩] := by
  obtain ⟨found, -, built⟩ := bind_eq_ok_iff.mp computed
  cases Except.ok.inj built
  rfl

end VmMetrics

theorem vmMetrics_record (runid vmid : String) (vmnum : Nat) (files : String → LogFile) (ms : List Metric)
    (computed : vmMetrics runid vmid vmnum files = .ok ms) :
    ms.map Metric.key = ["runid", "vmid", "vmnum"] ++ vmMetricDefs.map MetricDef.key ∧
      transform [ms] = [ms.map fun m => (m.key, m.value)] ∧
      ∀ d ∈ vmMetricDefs, (files d.file = .missing ∨ files d.file = .unreadable) → ⟨d.key, d.value⟩ ∈ ms := by
  refine ⟨vmMetrics_keys computed, by rw [transform, List.map_singleton, foldl_addObject_vmMetrics computed],
    fun d mem skipped => ?_⟩
  obtain ⟨found, table, built⟩ := bind_eq_ok_iff.mp computed
  cases Except.ok.inj built
  obtain ⟨m, listed, init⟩ := exists_of_forall₂ (mapM_eq_ok_iff.mp table) d mem
  rw [MetricDef.init_default (vmMetricDefs_wellFormed d mem) files skipped] at init
  exact List.mem_append_right _ (Except.ok.inj init ▸ listed)

theorem vmMetrics_record_missing :
    ∃ ms, vmMetrics "20250101-000000" "0" 1 (fun _ => .missing) = .ok ms ∧
      (ms.map Metric.key = ["runid", "vmid", "vmnum"] ++ vmMetricDefs.map MetricDef.key ∧
        transform [ms] = [ms.map fun m => (m.key, m.value)] ∧
        ∀ d ∈ vmMetricDefs, ((fun _ => LogFile.missing) d.file = .missing ∨ (fun _ => LogFile.missing) d.file = .unreadable) →
          ⟨d.key, d.value⟩ ∈ ms) :=
  ⟨_, rfl, vmMetrics_record "20250101-000000" "0" 1 (fun _ => .missing) _ rfl⟩

/-! ### What `parse_log` raises -/

variable (digit : Char → Bool)

theorem pySlice_append {α : Type} (xs : List α) (start mid : Int) (stop : Option Int)
    (ordered : sliceBound xs.length start ≤ sliceBound xs.length mid)
    (within : sliceBound xs.length mid ≤ (stop.map (sliceBound xs.length)).getD xs.length) :
    pySlice xs start (some mid) ++ pySlice xs mid stop = pySlice xs start stop := by
  simp only [pySlice, Option.map_some', Option.getD_some]
  generalize sliceBound xs.length start = lo at *
  generalize sliceBound xs.length mid = m at *
  generalize (stop.map (sliceBound xs.length)).getD xs.length = hi at *
  have split : hi - lo = (m - lo) + (hi - m) := by omega
  have dropped : xs.drop m = (xs.drop lo).drop (m - lo) := by rw [List.drop_drop]; congr 1; omega
  rw [split, List.take_add, dropped]

theorem records_append (older newer : List (String × Option (List RunEntry))) :
    records digit (older ++ newer) = do
      let a ← records digit older
      let b ← records digit newer
      return a ++ b := by
  simp only [records, List.mapM_append, bind_assoc, pure_bind, List.flatten_append]

theorem parseLog_split (archive : Option (List ArchiveEntry)) (k : Nat) :
    (do
      let older ← parseLog digit archive (-(2 * k : Nat)) (some (-k))
      let newer ← parseLog digit archive (-k) none
      return older ++ newer) = parseLog digit archive (-(2 * k : Nat)) none := by
  cases archive with
  | none => rfl
  | some archive =>
    have ordered : sliceBound (sortedRuns archive).length (-(2 * k : Nat)) ≤
        sliceBound (sortedRuns archive).length (-k) := by
      simp only [sliceBound, Nat.min_def]; split_ifs <;> omega
    have within : sliceBound (sortedRuns archive).length (-k) ≤ (sortedRuns archive).length := by
      simp only [sliceBound, Nat.min_def]; split_ifs <;> omega
    simp only [parseLog]
    rw [← pySlice_append _ _ _ none ordered within, records_append]

/-! ### The rows of `parse_log` -/

theorem transform_labels (runid : String) (n : Nat) : ∀ {folders : List (String × (String → LogFile))}
    {vms : List (List Metric)}, List.Forall₂ (fun vm ms => vmMetrics runid vm.1 n vm.2 = .ok ms) folders vms →
      (transform vms).map (·.take 3) =
        folders.map fun vm => [("runid", .str runid), ("vmid", .str vm.1), ("vmnum", .str (toString n))]
  | _, _, .nil => rfl
  | _, _, .cons head tail => by
    rw [transform, List.map_cons, List.map_cons, foldl_addObject_vmMetrics head, ← List.map_take,
      vmMetrics_labels head]
    exact congrArg _ (transform_labels runid n tail)

theorem flatten_labels : ∀ {runs : List (String × Option (List RunEntry))}
    {data : List (List (List (String × PyValue)))},
    List.Forall₂ (fun run rows => (transform <$> runMetrics digit run.1 run.2) = .ok rows) runs data →
      data.flatten.map (·.take 3) = runs.flatMap fun run =>
        ((run.2.getD []).filterMap (RunEntry.vmFolder digit)).map fun vm =>
          [("runid", .str run.1), ("vmid", .str vm.1),
            ("vmnum", .str (toString ((run.2.getD []).filterMap (RunEntry.vmFolder digit)).length))]
  | _, _, .nil => rfl
  | (_, none) :: _, _, .cons head _ => nomatch head
  | (_, some _) :: _, _, .cons head tail => by
    obtain ⟨vms, computed, rfl⟩ := map_eq_ok_iff.mp head
    rw [List.flatten_cons, List.map_append, List.flatMap_cons, transform_labels _ _ (mapM_eq_ok_iff.mp computed),
      flatten_labels tail]
    rfl

theorem parseLog_labels (archive : Option (List ArchiveEntry)) (start : Int) (stop : Option Int)
    {rows : List (List (String × PyValue))} (parsed : parseLog digit archive start stop = .ok rows) :
    ∃ listed, archive = some listed ∧ rows.map (·.take 3) =
      (pySlice (sortedRuns listed) start stop).flatMap fun run =>
        ((run.2.getD []).filterMap (RunEntry.vmFolder digit)).map fun vm =>
          [("runid", .str run.1), ("vmid", .str vm.1),
            ("vmnum", .str (toString ((run.2.getD []).filterMap (RunEntry.vmFolder digit)).length))] := by
  cases archive with
  | none => cases parsed
  | some listed =>
    obtain ⟨data, table, built⟩ := bind_eq_ok_iff.mp parsed
    cases Except.ok.inj built
    exact ⟨listed, rfl, flatten_labels digit (mapM_eq_ok_iff.mp table)⟩

theorem parseLog_labels_two_vms :
    ∃ rows, parseLog (fun c => c.isDigit || '\u0660' ≤ c && c ≤ '\u0669')
        (some [.run "20250101-000000" (some [.folder "1" (fun _ => .missing), .other "perf.data",
          .folder "\u0660" (fun _ => .missing), .folder "logs" (fun _ => .missing)])]) 0 none = .ok rows ∧
      ∃ listed, some [ArchiveEntry.run "20250101-000000" (some [.folder "1" (fun _ => .missing),
          .other "perf.data", .folder "\u0660" (fun _ => .missing), .folder "logs" (fun _ => .missing)])] =
          some listed ∧
        rows.map (·.take 3) =
          [[("runid", .str "20250101-000000"), ("vmid", .str "1"), ("vmnum", .str "2")],
            [("runid", .str "20250101-000000"), ("vmid", .str "\u0660"), ("vmnum", .str "2")]] := by
  have sorted : sortedRuns [.run "20250101-000000" (some [.folder "1" (fun _ => .missing), .other "perf.data",
      .folder "\u0660" (fun _ => .missing), .folder "logs" (fun _ => .missing)])] =
        [("20250101-000000", some [.folder "1" (fun _ => .missing), .other "perf.data",
          .folder "\u0660" (fun _ => .missing), .folder "logs" (fun _ => .missing)])] := by
    simp [sortedRuns, ArchiveEntry.runFolder]
  obtain ⟨rows, parsed⟩ : ∃ rows, parseLog (fun c => c.isDigit || '\u0660' ≤ c && c ≤ '\u0669')
      (some [.run "20250101-000000" (some [.folder "1" (fun _ => .missing), .other "perf.data",
        .folder "\u0660" (fun _ => .missing), .folder "logs" (fun _ => .missing)])]) 0 none = .ok rows :=
    ⟨_, by rw [parseLog, sorted]; rfl⟩
  obtain ⟨listed, same, labels⟩ := parseLog_labels _ _ 0 none parsed
  refine ⟨rows, parsed, listed, same, labels.trans ?_⟩
  cases same
  rw [sorted]
  rfl

end DemeterBench.ParseLog
