import DemeterBench.Bench
import DemeterBench.Posix

set_option autoImplicit false

/-!
# `tasks.launch` and `Bench._benchmark`

`launch` builds one command line from a trap, the `PATH` export, one `export {k}={v} ;` per
entry of `env`, and the `sudo` command, and runs it with `c.run`; the shell that reads it is
`Posix.run`. A value is pasted into the line as it is, without quoting.
-/

namespace DemeterBench

open Posix

/-- The launcher `launch` picks when none is given (`if not launcher`). -/
def Kernel.launcher : Kernel → String
  | .demeter => "demeter.py "
  | .memtis => "memtis.py "
  | .nomad => "nomad.py "
  | .tpp => "tpp.py "

def launcherFor (kernel : Kernel) : Option String → String
  | some launcher => if launcher = "" then kernel.launcher else launcher
  | none => kernel.launcher

def trapCommand : String := "trap - SIGTERM; sudo pkill cat || true; sudo pkill nohup || true; kill 0"

def trapLine : String :=
  let trap := pyRepr trapCommand
  s!"trap {trap} SIGINT SIGTERM EXIT ;"

def pathLine : String := "export PATH=/data:\"$PATH\" ;"

def exportLine (k v : String) : String := s!"export {k}={v} ;"

def sudoLine (numactl time launcher args : String) : String :=
  s!"sudo -E {numactl} {time} {launcher} {args}"

/-- The `script` list of `launch`. -/
def launchScript (kernel : Kernel) (args : String) (env : List (String × String))
    (numactl time : String) (launcher : Option String) : List String :=
  [trapLine, pathLine] ++ env.map (fun (k, v) => exportLine k v) ++
    [sudoLine numactl time (launcherFor kernel launcher) args]

/-- The line `launch` hands to `c.run`. -/
def launch (kernel : Kernel) (args : String) (env : List (String × String))
    (numactl time : String) (launcher : Option String) : String :=
  " ".intercalate (launchScript kernel args env numactl time launcher)

namespace Bench

/-- The environment `_benchmark` passes: `dict(OMP_NUM_THREADS=self.cpu) | self.env`. -/
def benchmarkEnv (b : Bench) : List (String × String) :=
  dictMerge [("OMP_NUM_THREADS", toString b.cpu)] b.env

/-- The line `_benchmark(name, launcher)` runs, `{name}_args(**kwargs)` rendering as `workloadArgs`. -/
def benchmarkLine (b : Bench) (name workloadArgs : String) (launcher : Option String) : String :=
  let launcher := if (launcher = none ∨ launcher = some "") ∧ !b.hetero then some " " else launcher
  let args := workloadArgs ++ s!"2> /out/{name}.err | /data/ansi2txt | tee /out/{name}.log "
  launch b.kernel args b.benchmarkEnv "" "/bin/time --verbose" launcher

end Bench

example : (pyRepr trapCommand).data = '\'' :: trapCommand.data ++ ['\''] := by decide

/-! ### The line, piece by piece -/

theorem intercalate_go_data (acc s : String) (l : List String) :
    (String.intercalate.go acc s l).data = acc.data ++ l.flatMap fun a => s.data ++ a.data := by
  induction l generalizing acc with
  | nil => simp [String.intercalate.go]
  | cons a l ih => simp [String.intercalate.go, ih]

def launchPrefix (env : List (String × String)) : List Char :=
  (trapLine ++ " " ++ pathLine).data ++ (env.flatMap fun e => ' ' :: (exportLine e.1 e.2).data) ++ [' ']

theorem launch_data (kernel : Kernel) (args : String) (env : List (String × String))
    (numactl time : String) (launcher : Option String) :
    (launch kernel args env numactl time launcher).data =
      launchPrefix env ++ (sudoLine numactl time (launcherFor kernel launcher) args).data := by
  simp [launch, launchScript, launchPrefix, String.intercalate, intercalate_go_data,
    List.flatMap_map, Function.comp_def]

def exportWord (k v : String) : List Char := k.data ++ '=' :: v.data

theorem exportLine_data (k v : String) :
    (exportLine k v).data = "export".data ++ ' ' :: (exportWord k v ++ [' ', ';']) := by
  simp [exportLine, exportWord, toString]

theorem isName_chars {k : List Char} (name : isName k) :
    ∃ c w, k = c :: w ∧ c ≠ '-' ∧ ∀ x ∈ k, x ≠ '=' ∧ isLiteralChar x := by
  cases k with
  | nil => cases name
  | cons c w =>
    simp only [isName, Bool.and_eq_true, List.all_eq_true] at name
    have start : isNameChar c := by
      have := name.1
      simp only [isNameStart, Bool.or_eq_true, decide_eq_true_eq] at this
      rcases this with alpha | rfl
      · simp [isNameChar, Char.isAlphanum, alpha]
      · decide
    have notEq : ∀ {x}, isNameChar x → x ≠ '=' := by
      rintro x h rfl
      exact absurd h (by decide)
    refine ⟨c, w, rfl, ?_, ?_⟩
    · rintro rfl
      exact absurd name.1 (by decide)
    · simp only [List.forall_mem_cons]
      exact ⟨⟨notEq start, nameChar_literal start⟩,
        fun x hx => ⟨notEq (name.2 x hx), nameChar_literal (name.2 x hx)⟩⟩

theorem scan_exportLine (k v : String) (name : isName k.data)
    (literal : ∀ c ∈ v.data, isLiteralChar c) :
    scan lexChar (.op [';']) (' ' :: (exportLine k v).data) =
      .ok ([.op [';'], .word "export".data, .word (exportWord k v)], .op [';']) := by
  obtain ⟨c, w, word, -, kChars⟩ := isName_chars name
  have allLiteral : ∀ x ∈ exportWord k v, isLiteralChar x := by
    simp only [exportWord, List.mem_append, List.mem_cons]
    rintro x (hx | rfl | hx)
    exacts [(kChars x hx).2, by decide, literal x hx]
  have head : exportWord k v = c :: (w ++ '=' :: v.data) := by simp [exportWord, word]
  have plain : ∀ x ∈ c :: (w ++ '=' :: v.data), x ∉ lexSpecial := fun x hx =>
    (literal_not_special (allLiteral x (head ▸ hx))).1
  have notHash : c ≠ '#' := (literal_not_special (allLiteral c (by simp [head]))).2.2
  have blank : lexChar (.op [';']) ' ' = .ok ([.op [';']], .start) := rfl
  rw [scan_cons_ok lexChar blank, exportLine_data, head, show "export".data = 'e' :: "xport".data from rfl,
    scan_lexChar_word _ _ (by decide) (by decide), scan_lexChar_word _ _ plain notHash]
  rfl

def exportCommand (w : List Char) : SimpleCommand := ⟨[], ["export".data, w], []⟩

def trapRead : SimpleCommand :=
  ⟨[], ["trap".data, '\'' :: trapCommand.data ++ ['\''], "SIGINT".data, "SIGTERM".data, "EXIT".data],
    []⟩

def pathWord : List Char := "PATH=/data:\"$PATH\"".data

def exporting (w : List Char) : ParseState := { ParseState.fresh with current := exportCommand w }

def launchCommands (env : List (String × String)) : List (SimpleCommand × Sep) :=
  (trapRead, .semi) ::
    (pathWord :: env.map fun e => exportWord e.1 e.2).map fun w => (exportCommand w, .semi)

set_option maxRecDepth 2000 in
theorem read_launch_prefix : ∃ ts, scan lexChar .start (trapLine ++ " " ++ pathLine).data = .ok (ts, .op [';']) ∧
    scan parseToken .fresh ts = .ok ([(trapRead, .semi)], exporting pathWord) :=
  ⟨_, rfl, rfl⟩

theorem scan_parse_export (x w : List Char) :
    scan parseToken (exporting x) [.op [';'], .word "export".data, .word w] =
      .ok ([(exportCommand x, .semi)], exporting w) :=
  rfl

section Literal

variable (env : List (String × String)) (names : ∀ e ∈ env, isName e.1.data)
  (literal : ∀ e ∈ env, ∀ c ∈ e.2.data, isLiteralChar c)

def exportTokens : List Token :=
  env.flatMap fun e => [.op [';'], .word "export".data, .word (exportWord e.1 e.2)]

include names literal in
theorem scan_exportLines :
    scan lexChar (.op [';']) (env.flatMap fun e => ' ' :: (exportLine e.1 e.2).data) =
      .ok (exportTokens env, .op [';']) := by
  induction env with
  | nil => rfl
  | cons e env ih =>
    simp only [List.forall_mem_cons] at names literal
    rw [List.flatMap_cons, scan_append lexChar (scan_exportLine e.1 e.2 names.1 literal.1),
      ih names.2 literal.2]
    rfl

theorem scan_parse_exports (x : List Char) :
    scan parseToken (exporting x) (exportTokens env ++ [.op [';']]) =
      .ok ((x :: env.map fun e => exportWord e.1 e.2).map fun w => (exportCommand w, .semi),
        .fresh) := by
  induction env generalizing x with
  | nil => rfl
  | cons e env ih =>
    rw [exportTokens] at ih ⊢
    rw [List.flatMap_cons, List.append_assoc, scan_append parseToken (scan_parse_export _ _), ih]
    rfl

include names literal in
theorem read_launchPrefix : ∃ ts, scan lexChar .start (launchPrefix env) = .ok (ts, .start) ∧
    scan parseToken .fresh ts = .ok (launchCommands env, .fresh) := by
  obtain ⟨ts, lexPrefix, parsePrefix⟩ := read_launch_prefix
  have lexExports : scan lexChar .start ((trapLine ++ " " ++ pathLine).data ++
      (env.flatMap fun e => ' ' :: (exportLine e.1 e.2).data)) =
      .ok (ts ++ exportTokens env, .op [';']) := by
    rw [scan_append lexChar lexPrefix, scan_exportLines env names literal]
    rfl
  refine ⟨ts ++ exportTokens env ++ [.op [';']], ?_, ?_⟩
  · rw [launchPrefix, scan_append lexChar lexExports]
    rfl
  · rw [List.append_assoc, scan_append parseToken parsePrefix, scan_parse_exports]
    rfl

end Literal

def trapShell (sh : Shell) : Shell :=
  { sh with traps := [("EXIT", some trapCommand), ("SIGTERM", some trapCommand),
      ("SIGINT", some trapCommand)] ++ sh.traps }

def pathShell (sh : Shell) : Shell :=
  (sh.assign "PATH" ("/data:" ++ (sh.get "PATH").getD "")).export "PATH"

def exportShell (sh : Shell) (e : String × String) : Shell := (sh.assign e.1 e.2).export e.1

def launchedShell (sh : Shell) (env : List (String × String)) : Shell :=
  env.foldl exportShell (pathShell (trapShell sh))

set_option maxRecDepth 2000 in
theorem execute_trapRead (sh : Shell) (rest : List (SimpleCommand × Sep)) :
    execute sh .semi ((trapRead, .semi) :: rest) = execute (trapShell sh) .semi rest :=
  rfl

theorem execute_exportCommand {sh sh' : Shell} {w arg : List Char}
    (expanded : expandWord sh.vars w = .ok arg) (ran : runExport sh [arg] = .ok sh')
    (rest : List (SimpleCommand × Sep)) :
    execute sh .semi ((exportCommand w, .semi) :: rest) = execute sh' .semi rest := by
  have name : expandWord sh.vars "export".data = .ok "export".data :=
    expandWord_literal _ _ (by decide)
  have args : List.mapM (expandWord sh.vars) [w] = .ok [arg] := by
    rw [List.mapM_cons, List.mapM_nil, expanded]; rfl
  simp only [execute, exportCommand, name, args]
  rw [if_pos (by decide), if_pos (by decide), if_neg (by decide), ran]

theorem runExport_assign (sh : Shell) {k : List Char} (v : List Char) (name : isName k) :
    runExport sh [k ++ '=' :: v] =
      .ok ((sh.assign (String.mk k) (String.mk v)).export (String.mk k)) := by
  obtain ⟨c, w, rfl, notDash, chars⟩ := isName_chars name
  have take : (c :: w ++ '=' :: v).takeWhile (· ≠ '=') = c :: w := by
    rw [List.takeWhile_append_of_pos (by simpa using fun x hx => (chars x hx).1)]
    simp
  simp only [runExport, exportOperand, List.foldlM, take, name]
  simp [notDash]

theorem expandWord_pathWord (vars : List (String × String)) :
    expandWord vars pathWord = .ok ("PATH=/data:".data ++ value vars "PATH".data) := by
  have scanned : scan (expandChar vars) .unquoted pathWord =
      .ok ("PATH=/data:".data ++ (value vars "PATH".data ++ [] ++ []), .unquoted) := rfl
  simp only [expandWord, scanned, List.append_nil]
  rfl

theorem execute_pathCommand (sh : Shell) (rest : List (SimpleCommand × Sep)) :
    execute sh .semi ((exportCommand pathWord, .semi) :: rest) = execute (pathShell sh) .semi rest :=
  execute_exportCommand (expandWord_pathWord sh.vars)
    (runExport_assign (k := "PATH".data) sh ("/data:".data ++ value sh.vars "PATH".data) (by decide))
    rest

theorem execute_exports (env : List (String × String)) (names : ∀ e ∈ env, isName e.1.data)
    (literal : ∀ e ∈ env, ∀ c ∈ e.2.data, isLiteralChar c) (sh : Shell)
    (rest : List (SimpleCommand × Sep)) :
    execute sh .semi ((env.map fun e => (exportCommand (exportWord e.1 e.2), Sep.semi)) ++ rest) =
      execute (env.foldl exportShell sh) .semi rest := by
  induction env generalizing sh with
  | nil => rfl
  | cons e env ih =>
    simp only [List.forall_mem_cons] at names literal
    have word : ∀ c ∈ exportWord e.1 e.2, isLiteralChar c := by
      obtain ⟨-, -, -, -, chars⟩ := isName_chars names.1
      simp only [exportWord, List.mem_append, List.mem_cons]
      rintro x (hx | rfl | hx)
      exacts [(chars x hx).2, by decide, literal.1 x hx]
    rw [List.map_cons, List.cons_append,
      execute_exportCommand (expandWord_literal _ _ word) (runExport_assign sh e.2.data names.1),
      ih names.2 literal.2]
    rfl

theorem execute_launchCommands (env : List (String × String)) (names : ∀ e ∈ env, isName e.1.data)
    (literal : ∀ e ∈ env, ∀ c ∈ e.2.data, isLiteralChar c) (sh : Shell)
    (rest : List (SimpleCommand × Sep)) :
    execute sh .semi (launchCommands env ++ rest) = execute (launchedShell sh env) .semi rest := by
  simp only [launchCommands, List.map_cons, List.map_map, Function.comp_def, List.cons_append]
  rw [execute_trapRead, execute_pathCommand, execute_exports env names literal]
  rfl

theorem run_launchPrefix (env : List (String × String)) (names : ∀ e ∈ env, isName e.1.data)
    (literal : ∀ e ∈ env, ∀ c ∈ e.2.data, isLiteralChar c) (sh : Shell) (rest : List Char) :
    run sh (launchPrefix env ++ rest) = run (launchedShell sh env) rest := by
  obtain ⟨ts, lexed, parsed⟩ := read_launchPrefix env names literal
  rw [run, run, readLine_append lexed parsed]
  cases readLine rest with
  | error e => rfl
  | ok cmds => exact execute_launchCommands env names literal sh cmds

theorem execute_sudo (sh : Shell) {c : SimpleCommand} (leads : Leads ["sudo".data, "-E".data] c)
    (sep : Sep) (rest : List (SimpleCommand × Sep)) : execute sh .semi ((c, sep) :: rest) = .invokes sh c := by
  obtain ⟨noAssignments, more, words⟩ := leads
  have name : expandWord sh.vars "sudo".data = .ok "sudo".data := expandWord_literal _ _ (by decide)
  simp only [execute, ← words, List.cons_append, name]
  rw [if_neg (by decide), if_neg (by decide)]

/-! ### What the shell holds when `sudo` starts -/

set_option maxRecDepth 4000 in
theorem benchmarkLine_value_with_space :
    run ⟨[("PATH", "/usr/bin")], ["PATH"], []⟩
        (Bench.benchmarkLine { env := [("TAG", "a b")] } "gups" "" none).data =
      .invokes ⟨[("TAG", "a"), ("OMP_NUM_THREADS", "4"), ("PATH", "/data:/usr/bin"),
          ("PATH", "/usr/bin")], ["b", "TAG", "OMP_NUM_THREADS", "PATH", "PATH"],
          [("EXIT", some trapCommand), ("SIGTERM", some trapCommand), ("SIGINT", some trapCommand)]⟩
        ⟨[], ["sudo".data, "-E".data, "/bin/time".data, "--verbose".data, "demeter.py".data],
          [⟨some ['2'], ['>'], "/out/gups.err".data⟩]⟩ := by
  have env : Bench.benchmarkEnv { env := [("TAG", "a b")] } =
      [("OMP_NUM_THREADS", "4"), ("TAG", "a b")] := rfl
  have line : (Bench.benchmarkLine { env := [("TAG", "a b")] } "gups" "" none).data =
      launchPrefix [("OMP_NUM_THREADS", "4")] ++ ("export TAG=a b ; sudo -E  /bin/time --verbose " ++
        "demeter.py  2> /out/gups.err | /data/ansi2txt | tee /out/gups.log ").data := by
    simp only [Bench.benchmarkLine, launch_data, launchPrefix, env, List.flatMap_cons,
      List.flatMap_nil, List.append_nil, List.append_assoc, List.cons_append, List.singleton_append]
    rfl
  rw [line, run_launchPrefix _ (by decide) (by decide)]
  decide

end DemeterBench
