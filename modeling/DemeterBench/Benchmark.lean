import DemeterBench.Launch
import DemeterBench.Vm.KvmLogs
import DemeterBench.Workload

set_option autoImplicit false

/-!
# The command `_benchmark` starts in the guest

`Bench._benchmark` appends a redirection and a pipeline to the workload's arguments and hands the
result to `launch`. For a workload whose arguments are words of literal characters, the shell
reads the line as the trap, the exports, and then a pipeline of three commands: `sudo -E` running
`/bin/time --verbose`, the launcher and the workload, with its standard error in
`/out/{name}.err`, then `/data/ansi2txt`, then `tee /out/{name}.log`.
-/

namespace DemeterBench

open Posix

/-! ### What the line stands for -/

def Bench.defaultLauncherWords (b : Bench) : List (List Char) :=
  if b.hetero then blankWords [] b.kernel.launcher.data else []

def Bench.launcherWords (b : Bench) : Option String → List (List Char)
  | some l => if l = "" then b.defaultLauncherWords else blankWords [] l.data
  | none => b.defaultLauncherWords

def Bench.workloadCommand (b : Bench) (name : String) (argv : List String) (launcher : Option String) :
    SimpleCommand :=
  ⟨[], ["sudo".data, "-E".data, "/bin/time".data, "--verbose".data] ++ b.launcherWords launcher ++
      argv.map String.data, [⟨some ['2'], ['>'], ("/out/" ++ name ++ ".err").data⟩]⟩

def outputPipeline (name : String) : List (SimpleCommand × Sep) :=
  [(⟨[], ["/data/ansi2txt".data], []⟩, .pipe), (⟨[], ["tee".data, ("/out/" ++ name ++ ".log").data], []⟩, .last)]

/-! ### The environment -/

theorem benchmarkEnv_plain (b : Bench) (names : ∀ e ∈ b.env, isName e.1.data)
    (literal : ∀ e ∈ b.env, ∀ c ∈ e.2.data, isLiteralChar c) :
    (∀ e ∈ b.benchmarkEnv, isName e.1.data) ∧ ∀ e ∈ b.benchmarkEnv, ∀ c ∈ e.2.data, isLiteralChar c := by
  constructor
  · intro e mem
    rcases mem_dictMerge mem with ⟨v, omp, -⟩ | entry
    · rw [(Prod.mk.inj (List.mem_singleton.mp omp)).1]
      decide
    · exact names e entry
  · intro e mem
    rcases mem_dictMerge mem with ⟨v, omp, value | entry⟩ | entry
    · rw [value, (Prod.mk.inj (List.mem_singleton.mp omp)).2]
      intro c digit
      simp [isLiteralChar, Char.isAlphanum, decimal_isDigit b.cpu c digit]
    all_goals exact literal e entry

/-! ### The launcher -/

theorem kernel_launcher_text (kernel : Kernel) :
    (∀ c ∈ kernel.launcher.data, isLiteralChar c ∨ c = ' ') ∧ kernel.launcher ≠ "" := by
  cases kernel <;> decide

theorem benchmarkLauncher_words (b : Bench) (launcher : Option String)
    (plain : ∀ l ∈ launcher, ∀ c ∈ l.data, isLiteralChar c ∨ c = ' ') :
    let l := launcherFor b.kernel
      (if (launcher = none ∨ launcher = some "") ∧ !b.hetero then some " " else launcher)
    (∀ c ∈ l.data, isLiteralChar c ∨ c = ' ') ∧ blankWords [] l.data = b.launcherWords launcher := by
  have kernel := kernel_launcher_text b.kernel
  have blank : ∀ c ∈ " ".data, isLiteralChar c ∨ c = ' ' := by decide
  rcases launcher with _ | l
  · cases hetero : b.hetero <;>
      simp only [launcherFor, hetero, Bench.launcherWords, Bench.defaultLauncherWords]
    exacts [⟨blank, rfl⟩, ⟨kernel.1, rfl⟩]
  · by_cases empty : l = ""
    · subst empty
      cases hetero : b.hetero <;>
        simp only [launcherFor, hetero, Bench.launcherWords, Bench.defaultLauncherWords]
      exacts [⟨blank, rfl⟩, ⟨kernel.1, rfl⟩]
    · simp only [launcherFor, Bench.launcherWords, Option.some_ne_none, Option.some.injEq, empty,
        false_or, false_and, if_false]
      exact ⟨plain l rfl, trivial⟩

/-! ### Reading the `sudo` command -/

def tailTokens (name : String) : List Token :=
  [.ioNumber ['2'], .op ['>'], .word ("/out/" ++ name ++ ".err").data, .op ['|'],
    .word "/data/ansi2txt".data, .op ['|'], .word "tee".data, .word ("/out/" ++ name ++ ".log").data]

theorem scan_lexChar_tail (name : String) (plain : ∀ c ∈ name.data, isLiteralChar c) :
    scan lexChar .start (s!"2> /out/{name}.err | /data/ansi2txt | tee /out/{name}.log ").data =
      .ok (tailTokens name, .start) := by
  have text : (s!"2> /out/{name}.err | /data/ansi2txt | tee /out/{name}.log ").data =
      "2> ".data ++ ('/' :: ("out/".data ++ name.data ++ ".err".data) ++ ' ' ::
        ("| /data/ansi2txt | tee ".data ++ ('/' :: ("out/".data ++ name.data ++ ".log".data) ++ [' ']))) := by
    simp [toString]
  have path (suffix : String) (chars : ∀ c ∈ suffix.data, c ∉ lexSpecial) :
      ∀ c ∈ '/' :: ("out/".data ++ name.data ++ suffix.data), c ∉ lexSpecial := by
    intro c mem
    rcases List.mem_cons.mp mem with rfl | mem
    · decide
    rcases List.mem_append.mp mem with mem | c_suffix
    · rcases List.mem_append.mp mem with c_out | c_name
      · exact (show ∀ c ∈ "out/".data, c ∉ lexSpecial by decide) c c_out
      · exact (literal_not_special (plain c c_name)).1
    · exact chars c c_suffix
  have redirect : scan lexChar .start "2> ".data = .ok ([.ioNumber ['2'], .op ['>']], .start) := rfl
  have pipes : scan lexChar .start "| /data/ansi2txt | tee ".data =
      .ok ([.op ['|'], .word "/data/ansi2txt".data, .op ['|'], .word "tee".data], .start) := rfl
  rw [text, scan_append lexChar redirect, scan_lexChar_word _ _ (path ".err" (by decide)) (by decide),
    scan_append lexChar pipes, scan_lexChar_word _ _ (path ".log" (by decide)) (by decide)]
  simp [tailTokens, scan, Except.map, toString]

theorem scan_parseToken_tail (name : String) (w : List Char) (ws : List (List Char)) :
    scan parseToken { ParseState.fresh with current := ⟨[], w :: ws, []⟩ } (tailTokens name) =
      .ok ([(⟨[], w :: ws, [⟨some ['2'], ['>'], ("/out/" ++ name ++ ".err").data⟩]⟩, .pipe),
          (⟨[], ["/data/ansi2txt".data], []⟩, .pipe)],
        ⟨⟨[], ["tee".data, ("/out/" ++ name ++ ".log").data], []⟩, none, none, true⟩) :=
  rfl

theorem readLine_sudoLine_workload (launcher name : String) (argv : List String)
    (plainLauncher : ∀ c ∈ launcher.data, isLiteralChar c ∨ c = ' ')
    (plainName : ∀ c ∈ name.data, isLiteralChar c)
    (plainArgv : ∀ w ∈ argv, w ≠ "" ∧ ∀ c ∈ w.data, isLiteralChar c) :
    readLine (sudoLine "" "/bin/time --verbose" launcher
        (unwords argv ++ s!"2> /out/{name}.err | /data/ansi2txt | tee /out/{name}.log ")).data =
      .ok ((⟨[], ["sudo".data, "-E".data, "/bin/time".data, "--verbose".data] ++
          blankWords [] launcher.data ++ argv.map String.data,
          [⟨some ['2'], ['>'], ("/out/" ++ name ++ ".err").data⟩]⟩, .pipe) :: outputPipeline name) := by
  let head := "sudo -E  /bin/time --verbose".data ++ ' ' :: launcher.data
  have line : (sudoLine "" "/bin/time --verbose" launcher
      (unwords argv ++ s!"2> /out/{name}.err | /data/ansi2txt | tee /out/{name}.log ")).data =
      head ++ ' ' :: ((argv.map String.data).flatMap (· ++ [' ']) ++
        (s!"2> /out/{name}.err | /data/ansi2txt | tee /out/{name}.log ").data) := by
    simp [head, sudoLine, toString, List.flatMap_map]
  have text : ∀ c ∈ head, isLiteralChar c ∨ c = ' ' := by
    have fixedText : ∀ c ∈ "sudo -E  /bin/time --verbose".data, isLiteralChar c ∨ c = ' ' := by decide
    intro c mem
    rcases List.mem_append.mp mem with fixed | mem
    · exact fixedText c fixed
    rcases List.mem_cons.mp mem with rfl | inLauncher
    · exact .inr rfl
    · exact plainLauncher c inLauncher
  have words : blankWords [] head =
      ["sudo".data, "-E".data, "/bin/time".data, "--verbose".data] ++ blankWords [] launcher.data := by
    rw [blankWords_append_blank]
    rfl
  have argvWords : ∀ w ∈ argv.map String.data, w ≠ [] ∧ ∀ c ∈ w, isLiteralChar c := by
    simp only [List.mem_map]
    rintro _ ⟨w, mem, rfl⟩
    exact ⟨fun empty => (plainArgv w mem).1 (String.ext empty), (plainArgv w mem).2⟩
  have lexed : lex (sudoLine "" "/bin/time --verbose" launcher
      (unwords argv ++ s!"2> /out/{name}.err | /data/ansi2txt | tee /out/{name}.log ")).data =
      .ok (.word "sudo".data :: ((["-E".data, "/bin/time".data, "--verbose".data] ++
        blankWords [] launcher.data ++ argv.map String.data).map .word ++ tailTokens name)) := by
    rw [lex, line, show LexState.start = pending [] from rfl, scan_lexChar_text [] head _ text,
      scan_lexChar_words _ _ argvWords, scan_lexChar_tail name plainName, words]
    simp [Except.map, lexEnd, bind, Except.bind, pure, Except.pure]
  have first : parseToken .fresh (.word "sudo".data) =
      .ok ([], { ParseState.fresh with current := ⟨[], ["sudo".data], []⟩ }) := rfl
  have parsed := scan_parseToken_words { ParseState.fresh with current := ⟨[], ["sudo".data], []⟩ }
    (["-E".data, "/bin/time".data, "--verbose".data] ++ blankWords [] launcher.data ++
      argv.map String.data) rfl (by simp)
  rw [readLine, lexed]
  simp only [bind, Except.bind, parse, scan_cons_ok parseToken first, scan_append parseToken parsed]
  simp only [List.singleton_append, List.cons_append, List.append_assoc] at parsed ⊢
  rw [scan_parseToken_tail]
  rfl

/-! ### The whole line -/

theorem benchmarkLine_sudo (b : Bench) (name : String) (argv : List String) (launcher : Option String)
    (plainName : ∀ c ∈ name.data, isLiteralChar c)
    (plainArgv : ∀ w ∈ argv, w ≠ "" ∧ ∀ c ∈ w.data, isLiteralChar c)
    (plainLauncher : ∀ l ∈ launcher, ∀ c ∈ l.data, isLiteralChar c ∨ c = ' ') :
    ∃ script : String, (Bench.benchmarkLine b name (unwords argv) launcher).data =
        launchPrefix b.benchmarkEnv ++ script.data ∧
      readLine script.data = .ok ((b.workloadCommand name argv launcher, .pipe) :: outputPipeline name) := by
  obtain ⟨launcherText, launcherWords⟩ := benchmarkLauncher_words b launcher plainLauncher
  have command := readLine_sudoLine_workload _ name argv launcherText plainName plainArgv
  rw [launcherWords] at command
  exact ⟨_, by simp only [Bench.benchmarkLine, launch_data], command⟩

theorem run_benchmarkLine (b : Bench) (name : String) (argv : List String) (launcher : Option String)
    (sh : Shell) (names : ∀ e ∈ b.env, isName e.1.data)
    (literal : ∀ e ∈ b.env, ∀ c ∈ e.2.data, isLiteralChar c)
    (plainName : ∀ c ∈ name.data, isLiteralChar c)
    (plainArgv : ∀ w ∈ argv, w ≠ "" ∧ ∀ c ∈ w.data, isLiteralChar c)
    (plainLauncher : ∀ l ∈ launcher, ∀ c ∈ l.data, isLiteralChar c ∨ c = ' ') :
    run sh (Bench.benchmarkLine b name (unwords argv) launcher).data =
      .invokes (launchedShell sh b.benchmarkEnv) (b.workloadCommand name argv launcher) := by
  obtain ⟨envNames, envLiteral⟩ := benchmarkEnv_plain b names literal
  obtain ⟨script, line, command⟩ := benchmarkLine_sudo b name argv launcher plainName plainArgv plainLauncher
  rw [line, run_launchPrefix _ envNames envLiteral, run, command]
  exact execute_sudo _ ⟨rfl, List.prefix_append _ _⟩ _ _

theorem int_literal (n : Int) : ∀ c ∈ (toString n).data, isLiteralChar c := by
  have digits (m : Nat) : ∀ c ∈ decimal m, isLiteralChar c := fun c mem => by
    simp [isLiteralChar, Char.isAlphanum, decimal_isDigit m c mem]
  cases n with
  | ofNat m => exact digits m
  | negSucc m =>
    rintro c (_ | ⟨_, mem⟩)
    · decide
    · exact digits (m + 1) c mem

theorem int_ne_empty (n : Int) : toString n ≠ "" := by
  cases n with
  | ofNat m => exact fun empty => decimal_ne_nil m (congrArg String.data empty)
  | negSucc m => exact fun empty => List.cons_ne_nil _ _ (congrArg String.data empty)

theorem flag_literal (flag value : String) (named : flag ≠ "" ∧ ∀ c ∈ flag.data, isLiteralChar c)
    (literal : ∀ c ∈ value.data, isLiteralChar c) :
    toString flag ++ value ++ toString "" ≠ "" ∧
      ∀ c ∈ (toString flag ++ value ++ toString "").data, isLiteralChar c := by
  refine ⟨fun empty => named.1 (String.ext ?_), ?_⟩
  · exact (List.append_eq_nil.mp (List.append_eq_nil.mp (congrArg String.data empty)).1).1
  · simp only [String.data_append, List.mem_append, toString]
    rintro c ((c_flag | c_value) | c_end)
    exacts [named.2 c c_flag, literal c c_value, absurd c_end (List.not_mem_nil c)]

theorem gupsWords_literal (bin : String) (thread update granularity len : Int) (workload : String)
    (hot weight : Int) (reverse : Bool) (exponent : String) (report dramRatio : Option Int)
    (plainBin : bin ≠ "" ∧ ∀ c ∈ bin.data, isLiteralChar c)
    (plainExponent : ∀ c ∈ exponent.data, isLiteralChar c)
    (supported : workload ∈ ["hotset", "zipf", "random"]) :
    ∀ w ∈ gupsWords bin thread update granularity len workload hot weight reverse exponent report dramRatio,
      w ≠ "" ∧ ∀ c ∈ w.data, isLiteralChar c := by
  have workloadWord : workload ≠ "" ∧ ∀ c ∈ workload.data, isLiteralChar c := by
    simp only [List.mem_cons, List.not_mem_nil, or_false] at supported
    rcases supported with rfl | rfl | rfl <;> decide
  have flag (name : String) (named : name ≠ "" ∧ ∀ c ∈ name.data, isLiteralChar c) (n : Int) :=
    flag_literal name (toString n) named (int_literal n)
  intro w mem
  simp only [gupsWords, List.mem_append, List.mem_cons, List.mem_flatMap, Option.mem_toList,
    List.not_mem_nil, or_false] at mem
  rcases mem with ((((rfl | rfl | rfl | rfl | rfl) | ⟨r, -, rfl⟩) | ⟨d, -, rfl | rfl⟩) | words) | reversed
  · exact plainBin
  · exact flag "--thread=" (by decide) thread
  · exact flag "--update=" (by decide) update
  · exact flag "--len=" (by decide) _
  · exact flag "--granularity=" (by decide) granularity
  · exact flag "--report=" (by decide) r
  · decide
  · exact ⟨int_ne_empty d, int_literal d⟩
  · split at words
    · rcases List.mem_cons.mp words with rfl | words
      · exact workloadWord
      rcases List.mem_pair.mp words with rfl | rfl
      exacts [flag "--hot=" (by decide) _, flag "--weight=" (by decide) weight]
    · split at words
      · rcases List.mem_pair.mp words with rfl | rfl
        exacts [workloadWord, flag_literal "--exponent=" exponent (by decide) plainExponent]
      · cases words
  · split at reversed
    · rw [List.mem_singleton.mp reversed]
      decide
    · cases reversed

theorem run_benchmarkLine_gups (b : Bench) (launcher : Option String) (sh : Shell)
    (names : ∀ e ∈ b.env, isName e.1.data) (literal : ∀ e ∈ b.env, ∀ c ∈ e.2.data, isLiteralChar c)
    (plainLauncher : ∀ l ∈ launcher, ∀ c ∈ l.data, isLiteralChar c ∨ c = ' ')
    (bin : String) (thread update granularity len : Int) (workload : String) (hot weight : Int)
    (reverse : Bool) (exponent : String) (report dramRatio : Option Int)
    (plainBin : bin ≠ "" ∧ ∀ c ∈ bin.data, isLiteralChar c)
    (plainExponent : ∀ c ∈ exponent.data, isLiteralChar c)
    (supported : workload ∈ ["hotset", "zipf", "random"]) :
    (gupsArgs bin thread update granularity len workload hot weight reverse exponent report dramRatio).map
        (fun args => run sh (Bench.benchmarkLine b "gups" args launcher).data) =
      .ok (.invokes (launchedShell sh b.benchmarkEnv) (b.workloadCommand "gups"
        (gupsWords bin thread update granularity len workload hot weight reverse exponent report dramRatio)
        launcher)) := by
  rw [gupsArgs_ok _ _ _ _ _ _ _ _ _ _ _ _ supported]
  exact congrArg Except.ok (run_benchmarkLine b "gups" _ launcher sh names literal (by decide)
    (gupsWords_literal _ _ _ _ _ _ _ _ _ _ _ _ plainBin plainExponent supported) plainLauncher)

end DemeterBench
