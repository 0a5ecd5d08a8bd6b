import DemeterBench.Guest.Launcher

set_option autoImplicit false

/-!
# What the guest launcher guarantees

The properties hold in every world: every environment, every wait status, and every choice of
which effects raise. In the parent the run is the cgroup's bracket around the policy's, and the
fork is the last step of the cgroup's setup; in the child a successful `execvp` ends the script
inside the cgroup's bracket, so its cleanup is left to the parent.
-/

namespace DemeterBench.Guest

/-! ### Every policy is one bracket -/

def Policy.modargs : Policy → List String
  | .demeter => demeterModargs
  | .memtis => memtisModargs
  | _ => []

def Policy.setup (pid : Int) (modargs : List (String × Int)) : Policy → List Effect
  | .demeter => demeterSetup pid modargs
  | .memtis => memtisSetup pid modargs
  | .nomad => nomadSetup
  | .tpp => tppSetup
  | .noop => []

def Policy.release (pid : Int) : Policy → List Effect
  | .demeter => [.write targetsPid "-1"]
  | .memtis => [.syscall htmmEnd [pid]]
  | _ => []

def Policy.acquire (pid : Int) : Policy → Option Effect
  | .demeter => some (.write targetsPid (toString pid))
  | .memtis => some (.syscall htmmStart [pid, 0])
  | _ => none

theorem Policy.enter_eq {α : Type} (p : Policy) (w : World) (pid : Int) (body : Run α) :
    p.enter w pid body = fromExcept (execModargs w.environ p.modargs) >>= fun modargs =>
      bracket w (p.setup pid modargs) body (p.release pid) := by
  cases p <;> rfl

theorem Policy.enter_of_ok {α : Type} (p : Policy) (w : World) (pid : Int) (body : Run α)
    {modargs : List (String × Int)} (parsed : execModargs w.environ p.modargs = .ok modargs) :
    p.enter w pid body = bracket w (p.setup pid modargs) body (p.release pid) := by
  rw [Policy.enter_eq, parsed, fromExcept_ok, Run.pure_bind]

theorem Policy.enter_of_error {α : Type} (p : Policy) (w : World) (pid : Int) (body : Run α)
    {x : Exc} (rejected : execModargs w.environ p.modargs = .error x) :
    p.enter w pid body = raise x := by
  rw [Policy.enter_eq, rejected, fromExcept_error]
  rfl

theorem Policy.execs_enter {α : Type} (p : Policy) (w : World) (pid : Int) {body : Run α}
    (stays : body.execs = false) : (p.enter w pid body).execs = false := by
  rw [Policy.enter_eq]
  exact Run.execs_bind (execs_fromExcept _) fun _ => execs_bracket w _ _ stays

@[simp] theorem attempted_release (w : World) (pid : Int) (p : Policy) :
    attempted w (p.release pid) = p.release pid := by
  cases p <;> simp [Policy.release]

/-! ### The effects on the child -/

def Effect.onChild : Effect → Bool
  | .waitpid _ | .kill _ _ => true
  | _ => false

theorem onChild_cgroup (pid : Int) (memtis : Bool) :
    ∀ e ∈ cgroupSetup pid memtis ++ [.fork] ++ cgroupRelease pid, e.onChild = false := by
  cases memtis <;> simp [cgroupSetup, cgroupRelease, Effect.onChild]

theorem onChild_policy (p : Policy) (pid : Int) (modargs : List (String × Int)) :
    ∀ e ∈ p.setup pid modargs ++ p.release pid, e.onChild = false := by
  cases p
  case memtis =>
    intro e mem
    simp only [Policy.setup, Policy.release, memtisSetup, List.mem_append, List.mem_map,
      List.mem_cons, List.not_mem_nil, or_false] at mem
    rcases mem with (((rfl | rfl) | ⟨m, -, rfl⟩) | rfl) | rfl <;> rfl
  all_goals simp [Policy.setup, Policy.release, demeterSetup, nomadSetup, tppSetup, Effect.onChild]

theorem firstRaise_of_quiet {w : World} (quiet : ∀ e, e.onChild = false → w.faults e = none) :
    ∀ {es : List Effect}, (∀ e ∈ es, e.onChild = false) → firstRaise w es = none
  | [], _ => rfl
  | e :: es, off => by
    have raises : w.raises e = none := by
      cases e <;> first | rfl | exact quiet _ (off _ (List.mem_cons_self _ _))
    rw [firstRaise_cons_of_none raises,
      firstRaise_of_quiet quiet fun d mem => off d (List.mem_cons_of_mem e mem)]

theorem bracket_of_quiet {α : Type} {w : World} (quiet : ∀ e, e.onChild = false → w.faults e = none)
    {setup release : List Effect} (off : ∀ e ∈ setup ++ release, e.onChild = false) {body : Run α}
    (stays : body.execs = false) :
    bracket w setup body release = ⟨setup ++ body.effects ++ release, body.result⟩ := by
  have clean : firstRaise w setup = none :=
    firstRaise_of_quiet quiet fun e mem => off e (List.mem_append_left _ mem)
  have cleanRelease : firstRaise w release = none :=
    firstRaise_of_quiet quiet fun e mem => off e (List.mem_append_right _ mem)
  apply Run.ext'
  · rw [bracket_effects _ _ _ stays, clean, if_pos rfl, attempted_of_firstRaise_none clean,
      attempted_of_firstRaise_none cleanRelease]
  · rw [bracket_result _ _ _ stays, clean, cleanRelease]

/-! ### The parent -/

theorem execs_waitChild (w : World) (child : Int) : (waitChild w child).execs = false :=
  execs_tryExcept _ (Run.execs_bind (execs_perform w _) fun _ => execs_pure _)
    (Run.execs_bind (execs_perform w _) fun _ => execs_pure _)

theorem waitChild_eq (w : World) (child : Int) :
    waitChild w child = match w.faults (.waitpid child) with
      | none => ⟨[.waitpid child], .ok (waitstatusToExitcode w.status)⟩
      | some .keyboardInterrupt => ⟨[.waitpid child, .kill child sigint],
          match w.faults (.kill child sigint) with
          | some y => .error (.raise y)
          | none => .ok (-1)⟩
      | some x => ⟨[.waitpid child], .error (.raise x)⟩ := by
  have waited : w.raises (.waitpid child) = w.faults (.waitpid child) := rfl
  have killed : w.raises (.kill child sigint) = w.faults (.kill child sigint) := rfl
  rw [waitChild, perform_bind, performAll_bind, perform_bind, performAll_bind]
  simp only [firstRaise, attempted, waited, killed]
  cases w.faults (.waitpid child) with
  | none => rfl
  | some x =>
    cases x
    case keyboardInterrupt => cases w.faults (.kill child sigint) <;> rfl
    all_goals rfl

theorem main_of_parent (w : World) (prog : String) (CHILD : List String) (p : Policy) (file : String)
    (args : List String) (forked : 0 < w.forked) (known : ctxTable.lookup prog = some p)
    (command : childArgs CHILD = file :: args) :
    main w prog CHILD = bracket w (cgroupSetup w.pid (prog == "memtis") ++ [.fork])
      (p.enter w w.forked (waitChild w w.forked) >>= fun err => raise (.systemExit err))
      (cgroupRelease w.pid) := by
  rw [main, cgroup, mainBody, prog2ctx, known]
  simp only [Run.pure_bind, command, perform_bind, if_pos forked]
  rw [bracket_performAll, parent, trace, bracket_nil w (execs_waitChild w _)]

theorem main_of_usage (w : World) (prog : String) (CHILD : List String)
    (usage : ctxTable.lookup prog = none ∨ childArgs CHILD = []) :
    main w prog CHILD = bracket w (cgroupSetup w.pid (prog == "memtis"))
      (raise (if ctxTable.lookup prog = none then .keyError else .systemExit einval))
      (cgroupRelease w.pid) := by
  rw [main, cgroup, mainBody, prog2ctx]
  cases known : ctxTable.lookup prog with
  | none => rfl
  | some p =>
    have command : childArgs CHILD = [] := usage.resolve_left (by rw [known]; exact Option.some_ne_none p)
    simp only [Run.pure_bind, command]
    rfl

theorem main_of_child (w : World) (prog : String) (CHILD : List String) (p : Policy) (file : String)
    (args : List String) (child : w.forked = 0) (known : ctxTable.lookup prog = some p)
    (command : childArgs CHILD = file :: args) :
    main w prog CHILD =
      bracket w (cgroupSetup w.pid (prog == "memtis") ++ [.fork, .execvp file (file :: args)])
        ⟨[], .error (.exec file (file :: args))⟩ (cgroupRelease w.pid) := by
  rw [main, cgroup, mainBody, prog2ctx, known]
  simp only [Run.pure_bind, command, perform_bind, child, Guest.child]
  rw [bracket_performAll, if_neg (Int.lt_irrefl 0), bracket_performAll, List.append_assoc]
  rfl

/-! ### Where each effect comes from -/

theorem onChild_waitChild (w : World) (child : Int) :
    ∀ e ∈ (waitChild w child).effects, e.onChild = true := by
  rw [waitChild_eq]
  split <;> simp [Effect.onChild]

theorem acquire_not_mem_cgroup {p : Policy} {a : Effect} {child : Int} (pid : Int) (memtis : Bool)
    (acquire : a ∈ p.acquire child) : a ∉ cgroupSetup pid memtis ++ [.fork] := by
  cases p <;> simp only [Policy.acquire, Option.mem_def, reduceCtorEq, Option.some.injEq] at acquire <;>
    subst acquire <;> cases memtis <;> simp [cgroupSetup, targetsPid, cgroupPath]

theorem acquire_not_mem_release {p : Policy} {a : Effect} {child : Int} (forked : 0 < child)
    (acquire : a ∈ p.acquire child) : a ∉ p.release child := by
  have minus : toString (-1 : Int) = "-1" := rfl
  have positive : toString child ≠ "-1" := fun printed => by
    have := toString_int_injective (printed.trans minus.symm)
    omega
  cases p <;> simp only [Policy.acquire, Option.mem_def, reduceCtorEq, Option.some.injEq] at acquire <;>
    subst acquire <;> simp [Policy.release, positive, htmmStart, htmmEnd]

theorem exists_split_of_mem {a : Effect} {pre r : List Effect} (mem : a ∈ pre ++ r) (notMem : a ∉ r) :
    ∃ x y, pre ++ r = x ++ a :: y ++ r := by
  obtain ⟨x, y, rfl⟩ := List.append_of_mem ((List.mem_append.mp mem).resolve_right notMem)
  exact ⟨x, y, by simp⟩

theorem enter_effects {α : Type} (p : Policy) (w : World) (pid : Int) {body : Run α}
    (stays : body.execs = false) :
    (p.enter w pid body).effects = [] ∨ ∃ X, (p.enter w pid body).effects = X ++ p.release pid := by
  cases parsed : execModargs w.environ p.modargs with
  | error x => exact .inl (by rw [p.enter_of_error w pid body parsed]; rfl)
  | ok modargs =>
    refine .inr ⟨attempted w (p.setup pid modargs) ++
      if firstRaise w (p.setup pid modargs) = none then body.effects else [], ?_⟩
    rw [p.enter_of_ok w pid body parsed, bracket_effects _ _ _ stays, attempted_release]

/-! ### The parent -/

theorem launcher_parent_releases (w : World) (prog : String) (CHILD : List String)
    (forked : 0 < w.forked) :
    (main w prog CHILD).execs = false ∧
      ∃ pre, (main w prog CHILD).effects = .mkdir cgroupPath :: pre ++ attempted w (cgroupRelease w.pid) ∧
        ∀ p ∈ ctxTable.lookup prog, ∀ a ∈ p.acquire w.forked, a ∈ pre →
          ∃ x y, pre = x ++ a :: y ++ p.release w.forked := by
  by_cases started : ∃ p file args, ctxTable.lookup prog = some p ∧ childArgs CHILD = file :: args
  · obtain ⟨p, file, args, known, command⟩ := started
    let body := p.enter w w.forked (waitChild w w.forked) >>= fun err =>
      (raise (.systemExit err) : Run Unit)
    have stays : body.execs = false :=
      Run.execs_bind (p.execs_enter w _ (execs_waitChild w _)) fun _ => execs_raise _
    let setup := cgroupSetup w.pid (prog == "memtis") ++ [.fork]
    rw [main_of_parent w prog CHILD p file args forked known command]
    refine ⟨execs_bracket w _ _ stays,
      (attempted w setup).tail ++ if firstRaise w setup = none then body.effects else [],
      by rw [bracket_effects _ _ _ stays]; rfl, ?_⟩
    intro q chosen a acquire mem
    obtain rfl : p = q := Option.some.inj (known.symm.trans chosen)
    rcases List.mem_append.mp mem with inSetup | inBody
    · exact absurd (mem_of_mem_attempted (List.mem_of_mem_tail inSetup))
        (acquire_not_mem_cgroup _ _ acquire)
    split at inBody
    · rename_i clean
      rw [if_pos clean] at mem ⊢
      have entered : a ∈ (p.enter w w.forked (waitChild w w.forked)).effects := by
        rwa [effects_bind_raise] at inBody
      rcases enter_effects p w w.forked (execs_waitChild w w.forked) with empty | ⟨X, ends⟩
      · rw [empty] at entered; cases entered
      · have ended : body.effects = X ++ p.release w.forked := by rw [effects_bind_raise, ends]
        rw [ended, ← List.append_assoc] at mem ⊢
        exact exists_split_of_mem mem (acquire_not_mem_release forked acquire)
    · cases inBody
  · have usage : ctxTable.lookup prog = none ∨ childArgs CHILD = [] := by
      cases known : ctxTable.lookup prog with
      | none => exact .inl rfl
      | some p =>
        cases command : childArgs CHILD with
        | nil => exact .inr rfl
        | cons file args => exact absurd ⟨p, file, args, known, command⟩ started
    rw [main_of_usage w prog CHILD usage, bracket_raise]
    refine ⟨rfl, (attempted w (cgroupSetup w.pid (prog == "memtis"))).tail, rfl, ?_⟩
    intro p _ a acquire mem
    exact absurd (List.mem_append_left _ (mem_of_mem_attempted (List.mem_of_mem_tail mem)))
      (acquire_not_mem_cgroup _ _ acquire)

theorem launcher_parent_releases_wait_fails :
    ∃ pre, (main ⟨[], 100, 101, .exited 0, fun e => if e = .waitpid 101 then some .osError else none⟩
        "demeter" ["/data/gups"]).effects = .mkdir cgroupPath :: pre ++ [.write "/sys/fs/cgroup/cgroup.procs" "100",
          .rmdir cgroupPath] ∧
      ∀ a ∈ Policy.demeter.acquire 101, a ∈ pre → ∃ x y, pre = x ++ a :: y ++ [.write targetsPid "-1"] :=
  let ⟨pre, run, released⟩ := (launcher_parent_releases
    ⟨[], 100, 101, .exited 0, fun e => if e = .waitpid 101 then some .osError else none⟩
    "demeter" ["/data/gups"] (by decide)).2
  ⟨pre, run, released .demeter rfl⟩

theorem launcher_parent_run (w : World) (prog : String) (CHILD : List String) (p : Policy)
    (file : String) (args : List String) (forked : 0 < w.forked)
    (known : ctxTable.lookup prog = some p) (command : childArgs CHILD = file :: args)
    (modargs : List (String × Int)) (parsed : execModargs w.environ p.modargs = .ok modargs)
    (quiet : ∀ e, e.onChild = false → w.faults e = none) :
    main w prog CHILD =
      ⟨cgroupSetup w.pid (prog == "memtis") ++ [.fork] ++ p.setup w.forked modargs ++
          .waitpid w.forked ::
            (if w.faults (.waitpid w.forked) = some .keyboardInterrupt then [.kill w.forked sigint]
              else []) ++
          p.release w.forked ++ cgroupRelease w.pid,
        .error (.raise (match w.faults (.waitpid w.forked) with
          | none => .systemExit (waitstatusToExitcode w.status)
          | some .keyboardInterrupt => (w.faults (.kill w.forked sigint)).getD (.systemExit (-1))
          | some x => x))⟩ := by
  have waits := execs_waitChild w w.forked
  have stays : (p.enter w w.forked (waitChild w w.forked) >>= fun err =>
      (raise (.systemExit err) : Run Unit)).execs = false :=
    Run.execs_bind (p.execs_enter w _ waits) fun _ => execs_raise _
  rw [main_of_parent w prog CHILD p file args forked known command,
    bracket_of_quiet quiet (onChild_cgroup _ _) stays, p.enter_of_ok w _ _ parsed,
    bracket_of_quiet quiet (onChild_policy p _ _) waits, waitChild_eq]
  cases fault : w.faults (.waitpid w.forked) with
  | none => simp [Run.bind_of_ok]
  | some x =>
    cases x
    case keyboardInterrupt =>
      cases w.faults (.kill w.forked sigint) <;> simp [Run.bind_of_ok, Run.bind_of_error]
    all_goals simp [Run.bind_of_error]

theorem launcher_parent_run_demeter :
    main ⟨[("split_period_ms", "1000")], 100, 101, .exited 0, fun _ => none⟩ "demeter" ["/data/gups"] =
      ⟨[.mkdir cgroupPath, .write "/sys/fs/cgroup/bench/cgroup.procs" "100", .fork,
          .write numaBalancing "0", .write demotionEnabled "0",
          .run ["modprobe", "demeter_placement", "split_period_ms=1000"],
          .write "/sys/kernel/mm/demeter/targets/nr_targets" "3", .write targetsPid "101",
          .waitpid 101, .write targetsPid "-1", .write "/sys/fs/cgroup/cgroup.procs" "100",
          .rmdir cgroupPath],
        .error (.raise (.systemExit 0))⟩ :=
  launcher_parent_run _ "demeter" ["/data/gups"] .demeter "/data/gups" [] (by decide) rfl rfl
    [("split_period_ms", 1000)] rfl fun _ _ => rfl

theorem launcher_rejected_modarg (w : World) (prog : String) (CHILD : List String) (p : Policy)
    (file : String) (args : List String) (forked : 0 < w.forked)
    (known : ctxTable.lookup prog = some p) (command : childArgs CHILD = file :: args)
    (rejected : ∃ q ∈ setModargs w.environ p.modargs, (∀ c ∈ q.2.data, c.toNat < 128) ∧
      pyIntOfStr q.2 = none) :
    main w prog CHILD =
      ⟨attempted w (cgroupSetup w.pid (prog == "memtis") ++ [.fork]) ++ attempted w (cgroupRelease w.pid),
        .error (.raise ((firstRaise w (cgroupRelease w.pid)).getD
          ((firstRaise w (cgroupSetup w.pid (prog == "memtis") ++ [.fork])).getD .valueError)))⟩ := by
  rw [main_of_parent w prog CHILD p file args forked known command,
    p.enter_of_error w _ _ (execModargs_rejected _ _ (rejected.imp fun _ ⟨mem, _, rejects⟩ => ⟨mem, rejects⟩)),
    raise_bind, bracket_raise]

theorem launcher_rejected_modarg_text :
    main ⟨[("split_period_ms", "fast")], 100, 101, .exited 0, fun _ => none⟩ "demeter" ["/data/gups"] =
      ⟨[.mkdir cgroupPath, .write "/sys/fs/cgroup/bench/cgroup.procs" "100", .fork,
          .write "/sys/fs/cgroup/cgroup.procs" "100", .rmdir cgroupPath],
        .error (.raise .valueError)⟩ :=
  launcher_rejected_modarg _ "demeter" ["/data/gups"] .demeter "/data/gups" [] (by decide) rfl rfl
    ⟨("split_period_ms", "fast"), by decide, by decide, by decide⟩

theorem launcher_usage (w : World) (prog : String) (CHILD : List String)
    (usage : ctxTable.lookup prog = none ∨ childArgs CHILD = []) :
    main w prog CHILD =
      ⟨attempted w (cgroupSetup w.pid (prog == "memtis")) ++ attempted w (cgroupRelease w.pid),
        .error (.raise ((firstRaise w (cgroupRelease w.pid)).getD
          ((firstRaise w (cgroupSetup w.pid (prog == "memtis"))).getD
            (if ctxTable.lookup prog = none then .keyError else .systemExit einval))))⟩ := by
  rw [main_of_usage w prog CHILD usage, bracket_raise]

theorem launcher_usage_separator_only :
    main ⟨[], 100, 101, .exited 0, fun _ => none⟩ "demeter" ["--"] =
      ⟨[.mkdir cgroupPath, .write "/sys/fs/cgroup/bench/cgroup.procs" "100",
          .write "/sys/fs/cgroup/cgroup.procs" "100", .rmdir cgroupPath],
        .error (.raise (.systemExit einval))⟩ :=
  launcher_usage _ "demeter" ["--"] (.inr rfl)

/-! ### The child -/

theorem launcher_child_execs (w : World) (prog : String) (CHILD : List String) (p : Policy)
    (file : String) (args : List String) (child : w.forked = 0)
    (known : ctxTable.lookup prog = some p) (command : childArgs CHILD = file :: args) :
    main w prog CHILD =
      match firstRaise w (cgroupSetup w.pid (prog == "memtis") ++ [.fork, .execvp file (file :: args)]) with
      | none => ⟨cgroupSetup w.pid (prog == "memtis") ++ [.fork, .execvp file (file :: args)],
          .error (.exec file (file :: args))⟩
      | some x =>
        ⟨attempted w (cgroupSetup w.pid (prog == "memtis") ++ [.fork, .execvp file (file :: args)]) ++
            attempted w (cgroupRelease w.pid),
          .error (.raise ((firstRaise w (cgroupRelease w.pid)).getD x))⟩ := by
  rw [main_of_child w prog CHILD p file args child known command]
  split
  case h_1 clean => rw [bracket_of_exec w _ clean rfl, List.append_nil]
  case h_2 x raised => exact bracket_of_raise w _ _ raised

theorem launcher_child_execs_gups :
    main ⟨[], 100, 0, .exited 0, fun _ => none⟩ "demeter" ["--", "/data/gups", "--thread=4"] =
      ⟨[.mkdir cgroupPath, .write "/sys/fs/cgroup/bench/cgroup.procs" "100", .fork,
          .execvp "/data/gups" ["/data/gups", "--thread=4"]],
        .error (.exec "/data/gups" ["/data/gups", "--thread=4"])⟩ :=
  launcher_child_execs _ "demeter" ["--", "/data/gups", "--thread=4"] .demeter "/data/gups"
    ["--thread=4"] rfl rfl rfl

/-! ### The module demeter loads -/

theorem run_mem_demeter (w : World) (CHILD : List String) (forked : 0 < w.forked)
    {values : List (String × Int)} (parsed : execModargs w.environ demeterModargs = .ok values)
    {argv : List String} (ran : .run argv ∈ (main w "demeter" CHILD).effects) :
    argv = ["modprobe", "demeter_placement"] ++
      values.map fun (modarg, value) => s!"{modarg}={value}" := by
  have noRun : .run argv ∉ cgroupSetup w.pid ("demeter" == "memtis") ++ [.fork] ++ cgroupRelease w.pid := by
    simp [cgroupSetup, cgroupRelease]
  cases command : childArgs CHILD with
  | nil =>
    rw [main_of_usage w "demeter" CHILD (.inr command), bracket_raise] at ran
    rcases List.mem_append.mp ran with inSetup | inRelease
    · exact absurd (List.mem_append_left _ (List.mem_append_left _ (mem_of_mem_attempted inSetup))) noRun
    · exact absurd (List.mem_append_right _ (mem_of_mem_attempted inRelease)) noRun
  | cons file args =>
    have waits := execs_waitChild w w.forked
    have stays : (Policy.demeter.enter w w.forked (waitChild w w.forked) >>= fun err =>
        (raise (.systemExit err) : Run Unit)).execs = false :=
      Run.execs_bind (Policy.demeter.execs_enter w _ waits) fun _ => execs_raise _
    rw [main_of_parent w "demeter" CHILD .demeter file args forked rfl command] at ran
    rcases mem_bracket_effects stays ran with inSetup | inBody | inCleanup
    · exact absurd (List.mem_append_left _ inSetup) noRun
    · rw [effects_bind_raise, Policy.enter_of_ok .demeter w _ _ parsed] at inBody
      rcases mem_bracket_effects waits inBody with inPolicy | inWait | inRelease
      · simpa only [Policy.setup, demeterSetup, List.mem_cons, Effect.run.injEq, reduceCtorEq,
          List.not_mem_nil, false_or, or_false] using inPolicy
      · exact absurd (onChild_waitChild w _ _ inWait) (by simp [Effect.onChild])
      · simp [Policy.release] at inRelease
    · exact absurd (List.mem_append_right _ inCleanup) noRun

theorem launcher_modprobe_args (w : World) (CHILD : List String) (forked : 0 < w.forked)
    (canonical : ∀ q ∈ setModargs w.environ demeterModargs, ∃ v : Int, q.2 = toString v) :
    ∀ argv, .run argv ∈ (main w "demeter" CHILD).effects →
      argv = ["modprobe", "demeter_placement"] ++
        (setModargs w.environ demeterModargs).map fun (modarg, text) => s!"{modarg}={text}" := by
  intro argv ran
  obtain ⟨values, parsed, printed⟩ := execModargs_canonical _ _ canonical
  rw [run_mem_demeter w CHILD forked parsed ran, ← printed, List.map_map]
  rfl

theorem launcher_modprobe_args_split_period :
    .run ["modprobe", "demeter_placement", "split_period_ms=1000"] ∈
        (main ⟨[("split_period_ms", "1000")], 100, 101, .exited 0, fun _ => none⟩ "demeter" ["/data/gups"]).effects ∧
      ["modprobe", "demeter_placement", "split_period_ms=1000"] = ["modprobe", "demeter_placement"] ++
        (setModargs [("split_period_ms", "1000")] demeterModargs).map fun (modarg, text) => s!"{modarg}={text}" :=
  ⟨by decide, launcher_modprobe_args ⟨[("split_period_ms", "1000")], 100, 101, .exited 0, fun _ => none⟩
    ["/data/gups"] (by decide) (fun q mem => by
      have set : setModargs [("split_period_ms", "1000")] demeterModargs = [("split_period_ms", "1000")] :=
        rfl
      rw [set, List.mem_singleton] at mem
      exact ⟨1000, by rw [mem]; rfl⟩) _ (by decide)⟩

end DemeterBench.Guest
