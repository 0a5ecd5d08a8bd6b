import DemeterBench.Lifecycle.Py
import DemeterBench.Bench

set_option autoImplicit false

/-!
# Starting and stopping the guests

`Bench.guests` enters one `Vm` per guest on an `ExitStack`; each `Vm.__enter__` starts its
daemons on a stack of its own. What the host sees of a run is the list of daemon starts and stops
and the ownership fix-up. Every call that can raise is a `Step`, and one oracle says which of them
raise: each step runs at most once in a run, so the oracles cover every run.
-/

namespace DemeterBench

/-- The daemons of a VM, in the order `Vm.__enter__` starts them. -/
inductive DaemonKind where
  | data
  | out
  | hypervisor
  deriving DecidableEq, Repr

structure Daemon where
  vm : Nat
  kind : DaemonKind
  deriving DecidableEq, Repr

inductive HostEvent where
  | start (daemon : Daemon)
  | stop (daemon : Daemon)
  | chown
  deriving DecidableEq, Repr

inductive Step where
  -- `out.mkdir`, the logging set-up and the `out` symlink
  | outDir
  -- `self.out_dir.mkdir` and the arguments, before the VM's stack exists
  | vmSetup (id : Nat)
  -- opening the log files and `Popen`
  | daemonStart (daemon : Daemon)
  -- `Api(ch_socket)` and `vm.info.get()`
  | api (id : Nat)
  | connect (id : Nat)
  | group
  | wait
  | prepare
  | body
  | kvmCopy
  | collectLogs (id : Nat)
  | collectKvmLogs (id : Nat)
  | poweroff (id : Nat)
  | chown
  deriving DecidableEq, Repr

/-- A callback on the exit stack of `Bench.guests`. -/
inductive Exit where
  | vm (id : Nat)
  | kvmCopy
  | chown
  deriving DecidableEq, Repr

structure Host where
  events : List HostEvent := []
  -- each VM's `_stack`: the kinds of its running daemons, newest first
  daemons : Nat → List DaemonKind := fun _ => []
  -- the `ExitStack` of `Bench.guests`, newest first
  exits : List Exit := []

section

variable (faults : Step → Option Exn)

def call (step : Step) : Py Host Unit := fun h =>
  (h, match faults step with
    | some e => .error e
    | none => .ok ())

def record (event : HostEvent) : Py Host Unit :=
  Py.modify fun h => { h with events := h.events ++ [event] }

def setDaemons (id : Nat) (daemons : List DaemonKind) : Py Host Unit :=
  Py.modify fun h => { h with daemons := Function.update h.daemons id daemons }

/-- `self._stack.enter_context(daemon(...))`. -/
def daemon (d : Daemon) : Py Host Unit := do
  call faults (.daemonStart d)
  record (.start d)
  setDaemons d.vm (d.kind :: (← Py.read (·.daemons d.vm)))

/-- `self._stack.__exit__` of VM `id`: each daemon's `finally`, newest first. -/
def stopDaemons (id : Nat) : Py Host Unit := do
  let kinds ← Py.read (·.daemons id)
  setDaemons id []
  kinds.forM fun kind => record (.stop ⟨id, kind⟩)

def Vm.enter (id : Nat) : Py Host Unit := do
  call faults (.vmSetup id)
  setDaemons id []
  Py.tryCatch
    (do
      daemon faults ⟨id, .data⟩
      daemon faults ⟨id, .out⟩
      daemon faults ⟨id, .hypervisor⟩
      call faults (.api id)
      call faults (.connect id))
    fun e => do
      stopDaemons id
      Py.raise e

def Vm.exit (id : Nat) (exc : Option Exn) : Py Host Unit := do
  if exc.isNone then
    call faults (.collectLogs id)
    call faults (.collectKvmLogs id)
    call faults (.poweroff id)
  stopDaemons id

def runExit : Exit → Option Exn → Py Host Unit
  | .vm id, exc => Vm.exit faults id exc
  | .kvmCopy, _ => call faults .kvmCopy
  | .chown, _ => do
    record .chown
    call faults .chown

def push (callback : Exit) : Py Host Unit :=
  Py.modify fun h => { h with exits := callback :: h.exits }

/-- `with ExitStack() as stack: body`. -/
def withExitStack (body : Py Host Unit) : Py Host Unit := do
  let outer ← Py.read (·.exits)
  Py.modify fun h => { h with exits := [] }
  let pending ← Py.tryCatch (do body; pure none) fun e => pure (some e)
  let callbacks ← Py.read (·.exits)
  Py.modify fun h => { h with exits := outer }
  Py.reraise (← Py.unwind (runExit faults) callbacks pending)

/-- `[stack.enter_context(Vm(id=id, bench=self)) for id in ids]`. -/
def enterVms : List Nat → Py Host Unit
  | [] => pure ()
  | id :: ids => do
    Vm.enter faults id
    push (.vm id)
    enterVms ids

/-- The caller's body under `except GroupException` and `except SSHException`. -/
def guestsBody : Py Host Unit :=
  Py.tryCatch (call faults .body) fun
    | .groupException | .sshException => pure ()
    | e => Py.raise e

def Bench.guests (b : Bench) : Py Host Unit := do
  call faults .outDir
  withExitStack faults do
    push .chown
    enterVms faults (List.range b.num)
    call faults .group
    call faults .wait
    call faults .prepare
    push .kvmCopy
    guestsBody faults

end

/-! The host actions a run is made of, and each function as one of them. -/

namespace Host

def start (d : Daemon) (h : Host) : Host :=
  { h with
    events := h.events ++ [.start d]
    daemons := Function.update h.daemons d.vm (d.kind :: h.daemons d.vm) }

def stopAll (id : Nat) (h : Host) : Host :=
  { h with
    events := h.events ++ (h.daemons id).map fun kind => .stop ⟨id, kind⟩
    daemons := Function.update h.daemons id [] }

end Host

section

variable (faults : Step → Option Exn)

theorem call_apply (step : Step) (h : Host) :
    call faults step h = (h, match faults step with
      | some e => .error e
      | none => .ok ()) := rfl

theorem record_apply (event : HostEvent) (h : Host) :
    record event h = ({ h with events := h.events ++ [event] }, .ok ()) := rfl

theorem daemon_apply (d : Daemon) (h : Host) :
    daemon faults d h = match faults (.daemonStart d) with
      | some e => (h, .error e)
      | none => (h.start d, .ok ()) := by
  simp only [daemon, Py.bind_apply, call_apply]
  cases faults (.daemonStart d) <;> rfl

theorem stopDaemons_apply (id : Nat) (h : Host) : stopDaemons id h = (h.stopAll id, .ok ()) := by
  suffices forM : ∀ (kinds : List DaemonKind) (h : Host),
      kinds.forM (fun kind => record (.stop ⟨id, kind⟩)) h =
        ({ h with events := h.events ++ kinds.map fun kind => .stop ⟨id, kind⟩ }, .ok ()) by
    simp only [stopDaemons, Py.bind_apply, Py.read_apply, setDaemons, Py.modify_apply, forM]
    rfl
  intro kinds
  induction kinds with
  | nil => intro h; simp
  | cons kind kinds ih => intro h; simp [List.forM_cons, record_apply, ih]

end

theorem guests_collectLogs_leaks :
    let faults : Step → Option Exn := fun s => if s = .collectLogs 0 then some (.error 1) else none
    let run := ({ num := 1 } : Bench).guests faults {}
    run.1.events = [.start ⟨0, .data⟩, .start ⟨0, .out⟩, .start ⟨0, .hypervisor⟩, .chown] ∧
      run.2 = .error (.error 1) :=
  ⟨rfl, rfl⟩

end DemeterBench
