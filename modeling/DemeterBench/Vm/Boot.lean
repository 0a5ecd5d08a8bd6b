import DemeterBench.Python

set_option autoImplicit false

namespace DemeterBench

/-- What one `self._ssh.run("date -Is", hide=True)` does. -/
inductive Probe where
  | ok
  -- connection refused or host unreachable (paramiko's `NoValidConnectionsError`)
  | noValidConnections
  -- the connect timed out (`socket.timeout`)
  | socketTimeout
  -- banner or handshake failure (`SSHException`)
  | sshException
  | groupException
  -- the command ran and failed (`UnexpectedExit`)
  | unexpectedExit
  deriving DecidableEq, Repr

/-- The failures `wait_for_boot` names in its `except` clauses. -/
def Probe.swallowed : Probe → Bool
  | .noValidConnections | .groupException => true
  | _ => false

inductive BootError where
  | probe (failure : Probe)
  | raised (error : PyError)
  deriving DecidableEq, Repr

structure BootRun where
  probes : Nat
  result : Except BootError Unit

/-- The loop over `retries`; probe `k` of the run has outcome `probe k`. -/
def waitLoop (id : Nat) (probe : Nat → Probe) : Nat → List Nat → BootRun
  | k, [] => ⟨k, .ok ()⟩
  | k, retry :: rest =>
    match probe k with
    | .ok => ⟨k + 1, .ok ()⟩
    | failure =>
      if failure.swallowed then
        if retry = 0 then ⟨k + 1, .error (.raised (.runtimeError s!"vm {id} failed to boot"))⟩
        else waitLoop id probe (k + 1) rest
      else ⟨k + 1, .error (.probe failure)⟩

def Vm.waitForBoot (id : Nat) (timeout : Int) (probe : Nat → Probe) : BootRun :=
  waitLoop id probe 0 (List.range timeout.toNat).reverse

def firstUnswallowed (probe : Nat → Probe) (k n : Nat) : Option Nat :=
  (List.range n).find? fun j => !(probe (k + j)).swallowed

theorem firstUnswallowed_succ (probe : Nat → Probe) (k n : Nat) :
    firstUnswallowed probe k (n + 1) =
      if (probe k).swallowed then (firstUnswallowed probe (k + 1) n).map (· + 1) else some 0 := by
  rw [firstUnswallowed, firstUnswallowed, List.range_succ_eq_map, List.find?_cons, List.find?_map]
  cases h : (probe k).swallowed <;> simp [h, Function.comp_def, Nat.add_assoc, Nat.add_comm 1]

theorem waitLoop_reverse_range (id : Nat) (probe : Nat → Probe) (n k : Nat) :
    waitLoop id probe k (List.range (n + 1)).reverse =
      match firstUnswallowed probe k (n + 1) with
      | some j => ⟨k + j + 1, if probe (k + j) = .ok then .ok () else .error (.probe (probe (k + j)))⟩
      | none => ⟨k + n + 1, .error (.raised (.runtimeError s!"vm {id} failed to boot"))⟩ := by
  induction n generalizing k with
  | zero =>
    rw [firstUnswallowed_succ]
    cases h : probe k <;> simp [waitLoop, firstUnswallowed, h, Probe.swallowed]
  | succ n ih =>
    rw [List.range_succ, List.reverse_append, firstUnswallowed_succ]
    change waitLoop id probe k ((n + 1) :: (List.range (n + 1)).reverse) = _
    cases h : probe k with
    | noValidConnections | groupException =>
      simp only [waitLoop, h, Probe.swallowed, if_true, Nat.succ_ne_zero, if_false, ih]
      cases firstUnswallowed probe (k + 1) (n + 1) <;> simp [Nat.add_assoc, Nat.add_comm 1]
    | _ => simp [waitLoop, h, Probe.swallowed]

def bootSpec (id budget : Nat) (probe : Nat → Probe) : BootRun :=
  match firstUnswallowed probe 0 budget with
  | some j => ⟨j + 1, if probe j = .ok then .ok () else .error (.probe (probe j))⟩
  | none => ⟨budget, .error (.raised (.runtimeError s!"vm {id} failed to boot"))⟩

theorem waitForBoot_of_pos (id : Nat) (probe : Nat → Probe) {timeout : Int} (positive : 0 < timeout) :
    Vm.waitForBoot id timeout probe = bootSpec id timeout.toNat probe := by
  obtain ⟨n, hn⟩ : ∃ n, timeout.toNat = n + 1 := ⟨timeout.toNat - 1, by omega⟩
  rw [Vm.waitForBoot, hn, waitLoop_reverse_range, bootSpec]
  cases firstUnswallowed probe 0 (n + 1) <;> simp

theorem waitForBoot_of_pos_refused_twice :
    (0 : Int) < 60 ∧
      Vm.waitForBoot 7 60 (fun k => if k < 2 then .noValidConnections else .ok) =
        bootSpec 7 60 (fun k => if k < 2 then .noValidConnections else .ok) :=
  ⟨by decide, waitForBoot_of_pos 7 _ (by decide)⟩

theorem waitForBoot_timeout_not_retried :
    Vm.waitForBoot 0 60 (fun _ => .socketTimeout) = ⟨1, .error (.probe .socketTimeout)⟩ :=
  rfl

end DemeterBench
