import Mathlib.Data.List.Basic
import DemeterBench.Lifecycle.Guests

set_option autoImplicit false

/-!
# Teardown of the guests

What `Bench.guests` leaves on the host, whichever steps raise. The daemon events of each VM are
a prefix of `startOrder` started and then stopped newest first; or, only when one of its
collection steps raised, all three started and none stopped. That happens to at most one VM of a
run, and the run then raises. The ownership fix-up is the last event of every run that created
its output directory.

The body of the `with` block keeps `Guarded` (no VM left running, the fix-up queued at the
bottom of the stack); each callback keeps `Unwinding`, which also tracks the pending exception.
-/

namespace DemeterBench

def startOrder : List DaemonKind := [.data, .out, .hypervisor]

def HostEvent.isOf (j : Nat) : HostEvent → Bool
  | .start d | .stop d => d.vm == j
  | .chown => false

def starts (j : Nat) (kinds : List DaemonKind) : List HostEvent :=
  kinds.map fun kind => .start ⟨j, kind⟩

def stops (j : Nat) (kinds : List DaemonKind) : List HostEvent :=
  kinds.reverse.map fun kind => .stop ⟨j, kind⟩

def collectionFails (faults : Step → Option Exn) (j : Nat) : Prop :=
  faults (.collectLogs j) ≠ none ∨ faults (.collectKvmLogs j) ≠ none ∨ faults (.poweroff j) ≠ none

namespace Host

def trace (h : Host) (j : Nat) : List HostEvent := h.events.filter (HostEvent.isOf j)

def Running (h : Host) (j : Nat) (kinds : List DaemonKind) : Prop :=
  h.trace j = starts j kinds ∧ h.daemons j = kinds.reverse

def Stopped (h : Host) (j : Nat) (kinds : List DaemonKind) : Prop :=
  h.trace j = starts j kinds ++ stops j kinds ∧ h.daemons j = []

structure OnlyVm (j : Nat) (h h' : Host) : Prop where
  exits : h'.exits = h.exits
  chowns : h'.events.count .chown = h.events.count .chown
  others : ∀ i, i ≠ j → h'.trace i = h.trace i ∧ h'.daemons i = h.daemons i

variable {h h' h'' : Host} {i j : Nat} {kinds : List DaemonKind}

@[simp] theorem events_start (d : Daemon) : (h.start d).events = h.events ++ [.start d] := rfl

@[simp] theorem daemons_start (d : Daemon) :
    (h.start d).daemons = Function.update h.daemons d.vm (d.kind :: h.daemons d.vm) := rfl

@[simp] theorem exits_start (d : Daemon) : (h.start d).exits = h.exits := rfl

@[simp] theorem events_stopAll :
    (h.stopAll i).events = h.events ++ (h.daemons i).map fun kind => .stop ⟨i, kind⟩ := rfl

@[simp] theorem daemons_stopAll : (h.stopAll i).daemons = Function.update h.daemons i [] := rfl

@[simp] theorem exits_stopAll : (h.stopAll i).exits = h.exits := rfl

theorem trace_start (d : Daemon) :
    (h.start d).trace j = if d.vm = j then h.trace j ++ [.start d] else h.trace j := by
  split <;> simp [trace, HostEvent.isOf, *]

theorem trace_stopAll :
    (h.stopAll i).trace j =
      if i = j then h.trace j ++ (h.daemons j).map (fun kind => .stop ⟨j, kind⟩) else h.trace j := by
  split
  · subst_vars
    simp [trace, HostEvent.isOf, List.filter_map, Function.comp_def]
  · simp [trace, HostEvent.isOf, List.filter_map, Function.comp_def, *]

theorem Running.start (run : h.Running j kinds) (kind : DaemonKind) :
    (h.start ⟨j, kind⟩).Running j (kinds ++ [kind]) := by
  simp [Running, trace_start, run.1, run.2, starts]

theorem Running.stopAll (run : h.Running j kinds) : (h.stopAll j).Stopped j kinds := by
  simp [Stopped, trace_stopAll, run.1, run.2, stops]

theorem running_nil : h.Running j [] ↔ h.Stopped j [] := by
  simp [Running, Stopped, starts, stops]

theorem OnlyVm.refl (j : Nat) (h : Host) : OnlyVm j h h := ⟨rfl, rfl, fun _ _ => ⟨rfl, rfl⟩⟩

theorem OnlyVm.trans (first : OnlyVm j h h') (second : OnlyVm j h' h'') : OnlyVm j h h'' :=
  ⟨second.exits.trans first.exits, second.chowns.trans first.chowns, fun i ne =>
    ⟨(second.others i ne).1.trans (first.others i ne).1,
      (second.others i ne).2.trans (first.others i ne).2⟩⟩

theorem onlyVm_start (d : Daemon) (h : Host) : OnlyVm d.vm h (h.start d) :=
  ⟨rfl, by simp, fun i ne => by simp [trace_start, Ne.symm ne, ne]⟩

theorem onlyVm_stopAll (j : Nat) (h : Host) : OnlyVm j h (h.stopAll j) :=
  ⟨rfl, by simp [List.count_eq_zero], fun i ne => by simp [trace_stopAll, Ne.symm ne, ne]⟩

end Host

def Settled (leakable : Nat → Prop) (h : Host) (j : Nat) : Prop :=
  (∃ k, h.Stopped j (startOrder.take k)) ∨ (h.Running j startOrder ∧ leakable j)

def Tracked (leakable : Nat → Prop) (callbacks : List Exit) (h : Host) (j : Nat) : Prop :=
  (callbacks.count (.vm j) = 1 ∧ h.Running j startOrder) ∨
    (callbacks.count (.vm j) = 0 ∧ Settled leakable h j)

def Leaked (callbacks : List Exit) (h : Host) (j : Nat) : Prop :=
  callbacks.count (.vm j) = 0 ∧ h.Running j startOrder

def FixupQueued (callbacks : List Exit) (h : Host) : Prop :=
  h.events.count .chown = 0 ∧ ∃ pre, callbacks = pre ++ [.chown] ∧ .chown ∉ pre

def FixupDone (h : Host) : Prop := ∃ pre, h.events = pre ++ [.chown] ∧ .chown ∉ pre

structure Guarded (callbacks : List Exit) (h : Host) : Prop where
  tracked : ∀ j, Tracked (fun _ => False) callbacks h j
  fixup : FixupQueued callbacks h

structure Unwinding (faults : Step → Option Exn) (callbacks : List Exit) (pending : Option Exn)
    (h : Host) : Prop where
  tracked : ∀ j, Tracked (collectionFails faults) callbacks h j
  fixup : FixupQueued callbacks h ∨ (callbacks = [] ∧ FixupDone h)
  single : ∀ j k, Leaked callbacks h j → Leaked callbacks h k → j = k
  noticed : ∀ j, Leaked callbacks h j → pending ≠ none

section

variable {leakable : Nat → Prop} {h h' : Host} {i j : Nat} {callbacks rest : List Exit}

open Host

theorem Host.Stopped.not_running {kinds : List DaemonKind} (stopped : h.Stopped j kinds) :
    ¬ h.Running j startOrder := fun run => by
  simp [Stopped, Running, startOrder] at stopped run
  simp [stopped.2] at run

theorem Tracked.congr {callbacks' : List Exit} (trace : h'.trace j = h.trace j)
    (daemons : h'.daemons j = h.daemons j)
    (count : callbacks'.count (.vm j) = callbacks.count (.vm j))
    (tracked : Tracked leakable callbacks h j) : Tracked leakable callbacks' h' j := by
  simpa only [Tracked, Settled, Running, Stopped, trace, daemons, count] using tracked

theorem Tracked.change {callbacks' : List Exit} (tracked : ∀ j, Tracked leakable callbacks h j)
    (others : ∀ j, j ≠ i → h'.trace j = h.trace j ∧ h'.daemons j = h.daemons j)
    (counts : ∀ j, j ≠ i → callbacks'.count (.vm j) = callbacks.count (.vm j))
    (self : Tracked leakable callbacks' h' i) : ∀ j, Tracked leakable callbacks' h' j := by
  intro j
  by_cases same : j = i
  · exact same ▸ self
  · exact (tracked j).congr (others j same).1 (others j same).2 (counts j same)

theorem Tracked.top (tracked : Tracked leakable (.vm i :: rest) h i) :
    rest.count (.vm i) = 0 ∧ h.Running i startOrder := by
  rcases tracked with ⟨once, run⟩ | ⟨never, -⟩
  · exact ⟨by simpa [List.count_cons] using once, run⟩
  · simp [List.count_cons] at never

theorem Leaked.congr {callbacks' : List Exit} (trace : h'.trace j = h.trace j)
    (daemons : h'.daemons j = h.daemons j)
    (count : callbacks'.count (.vm j) = callbacks.count (.vm j))
    (leaked : Leaked callbacks' h' j) : Leaked callbacks h j := by
  simpa only [Leaked, Running, trace, daemons, count] using leaked

theorem count_vm_cons {callback : Exit} (ne : callback ≠ .vm j) :
    (callback :: callbacks).count (.vm j) = callbacks.count (.vm j) := by
  simp [List.count_cons, ne]

theorem FixupQueued.cons {callback : Exit} (queued : FixupQueued callbacks h)
    (ne : callback ≠ .chown) : FixupQueued (callback :: callbacks) h := by
  obtain ⟨unrun, pre, rfl, once⟩ := queued
  exact ⟨unrun, callback :: pre, rfl, by simp [once, Ne.symm ne]⟩

theorem FixupQueued.tail {callback : Exit} (queued : FixupQueued (callback :: callbacks) h)
    (ne : callback ≠ .chown) : FixupQueued callbacks h := by
  obtain ⟨unrun, pre, split, once⟩ := queued
  cases pre with
  | nil => exact absurd (List.cons.inj split).1 ne
  | cons first pre =>
    exact ⟨unrun, pre, (List.cons.inj split).2, fun mem => once (List.mem_cons_of_mem _ mem)⟩

theorem FixupQueued.congr (queued : FixupQueued callbacks h)
    (chowns : h'.events.count .chown = h.events.count .chown) : FixupQueued callbacks h' :=
  ⟨chowns.trans queued.1, queued.2⟩

theorem FixupQueued.chown (queued : FixupQueued (.chown :: rest) h) :
    rest = [] ∧ FixupDone { h with events := h.events ++ [.chown] } := by
  obtain ⟨unrun, pre, split, once⟩ := queued
  cases pre with
  | nil => exact ⟨(List.cons.inj split).2, h.events, rfl, List.count_eq_zero.1 unrun⟩
  | cons first pre =>
    exact absurd (List.mem_cons_self _ _) ((List.cons.inj split).1 ▸ once)

theorem Guarded.unwinding (faults : Step → Option Exn) (guarded : Guarded callbacks h)
    (pending : Option Exn) : Unwinding faults callbacks pending h := by
  have none : ∀ j, ¬ Leaked callbacks h j := by
    rintro j ⟨never, run⟩
    rcases guarded.tracked j with ⟨once, -⟩ | ⟨-, ⟨k, stopped⟩ | ⟨-, f⟩⟩
    · omega
    · exact stopped.not_running run
    · exact f
  refine ⟨fun j => ?_, .inl guarded.fixup, fun j _ leaked => absurd leaked (none j),
    fun j leaked => absurd leaked (none j)⟩
  rcases guarded.tracked j with tracked | ⟨never, ⟨k, stopped⟩ | ⟨-, f⟩⟩
  · exact .inl tracked
  · exact .inr ⟨never, .inl ⟨k, stopped⟩⟩
  · exact f.elim

end

section

variable (faults : Step → Option Exn) {h : Host} {j : Nat}

open Host

theorem call_spec (step : Step) {Q : Unit → Host → Prop} {R : Exn → Host → Prop}
    (returned : Q () h) (raised : ∀ e, R e h) : Py.Outcome Q R (call faults step h) := by
  rw [call_apply]
  cases faults step
  · exact returned
  · exact raised _

theorem call_keeps (step : Step) (P : Host → Prop) (hold : P h) :
    Py.Outcome (fun _ => P) (fun _ => P) (call faults step h) :=
  call_spec faults step hold fun _ => hold

theorem daemon_spec {kinds : List DaemonKind} (kind : DaemonKind) (run : h.Running j kinds) :
    Py.Outcome (fun _ h' => h'.Running j (kinds ++ [kind]) ∧ OnlyVm j h h')
      (fun _ h' => h'.Running j kinds ∧ OnlyVm j h h') (daemon faults ⟨j, kind⟩ h) := by
  rw [daemon_apply]
  cases faults (.daemonStart ⟨j, kind⟩)
  · exact ⟨run.start kind, onlyVm_start ⟨j, kind⟩ h⟩
  · exact ⟨run, .refl j h⟩

theorem Vm.enter_spec (idle : h.Running j []) :
    Py.Outcome (fun _ h' => h'.Running j startOrder ∧ OnlyVm j h h')
      (fun _ h' => (∃ k, h'.Stopped j (startOrder.take k)) ∧ OnlyVm j h h')
      (Vm.enter faults j h) := by
  -- the first `k` daemons run, while `__enter__` goes on
  let Started (k : Nat) (h' : Host) : Prop := h'.Running j (startOrder.take k) ∧ OnlyVm j h h'
  have start : ∀ k kind h', Started k h' → startOrder.take (k + 1) = startOrder.take k ++ [kind] →
      Py.Outcome (fun _ => Started (k + 1)) (fun _ h'' => ∃ k, Started k h'')
        (daemon faults ⟨j, kind⟩ h') := by
    rintro k kind h' ⟨run, only⟩ next
    exact (daemon_spec faults kind run).mono (fun _ _ ⟨run', only'⟩ => ⟨next ▸ run', only.trans only'⟩)
      (fun _ _ ⟨run', only'⟩ => ⟨k, run', only.trans only'⟩)
  have calls : ∀ step h', Started 3 h' → Py.Outcome (fun _ => Started 3)
      (fun _ h'' => ∃ k, Started k h'') (call faults step h') := fun step h' started =>
    (call_keeps faults step _ started).mono (fun _ _ => id) (fun _ _ started => ⟨3, started⟩)
  unfold Vm.enter
  refine (call_keeps faults _ (Started 0) ⟨idle, .refl j h⟩).bind (fun _ h1 s1 => ?_)
    (fun _ _ s1 => ⟨⟨0, running_nil.1 s1.1⟩, s1.2⟩)
  have s2 : Started 0 { h1 with daemons := Function.update h1.daemons j [] } :=
    ⟨⟨s1.1.1, by simp⟩, s1.2.trans ⟨rfl, rfl, fun i ne => ⟨rfl, by simp [ne]⟩⟩⟩
  refine Py.Outcome.bind_modify (Py.Outcome.tryCatch (R := fun _ h' => ∃ k, Started k h') ?_ ?_)
  · exact (start 0 .data _ s2 rfl).bind (fun _ h3 s3 => (start 1 .out h3 s3 rfl).bind
      (fun _ h4 s4 => (start 2 .hypervisor h4 s4 rfl).bind
        (fun _ h5 s5 => (calls _ h5 s5).bind (fun _ h6 s6 => calls _ h6 s6) (fun _ _ => id))
        (fun _ _ => id)) (fun _ _ => id)) (fun _ _ => id)
  · rintro e h' ⟨k, run, only⟩
    simp only [Py.bind_apply, stopDaemons_apply, Py.raise_apply]
    exact ⟨⟨k, run.stopAll⟩, only.trans (onlyVm_stopAll j h')⟩

theorem Vm.exit_spec (exc : Option Exn) (run : h.Running j startOrder) :
    Py.Outcome (fun _ h' => h'.Stopped j startOrder ∧ OnlyVm j h h')
      (fun _ h' => h'.Running j startOrder ∧ OnlyVm j h h' ∧ collectionFails faults j ∧ exc = none)
      (Vm.exit faults j exc h) := by
  have stop : ∀ {R : Exn → Host → Prop},
      Py.Outcome (fun _ h' => h'.Stopped j startOrder ∧ OnlyVm j h h') R (stopDaemons j h) := by
    intro R
    rw [stopDaemons_apply]
    exact ⟨run.stopAll, onlyVm_stopAll j h⟩
  cases exc with
  | some e => simpa [Vm.exit] using stop
  | none =>
    simp only [Vm.exit, Option.isNone_none, ite_true, Py.bind_apply, call_apply]
    rcases h1 : faults (.collectLogs j) with _ | e1
    · rcases h2 : faults (.collectKvmLogs j) with _ | e2
      · rcases h3 : faults (.poweroff j) with _ | e3
        · exact stop
        · exact ⟨run, .refl j h, by simp [collectionFails, h3], trivial⟩
      · exact ⟨run, .refl j h, by simp [collectionFails, h2], trivial⟩
    · exact ⟨run, .refl j h, by simp [collectionFails, h1], trivial⟩

end

section

variable (faults : Step → Option Exn) {h h' : Host} {i : Nat} {rest : List Exit}
  {pending : Option Exn}

open Host

theorem fixup_pop {callback : Exit}
    (fixup : FixupQueued (callback :: rest) h ∨ (callback :: rest = [] ∧ FixupDone h))
    (ne : callback ≠ .chown) (chowns : h'.events.count .chown = h.events.count .chown) :
    FixupQueued rest h' ∨ (rest = [] ∧ FixupDone h') :=
  fixup.elim (fun queued => .inl ((queued.tail ne).congr chowns)) fun ⟨empty, _⟩ => by cases empty

theorem Unwinding.popStopped (unwinding : Unwinding faults (.vm i :: rest) pending h)
    (only : OnlyVm i h h') (stopped : h'.Stopped i startOrder) : Unwinding faults rest pending h' := by
  have counts : ∀ j, j ≠ i → rest.count (.vm j) = (Exit.vm i :: rest).count (.vm j) :=
    fun j ne => (count_vm_cons (by simpa using Ne.symm ne)).symm
  -- a VM left running after the pop was left running before it
  have before : ∀ j, Leaked rest h' j → Leaked (.vm i :: rest) h j := fun j leaked => by
    have ne : j ≠ i := fun same => stopped.not_running (same ▸ leaked.2)
    exact leaked.congr (only.others j ne).1 (only.others j ne).2 (counts j ne)
  exact ⟨Tracked.change unwinding.tracked only.others counts
      (.inr ⟨(unwinding.tracked i).top.1, .inl ⟨3, stopped⟩⟩),
    fixup_pop unwinding.fixup (by simp) only.chowns,
    fun j k left left' => unwinding.single j k (before j left) (before k left'),
    fun j left => unwinding.noticed j (before j left)⟩

theorem Unwinding.popLeaked (unwinding : Unwinding faults (.vm i :: rest) none h)
    (only : OnlyVm i h h') (run : h'.Running i startOrder) (fails : collectionFails faults i)
    (e : Exn) : Unwinding faults rest (some e) h' := by
  have counts : ∀ j, j ≠ i → rest.count (.vm j) = (Exit.vm i :: rest).count (.vm j) :=
    fun j ne => (count_vm_cons (by simpa using Ne.symm ne)).symm
  -- nothing was pending, so no other VM was left running
  have alone : ∀ j, Leaked rest h' j → j = i := fun j leaked => by
    by_contra ne
    exact unwinding.noticed j (leaked.congr (only.others j ne).1 (only.others j ne).2 (counts j ne)) rfl
  exact ⟨Tracked.change unwinding.tracked only.others counts
      (.inr ⟨(unwinding.tracked i).top.1, .inr ⟨run, fails⟩⟩),
    fixup_pop unwinding.fixup (by simp) only.chowns,
    fun j k left left' => (alone j left).trans (alone k left').symm,
    fun _ _ => Option.some_ne_none e⟩

theorem Unwinding.popOther {callback : Exit} {pending' : Option Exn}
    (unwinding : Unwinding faults (callback :: rest) pending h) (vm : ∀ i, callback ≠ .vm i)
    (same : ∀ j, h'.trace j = h.trace j ∧ h'.daemons j = h.daemons j)
    (fixup : FixupQueued rest h' ∨ (rest = [] ∧ FixupDone h'))
    (raised : pending ≠ none → pending' ≠ none) : Unwinding faults rest pending' h' := by
  have before : ∀ j, Leaked rest h' j → Leaked (callback :: rest) h j := fun j leaked =>
    leaked.congr (same j).1 (same j).2 (count_vm_cons (vm j)).symm
  exact ⟨fun j => (unwinding.tracked j).congr (same j).1 (same j).2 (count_vm_cons (vm j)).symm,
    fixup, fun j k left left' => unwinding.single j k (before j left) (before k left'),
    fun j left => raised (unwinding.noticed j (before j left))⟩

theorem runExit_spec (callback : Exit) (pending : Option Exn) (h : Host)
    (unwinding : Unwinding faults (callback :: rest) pending h) :
    Py.Outcome (fun _ => Unwinding faults rest pending) (fun e => Unwinding faults rest (some e))
      (runExit faults callback pending h) := by
  cases callback with
  | vm i =>
    exact (Vm.exit_spec faults pending (unwinding.tracked i).top.2).mono
      (fun _ _ ⟨stopped, only⟩ => unwinding.popStopped faults only stopped)
      (fun e _ ⟨run, only, fails, unraised⟩ =>
        Unwinding.popLeaked faults (unraised ▸ unwinding) only run fails e)
  | kvmCopy =>
    have fixup : FixupQueued rest h ∨ (rest = [] ∧ FixupDone h) :=
      fixup_pop unwinding.fixup (by simp) rfl
    exact call_spec faults _ (unwinding.popOther faults (by simp) (fun _ => ⟨rfl, rfl⟩) fixup id)
      fun e => unwinding.popOther faults (by simp) (fun _ => ⟨rfl, rfl⟩) fixup
        fun _ => Option.some_ne_none e
  | chown =>
    rcases unwinding.fixup with queued | ⟨empty, -⟩
    · obtain ⟨rfl, done⟩ := queued.chown
      have same : ∀ j, ({ h with events := h.events ++ [.chown] } : Host).trace j = h.trace j ∧
          ({ h with events := h.events ++ [.chown] } : Host).daemons j = h.daemons j :=
        fun j => ⟨by simp [trace, HostEvent.isOf], rfl⟩
      exact call_spec faults _ (unwinding.popOther faults (by simp) same (.inr ⟨rfl, done⟩) id)
        fun e => unwinding.popOther faults (by simp) same (.inr ⟨rfl, done⟩)
          fun _ => Option.some_ne_none e
    · cases empty

theorem enterVms_spec : ∀ (ids : List Nat) (h : Host), ids.Nodup →
    (∀ j ∈ ids, h.Running j [] ∧ h.exits.count (.vm j) = 0) → Guarded h.exits h →
    Py.Outcome (fun _ h' => Guarded h'.exits h') (fun _ h' => Guarded h'.exits h')
      (enterVms faults ids h)
  | [], _, _, _, guarded => guarded
  | id :: ids, h, nodup, idle, guarded => by
    obtain ⟨fresh, others⟩ := List.nodup_cons.1 nodup
    obtain ⟨run, unpushed⟩ := idle id (List.mem_cons_self _ _)
    refine (Vm.enter_spec faults run).bind (fun _ h1 ⟨started, only⟩ => ?_)
      (fun _ h1 ⟨⟨k, stopped⟩, only⟩ => ?_)
    · refine enterVms_spec ids { h1 with exits := .vm id :: h1.exits } others
        (fun j mem => ?_) ⟨?_, ?_⟩
      · have ne : j ≠ id := fun same => fresh (same ▸ mem)
        obtain ⟨⟨trace, daemons⟩, unpushed⟩ := idle j (List.mem_cons_of_mem _ mem)
        refine ⟨⟨(only.others j ne).1.trans trace, (only.others j ne).2.trans daemons⟩, ?_⟩
        simpa [only.exits, List.count_cons, ne] using unpushed
      · refine Tracked.change guarded.tracked only.others (fun j ne => ?_) (.inl ⟨?_, started⟩)
        · simp [only.exits, List.count_cons, ne]
        · simp [only.exits, List.count_cons, unpushed]
      · rw [only.exits]
        exact (guarded.fixup.cons (by simp)).congr only.chowns
    · exact only.exits ▸ ⟨Tracked.change guarded.tracked only.others (fun _ _ => rfl)
        (.inr ⟨unpushed, .inl ⟨k, stopped⟩⟩), guarded.fixup.congr only.chowns⟩

theorem withExitStack_spec (body : Py Host Unit) (h : Host)
    (ran : Py.Outcome (fun _ h' => Guarded h'.exits h') (fun _ h' => Guarded h'.exits h')
      (body { h with exits := [] })) :
    Py.Outcome (fun _ => Unwinding faults [] none) (fun e => Unwinding faults [] (some e))
      (withExitStack faults body h) := by
  unfold withExitStack
  refine Py.Outcome.bind_read (Py.Outcome.bind_modify ?_)
  refine Py.Outcome.bind (Q := fun _ h' => Guarded h'.exits h') (R := fun _ _ => False)
    (Py.Outcome.tryCatch (Py.Outcome.bind ran (fun _ _ => id) (fun _ _ => id)) (fun _ _ => id))
    (fun pending h1 guarded => ?_) (fun _ _ f => f.elim)
  refine Py.Outcome.bind_read (Py.Outcome.bind_modify ?_)
  exact (Py.unwind_spec (runExit faults) (Unwinding faults) (fun callback rest pending h u =>
    runExit_spec faults callback pending h u) _ pending { h1 with exits := h.exits }
    (Guarded.unwinding faults (⟨guarded.tracked, guarded.fixup⟩ : Guarded h1.exits
      { h1 with exits := h.exits }) pending)).bind (fun _ _ done => Py.Outcome.reraise done)
    (fun _ _ f => f.elim)

end

section

variable (faults : Step → Option Exn)

open Host

theorem guestsBody_keeps (P : Host → Prop) {h : Host} (hold : P h) :
    Py.Outcome (fun _ => P) (fun _ => P) (guestsBody faults h) :=
  Py.Outcome.tryCatch (call_keeps faults _ _ hold) fun e _ hold => by cases e <;> exact hold

theorem guests_unwound (b : Bench) (created : faults .outDir = none) :
    Unwinding faults [] (Py.raised (b.guests faults {}).2) (b.guests faults {}).1 := by
  have fresh : ∀ j, ({ exits := [.chown] } : Host).Running j [] := fun j => ⟨rfl, rfl⟩
  unfold Bench.guests
  rw [Py.bind_apply, call_apply, created]
  refine Py.Outcome.raised (withExitStack_spec faults _ _ ?_)
  refine Py.Outcome.bind_modify ?_
  have initial : Guarded [.chown] { exits := [.chown] } :=
    ⟨fun j => .inr ⟨rfl, .inl ⟨0, fresh j⟩⟩, rfl, [], rfl, by simp⟩
  refine (enterVms_spec faults _ _ (List.nodup_range _) (fun j _ => ⟨fresh j, rfl⟩) initial).bind
    (fun _ _ guarded => ?_) (fun _ _ => id)
  let G (h' : Host) : Prop := Guarded h'.exits h'
  refine (call_keeps faults _ G guarded).bind (fun _ _ guarded => (call_keeps faults _ G guarded).bind
    (fun _ _ guarded => (call_keeps faults _ G guarded).bind (fun _ h' guarded => ?_)
      (fun _ _ => id)) (fun _ _ => id)) (fun _ _ => id)
  exact guestsBody_keeps faults _
    ⟨fun j => (guarded.tracked j).congr rfl rfl (count_vm_cons (by simp)),
      guarded.fixup.cons (by simp)⟩

theorem guests_untouched (b : Bench) {e : Exn} (failed : faults .outDir = some e) :
    b.guests faults {} = ({}, .error e) := by
  simp [Bench.guests, call_apply, failed]

theorem guests_settled (b : Bench) (j : Nat) :
    Settled (collectionFails faults) (b.guests faults {}).1 j := by
  cases created : faults .outDir with
  | some e =>
    rw [guests_untouched faults b created]
    exact .inl ⟨0, rfl, rfl⟩
  | none =>
    rcases (guests_unwound faults b created).tracked j with ⟨once, -⟩ | ⟨-, settled⟩
    · simp at once
    · exact settled

theorem guests_leaked (b : Bench) {j : Nat} (running : (b.guests faults {}).1.daemons j ≠ []) :
    faults .outDir = none ∧ Leaked [] (b.guests faults {}).1 j := by
  cases created : faults .outDir with
  | some e => simp [guests_untouched faults b created] at running
  | none =>
    refine ⟨rfl, rfl, ?_⟩
    rcases guests_settled faults b j with ⟨k, stopped⟩ | ⟨run, -⟩
    · exact absurd stopped.2 running
    · exact run

end

theorem guests_vm_trace (b : Bench) (faults : Step → Option Exn) (j : Nat) :
    (∃ k, (b.guests faults {}).1.trace j = starts j (startOrder.take k) ++ stops j (startOrder.take k)) ∨
      ((b.guests faults {}).1.trace j = starts j startOrder ∧ collectionFails faults j) := by
  rcases guests_settled faults b j with ⟨k, stopped⟩ | ⟨run, fails⟩
  · exact .inl ⟨k, stopped.1⟩
  · exact .inr ⟨run.1, fails⟩

theorem guests_at_most_one_left_running (b : Bench) (faults : Step → Option Exn) :
    (∀ j k, (b.guests faults {}).1.daemons j ≠ [] → (b.guests faults {}).1.daemons k ≠ [] → j = k) ∧
      ∀ j, (b.guests faults {}).1.daemons j ≠ [] → ∃ e, (b.guests faults {}).2 = .error e := by
  refine ⟨fun j k left left' => ?_, fun j left => ?_⟩
  · obtain ⟨created, leaked⟩ := guests_leaked faults b left
    exact (guests_unwound faults b created).single j k leaked (guests_leaked faults b left').2
  · obtain ⟨created, leaked⟩ := guests_leaked faults b left
    exact Py.error_of_raised ((guests_unwound faults b created).noticed j leaked)

theorem guests_chown_last (b : Bench) (faults : Step → Option Exn) (created : faults .outDir = none) :
    ∃ pre, (b.guests faults {}).1.events = pre ++ [.chown] ∧ .chown ∉ pre := by
  rcases (guests_unwound faults b created).fixup with ⟨-, pre, split, -⟩ | ⟨-, done⟩
  · simp at split
  · exact done

theorem guests_chown_last_clean :
    (fun _ => none : Step → Option Exn) .outDir = none ∧
      ∃ pre, (({} : Bench).guests (fun _ => none) {}).1.events = pre ++ [.chown] ∧ .chown ∉ pre :=
  ⟨rfl, guests_chown_last {} (fun _ => none) rfl⟩

end DemeterBench
