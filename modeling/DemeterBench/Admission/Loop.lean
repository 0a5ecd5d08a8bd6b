import DemeterBench.Bench

set_option autoImplicit false

/-!
# `Bench._guests_prepare`

The admission loop: read the DRAM node's memory, admit as many of the remaining VMs as it
affords, prepare them as one batch, and retry up to `timeout` times when none fits. Read `k`
of a run sees the host's memory as `readings k`, which maps a node to `(total, free)`, and
`faults k` names the call, if any, that raises `GroupException` while the batch admitted by
read `k` is prepared. A batch's events are recorded once its preparation has returned.
-/

namespace DemeterBench

/-- What `_guests_prepare` does on the host, in order. -/
inductive PrepareEvent where
  -- `node_memory_free(self.dram_node)`, with the node's `(total, free)` at that moment
  | read (snapshot : Nat × Nat)
  -- `prepare_dirs`, `prepare_kernel` and, with a balloon, `enable_balloon` on `vms[lo:hi]`
  | prepare (lo hi : Nat) (balloon : Option Balloon)
  -- `group.sudo(f"sleep {balloon_wait}")`
  | sleep (seconds : Nat)
  deriving DecidableEq, Repr

/-- The guest commands that prepare a batch; each runs `group.sudo` without `warn=True`. -/
inductive PrepareCall where
  | dirs
  | kernel
  | balloon
  | sleep
  deriving DecidableEq, Repr

structure Admission where
  remain : Nat
  reads : Nat
  events : List PrepareEvent
  deriving DecidableEq, Repr

/-- How a `while remain > 0` pass ends. -/
inductive PassEnd where
  | drained
  | noFit
  | raised (error : PyError)
  deriving DecidableEq, Repr

def Admission.finalRead (s : Admission) (snapshot : Nat × Nat) : Admission :=
  ⟨s.remain, s.reads + 1, s.events ++ [.read snapshot]⟩

namespace Bench

variable (b : Bench)

/-- `vmmem`: `mem`, scaled by `dram_ratio` (into a float) when no balloon is configured. -/
def vmmem : PyNum := if b.balloon.isNone then (PyNum.int b.mem).mul (.float b.dramRatio) else .int b.mem

/-- `batch = min(free // vmmem, remain)`. -/
def batchFor (free remain : Nat) : Except PyError PyNum :=
  ((PyNum.int free).floorDiv b.vmmem).map fun enough => enough.pyMin (.int remain)

def balloonWait : Nat := b.mem / 2 ^ 30 * 3

/-- Preparing `vms[lo:hi]`, then letting the balloon settle. -/
def prepareEvents (lo hi : Nat) : List PrepareEvent :=
  .prepare lo hi b.balloon :: if b.balloon.isSome then [.sleep b.balloonWait] else []

/-- Whether a batch's preparation raises; `enable_balloon` and the sleep only run with a balloon. -/
def prepareRaises : Option PrepareCall → Bool
  | some .dirs | some .kernel => true
  | some .balloon | some .sleep => b.balloon.isSome
  | none => false

def admitRead (snapshot : Nat × Nat) (n : Nat) (s : Admission) : Admission :=
  ⟨s.remain - n, s.reads + 1, s.events ++ .read snapshot :: b.prepareEvents (s.remain - n) s.remain⟩

variable (readings : Nat → Nat → Nat × Nat) (faults : Nat → Option PrepareCall)

/-- One `while remain > 0` pass. -/
def admitPass : Nat → Admission → Admission × PassEnd
  | 0, s => (s, .drained)
  | fuel + 1, s =>
    if s.remain = 0 then (s, .drained) else
    let snapshot := readings s.reads b.dramNode
    match b.batchFor (nodeMemoryFree (readings s.reads) b.dramNode) s.remain with
    | .error e => (s.finalRead snapshot, .raised e)
    | .ok batch =>
      if batch.isZero then (s.finalRead snapshot, .noFit) else
      match batch with
      -- `vms[remain - batch : remain]` with a float index
      | .float _ => (s.finalRead snapshot, .raised .typeError)
      | .int n =>
        if b.prepareRaises (faults s.reads) then (s.finalRead snapshot, .raised .groupException)
        else admitPass fuel (b.admitRead snapshot n.toNat s)

/-- `for retry in reversed(range(self.timeout))`. -/
def retryLoop : List Nat → Admission → Admission × Except PyError Unit
  | [], s => (s, .ok ())
  | retry :: rest, s =>
    match b.admitPass readings faults s.remain s with
    | (s, .raised e) => (s, .error e)
    | (s, _) =>
      if s.remain = 0 then (s, .ok ())
      else if retry = 0 then (s, .error (.runtimeError "Not enough memory for all VMs"))
      else retryLoop rest s

/-- `_guests_prepare(vms)` for a pool of `vmCount` VMs. -/
def guestsPrepare (vmCount : Nat) : Admission × Except PyError Unit :=
  if b.hetero then b.retryLoop readings faults (List.range b.timeout.toNat).reverse ⟨vmCount, 0, []⟩
  else if b.prepareRaises (faults 0) then (⟨vmCount, 0, []⟩, .error .groupException)
  else (⟨0, 0, b.prepareEvents 0 vmCount⟩, .ok ())

end Bench

namespace Bench

variable (b : Bench)

theorem batchFor_of_balloon {balloon : Balloon} (configured : b.balloon = some balloon)
    (positive : 0 < b.mem) (free remain : Nat) :
    b.batchFor free remain = .ok (.int (min (free / b.mem) remain : Nat)) := by
  have nonzero : (b.mem : Int) ≠ 0 := by omega
  simp only [batchFor, vmmem, configured, Option.isNone_some, Bool.false_eq_true, if_false,
    PyNum.floorDiv_int nonzero, Except.map, PyNum.pyMin, Int.fdiv_eq_ediv _ (Int.ofNat_nonneg _),
    ← Int.ofNat_ediv, Nat.cast_lt]
  split <;> congr 2 <;> omega

theorem batchFor_of_none (configured : b.balloon = none) (free remain : Nat) :
    b.batchFor free remain = if b.mem * b.dramRatio = 0 then .error .zeroDivisionError else
      .ok (if (remain : ℚ) < ⌊(free : ℚ) / (b.mem * b.dramRatio)⌋ then .int remain
        else .float ⌊(free : ℚ) / (b.mem * b.dramRatio)⌋) := by
  simp only [batchFor, vmmem, configured, Option.isNone_none, if_true, PyNum.mul, PyNum.value_int,
    PyNum.floorDiv, PyNum.value_float, Int.cast_natCast]
  split
  · rfl
  · simp [Except.map, PyNum.pyMin]

theorem batchFor_int_bounds {free remain : Nat} {n : Int} (h : b.batchFor free remain = .ok (.int n))
    (nonzero : n ≠ 0) : 0 < n ∧ n ≤ remain := by
  rcases hb : b.balloon with _ | balloon
  · rw [batchFor_of_none b hb] at h
    split at h
    · cases h
    · split at h <;> cases h
      omega
  · rcases Nat.eq_zero_or_pos b.mem with zero | positive
    · simp [batchFor, vmmem, hb, zero, PyNum.floorDiv, Except.map] at h
    · rw [batchFor_of_balloon b hb positive] at h
      cases h
      have := Int.ediv_nonneg (Int.ofNat_nonneg free) (Int.ofNat_nonneg b.mem)
      omega

variable (readings : Nat → Nat → Nat × Nat) (faults : Nat → Option PrepareCall)

inductive Admits : Admission → Admission → Prop
  | refl (s : Admission) : Admits s s
  | step {s t : Admission} {n : Int} (remaining : 0 < s.remain)
      (batch : b.batchFor (readings s.reads b.dramNode).1 s.remain = .ok (.int n)) (nonzero : n ≠ 0)
      (prepared : b.prepareRaises (faults s.reads) = false) :
      Admits (b.admitRead (readings s.reads b.dramNode) n.toNat s) t → Admits s t

inductive Stops (s : Admission) : PassEnd → Prop
  | raised {e : PyError} (batch : b.batchFor (readings s.reads b.dramNode).1 s.remain = .error e) :
      Stops s (.raised e)
  | noFit {batch : PyNum} (computed : b.batchFor (readings s.reads b.dramNode).1 s.remain = .ok batch)
      (zero : batch.isZero) : Stops s .noFit
  | floatIndex {q : ℚ} (computed : b.batchFor (readings s.reads b.dramNode).1 s.remain = .ok (.float q))
      (nonzero : q ≠ 0) : Stops s (.raised .typeError)
  | prepareFault {n : Int} (computed : b.batchFor (readings s.reads b.dramNode).1 s.remain = .ok (.int n))
      (nonzero : n ≠ 0) (raises : b.prepareRaises (faults s.reads) = true) :
      Stops s (.raised .groupException)

theorem admitPass_cases {fuel : Nat} {s : Admission} (enough : s.remain ≤ fuel) :
    ∃ t, b.Admits readings faults s t ∧
      (b.admitPass readings faults fuel s = (t, .drained) ∧ t.remain = 0 ∨
        ∃ e, 0 < t.remain ∧ b.Stops readings faults t e ∧
          b.admitPass readings faults fuel s = (t.finalRead (readings t.reads b.dramNode), e)) := by
  induction fuel generalizing s with
  | zero => exact ⟨s, .refl s, .inl ⟨rfl, by omega⟩⟩
  | succ fuel ih =>
    rw [admitPass]
    by_cases done : s.remain = 0
    · exact ⟨s, .refl s, .inl ⟨by simp [done], done⟩⟩
    rw [if_neg done]
    have remaining : 0 < s.remain := Nat.pos_of_ne_zero done
    rcases hb : b.batchFor (nodeMemoryFree (readings s.reads) b.dramNode) s.remain with e | batch
    · exact ⟨s, .refl s, .inr ⟨_, remaining, .raised hb, rfl⟩⟩
    by_cases zero : batch.isZero
    · exact ⟨s, .refl s, .inr ⟨_, remaining, .noFit hb zero, by simp [zero]⟩⟩
    cases batch with
    | float q =>
      exact ⟨s, .refl s, .inr ⟨_, remaining, .floatIndex hb (by simpa [PyNum.isZero] using zero),
        by simp [zero]⟩⟩
    | int n =>
      have nonzero : n ≠ 0 := by simpa [PyNum.isZero] using zero
      cases raises : b.prepareRaises (faults s.reads)
      · have bounds := b.batchFor_int_bounds hb nonzero
        obtain ⟨t, admits, rest⟩ := ih (s := b.admitRead (readings s.reads b.dramNode) n.toNat s)
          (by simp only [admitRead]; omega)
        exact ⟨t, .step remaining hb nonzero raises admits, by simpa [zero, raises] using rest⟩
      · exact ⟨s, .refl s, .inr ⟨_, remaining, .prepareFault hb nonzero raises, by simp [zero, raises]⟩⟩

theorem admitPass_fuel_stable {fuel : Nat} {s : Admission} (enough : s.remain ≤ fuel) :
    b.admitPass readings faults fuel s = b.admitPass readings faults s.remain s := by
  suffices ∀ fuel₁ fuel₂ (s : Admission), s.remain ≤ fuel₁ → s.remain ≤ fuel₂ →
      b.admitPass readings faults fuel₁ s = b.admitPass readings faults fuel₂ s from this _ _ _ enough le_rfl
  intro fuel₁
  induction fuel₁ with
  | zero =>
    intro fuel₂ s h₁ h₂
    cases fuel₂ <;> simp [admitPass, show s.remain = 0 by omega]
  | succ fuel₁ ih =>
    intro fuel₂ s h₁ h₂
    cases fuel₂ with
    | zero => simp [admitPass, show s.remain = 0 by omega]
    | succ fuel₂ =>
      simp only [admitPass]
      split
      · rfl
      · split
        · rfl
        · split
          · rfl
          · split
            · rfl
            · next n hb nz =>
              have bounds := b.batchFor_int_bounds hb (by simpa [PyNum.isZero] using nz)
              split
              · rfl
              · exact ih fuel₂ _ (by simp only [admitRead]; omega) (by simp only [admitRead]; omega)

end Bench

end DemeterBench
