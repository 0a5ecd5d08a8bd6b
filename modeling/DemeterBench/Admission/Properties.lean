import Mathlib.Data.List.Chain
import DemeterBench.Admission.Loop

set_option autoImplicit false

namespace DemeterBench

namespace Bench

variable (b : Bench) (readings : Nat → Nat → Nat × Nat) (faults : Nat → Option PrepareCall)

theorem retryLoop_cons_cases (retry : Nat) (rest : List Nat) (s : Admission) :
    (b.retryLoop readings faults (retry :: rest) s).1 = (b.admitPass readings faults s.remain s).1 ∨
      b.retryLoop readings faults (retry :: rest) s = b.retryLoop readings faults rest (b.admitPass readings faults s.remain s).1 := by
  rcases hp : b.admitPass readings faults s.remain s with ⟨t, _ | _ | e⟩ <;>
    simp only [retryLoop, hp] <;> try split_ifs
  all_goals simp

structure ReadInvariant (Inv : Admission → Prop) : Prop where
  admitting : ∀ {s : Admission} {n : Int}, Inv s → 0 < s.remain →
    b.batchFor (readings s.reads b.dramNode).1 s.remain = .ok (.int n) → n ≠ 0 →
    Inv (b.admitRead (readings s.reads b.dramNode) n.toNat s)
  stopping : ∀ {s : Admission}, Inv s → 0 < s.remain → Inv (s.finalRead (readings s.reads b.dramNode))

variable {b readings faults}

theorem ReadInvariant.admits {Inv : Admission → Prop} (keeps : b.ReadInvariant readings Inv)
    {s t : Admission} (h : b.Admits readings faults s t) (holds : Inv s) : Inv t := by
  induction h with
  | refl => exact holds
  | step remaining batch nonzero _ _ ih => exact ih (keeps.admitting holds remaining batch nonzero)

theorem ReadInvariant.admitPass {Inv : Admission → Prop} (keeps : b.ReadInvariant readings Inv)
    {s : Admission} (holds : Inv s) : Inv (b.admitPass readings faults s.remain s).1 := by
  obtain ⟨t, admits, drained | ⟨_, remaining, _, stopped⟩⟩ := b.admitPass_cases readings faults (le_refl s.remain)
  · rw [drained.1]
    exact keeps.admits admits holds
  · rw [stopped]
    exact keeps.stopping (keeps.admits admits holds) remaining

theorem ReadInvariant.retryLoop {Inv : Admission → Prop} (keeps : b.ReadInvariant readings Inv)
    (retries : List Nat) {s : Admission} (holds : Inv s) : Inv (b.retryLoop readings faults retries s).1 := by
  induction retries generalizing s with
  | nil => exact holds
  | cons retry rest ih =>
    rcases b.retryLoop_cons_cases readings faults retry rest s with ended | next
    · exact ended ▸ keeps.admitPass holds
    · exact next ▸ ih (keeps.admitPass holds)

variable (b readings faults)

theorem Admits.potential {s t : Admission} (h : b.Admits readings faults s t) :
    t.reads + t.remain ≤ s.reads + s.remain := by
  induction h with
  | refl => exact le_rfl
  | step remaining batch nonzero _ _ ih =>
    have := b.batchFor_int_bounds batch nonzero
    simp only [admitRead] at ih
    omega

theorem admitPass_potential (s : Admission) :
    (b.admitPass readings faults s.remain s).1.reads + (b.admitPass readings faults s.remain s).1.remain ≤
      s.reads + s.remain + 1 := by
  obtain ⟨t, admits, drained | ⟨_, _, _, stopped⟩⟩ := b.admitPass_cases readings faults (le_refl s.remain)
  · rw [drained.1]
    exact Nat.le_succ_of_le (Admits.potential b readings faults admits)
  · rw [stopped]
    have := Admits.potential b readings faults admits
    simp only [Admission.finalRead]
    omega

theorem retryLoop_potential (retries : List Nat) (s : Admission) :
    (b.retryLoop readings faults retries s).1.reads + (b.retryLoop readings faults retries s).1.remain ≤
      s.reads + s.remain + retries.length := by
  induction retries generalizing s with
  | nil => exact Nat.le_add_right _ _
  | cons retry rest ih =>
    have pass := b.admitPass_potential readings faults s
    simp only [List.length_cons]
    rcases b.retryLoop_cons_cases readings faults retry rest s with ended | next
    · rw [ended]
      omega
    · rw [next]
      have := ih (b.admitPass readings faults s.remain s).1
      omega

theorem guestsPrepare_terminates (vmCount : Nat) :
    (∀ (s : Admission) (fuel : Nat), s.remain ≤ fuel →
        b.admitPass readings faults fuel s = b.admitPass readings faults s.remain s) ∧
      (b.guestsPrepare readings faults vmCount).1.reads ≤ vmCount + b.timeout.toNat := by
  refine ⟨fun s fuel enough => b.admitPass_fuel_stable readings faults enough, ?_⟩
  unfold guestsPrepare
  split
  · have := b.retryLoop_potential readings faults (List.range b.timeout.toNat).reverse ⟨vmCount, 0, []⟩
    simp only [List.length_reverse, List.length_range, Nat.zero_add] at this
    omega
  · split <;> exact Nat.zero_le _

theorem guestsPrepare_zero_fit_reads :
    (({ timeout := 2 } : Bench).guestsPrepare (fun _ _ => (0, 0)) (fun _ => none) 1).1.events =
      [.read (0, 0), .read (0, 0)] := by
  decide

end Bench

def NextAfterRead (e e' : PrepareEvent) : Prop :=
  (∃ x, e = .read x) → (∃ y, e' = .read y) ∨ ∃ lo hi balloon, e' = .prepare lo hi balloon

theorem chain_append_read {events suffix : List PrepareEvent} (x : Nat × Nat)
    (before : events.Chain' NextAfterRead) (after : (PrepareEvent.read x :: suffix).Chain' NextAfterRead) :
    (events ++ .read x :: suffix).Chain' NextAfterRead :=
  before.append after fun _ _ y first => by
    cases first
    exact fun _ => .inl ⟨x, rfl⟩

theorem chain_prepareEvents (b : Bench) (x : Nat × Nat) (lo hi : Nat) :
    (PrepareEvent.read x :: b.prepareEvents lo hi).Chain' NextAfterRead := by
  unfold Bench.prepareEvents
  split <;> simp [NextAfterRead]

namespace Bench

variable (b : Bench) (readings : Nat → Nat → Nat × Nat) (faults : Nat → Option PrepareCall)

theorem noWait_readInvariant : b.ReadInvariant readings fun s => s.events.Chain' NextAfterRead where
  admitting holds _ _ _ := chain_append_read _ holds (chain_prepareEvents b _ _ _)
  stopping holds _ := chain_append_read _ holds (List.chain'_singleton _)

theorem guestsPrepare_no_backoff (vmCount : Nat) :
    (b.guestsPrepare readings faults vmCount).1.events.Chain' fun e e' =>
      (∃ x, e = .read x) → (∃ y, e' = .read y) ∨ ∃ lo hi balloon, e' = .prepare lo hi balloon := by
  unfold guestsPrepare
  split
  · exact (b.noWait_readInvariant readings).retryLoop _ List.chain'_nil
  · split
    · exact List.chain'_nil
    · unfold prepareEvents
      split <;> simp

theorem guestsPrepare_admits_without_free_memory :
    (({} : Bench).guestsPrepare (fun _ _ => (64 <<< 30, 0)) (fun _ => none) 1).1.events =
      [.read (64 <<< 30, 0), .prepare 0 1 (some .hetero), .sleep 48] := by
  decide

theorem guestsPrepare_without_retries (readings : Nat → Nat → Nat × Nat) :
    ({ timeout := 0 } : Bench).guestsPrepare readings faults 1 = (⟨1, 0, []⟩, .ok ()) :=
  rfl

theorem guestsPrepare_float_first (hetero : b.hetero = true) (budget : 0 < b.timeout)
    {vmCount : Nat} (pool : 0 < vmCount) {q : ℚ}
    (first : b.batchFor (readings 0 b.dramNode).1 vmCount = .ok (.float q)) (nonzero : q ≠ 0) :
    (b.guestsPrepare readings faults vmCount).2 = .error .typeError := by
  obtain ⟨k, rfl⟩ : ∃ k, vmCount = k + 1 := ⟨vmCount - 1, by omega⟩
  obtain ⟨timeout, last⟩ : ∃ t, b.timeout.toNat = t + 1 := ⟨b.timeout.toNat - 1, by omega⟩
  have retries : (List.range b.timeout.toNat).reverse = timeout :: (List.range timeout).reverse := by
    rw [last, List.range_succ, List.reverse_append]
    rfl
  simp [guestsPrepare, hetero, retries, retryLoop, admitPass, nodeMemoryFree, first, PyNum.isZero,
    nonzero]

theorem guestsPrepare_float_batch :
    ({ balloon := none, dramRatio := 1 / 2 } : Bench).batchFor (16 <<< 30) 4 = .ok (.float 2) ∧
      (({ balloon := none, dramRatio := 1 / 2 } : Bench).guestsPrepare
        (fun _ _ => (16 <<< 30, 16 <<< 30)) faults 4).2 = .error .typeError := by
  have batch : ({ balloon := none, dramRatio := 1 / 2 } : Bench).batchFor (16 <<< 30) 4 =
      .ok (.float 2) := by
    rw [batchFor_of_none _ rfl]
    norm_num [Nat.shiftLeft_eq, Int.floor_eq_iff]
  exact ⟨batch, guestsPrepare_float_first _ _ faults rfl (by decide) (by decide) batch (by norm_num)⟩

end Bench

end DemeterBench
