import DemeterBench.Admission.Properties

set_option autoImplicit false

/-!
# The batches `_guests_prepare` prepares

Each admitting read prepares `vms[remain - batch : remain]` and lowers `remain` by `batch`, so the
prepared ranges run from the top of the pool down, each non-empty and ending where the one
before it began (`Tiles`). No VM is prepared twice and none below the last batch is skipped,
however the run ends, a batch whose preparation raised counting as not prepared; a run that
returns normally with a retry budget has prepared all of them.
-/

namespace DemeterBench

def preparedRanges (events : List PrepareEvent) : List (Nat × Nat) :=
  events.filterMap fun
    | .prepare lo hi _ => some (lo, hi)
    | _ => none

def Tiles : Nat → List (Nat × Nat) → Nat → Prop
  | hi, [], lo => lo = hi
  | hi, (a, c) :: rest, lo => c = hi ∧ a < c ∧ Tiles a rest lo

theorem Tiles.append {hi lo a : Nat} {ranges : List (Nat × Nat)} (tiles : Tiles hi ranges lo)
    (lt : a < lo) : Tiles hi (ranges ++ [(a, lo)]) a := by
  induction ranges generalizing hi with
  | nil => exact ⟨tiles, lt, rfl⟩
  | cons range rest ih => exact ⟨tiles.1, tiles.2.1, ih tiles.2.2⟩

@[simp] theorem preparedRanges_nil : preparedRanges [] = [] := rfl

@[simp] theorem preparedRanges_read (x : Nat × Nat) (events : List PrepareEvent) :
    preparedRanges (.read x :: events) = preparedRanges events := rfl

@[simp] theorem preparedRanges_append (events events' : List PrepareEvent) :
    preparedRanges (events ++ events') = preparedRanges events ++ preparedRanges events' :=
  List.filterMap_append _ _ _

namespace Bench

variable (b : Bench) (readings : Nat → Nat → Nat × Nat) (faults : Nat → Option PrepareCall)

theorem preparedRanges_prepareEvents (lo hi : Nat) :
    preparedRanges (b.prepareEvents lo hi) = [(lo, hi)] := by
  unfold prepareEvents
  split <;> rfl

theorem tiles_readInvariant (vmCount : Nat) :
    b.ReadInvariant readings fun s => Tiles vmCount (preparedRanges s.events) s.remain where
  admitting := fun {s n} holds _ batch nonzero => by
    have bounds := b.batchFor_int_bounds batch nonzero
    simpa [admitRead, preparedRanges_prepareEvents] using
      holds.append (a := s.remain - n.toNat) (by omega)
  stopping holds _ := by simpa [Admission.finalRead] using holds

theorem retryLoop_ok_drained : ∀ (retries : List Nat) (s : Admission), retries.getLast? = some 0 →
    (b.retryLoop readings faults retries s).2 = .ok () → (b.retryLoop readings faults retries s).1.remain = 0
  | [], _, last, _ => by cases last
  | retry :: rest, s, last, returned => by
    revert returned
    simp only [retryLoop]
    split
    · simp
    · split
      · simp [*]
      · split
        · simp
        · cases rest with
          | nil => simp_all
          | cons next rest =>
            exact retryLoop_ok_drained _ _ (by simpa [List.getLast?_cons_cons] using last)

theorem guestsPrepare_tiles (vmCount : Nat) (pool : 0 < vmCount) :
    Tiles vmCount (preparedRanges (b.guestsPrepare readings faults vmCount).1.events)
      (b.guestsPrepare readings faults vmCount).1.remain := by
  unfold guestsPrepare
  split
  · exact (b.tiles_readInvariant readings vmCount).retryLoop _ rfl
  · split
    · rfl
    · simp only [preparedRanges_prepareEvents]
      exact ⟨rfl, pool, rfl⟩

theorem guestsPrepare_ok_prepares_all (vmCount : Nat) (pool : 0 < vmCount) (budget : 0 < b.timeout)
    (returned : (b.guestsPrepare readings faults vmCount).2 = .ok ()) :
    Tiles vmCount (preparedRanges (b.guestsPrepare readings faults vmCount).1.events) 0 := by
  unfold guestsPrepare at returned ⊢
  split
  · next hetero =>
    rw [if_pos hetero] at returned
    obtain ⟨k, retries⟩ : ∃ k, b.timeout.toNat = k + 1 := ⟨b.timeout.toNat - 1, by omega⟩
    have last : (List.range b.timeout.toNat).reverse.getLast? = some 0 := by
      simp [retries, List.getLast?_reverse, List.head?_range]
    have tiles := @ReadInvariant.retryLoop b readings faults _ (b.tiles_readInvariant readings vmCount)
      (List.range b.timeout.toNat).reverse ⟨vmCount, 0, []⟩ rfl
    rwa [b.retryLoop_ok_drained readings faults _ _ last returned] at tiles
  · next plain =>
    rw [if_neg plain] at returned
    split at returned
    · cases returned
    · next prepared =>
      rw [if_neg prepared, preparedRanges_prepareEvents]
      exact ⟨rfl, pool, rfl⟩

end Bench

theorem guestsPrepare_tiles_two :
    0 < 2 ∧ Tiles 2 (preparedRanges (({} : Bench).guestsPrepare (fun _ _ => (64 <<< 30, 0))
        (fun k => if k = 1 then some .sleep else none) 2).1.events)
      (({} : Bench).guestsPrepare (fun _ _ => (64 <<< 30, 0))
        (fun k => if k = 1 then some .sleep else none) 2).1.remain :=
  ⟨by decide, Bench.guestsPrepare_tiles {} _ _ 2 (by decide)⟩

theorem guestsPrepare_ok_prepares_all_two :
    0 < 2 ∧ 0 < ({} : Bench).timeout ∧
      (({} : Bench).guestsPrepare (fun _ _ => (64 <<< 30, 0)) (fun _ => none) 2).2 = .ok () ∧
      Tiles 2 (preparedRanges (({} : Bench).guestsPrepare (fun _ _ => (64 <<< 30, 0)) (fun _ => none) 2).1.events) 0 :=
  ⟨by decide, by decide, rfl, Bench.guestsPrepare_ok_prepares_all {} _ _ 2 (by decide) (by decide) rfl⟩

end DemeterBench
