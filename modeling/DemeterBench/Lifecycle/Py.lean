import DemeterBench.Python

set_option autoImplicit false

/-!
# Python blocks with exceptions

A block runs against a host state `σ`: what it did before raising stays done, so a block is a
function to the state it leaves and its outcome. `ExitStack.__exit__` is `unwind`.
-/

namespace DemeterBench

inductive Exn where
  | groupException
  | sshException
  | error (code : Nat)
  deriving DecidableEq, Repr

def Py (σ α : Type) : Type := σ → σ × Except Exn α

namespace Py

variable {σ α β : Type}

protected def pure (a : α) : Py σ α := fun h => (h, .ok a)

protected def bind (x : Py σ α) (f : α → Py σ β) : Py σ β := fun h =>
  match x h with
  | (h, .ok a) => f a h
  | (h, .error e) => (h, .error e)

instance : Monad (Py σ) where
  pure := Py.pure
  bind := Py.bind

def raise (e : Exn) : Py σ α := fun h => (h, .error e)

/-- `try x except e: handler(e)`. -/
def tryCatch (x : Py σ α) (handler : Exn → Py σ α) : Py σ α := fun h =>
  match x h with
  | (h, .error e) => handler e h
  | r => r

def modify (f : σ → σ) : Py σ Unit := fun h => (f h, .ok ())

def read {τ : Type} (f : σ → τ) : Py σ τ := fun h => (h, .ok (f h))

@[simp] theorem pure_apply (a : α) (h : σ) : (pure a : Py σ α) h = (h, .ok a) := rfl

@[simp] theorem bind_apply (x : Py σ α) (f : α → Py σ β) (h : σ) :
    (x >>= f) h = match x h with
      | (h, .ok a) => f a h
      | (h, .error e) => (h, .error e) := rfl

@[simp] theorem raise_apply (e : Exn) (h : σ) : (raise e : Py σ α) h = (h, .error e) := rfl

@[simp] theorem modify_apply (f : σ → σ) (h : σ) : modify f h = (f h, .ok ()) := rfl

@[simp] theorem read_apply {τ : Type} (f : σ → τ) (h : σ) : read f h = (h, .ok (f h)) := rfl

@[simp] theorem tryCatch_apply (x : Py σ α) (handler : Exn → Py σ α) (h : σ) :
    tryCatch x handler h = match x h with
      | (h, .error e) => handler e h
      | r => r := rfl

/-- `ExitStack.__exit__` over `callbacks`, newest first. -/
def unwind {χ : Type} (run : χ → Option Exn → Py σ Unit) : List χ → Option Exn → Py σ (Option Exn)
  | [], pending => pure pending
  | callback :: rest, pending => do
    let pending ← tryCatch (do run callback pending; pure pending) (fun e => pure (some e))
    unwind run rest pending

def Outcome (Q : α → σ → Prop) (R : Exn → σ → Prop) : σ × Except Exn α → Prop
  | (h, .ok a) => Q a h
  | (h, .error e) => R e h

theorem Outcome.mono {Q Q' : α → σ → Prop} {R R' : Exn → σ → Prop} {r : σ × Except Exn α}
    (hr : Outcome Q R r) (hq : ∀ a h, Q a h → Q' a h) (he : ∀ e h, R e h → R' e h) :
    Outcome Q' R' r := by
  rcases r with ⟨h, e | a⟩
  · exact he e h hr
  · exact hq a h hr

theorem Outcome.host {P : σ → Prop} {r : σ × Except Exn α} (hr : Outcome (fun _ => P) (fun _ => P) r) :
    P r.1 := by
  rcases r with ⟨h, e | a⟩ <;> exact hr

theorem Outcome.bind {x : Py σ α} {f : α → Py σ β} {h : σ} {Q : α → σ → Prop}
    {R : Exn → σ → Prop} {Q' : β → σ → Prop} {R' : Exn → σ → Prop} (hx : Outcome Q R (x h))
    (hf : ∀ a h', Q a h' → Outcome Q' R' (f a h')) (he : ∀ e h', R e h' → R' e h') :
    Outcome Q' R' ((x >>= f) h) := by
  rw [bind_apply]
  generalize x h = r at hx ⊢
  rcases r with ⟨h', e | a⟩
  · exact he e h' hx
  · exact hf a h' hx

theorem Outcome.bind_read {τ : Type} {g : σ → τ} {f : τ → Py σ β} {h : σ} {Q : β → σ → Prop}
    {R : Exn → σ → Prop} (hf : Outcome Q R (f (g h) h)) : Outcome Q R ((read g >>= f) h) := hf

theorem Outcome.bind_modify {g : σ → σ} {f : Unit → Py σ β} {h : σ} {Q : β → σ → Prop}
    {R : Exn → σ → Prop} (hf : Outcome Q R (f () (g h))) : Outcome Q R ((modify g >>= f) h) := hf

theorem Outcome.tryCatch {x : Py σ α} {handler : Exn → Py σ α} {h : σ} {Q : α → σ → Prop}
    {R R' : Exn → σ → Prop} (hx : Outcome Q R (x h))
    (hh : ∀ e h', R e h' → Outcome Q R' (handler e h')) :
    Outcome Q R' (Py.tryCatch x handler h) := by
  rw [tryCatch_apply]
  generalize x h = r at hx ⊢
  rcases r with ⟨h', e | a⟩
  · exact hh e h' hx
  · exact hx

theorem unwind_spec {χ : Type} (run : χ → Option Exn → Py σ Unit)
    (Inv : List χ → Option Exn → σ → Prop)
    (step : ∀ callback rest pending h, Inv (callback :: rest) pending h →
      Outcome (fun _ => Inv rest pending) (fun e => Inv rest (some e)) (run callback pending h)) :
    ∀ (callbacks : List χ) (pending : Option Exn) (h : σ), Inv callbacks pending h →
      Outcome (Inv []) (fun _ _ => False) (unwind run callbacks pending h)
  | [], _, _, inv => inv
  | callback :: rest, pending, h, inv =>
    have ran : Outcome (Inv rest) (fun _ _ => False)
        (Py.tryCatch (do run callback pending; pure pending) (fun e => pure (some e)) h) :=
      Outcome.tryCatch (R := fun e => Inv rest (some e))
        (Outcome.bind (step callback rest pending h inv) (fun _ _ hr => hr) (fun _ _ hr => hr))
        (fun _ _ hr => hr)
    Outcome.bind ran (fun p h' hr => unwind_spec run Inv step rest p h' hr) (fun _ _ hr => hr)

def reraise : Option Exn → Py σ Unit
  | some e => raise e
  | none => pure ()

def raised {α : Type} : Except Exn α → Option Exn
  | .ok _ => none
  | .error e => some e

theorem error_of_raised {r : Except Exn α} (raised : Py.raised r ≠ none) : ∃ e, r = .error e := by
  cases r with
  | error e => exact ⟨e, rfl⟩
  | ok _ => exact absurd rfl raised

theorem Outcome.raised {P : Option Exn → σ → Prop} {r : σ × Except Exn α}
    (hr : Outcome (fun _ => P none) (fun e => P (some e)) r) : P (Py.raised r.2) r.1 := by
  rcases r with ⟨h, e | a⟩ <;> exact hr

theorem Outcome.reraise {P : Option Exn → σ → Prop} {pending : Option Exn} {h : σ}
    (hold : P pending h) : Outcome (fun _ => P none) (fun e => P (some e)) (Py.reraise pending h) := by
  cases pending <;> exact hold

end Py

end DemeterBench
