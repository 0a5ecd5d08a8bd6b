import Mathlib.Data.List.Basic

set_option autoImplicit false

/-!
# Runs of the guest launcher

`script/launcher.py` runs in the guest under `sudo`, between `/bin/time` and the workload. It
reads nothing back from the system but the environment, the pids and the child's wait status, so
a block of it is modelled by the effects it attempted, oldest first, and how it ended.

The world says which effect raises. The model assumes nothing of the kernel: any write, `mkdir`,
`rmdir`, `fork`, `waitpid`, `kill`, `execvp` or `subprocess.run` may raise, and a
`KeyboardInterrupt` is taken to arrive while one of them runs. A syscall made through `ctypes`
never raises: it returns the kernel's error code, which the launcher ignores.
-/

namespace DemeterBench.Guest

/-- A Python exception, as `launcher.py` raises and catches them. -/
inductive Exc where
  | osError
  | valueError
  | keyError
  | keyboardInterrupt
  | systemExit (code : Int)
  deriving DecidableEq, Repr

/-- An exception propagating, or an `execvp` after which none of the script runs. -/
inductive Stop where
  | raise (e : Exc)
  | exec (file : String) (args : List String)
  deriving DecidableEq, Repr

inductive Effect where
  | mkdir (path : String)
  | write (path text : String)
  | rmdir (path : String)
  | run (argv : List String)
  | syscall (nr : Nat) (args : List Int)
  | fork
  | waitpid (pid : Int)
  | kill (pid : Int) (signal : Nat)
  | execvp (file : String) (args : List String)
  deriving DecidableEq, Repr

/-- How the child ended, as `os.waitpid` reports it. -/
inductive WaitStatus where
  | exited (code : Nat)
  | signaled (signal : Nat)
  deriving DecidableEq, Repr

structure World where
  /-- `os.environ` -/
  environ : List (String × String)
  /-- `os.getpid()`, taken before the fork -/
  pid : Int
  /-- what `os.fork()` returns in this process: the child's pid in the parent, 0 in the child -/
  forked : Int
  /-- what `os.waitpid` reports for the child -/
  status : WaitStatus
  faults : Effect → Option Exc

def World.raises (w : World) : Effect → Option Exc
  | .syscall _ _ => none
  | e => w.faults e

structure Run (α : Type) where
  effects : List Effect
  result : Except Stop α

namespace Run

variable {α β γ : Type}

protected def pure (a : α) : Run α := ⟨[], .ok a⟩

protected def bind (x : Run α) (f : α → Run β) : Run β :=
  match x.result with
  | .ok a => ⟨x.effects ++ (f a).effects, (f a).result⟩
  | .error s => ⟨x.effects, .error s⟩

instance : Monad Run where
  pure := Run.pure
  bind := Run.bind

def execs (x : Run α) : Bool :=
  match x.result with
  | .error (.exec _ _) => true
  | _ => false

theorem ext' {x y : Run α} (effects : x.effects = y.effects) (result : x.result = y.result) :
    x = y := by
  cases x; cases y; cases effects; cases result; rfl

@[simp] theorem pure_effects (a : α) : (pure a : Run α).effects = [] := rfl

@[simp] theorem pure_result (a : α) : (pure a : Run α).result = .ok a := rfl

@[simp] theorem pure_bind (a : α) (f : α → Run β) : pure a >>= f = f a := rfl

theorem bind_of_ok {x : Run α} {a : α} (h : x.result = .ok a) (f : α → Run β) :
    x >>= f = ⟨x.effects ++ (f a).effects, (f a).result⟩ := by
  show Run.bind x f = _
  rw [Run.bind, h]

theorem bind_of_error {x : Run α} {s : Stop} (h : x.result = .error s) (f : α → Run β) :
    x >>= f = ⟨x.effects, .error s⟩ := by
  show Run.bind x f = _
  rw [Run.bind, h]

theorem bind_effects (x : Run α) (f : α → Run β) :
    (x >>= f).effects = x.effects ++ match x.result with
      | .ok a => (f a).effects
      | .error _ => [] := by
  cases h : x.result with
  | ok a => rw [bind_of_ok h]
  | error s => rw [bind_of_error h, List.append_nil]

theorem bind_result (x : Run α) (f : α → Run β) :
    (x >>= f).result = match x.result with
      | .ok a => (f a).result
      | .error s => .error s := by
  cases h : x.result with
  | ok a => rw [bind_of_ok h]
  | error s => rw [bind_of_error h]

theorem bind_assoc (x : Run α) (f : α → Run β) (g : β → Run γ) :
    x >>= f >>= g = x >>= fun a => f a >>= g := by
  show Run.bind (Run.bind x f) g = Run.bind x fun a => Run.bind (f a) g
  cases hx : x.result with
  | error s => simp only [Run.bind, hx]
  | ok a =>
    cases hf : (f a).result with
    | error s => simp only [Run.bind, hx, hf]
    | ok b => simp only [Run.bind, hx, hf, List.append_assoc]

theorem execs_bind {x : Run α} {f : α → Run β} (hx : x.execs = false)
    (hf : ∀ a, (f a).execs = false) : (x >>= f).execs = false := by
  cases h : x.result with
  | ok a => rw [bind_of_ok h]; exact hf a
  | error s =>
    rw [bind_of_error h]
    rw [execs, h] at hx
    cases s with
    | raise e => rfl
    | exec file args => cases hx

end Run

open Run

variable {α β : Type}

def perform (w : World) (e : Effect) : Run Unit :=
  ⟨[e], match w.raises e with
    | some x => .error (.raise x)
    | none => .ok ()⟩

def performAll (w : World) : List Effect → Run Unit
  | [] => pure ()
  | e :: es => do perform w e; performAll w es

def raise (x : Exc) : Run α := ⟨[], .error (.raise x)⟩

@[simp] theorem raise_effects (x : Exc) : (raise x : Run α).effects = [] := rfl

@[simp] theorem raise_result (x : Exc) : (raise x : Run α).result = .error (.raise x) := rfl

theorem raise_bind (x : Exc) (f : α → Run β) : raise x >>= f = raise x := rfl

theorem effects_bind_raise (x : Run α) (f : α → Exc) :
    (x >>= fun a => (raise (f a) : Run β)).effects = x.effects := by
  rw [bind_effects]
  cases x.result <;> simp

def fromExcept (r : Except Exc α) : Run α := ⟨[], r.mapError .raise⟩

theorem fromExcept_ok (a : α) : fromExcept (.ok a : Except Exc α) = pure a := rfl

theorem fromExcept_error (x : Exc) : fromExcept (.error x : Except Exc α) = raise x := rfl

/-- `try: body finally: cleanup`; the cleanup does not run after an `exec`. -/
def tryFinally (body : Run α) (cleanup : Run Unit) : Run α :=
  match body.result with
  | .error (.exec _ _) => body
  | r => ⟨body.effects ++ cleanup.effects, match cleanup.result with
    | .ok () => r
    | .error s => .error s⟩

/-- `try: body except e: handler`. -/
def tryExcept (body : Run α) (e : Exc) (handler : Run α) : Run α :=
  match body.result with
  | .error (.raise x) => if x = e then ⟨body.effects ++ handler.effects, handler.result⟩ else body
  | _ => body

/-- A `@contextmanager`: `setup` in its `try` block, `release` in its `finally` block. -/
def bracket (w : World) (setup : List Effect) (body : Run α) (release : List Effect) : Run α :=
  tryFinally (do performAll w setup; body) (performAll w release)

/-! ### Straight-line effects -/

def attempted (w : World) : List Effect → List Effect
  | [] => []
  | e :: es => e :: match w.raises e with
    | some _ => []
    | none => attempted w es

def firstRaise (w : World) : List Effect → Option Exc
  | [] => none
  | e :: es => match w.raises e with
    | some x => some x
    | none => firstRaise w es

@[simp] theorem attempted_nil (w : World) : attempted w [] = [] := rfl

@[simp] theorem firstRaise_nil (w : World) : firstRaise w [] = none := rfl

theorem attempted_cons_of_none {w : World} {e : Effect} (h : w.raises e = none) (es : List Effect) :
    attempted w (e :: es) = e :: attempted w es := by
  rw [attempted, h]

theorem firstRaise_cons_of_none {w : World} {e : Effect} (h : w.raises e = none) (es : List Effect) :
    firstRaise w (e :: es) = firstRaise w es := by
  rw [firstRaise, h]

theorem mem_of_mem_attempted {w : World} {e : Effect} :
    ∀ {es : List Effect}, e ∈ attempted w es → e ∈ es
  | [], mem => mem
  | d :: es, mem => by
    rw [attempted] at mem
    rcases List.mem_cons.mp mem with rfl | mem
    · exact List.mem_cons_self _ _
    · split at mem
      · cases mem
      · exact List.mem_cons_of_mem d (mem_of_mem_attempted mem)

@[simp] theorem attempted_singleton (w : World) (e : Effect) : attempted w [e] = [e] := by
  cases h : w.raises e <;> simp [attempted, h]

theorem attempted_of_firstRaise_none {w : World} :
    ∀ {es : List Effect}, firstRaise w es = none → attempted w es = es
  | [], _ => rfl
  | e :: es, h => by
    cases he : w.raises e with
    | some x => rw [firstRaise, he] at h; cases h
    | none =>
      rw [firstRaise_cons_of_none he] at h
      rw [attempted_cons_of_none he, attempted_of_firstRaise_none h]

theorem attempted_append (w : World) (es fs : List Effect) :
    attempted w (es ++ fs) =
      attempted w es ++ if firstRaise w es = none then attempted w fs else [] := by
  induction es with
  | nil => rfl
  | cons e es ih =>
    cases he : w.raises e with
    | some x => simp [attempted, firstRaise, he]
    | none => rw [List.cons_append, attempted_cons_of_none he, attempted_cons_of_none he,
        firstRaise_cons_of_none he, ih, List.cons_append]

theorem firstRaise_append (w : World) (es fs : List Effect) :
    firstRaise w (es ++ fs) = (firstRaise w es).orElse fun _ => firstRaise w fs := by
  induction es with
  | nil => rfl
  | cons e es ih =>
    cases he : w.raises e with
    | some x => simp [firstRaise, he, Option.orElse]
    | none => rw [List.cons_append, firstRaise_cons_of_none he, firstRaise_cons_of_none he, ih]

theorem performAll_bind (w : World) (es : List Effect) (k : Unit → Run β) :
    performAll w es >>= k = match firstRaise w es with
      | some x => ⟨attempted w es, .error (.raise x)⟩
      | none => ⟨es ++ (k ()).effects, (k ()).result⟩ := by
  induction es with
  | nil => exact bind_of_ok rfl k
  | cons e es ih =>
    rw [performAll, Run.bind_assoc]
    cases he : w.raises e with
    | some x =>
      rw [bind_of_error (s := .raise x) (by simp [perform, he])]
      simp [attempted, firstRaise, he, perform]
    | none =>
      rw [bind_of_ok (a := ()) (by simp [perform, he]), ih, firstRaise_cons_of_none he,
        attempted_cons_of_none he]
      cases firstRaise w es <;> rfl

theorem performAll_effects (w : World) (es : List Effect) :
    (performAll w es).effects = attempted w es := by
  have h := congrArg Run.effects (performAll_bind w es pure)
  rw [show performAll w es >>= pure = performAll w es from Run.ext' (by
    cases hr : (performAll w es).result <;> simp [bind_of_ok, bind_of_error, hr]) (by
    cases hr : (performAll w es).result <;> simp [bind_of_ok, bind_of_error, hr])] at h
  rw [h]
  cases hr : firstRaise w es
  · simp [attempted_of_firstRaise_none hr]
  · rfl

theorem performAll_result (w : World) (es : List Effect) :
    (performAll w es).result = match firstRaise w es with
      | some x => .error (.raise x)
      | none => .ok () := by
  induction es with
  | nil => rfl
  | cons e es ih =>
    rw [performAll]
    cases he : w.raises e with
    | some x => rw [bind_of_error (s := .raise x) (by simp [perform, he])]; simp [firstRaise, he]
    | none => rw [bind_of_ok (a := ()) (by simp [perform, he]), ih, firstRaise_cons_of_none he]

theorem perform_bind (w : World) (e : Effect) (k : Unit → Run β) :
    perform w e >>= k = performAll w [e] >>= k := by
  rw [performAll, Run.bind_assoc]
  cases h : w.raises e with
  | some x =>
    rw [bind_of_error (s := .raise x) (by simp [perform, h]),
      bind_of_error (s := .raise x) (by simp [perform, h])]
  | none =>
    rw [bind_of_ok (a := ()) (by simp [perform, h]), bind_of_ok (a := ()) (by simp [perform, h])]
    rfl

theorem performAll_append_bind (w : World) (es fs : List Effect) (k : Unit → Run β) :
    performAll w (es ++ fs) >>= k = performAll w es >>= fun _ => performAll w fs >>= k := by
  induction es with
  | nil => rfl
  | cons e es ih => rw [List.cons_append, performAll, performAll, Run.bind_assoc, Run.bind_assoc, ih]

/-! ### Blocks that stay in the script

Only `execvp` leaves the script; every other block ends in a return or an exception. -/

@[simp] theorem execs_pure (a : α) : (pure a : Run α).execs = false := rfl

@[simp] theorem execs_raise (x : Exc) : (raise x : Run α).execs = false := rfl

@[simp] theorem execs_fromExcept (r : Except Exc α) : (fromExcept r).execs = false := by
  cases r <;> rfl

@[simp] theorem execs_perform (w : World) (e : Effect) : (perform w e).execs = false := by
  rw [execs, perform]
  cases w.raises e <;> rfl

theorem execs_performAll (w : World) (es : List Effect) : (performAll w es).execs = false := by
  rw [execs, performAll_result]
  cases firstRaise w es <;> rfl

theorem execs_tryExcept {body handler : Run α} (e : Exc) (hb : body.execs = false)
    (hh : handler.execs = false) : (tryExcept body e handler).execs = false := by
  unfold tryExcept
  split
  · split
    · exact hh
    · exact hb
  · exact hb

theorem tryFinally_of_execs {body : Run α} (cleanup : Run Unit) (stays : body.execs = false) :
    tryFinally body cleanup = ⟨body.effects ++ cleanup.effects, match cleanup.result with
      | .ok () => body.result
      | .error s => .error s⟩ := by
  unfold tryFinally
  split
  · next h => rw [execs, h] at stays; cases stays
  · rfl

theorem execs_tryFinally {body : Run α} {cleanup : Run Unit} (hb : body.execs = false)
    (hc : cleanup.execs = false) : (tryFinally body cleanup).execs = false := by
  rw [tryFinally_of_execs cleanup hb, execs]
  cases h : cleanup.result with
  | ok _ => exact hb
  | error s =>
    rw [execs, h] at hc
    cases s with
    | raise e => rfl
    | exec file args => cases hc

/-! ### Brackets -/

theorem bracket_effects (w : World) (setup : List Effect) {body : Run α} (release : List Effect)
    (stays : body.execs = false) :
    (bracket w setup body release).effects =
      attempted w setup ++ (if firstRaise w setup = none then body.effects else []) ++
        attempted w release := by
  have inner : (performAll w setup >>= fun _ => body).execs = false :=
    execs_bind (execs_performAll w setup) fun _ => stays
  rw [bracket, tryFinally_of_execs _ inner, performAll_effects, performAll_bind]
  cases h : firstRaise w setup with
  | none => simp [attempted_of_firstRaise_none h]
  | some x => simp

theorem mem_bracket_effects {w : World} {setup : List Effect} {body : Run α} {release : List Effect}
    (stays : body.execs = false) {e : Effect} (mem : e ∈ (bracket w setup body release).effects) :
    e ∈ setup ∨ e ∈ body.effects ∨ e ∈ release := by
  rw [bracket_effects _ _ _ stays] at mem
  simp only [List.mem_append] at mem
  rcases mem with (inSetup | inBody) | inRelease
  · exact .inl (mem_of_mem_attempted inSetup)
  · split at inBody
    · exact .inr (.inl inBody)
    · cases inBody
  · exact .inr (.inr (mem_of_mem_attempted inRelease))

theorem bracket_result (w : World) (setup : List Effect) {body : Run α} (release : List Effect)
    (stays : body.execs = false) :
    (bracket w setup body release).result = match firstRaise w release with
      | some y => .error (.raise y)
      | none => match firstRaise w setup with
        | some x => .error (.raise x)
        | none => body.result := by
  have inner : (performAll w setup >>= fun _ => body).execs = false :=
    execs_bind (execs_performAll w setup) fun _ => stays
  rw [bracket, tryFinally_of_execs _ inner, performAll_result, performAll_bind]
  cases firstRaise w release <;> cases firstRaise w setup <;> rfl

theorem bracket_of_exec (w : World) {setup : List Effect} {body : Run α} (release : List Effect)
    (clean : firstRaise w setup = none) {file : String} {args : List String}
    (exec : body.result = .error (.exec file args)) :
    bracket w setup body release = ⟨setup ++ body.effects, .error (.exec file args)⟩ := by
  rw [bracket, tryFinally, performAll_bind, clean]
  simp only [exec]

theorem execs_bracket (w : World) (setup : List Effect) {body : Run α} (release : List Effect)
    (stays : body.execs = false) : (bracket w setup body release).execs = false :=
  execs_tryFinally (execs_bind (execs_performAll w setup) fun _ => stays) (execs_performAll w release)

theorem bracket_performAll (w : World) (setup fs : List Effect) (k : Unit → Run α)
    (release : List Effect) :
    bracket w setup (performAll w fs >>= k) release = bracket w (setup ++ fs) (k ()) release := by
  rw [bracket, bracket, performAll_append_bind]

theorem bracket_of_raise (w : World) {setup : List Effect} (body : Run α) (release : List Effect)
    {x : Exc} (raised : firstRaise w setup = some x) :
    bracket w setup body release =
      ⟨attempted w setup ++ attempted w release, .error (.raise ((firstRaise w release).getD x))⟩ := by
  rw [bracket, tryFinally, performAll_bind, raised]
  simp only [performAll_effects, performAll_result]
  cases firstRaise w release <;> rfl

theorem bracket_raise (w : World) (setup : List Effect) (x : Exc) (release : List Effect) :
    bracket w setup (raise x : Run α) release =
      ⟨attempted w setup ++ attempted w release,
        .error (.raise ((firstRaise w release).getD ((firstRaise w setup).getD x)))⟩ := by
  apply Run.ext'
  · rw [bracket_effects _ _ _ (execs_raise x)]
    split <;> simp
  · rw [bracket_result _ _ _ (execs_raise x)]
    cases firstRaise w release <;> cases firstRaise w setup <;> rfl

theorem bracket_nil (w : World) {body : Run α} (stays : body.execs = false) :
    bracket w [] body [] = body :=
  Run.ext' (by simp [bracket_effects _ _ _ stays]) (by rw [bracket_result _ _ _ stays]; rfl)

/-! ### Exit -/

inductive Exit where
  | status (code : Nat)
  | signal (sig : Nat)
  | image (file : String) (args : List String)
  deriving DecidableEq, Repr

/-- How the interpreter ends the process once its main module stopped. -/
def exitOf : Except Stop Unit → Exit
  | .ok () => .status 0
  | .error (.raise (.systemExit code)) => .status (code % 256).toNat
  | .error (.raise .keyboardInterrupt) => .signal 2
  | .error (.raise _) => .status 1
  | .error (.exec file args) => .image file args

end DemeterBench.Guest
