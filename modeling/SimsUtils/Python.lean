import Mathlib.Data.List.Basic

/-!
# Python method semantics

A method of the modelled classes runs in `PyM σ`: it reads and writes its object `σ` and
either returns or raises a `PyError`.  Python keeps every attribute written before a
`raise`, so a raised call still hands back the object as it left it: this is `EStateM`,
not `StateT` over `Except`.

`wp x Q E s` is the weakest precondition of running `x` from `s`: a return `a` leaves a
state satisfying `Q a`, a raise `e` a state satisfying `E e`.  The `@[simp]` lemmas below
push `wp` through the monad, so the verification condition of a method body is a
`simp only` away; `Keeps` is the special case of an invariant.
-/

namespace SimsUtils

/-- The exceptions the modelled code raises (`RuntimeError` with its message). -/
inductive PyError
  | runtimeError (msg : String)
  | typeError
  | valueError
  | indexError
  | keyError
  | attributeError
  deriving DecidableEq, Repr

/-- A Python method on an object of type `σ`. -/
abbrev PyM (σ α : Type) := EStateM PyError σ α

variable {σ α β : Type}

/-- `raise e`. -/
def raise (e : PyError) : PyM σ α := throw e

/-- `if cond: raise e`. -/
def raiseIf (cond : Bool) (e : PyError) : PyM σ Unit :=
  if cond then raise e else pure ()

/-- A Python expression that may raise, evaluated inside a method body. -/
def liftExcept : Except PyError α → PyM σ α
  | .ok a => pure a
  | .error e => raise e

/-- The object a call leaves behind, whether it returned or raised. -/
def after : EStateM.Result PyError σ α → σ
  | .ok _ s => s
  | .error _ s => s

/-- Whether a call raised. -/
def raised : EStateM.Result PyError σ α → Bool
  | .ok _ _ => false
  | .error _ _ => true

/-- What holds after an expression that may raise: `ok` of its value, or `err` of its
exception. -/
def onResult (r : Except PyError α) (ok : α → Prop) (err : PyError → Prop) : Prop :=
  match r with
  | .ok a => ok a
  | .error e => err e

@[simp] theorem onResult_ok (a : α) (ok : α → Prop) (err : PyError → Prop) :
    onResult (.ok a) ok err = ok a := rfl

@[simp] theorem onResult_error (e : PyError) (ok : α → Prop) (err : PyError → Prop) :
    onResult (.error e) ok err = err e := rfl

/-- Where returning and raising lead to the same condition, the expression does not matter. -/
theorem onResult_const (r : Except PyError α) (P : Prop) : onResult r (fun _ => P) (fun _ => P) = P := by
  cases r <;> rfl

/-- Inversion of a bind that returned: both steps returned. -/
theorem except_bind_eq_ok {ε γ : Type} {x : Except ε α} {f : α → Except ε γ} {b : γ} :
    x >>= f = .ok b ↔ ∃ a, x = .ok a ∧ f a = .ok b := by
  cases x <;> simp [bind, Except.bind]

/-! ## Weakest preconditions -/

/-- Run from `s`, `x` returns `a` in a state satisfying `Q a` or raises `e` in a state
satisfying `E e`. -/
def wp (x : PyM σ α) (Q : α → σ → Prop) (E : PyError → σ → Prop) (s : σ) : Prop :=
  match x s with
  | .ok a s' => Q a s'
  | .error e s' => E e s'

section
variable {Q : α → σ → Prop} {E : PyError → σ → Prop} {s : σ}

@[simp] theorem wp_pure (a : α) : wp (pure a) Q E s = Q a s := rfl

@[simp] theorem wp_bind (x : PyM σ β) (f : β → PyM σ α) :
    wp (x >>= f) Q E s = wp x (fun b => wp (f b) Q E) E s := by
  show (match EStateM.bind x f s with | .ok a s' => Q a s' | .error e s' => E e s') = _
  unfold EStateM.bind wp
  cases x s <;> rfl

@[simp] theorem wp_map (f : β → α) (x : PyM σ β) : wp (f <$> x) Q E = wp x (fun b => Q (f b)) E := by
  funext s
  show (match EStateM.map f x s with | .ok a s' => Q a s' | .error e s' => E e s') = _
  unfold EStateM.map wp
  cases x s <;> rfl

@[simp] theorem wp_get {Q : σ → σ → Prop} : wp (get : PyM σ σ) Q E s = Q s s := rfl

@[simp] theorem wp_set {Q : PUnit → σ → Prop} (t : σ) : wp (set t : PyM σ PUnit) Q E s = Q () t :=
  rfl

@[simp] theorem wp_modify {Q : PUnit → σ → Prop} (f : σ → σ) :
    wp (modify f : PyM σ PUnit) Q E s = Q () (f s) := rfl

@[simp] theorem wp_raise (e : PyError) : wp (raise e : PyM σ α) Q E s = E e s := rfl

@[simp] theorem wp_ite (c : Prop) [Decidable c] (x y : PyM σ α) :
    wp (if c then x else y) Q E s = if c then wp x Q E s else wp y Q E s := by
  split <;> rfl

@[simp] theorem wp_raiseIf {Q : Unit → σ → Prop} (cond : Bool) (e : PyError) :
    wp (raiseIf cond e : PyM σ Unit) Q E s = if cond then E e s else Q () s := by
  unfold raiseIf
  split <;> rfl

/-- A test that passed: the rest of the function may assume its condition is false. -/
theorem wp_raiseIf_seq {cond : Bool} {e : PyError} {f : Unit → PyM σ α} (hE : E e s)
    (hf : ¬ cond → wp (f ()) Q E s) : wp (raiseIf cond e >>= f) Q E s := by
  rw [wp_bind, wp_raiseIf]
  split
  · exact hE
  · exact hf ‹_›

@[simp] theorem wp_liftExcept (r : Except PyError α) :
    wp (liftExcept r : PyM σ α) Q E s = onResult r (Q · s) (E · s) := by
  cases r <;> rfl

theorem wp_mono {x : PyM σ α} {Q' : α → σ → Prop} {E' : PyError → σ → Prop}
    (h : wp x Q E s) (hQ : ∀ a t, Q a t → Q' a t) (hE : ∀ e t, E e t → E' e t) :
    wp x Q' E' s := by
  unfold wp at *
  split at h
  · exact hQ _ _ h
  · exact hE _ _ h

/-- Sequencing: what `x` guarantees on return is what `f` may assume. -/
theorem wp_seq {x : PyM σ β} {f : β → PyM σ α} {R : β → σ → Prop} (hx : wp x R E s)
    (hf : ∀ b t, R b t → wp (f b) Q E t) : wp (x >>= f) Q E s := by
  rw [wp_bind]
  exact wp_mono hx hf fun _ _ h => h

theorem wp_and {x : PyM σ α} {Q' : α → σ → Prop} {E' : PyError → σ → Prop} (h : wp x Q E s)
    (h' : wp x Q' E' s) : wp x (fun a t => Q a t ∧ Q' a t) (fun e t => E e t ∧ E' e t) s := by
  unfold wp at *
  split <;> rename_i hx <;> rw [hx] at h h' <;> exact ⟨h, h'⟩

/-- A call that returned leaves an object satisfying what `wp` promises on return. -/
theorem wp_after_of_returned {x : PyM σ α} {P : σ → Prop} (h : wp x (fun _ => P) E s)
    (hr : raised (x s) = false) : P (after (x s)) := by
  unfold wp at h
  revert h hr
  cases x s with
  | ok _ t => exact fun h _ => h
  | error _ t => exact fun _ hr => Bool.noConfusion hr

/-- With the same condition on both exits, `wp` is a condition on the object left behind. -/
theorem wp_iff_after (x : PyM σ α) (P : σ → Prop) :
    wp x (fun _ => P) (fun _ => P) s ↔ P (after (x s)) := by
  unfold wp
  cases x s <;> rfl

end

theorem wp_true (x : PyM σ α) (s : σ) : wp x (fun _ _ => True) (fun _ _ => True) s := by
  unfold wp
  split <;> trivial

/-! ## Invariants -/

/-- `x` keeps `I`: from a state satisfying `I`, the object it leaves, returning or
raising, satisfies `I` again. -/
def Keeps (I : σ → Prop) (x : PyM σ α) : Prop :=
  ∀ s, I s → wp x (fun _ => I) (fun _ => I) s

section
variable {I : σ → Prop}

theorem Keeps.bind {x : PyM σ β} {f : β → PyM σ α}
    (hx : Keeps I x) (hf : ∀ b, Keeps I (f b)) : Keeps I (x >>= f) := fun s hs => by
  rw [wp_bind]
  exact wp_mono (hx s hs) (fun b t ht => hf b t ht) (fun _ _ h => h)

theorem Keeps.seq {x : PyM σ β} {y : PyM σ α} (hx : Keeps I x) (hy : Keeps I y) :
    Keeps I (x >>= fun _ => y) :=
  hx.bind fun _ => hy

/-- A prefix that keeps `I`, then a tail whose raises keep it: every raise keeps `I`. -/
theorem Keeps.wp_bind {x : PyM σ β} {f : β → PyM σ α} {Q : α → σ → Prop} {s : σ}
    (hx : Keeps I x) (hf : ∀ b t, I t → wp (f b) Q (fun _ => I) t) (hs : I s) :
    wp (x >>= f) Q (fun _ => I) s := by
  rw [SimsUtils.wp_bind]
  exact wp_mono (hx s hs) (fun b t ht => hf b t ht) (fun _ _ h => h)

theorem keeps_pure (a : α) : Keeps I (pure a : PyM σ α) := fun _ hs => hs

theorem keeps_raise (e : PyError) : Keeps I (raise e : PyM σ α) := fun _ hs => hs

theorem keeps_liftExcept (r : Except PyError α) : Keeps I (liftExcept r : PyM σ α) := by
  intro s hs
  cases r <;> exact hs

theorem keeps_modify {f : σ → σ} (h : ∀ s, I s → I (f s)) : Keeps I (modify f : PyM σ PUnit) :=
  fun s hs => h s hs

theorem keeps_get : Keeps I (get : PyM σ σ) := fun _ hs => hs

theorem keeps_get_bind {f : σ → PyM σ α} (h : ∀ s, I s → wp (f s) (fun _ => I) (fun _ => I) s) :
    Keeps I (get >>= f) := fun s hs => by
  rw [SimsUtils.wp_bind, wp_get]
  exact h s hs

theorem Keeps.after {x : PyM σ α} (h : Keeps I x) {s : σ} (hs : I s) :
    I (SimsUtils.after (x s)) :=
  (wp_iff_after x I).1 (h s hs)

end

end SimsUtils
