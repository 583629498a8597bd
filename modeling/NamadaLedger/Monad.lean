import NamadaLedger.Bytes

/-!
# Running the code's programs

The C functions are modelled as `EStateM` programs: the state is the memory they write, and an
error keeps the state it was raised in, as an early `return` keeps what was already stored.

* `EStateM.Result.state`, `EStateM.Result.value` — the final state of a run, on either path, and
  what it returns to its caller;
* evaluation lemmas for `>>=`, `get`, `pure`, `throw` and `modify`, and their inversion:
  a program that returns ran each of its steps to a return (`estate_bind_eq_ok`);
* `Keeps`, `Preserves`, `PreservesOnError` — what a program keeps of its state, or true of it,
  on either path or on the error path, with their rules for `>>=`;
* `forLoop` — the counted `for` loop of the code, with its unfolding lemmas.
-/

/-- The final state of a run, on either path. -/
def EStateM.Result.state {ε σ α : Type} : EStateM.Result ε σ α → σ
  | .ok _ s => s
  | .error _ s => s

/-- What a run returns to its caller: its value or its error. -/
def EStateM.Result.value {ε σ α : Type} : EStateM.Result ε σ α → Except ε α
  | .ok a _ => .ok a
  | .error e _ => .error e

namespace NamadaLedger

/-! ## Evaluating `EStateM` programs -/

section EStateMLemmas

variable {ε σ α β : Type}

@[simp] theorem estate_bind_apply (x : EStateM ε σ α) (f : α → EStateM ε σ β) (s : σ) :
    (x >>= f) s = match x s with
      | .ok a s' => f a s'
      | .error e s' => .error e s' := rfl

@[simp] theorem estate_get_apply (s : σ) : (get : EStateM ε σ σ) s = .ok s s := rfl

@[simp] theorem estate_pure_apply (a : α) (s : σ) : (pure a : EStateM ε σ α) s = .ok a s := rfl

@[simp] theorem estate_throw_apply (e : ε) (s : σ) : (throw e : EStateM ε σ α) s = .error e s :=
  rfl

@[simp] theorem estate_modify_apply (f : σ → σ) (s : σ) :
    (modify f : EStateM ε σ PUnit) s = .ok () (f s) := rfl

/-- A program that starts with a `modify` runs the rest on the modified state. -/
theorem estate_modify_bind_apply (f : σ → σ) (g : PUnit → EStateM ε σ α) (s : σ) :
    (modify f >>= g) s = g () (f s) := rfl

/-- Two runs that agree after their first step agree. -/
theorem estate_bind_apply_congr {x x' : EStateM ε σ α} {s s' : σ} (h : x s = x' s')
    (f : α → EStateM ε σ β) : (x >>= f) s = (x' >>= f) s' := by
  rw [estate_bind_apply, estate_bind_apply, h]

@[simp] theorem estate_run_apply (x : EStateM ε σ α) (s : σ) : x.run s = x s := rfl

/-- An `Except` computed outside the state, run as a step: its error ends the program with the
state as it was, as `CHECK_ERROR` / `CHECK_PARSER_OK` do on a call that stores nothing. -/
def liftExcept (x : Except ε α) : EStateM ε σ α := fun s =>
  match x with
  | .ok a => .ok a s
  | .error e => .error e s

theorem liftExcept_ok {x : Except ε α} {a : α} (h : x = .ok a) (s : σ) :
    (liftExcept x : EStateM ε σ α) s = .ok a s := by
  subst h; rfl

/-- `liftExcept` runs an `Except` chain as the same chain of steps. -/
theorem liftExcept_bind {β : Type} (x : Except ε α) (f : α → Except ε β) :
    (liftExcept (x >>= f) : EStateM ε σ β) = liftExcept x >>= fun a => liftExcept (f a) := by
  funext s; cases x <;> rfl

theorem liftExcept_eq_ok {x : Except ε α} {a : α} {s s' : σ}
    (h : (liftExcept x : EStateM ε σ α) s = .ok a s') : x = .ok a ∧ s' = s := by
  cases x <;> cases h; exact ⟨rfl, rfl⟩

@[simp] theorem liftExcept_state (x : Except ε α) (s : σ) :
    ((liftExcept x : EStateM ε σ α) s).state = s := by
  cases x <;> rfl

/-- A step that succeeds hands its result and state to the rest of the program. -/
theorem estate_bind_ok {x : EStateM ε σ α} {s s' : σ} {a : α} (h : x s = .ok a s')
    (f : α → EStateM ε σ β) : (x >>= f) s = f a s' := by
  rw [estate_bind_apply, h]

/-- A step that fails ends the program with its error and state. -/
theorem estate_bind_error {x : EStateM ε σ α} {s s' : σ} {e : ε} (h : x s = .error e s')
    (f : α → EStateM ε σ β) : (x >>= f) s = .error e s' := by
  rw [estate_bind_apply, h]

/-- A program that returns ran its first step to a return, and the rest from there. -/
theorem estate_bind_eq_ok {x : EStateM ε σ α} {f : α → EStateM ε σ β} {s s'' : σ} {b : β}
    (h : (x >>= f) s = .ok b s'') : ∃ a s', x s = .ok a s' ∧ f a s' = .ok b s'' := by
  rw [estate_bind_apply] at h
  cases hx : x s with
  | ok a s' => rw [hx] at h; exact ⟨a, s', rfl, h⟩
  | error e s' => rw [hx] at h; cases h

/-- A program whose rest keeps the state ends in the state its first step leaves. -/
theorem estate_bind_state_of_keeps {x : EStateM ε σ α} {f : α → EStateM ε σ β}
    (hf : ∀ a s, (f a s).state = s) (s : σ) : ((x >>= f) s).state = (x s).state := by
  rw [estate_bind_apply]
  cases x s with
  | ok a s' => exact hf a s'
  | error e s' => rfl

@[simp] theorem adaptExcept_state {ε' : Type} (f : ε → ε') (x : EStateM ε σ α) (s : σ) :
    (EStateM.adaptExcept f x s).state = (x s).state := by
  unfold EStateM.adaptExcept; cases x s <;> rfl

theorem adaptExcept_ok {ε' : Type} (f : ε → ε') {x : EStateM ε σ α} {s s' : σ} {a : α}
    (h : x s = .ok a s') : EStateM.adaptExcept f x s = .ok a s' := by
  unfold EStateM.adaptExcept; rw [h]

theorem adaptExcept_error {ε' : Type} (f : ε → ε') {x : EStateM ε σ α} {s s' : σ} {e : ε}
    (h : x s = .error e s') : EStateM.adaptExcept f x s = .error (f e) s' := by
  unfold EStateM.adaptExcept; rw [h]

theorem adaptExcept_eq_ok {ε' : Type} {f : ε → ε'} {x : EStateM ε σ α} {s s' : σ} {a : α}
    (h : EStateM.adaptExcept f x s = .ok a s') : x s = .ok a s' := by
  unfold EStateM.adaptExcept at h
  cases hx : x s <;> rw [hx] at h <;> cases h
  rfl

theorem estate_throw_ne_ok {e : ε} {s s' : σ} {a : α} : (throw e : EStateM ε σ α) s ≠ .ok a s' :=
  nofun

@[simp] theorem result_value_ok (a : α) (s : σ) :
    (EStateM.Result.ok a s : EStateM.Result ε σ α).value = .ok a := rfl

@[simp] theorem result_value_error (e : ε) (s : σ) :
    (EStateM.Result.error e s : EStateM.Result ε σ α).value = .error e := rfl

@[simp] theorem result_state_ok (a : α) (s : σ) : (EStateM.Result.ok a s : EStateM.Result ε σ α).state = s :=
  rfl

@[simp] theorem result_state_error (e : ε) (s : σ) :
    (EStateM.Result.error e s : EStateM.Result ε σ α).state = s := rfl

end EStateMLemmas

/-! ## Frames and invariants

What a program keeps of its state, or keeps true of it, on either path; each is built up along
the program's `>>=`s. -/

section Frames

variable {ε σ α β γ : Type}

/-- A program that leaves the part `f` of the state as it found it, whether it returns or
fails. -/
def Keeps (f : σ → γ) (m : EStateM ε σ α) : Prop := ∀ s, f (m s).state = f s

/-- A program after which the state has `P` whenever it had it before, on either path. -/
def Preserves (P : σ → Prop) (m : EStateM ε σ α) : Prop := ∀ s, P s → P (m s).state

/-- A program that, started in a state with `P`, fails only in a state with `P`. -/
def PreservesOnError (P : σ → Prop) (m : EStateM ε σ α) : Prop :=
  ∀ s e s', P s → m s = .error e s' → P s'

variable {f : σ → γ} {P : σ → Prop} {m : EStateM ε σ α} {k : α → EStateM ε σ β}

theorem Keeps.bind (hm : Keeps f m) (hk : ∀ a, Keeps f (k a)) : Keeps f (m >>= k) := by
  intro s
  have hs := hm s
  rw [estate_bind_apply]
  cases h : m s with
  | ok a s' => rw [h] at hs; exact (hk a s').trans hs
  | error e s' => rw [h] at hs; exact hs

/-- A program whose rest keeps the part `f` of the state ends with that part as its first step
left it. -/
theorem keeps_bind_state (hk : ∀ a, Keeps f (k a)) (s : σ) :
    f ((m >>= k) s).state = f (m s).state := by
  rw [estate_bind_apply]
  cases m s with
  | ok a s' => exact hk a s'
  | error e s' => rfl

theorem keeps_pure (a : α) : Keeps f (pure a : EStateM ε σ α) := fun _ => rfl

theorem keeps_throw (e : ε) : Keeps f (throw e : EStateM ε σ α) := fun _ => rfl

theorem keeps_get : Keeps f (get : EStateM ε σ σ) := fun _ => rfl

theorem keeps_liftExcept (x : Except ε α) : Keeps f (liftExcept x : EStateM ε σ α) := fun s => by
  rw [liftExcept_state]

theorem keeps_modify {g : σ → σ} (h : ∀ s, f (g s) = f s) : Keeps f (modify g : EStateM ε σ PUnit) :=
  h

theorem Keeps.preserves {Q : γ → Prop} (h : Keeps f m) : Preserves (fun s => Q (f s)) m :=
  fun s hs => show Q (f (m s).state) by rwa [h s]

theorem Preserves.onError (h : Preserves P m) : PreservesOnError P m := fun s _ _ hs he => by
  simpa [he] using h s hs

theorem Preserves.bind (hm : Preserves P m) (hk : ∀ a, Preserves P (k a)) :
    Preserves P (m >>= k) := by
  intro s hs
  have h1 := hm s hs
  rw [estate_bind_apply]
  cases h : m s with
  | ok a s' => rw [h] at h1; exact hk a s' h1
  | error e s' => rw [h] at h1; exact h1

/-- A step that keeps `P` followed by steps that keep it on the error path keeps it on the error
path. -/
theorem PreservesOnError.bind (hm : Preserves P m) (hk : ∀ a, PreservesOnError P (k a)) :
    PreservesOnError P (m >>= k) := by
  intro s e s' hs he
  have h1 := hm s hs
  rw [estate_bind_apply] at he
  cases h : m s with
  | ok a s1 => rw [h] at he h1; exact hk a s1 e s' h1 he
  | error e1 s1 => rw [h] at he h1; cases he; exact h1

/-- A step that keeps `P` on the error path, followed by steps that never fail. -/
theorem PreservesOnError.bind_of_ok (hm : PreservesOnError P m)
    (hk : ∀ a s, ∃ b s', k a s = .ok b s') : PreservesOnError P (m >>= k) := by
  intro s e s' hs he
  rw [estate_bind_apply] at he
  cases h : m s with
  | ok a s1 => obtain ⟨b, s2, h2⟩ := hk a s1; simp [h, h2] at he
  | error e1 s1 => rw [h] at he; cases he; exact hm s e s' hs h

end Frames

/-! ## The counted loop -/

/-- `for (i = start; i < start + r; i++) body(i)`, the body's error ending the loop. -/
def forLoop {ε σ : Type} (body : Nat → EStateM ε σ Unit) : Nat → Nat → EStateM ε σ Unit
  | _, 0 => pure ()
  | i, r + 1 => do body i; forLoop body (i + 1) r

section ForLoop

variable {ε σ : Type} (body : Nat → EStateM ε σ Unit)

@[simp] theorem forLoop_zero (i : Nat) (s : σ) : forLoop body i 0 s = .ok () s := rfl

theorem forLoop_succ (i r : Nat) :
    forLoop body i (r + 1) = (body i >>= fun _ => forLoop body (i + 1) r) := rfl

/-- A loop of one iteration ends where its body ends. -/
theorem forLoop_one_state (i : Nat) (s : σ) : (forLoop body i 1 s).state = (body i s).state := by
  rw [forLoop_succ]
  refine estate_bind_state_of_keeps ?_ s
  intro _ _; rfl

/-- A loop whose body keeps the part `f` of the state keeps it, on either path. -/
theorem keeps_forLoop {γ : Type} {f : σ → γ} (h : ∀ j, Keeps f (body j)) (i r : Nat) :
    Keeps f (forLoop body i r) := by
  induction r generalizing i with
  | zero => exact keeps_pure ()
  | succ r ih => rw [forLoop_succ]; exact (h i).bind fun _ => ih (i + 1)

/-- A loop whose body keeps `P` of the state keeps it, on either path. -/
theorem preserves_forLoop {P : σ → Prop} (h : ∀ j, Preserves P (body j)) (i r : Nat) :
    Preserves P (forLoop body i r) := by
  induction r generalizing i with
  | zero => exact fun _ hs => hs
  | succ r ih => rw [forLoop_succ]; exact (h i).bind fun _ => ih (i + 1)

/-- A loop that returns ran its first iteration to a return, and the rest from there. -/
theorem forLoop_succ_eq_ok {i r : Nat} {s s' : σ} (h : forLoop body i (r + 1) s = .ok () s') :
    ∃ s1, body i s = .ok () s1 ∧ forLoop body (i + 1) r s1 = .ok () s' := by
  obtain ⟨_, s1, h1, h2⟩ := estate_bind_eq_ok h
  exact ⟨s1, h1, h2⟩

end ForLoop

end NamadaLedger
