import Mathlib

/-!
# Stateful code that returns early

A Rust function that takes `&mut` state and returns `Result<T, E>` changes the state in place and
may leave with `Err(e)?` after some of its changes: it is an `EStateM ε σ α`, whose error
results carry the state as it was when the error was raised. `ofExcept` is `x?` on a
`Result` that does not touch the state.

The lemmas are the inversion rules for a run: a sequence succeeds when both steps do, and fails
when the first step fails or the second fails after the first succeeded, each in the state the
earlier step left; a guard `if c { Err(e)? }` (`failIf`) fails without touching the state.
-/

namespace EStateM

variable {ε σ α β : Type}

/-- `x?` for a `Result` that does not touch the state. -/
def ofExcept (x : Except ε α) : EStateM ε σ α := fun s =>
  match x with
  | .ok a => .ok a s
  | .error e => .error e s

/-- The state a run ends in, returning or failing. -/
def Result.state : Result ε σ α → σ
  | .ok _ s => s
  | .error _ s => s

@[simp] theorem Result.state_ok (a : α) (s : σ) : (Result.ok a s : Result ε σ α).state = s := rfl

@[simp] theorem Result.state_error (e : ε) (s : σ) :
    (Result.error e s : Result ε σ α).state = s := rfl

@[simp] theorem run_ofExcept_ok (a : α) (s : σ) :
    (ofExcept (.ok a) : EStateM ε σ α).run s = .ok a s := rfl

@[simp] theorem run_ofExcept_error (e : ε) (s : σ) :
    (ofExcept (.error e) : EStateM ε σ α).run s = .error e s := rfl

theorem bind_eq_ok {x : EStateM ε σ α} {f : α → EStateM ε σ β} {s s'' : σ} {b : β} :
    (x >>= f).run s = .ok b s'' ↔ ∃ a s', x.run s = .ok a s' ∧ (f a).run s' = .ok b s'' := by
  rw [run_bind]
  cases x.run s <;> simp

theorem bind_eq_error {x : EStateM ε σ α} {f : α → EStateM ε σ β} {s s'' : σ} {e : ε} :
    (x >>= f).run s = .error e s'' ↔
      x.run s = .error e s'' ∨ ∃ a s', x.run s = .ok a s' ∧ (f a).run s' = .error e s'' := by
  rw [run_bind]
  cases x.run s <;> simp

theorem ofExcept_eq_ok {x : Except ε α} {s s' : σ} {a : α} :
    (ofExcept x : EStateM ε σ α).run s = .ok a s' ↔ x = .ok a ∧ s' = s := by
  cases x <;> simp [ofExcept, EStateM.run, eq_comm]

theorem ofExcept_eq_error {x : Except ε α} {s s' : σ} {e : ε} :
    (ofExcept x : EStateM ε σ α).run s = .error e s' ↔ x = .error e ∧ s' = s := by
  cases x <;> simp [ofExcept, EStateM.run, eq_comm]

/-- `if c { Err(e)? }`. -/
def failIf (c : Prop) [Decidable c] (e : ε) : EStateM ε σ PUnit := if c then throw e else pure ()

/-- A guard goes on, in the same state, exactly when its condition fails. -/
theorem failIf_eq_ok {c : Prop} [Decidable c] {e : ε} {s s' : σ} {u : PUnit} :
    (failIf c e).run s = .ok u s' ↔ ¬c ∧ s' = s := by
  by_cases hc : c <;> simp [failIf, hc, eq_comm]

theorem failIf_eq_error {c : Prop} [Decidable c] {e e' : ε} {s s' : σ} :
    (failIf c e).run s = .error e' s' ↔ c ∧ e' = e ∧ s' = s := by
  by_cases hc : c <;> simp [failIf, hc, eq_comm]

/-! ## What a run leaves

`Ends Q x s`: every run of `x` from `s` ends, returning or failing, in a state of which `Q` holds.
It is the weakest precondition of `x` for a postcondition on the final state alone, which is what
an invariant of a state machine needs: a command that fails still leaves its state behind. The
rules below take it through a `do` block from left to right. -/

/-- Every run of `x` from `s` ends in a state of which `Q` holds. -/
def Ends (Q : σ → Prop) (x : EStateM ε σ α) (s : σ) : Prop := Q (x.run s).state

variable {Q : σ → Prop} {s t : σ}

@[simp] theorem ends_pure {a : α} : Ends Q (pure a : EStateM ε σ α) s ↔ Q s := Iff.rfl

@[simp] theorem ends_throw {e : ε} : Ends Q (throw e : EStateM ε σ α) s ↔ Q s := Iff.rfl

@[simp] theorem ends_get_bind {f : σ → EStateM ε σ β} : Ends Q (get >>= f) s ↔ Ends Q (f s) s :=
  Iff.rfl

@[simp] theorem ends_set_bind {f : PUnit → EStateM ε σ β} :
    Ends Q (set t >>= f) s ↔ Ends Q (f ⟨⟩) t := Iff.rfl

@[simp] theorem ends_set : Ends Q (set t : EStateM ε σ PUnit) s ↔ Q t := Iff.rfl

@[simp] theorem ends_modify_bind {g : σ → σ} {f : PUnit → EStateM ε σ β} :
    Ends Q (modify g >>= f) s ↔ Ends Q (f ⟨⟩) (g s) := Iff.rfl

@[simp] theorem ends_modify {g : σ → σ} : Ends Q (modify g : EStateM ε σ PUnit) s ↔ Q (g s) :=
  Iff.rfl

@[simp] theorem ends_modifyGet_bind {g : σ → α × σ} {f : α → EStateM ε σ β} :
    Ends Q (modifyGet g >>= f) s ↔ Ends Q (f (g s).1) (g s).2 := Iff.rfl

@[simp] theorem ends_modifyGet {g : σ → α × σ} :
    Ends Q (modifyGet g : EStateM ε σ α) s ↔ Q (g s).2 := Iff.rfl

@[simp] theorem ends_map {g : α → β} {x : EStateM ε σ α} : Ends Q (g <$> x) s ↔ Ends Q x s := by
  unfold Ends
  rw [run_map]
  cases x.run s <;> rfl

@[simp] theorem ends_failIf_bind {c : Prop} [Decidable c] {e : ε} {f : PUnit → EStateM ε σ β} :
    Ends Q (failIf c e >>= f) s ↔ (c → Q s) ∧ (¬c → Ends Q (f ⟨⟩) s) := by
  by_cases hc : c
  · simp only [failIf, hc, if_true, true_implies, not_true_eq_false, false_implies, and_true]
    rfl
  · simp only [failIf, hc, if_false, false_implies, not_false_eq_true, true_implies, true_and]
    rfl

@[simp] theorem ends_failIf {c : Prop} [Decidable c] {e : ε} :
    Ends Q (failIf c e) s ↔ Q s := by
  by_cases hc : c <;> simp [failIf, hc]

@[simp] theorem ends_ofExcept {x : Except ε α} : Ends Q (ofExcept x : EStateM ε σ α) s ↔ Q s := by
  cases x <;> rfl

@[simp] theorem ends_ofExcept_bind {x : Except ε α} {f : α → EStateM ε σ β} :
    Ends Q (ofExcept x >>= f) s ↔ (∀ e, x = .error e → Q s) ∧ ∀ a, x = .ok a → Ends Q (f a) s := by
  cases x <;> simp <;> rfl

@[simp] theorem ends_ite {c : Prop} [Decidable c] {x y : EStateM ε σ α} :
    Ends Q (if c then x else y) s ↔ (c → Ends Q x s) ∧ (¬c → Ends Q y s) := by
  by_cases hc : c <;> simp [hc]

/-- A bind whose first step has no rule of its own: the second step from every state the first
returns in, and `Q` of every state it fails in. -/
theorem ends_bind {x : EStateM ε σ α} {f : α → EStateM ε σ β} :
    Ends Q (x >>= f) s ↔
      (∀ e t, x.run s = .error e t → Q t) ∧ ∀ a t, x.run s = .ok a t → Ends Q (f a) t := by
  unfold Ends
  rw [run_bind]
  cases x.run s <;> simp

/-- `Ends` from what each result of the run says. -/
theorem ends_iff {x : EStateM ε σ α} :
    Ends Q x s ↔ (∀ e t, x.run s = .error e t → Q t) ∧ ∀ a t, x.run s = .ok a t → Q t := by
  unfold Ends
  cases x.run s <;> simp

/-- A first step that ends in `Q`, followed by steps that keep `Q`. -/
theorem Ends.bind {x : EStateM ε σ α} {f : α → EStateM ε σ β} (hx : Ends Q x s)
    (hf : ∀ a t, Q t → Ends Q (f a) t) : Ends Q (x >>= f) s := by
  unfold Ends at hx
  refine ends_bind.2 ⟨fun e t h => ?_, fun a t h => hf a t ?_⟩ <;> rw [h] at hx <;> exact hx

theorem Ends.mono {Q' : σ → Prop} {x : EStateM ε σ α} (h : Ends Q x s) (hQ : ∀ t, Q t → Q' t) :
    Ends Q' x s :=
  hQ _ h

end EStateM
