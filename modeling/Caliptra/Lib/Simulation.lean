import Mathlib

/-!
# Runs of a fallible step function, and their simulation

`runSteps step s inputs` feeds the inputs to `step` one after another from `s`, collecting what
each step outputs, and stops at the first error. A machine simulates another when an
abstraction of its state, under an invariant that its steps keep, steps as the other machine
does with the same outputs and errors (`runSteps_map`): the two runs are then equal through the
abstraction, for every sequence of inputs.

For noninterference the two runs are of one machine, from two states an observer is not meant to
tell apart (a relation `R`). When one step from related states gives the same output, or the same
error, and leads to related states (`ResultRel`), so does every run (`runSteps_rel`, the unwinding
argument).
-/

namespace Simulation

variable {σ τ ι ο ε : Type}

/-- Run `step` over the inputs from `s`: the last state and the outputs, or the first error. -/
def runSteps (step : σ → ι → Except ε (σ × ο)) (s : σ) : List ι → Except ε (σ × List ο)
  | [] => .ok (s, [])
  | i :: is => do
    let r ← step s i
    let rs ← runSteps step r.1 is
    pure (rs.1, r.2 :: rs.2)

@[simp] theorem runSteps_nil (step : σ → ι → Except ε (σ × ο)) (s : σ) :
    runSteps step s [] = .ok (s, []) := rfl

theorem runSteps_cons (step : σ → ι → Except ε (σ × ο)) (s : σ) (i : ι) (is : List ι) :
    runSteps step s (i :: is) = (do
      let r ← step s i
      let rs ← runSteps step r.1 is
      pure (rs.1, r.2 :: rs.2)) := rfl

/-- A run over one input that goes through is one step. -/
theorem runSteps_singleton_eq_ok (step : σ → ι → Except ε (σ × ο)) {i : ι} {s : σ}
    {r : σ × List ο} (h : runSteps step s [i] = .ok r) :
    ∃ r₁, step s i = .ok r₁ ∧ r = (r₁.1, [r₁.2]) := by
  rw [runSteps_cons] at h
  cases hi : step s i with
  | error e => rw [hi] at h; cases h
  | ok r₁ =>
    rw [hi] at h
    cases h
    exact ⟨r₁, rfl, rfl⟩

/-- A run over `is ++ js` that goes through is a run over `is` and then one over `js`. -/
theorem runSteps_append_eq_ok (step : σ → ι → Except ε (σ × ο)) {is js : List ι} {s : σ}
    {r : σ × List ο} (h : runSteps step s (is ++ js) = .ok r) :
    ∃ r₁ r₂, runSteps step s is = .ok r₁ ∧ runSteps step r₁.1 js = .ok r₂ ∧
      r = (r₂.1, r₁.2 ++ r₂.2) := by
  induction is generalizing s r with
  | nil => exact ⟨(s, []), r, rfl, h, rfl⟩
  | cons i is ih =>
    rw [List.cons_append, runSteps_cons] at h
    cases hi : step s i with
    | error e => rw [hi] at h; cases h
    | ok r₀ =>
      rw [hi] at h
      cases hr : runSteps step r₀.1 (is ++ js) with
      | error e => simp [hr, bind, Except.bind] at h
      | ok rs =>
        simp only [hr, bind, Except.bind, pure, Except.pure, Except.ok.injEq] at h
        subst h
        obtain ⟨r₁, r₂, h₁, h₂, rfl⟩ := ih hr
        refine ⟨(r₁.1, r₀.2 :: r₁.2), r₂, ?_, h₂, rfl⟩
        rw [runSteps_cons, hi]
        simp [h₁, bind, Except.bind, pure, Except.pure]

section Invariant

variable (step : σ → ι → Except ε (σ × ο)) (Inv : σ → Prop)

/-- An invariant that every step on an allowed input keeps holds of the last state of every run
over allowed inputs. -/
theorem runSteps_inv_of_forall (P : ι → Prop) (hstep : ∀ s i r, P i → Inv s → step s i = .ok r → Inv r.1) :
    ∀ (is : List ι) (s : σ) (r : σ × List ο), (∀ i ∈ is, P i) → Inv s →
      runSteps step s is = .ok r → Inv r.1 := by
  intro is
  induction is with
  | nil =>
    intro s r _ hs h
    cases h
    exact hs
  | cons i is ih =>
    intro s r hP hs h
    rw [runSteps_cons] at h
    cases hi : step s i with
    | error e => rw [hi] at h; cases h
    | ok r₁ =>
      rw [hi] at h
      cases hr : runSteps step r₁.1 is with
      | error e => simp [hr, bind, Except.bind] at h
      | ok rs =>
        simp only [hr, bind, Except.bind, pure, Except.pure, Except.ok.injEq] at h
        subst h
        have hi' := hstep s i r₁ (hP i List.mem_cons_self) hs hi
        exact ih r₁.1 rs (fun j hj => hP j (List.mem_cons_of_mem i hj)) hi' hr

/-- An invariant that every step keeps holds of the last state of every run. -/
theorem runSteps_inv (hstep : ∀ s i r, Inv s → step s i = .ok r → Inv r.1) :
    ∀ (is : List ι) (s : σ) (r : σ × List ο), Inv s → runSteps step s is = .ok r → Inv r.1 :=
  fun is s r hs h =>
    runSteps_inv_of_forall step Inv (fun _ => True) (fun s i r _ => hstep s i r) is s r
      (fun _ _ => trivial) hs h

end Invariant

section Simulation

variable (stepA : σ → ι → Except ε (σ × ο)) (stepB : τ → ι → Except ε (τ × ο)) (abs : σ → τ)
  (Inv : σ → Prop)

/-- If, from every state of the invariant, a step seen through `abs` is the abstract step, and
keeps the invariant, then so is every run. -/
theorem runSteps_map
    (hstep : ∀ s i, Inv s → (stepA s i).map (fun r => (abs r.1, r.2)) = stepB (abs s) i)
    (hinv : ∀ s i r, Inv s → stepA s i = .ok r → Inv r.1) :
    ∀ (is : List ι) (s : σ), Inv s →
      (runSteps stepA s is).map (fun r => (abs r.1, r.2)) = runSteps stepB (abs s) is := by
  intro is
  induction is with
  | nil => intro s _; rfl
  | cons i is ih =>
    intro s hs
    have h := hstep s i hs
    rw [runSteps_cons, runSteps_cons]
    cases hi : stepA s i with
    | error e =>
      -- the abstract step fails in the same way
      rw [hi] at h
      rw [← h]
      rfl
    | ok r =>
      rw [hi] at h
      rw [← h]
      have hrest := ih r.1 (hinv s i r hs hi)
      show (runSteps stepA r.1 is >>= fun rs => pure (rs.1, r.2 :: rs.2)).map _ =
        runSteps stepB (abs r.1) is >>= fun rs => pure (rs.1, r.2 :: rs.2)
      rw [← hrest]
      cases runSteps stepA r.1 is <;> rfl

end Simulation

section Unwinding

/-- Two results an observer cannot tell apart: the same error, or values related by `R`. -/
def ResultRel {α β : Type} (R : α → β → Prop) : Except ε α → Except ε β → Prop
  | .error e, .error e' => e = e'
  | .ok a, .ok b => R a b
  | _, _ => False

namespace ResultRel

variable {α β γ δ : Type} {R : α → β → Prop}

/-- Related results are the same error, or values related by `R`. -/
theorem error_or_ok {x : Except ε α} {y : Except ε β} (h : ResultRel R x y) :
    (∃ e, x = .error e ∧ y = .error e) ∨ ∃ a b, x = .ok a ∧ y = .ok b ∧ R a b := by
  cases x with
  | error e =>
    cases y with
    | error e' => exact .inl ⟨e, rfl, congrArg Except.error h.symm⟩
    | ok b => exact absurd h id
  | ok a =>
    cases y with
    | error e' => exact absurd h id
    | ok b => exact .inr ⟨a, b, rfl, rfl, h⟩

theorem mono {R' : α → β → Prop} (h : ∀ a b, R a b → R' a b) :
    ∀ {x : Except ε α} {y : Except ε β}, ResultRel R x y → ResultRel R' x y
  | .error _, .error _, hxy => hxy
  | .ok a, .ok b, hxy => h a b hxy

/-- A fact about every value the first computation may return joins the relation. -/
theorem and_of_ok {P : α → Prop} {x : Except ε α} {y : Except ε β} (h : ResultRel R x y)
    (hP : ∀ a, x = .ok a → P a) : ResultRel (fun a b => R a b ∧ P a) x y := by
  rcases h.error_or_ok with ⟨e, rfl, rfl⟩ | ⟨a, b, rfl, rfl, hab⟩
  · exact rfl
  · exact ⟨hab, hP a rfl⟩

/-- Related computations passed on to continuations that take related values to related
results. -/
theorem bind_rel {S : γ → δ → Prop} {x : Except ε α} {y : Except ε β} {f : α → Except ε γ}
    {g : β → Except ε δ} (h : ResultRel R x y) (hfg : ∀ a b, R a b → ResultRel S (f a) (g b)) :
    ResultRel S (x >>= f) (y >>= g) := by
  rcases h.error_or_ok with ⟨e, rfl, rfl⟩ | ⟨a, b, rfl, rfl, hab⟩
  · exact rfl
  · exact hfg a b hab

/-- One computation whose value is passed on to two related continuations. -/
theorem bind (x : Except ε γ) {f : γ → Except ε α} {g : γ → Except ε β}
    (h : ∀ c, ResultRel R (f c) (g c)) : ResultRel R (x >>= f) (x >>= g) := by
  cases x with
  | error e => exact rfl
  | ok c => exact h c

theorem map (x : Except ε γ) {f : γ → α} {g : γ → β} (h : ∀ c, R (f c) (g c)) :
    ResultRel R (x.map f) (x.map g) := by
  cases x with
  | error e => exact rfl
  | ok c => exact h c

end ResultRel

variable (step : σ → ι → Except ε (σ × ο)) (R : σ → σ → Prop)

/-- Unwinding: when every allowed step from two states related by `R` gives the same output, or
fails in the same way, and leads to states related by `R`, so does every run over allowed inputs:
an observer who sees the outputs learns nothing that `R` does not keep. -/
theorem runSteps_rel (P : ι → Prop)
    (hstep : ∀ s t i, P i → R s t →
      ResultRel (fun r r' => R r.1 r'.1 ∧ r.2 = r'.2) (step s i) (step t i)) :
    ∀ (is : List ι) (s t : σ), (∀ i ∈ is, P i) → R s t →
      ResultRel (fun r r' => R r.1 r'.1 ∧ r.2 = r'.2) (runSteps step s is) (runSteps step t is) := by
  intro is
  induction is with
  | nil =>
    intro s t _ hst
    exact ⟨hst, rfl⟩
  | cons i is ih =>
    intro s t hP hst
    have hP' : ∀ j ∈ is, P j := fun j hj => hP j (List.mem_cons_of_mem i hj)
    rw [runSteps_cons, runSteps_cons]
    -- the first step gives related states and one output, the rest of the run by induction
    refine (hstep s t i (hP i List.mem_cons_self) hst).bind_rel fun r₁ r₂ ⟨hr, ho⟩ => ?_
    refine (ih r₁.1 r₂.1 hP' hr).bind_rel fun rs rs' ⟨hrs, hos⟩ => ?_
    exact ⟨hrs, by rw [ho, hos]⟩

end Unwinding

end Simulation
