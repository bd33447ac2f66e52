import Mathlib

/-!
# Tables filled by a loop

A loop `for x in xs { t[key x] = val x }` leaves `val x` at `key x` when no other element of
`xs` has the key of `x` (`foldl_set_get`), and keeps the old entry at every key it does not
write (`foldl_set_get_of_forall_ne`). The table is any store with the read-over-write law
`get_set`, so that one pair of lemmas serves an array and a word of flags alike.
-/

namespace Lookup

section Store

variable {σ κ ν ι : Type} [DecidableEq κ] (get : σ → κ → ν) (set : σ → κ → ν → σ)
  (get_set : ∀ s k v k', get (set s k v) k' = if k' = k then v else get s k')

include get_set

theorem foldl_set_get_of_forall_ne (key : ι → κ) (val : ι → ν) (xs : List ι) (s : σ) {k : κ}
    (h : ∀ x ∈ xs, key x ≠ k) :
    get (xs.foldl (fun s x => set s (key x) (val x)) s) k = get s k := by
  induction xs generalizing s with
  | nil => rfl
  | cons x xs ih =>
    rw [List.foldl_cons, ih _ (fun y hy => h y (List.mem_cons_of_mem _ hy)), get_set,
      if_neg (h x List.mem_cons_self).symm]

theorem foldl_set_get (key : ι → κ) (val : ι → ν) (xs : List ι) (s : σ) {x : ι} (hx : x ∈ xs)
    (hkey : ∀ y ∈ xs, key y = key x → y = x) :
    get (xs.foldl (fun s x => set s (key x) (val x)) s) (key x) = val x := by
  induction xs generalizing s with
  | nil => cases hx
  | cons y xs ih =>
    rw [List.foldl_cons]
    by_cases hmem : x ∈ xs
    · exact ih _ hmem (fun z hz => hkey z (List.mem_cons_of_mem _ hz))
    · -- `x` is the head, and no later element writes its key
      obtain rfl : x = y := (List.mem_cons.mp hx).resolve_right hmem
      have hrest : ∀ z ∈ xs, key z ≠ key x := fun z hz hk =>
        hmem (hkey z (List.mem_cons_of_mem _ hz) hk ▸ hz)
      rw [foldl_set_get_of_forall_ne get set get_set key val xs _ hrest, get_set, if_pos rfl]

end Store

/-- A vector indexed by `Fin n` is such a store. -/
theorem vector_get_set {α : Type} {n : Nat} (v : Vector α n) (k : Fin n) (x : α) (j : Fin n) :
    (v.set k x k.isLt).get j = if j = k then x else v.get j := by
  rw [Vector.get_eq_getElem, Vector.get_eq_getElem, Vector.getElem_set]
  by_cases h : j = k
  · simp [h]
  · simp [h, Ne.symm (Fin.val_ne_of_ne h)]

end Lookup
