import Mathlib

/-!
# Slice operations

Rust slice methods used by the models, on lists. `swapNext l i` is `slice.swap(i, i + 1)`; the
lemmas say what it does to the prefix before `i`, to the two entries and to the suffix after
them, and that it permutes the slice. `Vector.try_from l n` is `<[T; n]>::try_from(slice)`.

`binary_search_by` is the search of Rust 1.70's `core::slice`: it halves `size = right - left`
around `mid = left + size / 2` and returns `Ok(mid)` at the first probe where the comparator says
`Equal`, `Err(left)` when the range is empty. Nothing in it requires the slice to be sorted;
`binary_search_by_eq_ok` says what an `Ok` means on any slice.
-/

namespace List

variable {α : Type}

/-- `slice.swap(i, i + 1)`; a slice with fewer than `i + 2` entries is left as it is. -/
def swapNext (l : List α) (i : Nat) : List α :=
  match l.drop i with
  | a :: b :: rest => l.take i ++ b :: a :: rest
  | _ => l

theorem swapNext_eq {l : List α} {i : Nat} (h : i + 1 < l.length) :
    l.swapNext i = l.take i ++ l[i + 1] :: l[i] :: l.drop (i + 2) := by
  have hd : l.drop i = l[i] :: l[i + 1] :: l.drop (i + 2) := by
    rw [drop_eq_getElem_cons (by omega), drop_eq_getElem_cons h]
  rw [swapNext, hd]

theorem swapNext_perm {l : List α} {i : Nat} (h : i + 1 < l.length) : (l.swapNext i).Perm l := by
  rw [swapNext_eq h]
  calc l.take i ++ l[i + 1] :: l[i] :: l.drop (i + 2)
      _ ~ l.take i ++ l[i] :: l[i + 1] :: l.drop (i + 2) := (Perm.swap _ _ _).append_left _
      _ = l := by rw [← drop_eq_getElem_cons h, ← drop_eq_getElem_cons (by omega), take_append_drop]

theorem length_swapNext {l : List α} {i : Nat} (h : i + 1 < l.length) :
    (l.swapNext i).length = l.length :=
  (swapNext_perm h).length_eq

theorem take_swapNext {l : List α} {i : Nat} (h : i + 1 < l.length) :
    (l.swapNext i).take i = l.take i := by
  rw [swapNext_eq h, take_left' (by simp; omega)]

theorem getElem_swapNext {l : List α} {i : Nat} (h : i + 1 < l.length)
    (hi : i < (l.swapNext i).length) : (l.swapNext i)[i] = l[i + 1] := by
  have hlen : (l.take i).length = i := by simp; omega
  simp only [swapNext_eq h, getElem_append_right (Nat.le_of_eq hlen), hlen, Nat.sub_self,
    getElem_cons_zero]

theorem drop_swapNext {l : List α} {i : Nat} (h : i + 1 < l.length) :
    (l.swapNext i).drop (i + 1) = l[i] :: l.drop (i + 2) := by
  rw [swapNext_eq h, drop_append, drop_eq_nil_of_le (by simp), length_take,
    Nat.min_eq_left (by omega), show i + 1 - i = 1 by omega]
  rfl

/-- The loop of `binary_search_by` over `s[left..right]`. -/
def binary_search_by_loop (s : List α) (f : α → Ordering) (left right : Nat)
    (hright : right ≤ s.length) : Except Nat Nat :=
  if hlt : left < right then
    let mid := left + (right - left) / 2
    have hmid : mid < s.length := by omega
    match f s[mid] with
    | .lt => binary_search_by_loop s f (mid + 1) right hright
    | .gt => binary_search_by_loop s f left mid (by omega)
    | .eq => .ok mid
  else .error left
termination_by right - left

/-- `binary_search_by`: `Ok(index)` of an element the comparator finds `Equal`, or `Err` of
where the search stopped. -/
def binary_search_by (s : List α) (f : α → Ordering) : Except Nat Nat :=
  binary_search_by_loop s f 0 s.length le_rfl

/-- An `Ok` of the loop is an index in the range at which the comparator says `Equal`. -/
theorem binary_search_by_loop_eq_ok {s : List α} {f : α → Ordering} {left right : Nat}
    {hright : right ≤ s.length} {i : Nat} :
    binary_search_by_loop s f left right hright = .ok i →
      ∃ hi : i < s.length, left ≤ i ∧ i < right ∧ f s[i] = .eq := by
  fun_induction binary_search_by_loop s f left right hright with
  | case1 left right hright hlt mid hmid hcmp ih =>
    intro H
    obtain ⟨hi, hl, hr, heq⟩ := ih H
    exact ⟨hi, by omega, hr, heq⟩
  | case2 left right hright hlt mid hmid hcmp ih =>
    intro H
    obtain ⟨hi, hl, hr, heq⟩ := ih H
    exact ⟨hi, hl, by omega, heq⟩
  | case3 left right hright hlt mid hmid hcmp =>
    intro H
    obtain rfl : mid = i := Except.ok.inj H
    exact ⟨hmid, by omega, by omega, hcmp⟩
  | case4 left right hright hlt =>
    rintro ⟨⟩

theorem binary_search_by_eq_ok {s : List α} {f : α → Ordering} {i : Nat}
    (H : binary_search_by s f = .ok i) : ∃ hi : i < s.length, f s[i] = .eq := by
  obtain ⟨hi, -, -, heq⟩ := binary_search_by_loop_eq_ok H
  exact ⟨hi, heq⟩

end List

/-! ## Arrays indexed by `Fin n` -/

namespace Vector

variable {α : Type} {n : Nat}

@[simp] theorem getElem_ofFn_fin (f : Fin n → α) (i : Fin n) : (Vector.ofFn f)[i] = f i := by
  simp [Fin.getElem_fin]

theorem getElem_set_fin {v : Vector α n} {idx i : Fin n} {x : α} :
    (v.set idx x)[i] = if idx = i then x else v[i] := by
  simp [Vector.getElem_set, Fin.val_inj]

@[simp] theorem get_set_self (v : Vector α n) (i : Fin n) (x : α) : (v.set i x i.isLt).get i = x := by
  simp [Vector.get_eq_getElem]

theorem get_set_of_ne {v : Vector α n} {i j : Fin n} (h : i ≠ j) (x : α) :
    (v.set i x i.isLt).get j = v.get j := by
  rw [Vector.get_eq_getElem, Vector.get_eq_getElem,
    Vector.getElem_set_ne _ _ (Fin.val_ne_of_ne h)]

end Vector

/-- `<[T; n]>::try_from(slice)`: the slice as an array when it has `n` elements. -/
def Vector.try_from {α : Type} (l : List α) (n : Nat) : Option (Vector α n) :=
  if h : l.length = n then some ⟨l.toArray, by simpa using h⟩ else none

theorem Vector.try_from_eq_some {α : Type} {l : List α} {n : Nat} {v : Vector α n} :
    Vector.try_from l n = some v ↔ v.toList = l := by
  unfold try_from
  split
  · next h =>
    constructor
    · rintro ⟨⟩
      simp
    · intro hv
      subst hv
      simp [Vector.toArray_toList]
  · next h =>
    simp only [reduceCtorEq, false_iff]
    intro hv
    exact h (by rw [← hv]; simp)
