import Mathlib

/-!
# Ordered sets as sorted lists

An `OrdSet` is a `BTreeSet`: a finite set of a linearly ordered type, kept as the strictly
increasing list of its items. `insert` leaves the set as it is when the item is present, `erase`
removes it, `first` is the least item (`iter().next()`) and `first_ge x` the least item at or
after `x` (`range(x..).next()`).

Searching `first_ge x`, and the least item when nothing is at or after `x`, is how a set of
points on a circle is searched forward from a point: `circular_min` says that the item found is
one nearest to the point, going forward, on a circle of `n` points.
-/

/-- A finite set, as the strictly increasing list of its items. -/
structure OrdSet (α : Type) [LinearOrder α] where
  toList : List α
  sorted : toList.Pairwise (· < ·)

namespace OrdSet

variable {α : Type} [LinearOrder α]

instance : Membership α (OrdSet α) := ⟨fun s a => a ∈ s.toList⟩

theorem mem_def {s : OrdSet α} {a : α} : a ∈ s ↔ a ∈ s.toList := Iff.rfl

instance {s : OrdSet α} {a : α} : Decidable (a ∈ s) := inferInstanceAs (Decidable (a ∈ s.toList))

/-- The empty set. -/
def empty : OrdSet α := ⟨[], .nil⟩

/-- Insertion into a strictly increasing list; an item already there is not inserted again. -/
def insertList (x : α) : List α → List α
  | [] => [x]
  | y :: l => if x < y then x :: y :: l else if x = y then y :: l else y :: insertList x l

theorem mem_insertList {x a : α} {l : List α} : a ∈ insertList x l ↔ a = x ∨ a ∈ l := by
  induction l with
  | nil => simp [insertList]
  | cons y l ih =>
    unfold insertList
    split_ifs with hlt heq
    · simp
    · subst heq
      simp only [List.mem_cons]
      tauto
    · simp only [List.mem_cons, ih]
      tauto

theorem pairwise_insertList (x : α) {l : List α} (hl : l.Pairwise (· < ·)) :
    (insertList x l).Pairwise (· < ·) := by
  induction l with
  | nil => simp [insertList]
  | cons y l ih =>
    rw [List.pairwise_cons] at hl
    unfold insertList
    split_ifs with hlt heq
    · refine List.pairwise_cons.mpr ⟨fun b hb => ?_, List.pairwise_cons.mpr hl⟩
      rcases List.mem_cons.mp hb with rfl | hb
      · exact hlt
      · exact hlt.trans (hl.1 b hb)
    · exact List.pairwise_cons.mpr hl
    · -- `x` goes after `y`
      have hyx : y < x := lt_of_le_of_ne (not_lt.mp hlt) (Ne.symm heq)
      refine List.pairwise_cons.mpr ⟨fun b hb => ?_, ih hl.2⟩
      rcases mem_insertList.mp hb with rfl | hb
      · exact hyx
      · exact hl.1 b hb

/-- `BTreeSet::insert`. -/
def insert (s : OrdSet α) (x : α) : OrdSet α := ⟨insertList x s.toList, pairwise_insertList x s.sorted⟩

/-- `BTreeSet::remove`. -/
def erase (s : OrdSet α) (x : α) : OrdSet α :=
  ⟨s.toList.erase x, s.sorted.sublist (List.erase_sublist)⟩

/-- The least item: `iter().next()`. -/
def first (s : OrdSet α) : Option α := s.toList.head?

/-- The least item at or after `x`: `range(x..).next()`. -/
def first_ge (s : OrdSet α) (x : α) : Option α := s.toList.find? fun a => x ≤ a

@[simp] theorem not_mem_empty (a : α) : a ∉ (empty : OrdSet α) := List.not_mem_nil

@[simp] theorem mem_insert {s : OrdSet α} {x a : α} : a ∈ s.insert x ↔ a = x ∨ a ∈ s :=
  mem_insertList

@[simp] theorem mem_erase {s : OrdSet α} {x a : α} : a ∈ s.erase x ↔ a ≠ x ∧ a ∈ s :=
  (s.sorted.nodup).mem_erase_iff

/-- The items, as a `Finset`. -/
def toFinset (s : OrdSet α) : Finset α := s.toList.toFinset

@[simp] theorem mem_toFinset {s : OrdSet α} {a : α} : a ∈ s.toFinset ↔ a ∈ s := List.mem_toFinset

@[simp] theorem toFinset_empty : (empty : OrdSet α).toFinset = ∅ := rfl

theorem toFinset_insert (s : OrdSet α) (x : α) : (s.insert x).toFinset = Insert.insert x s.toFinset := by
  ext a
  simp

theorem toFinset_erase (s : OrdSet α) (x : α) : (s.erase x).toFinset = s.toFinset.erase x := by
  ext a
  simp

theorem length_erase {s : OrdSet α} {x : α} (hx : x ∈ s) :
    (s.erase x).toList.length = s.toList.length - 1 :=
  List.length_erase_of_mem hx

theorem first_eq_some {s : OrdSet α} {a : α} (h : s.first = some a) :
    a ∈ s ∧ ∀ b ∈ s, a ≤ b := by
  obtain ⟨l, hl⟩ := List.head?_eq_some_iff.mp h
  have hs := s.sorted
  rw [hl, List.pairwise_cons] at hs
  refine ⟨by rw [mem_def, hl]; exact List.mem_cons_self, fun b hb => ?_⟩
  rw [mem_def, hl] at hb
  rcases List.mem_cons.mp hb with rfl | hb
  · exact le_rfl
  · exact (hs.1 b hb).le

theorem first_eq_none {s : OrdSet α} (h : s.first = none) (a : α) : a ∉ s := by
  rw [first, List.head?_eq_none_iff] at h
  rw [mem_def, h]
  exact List.not_mem_nil

theorem first_ge_eq_some {s : OrdSet α} {x a : α} (h : s.first_ge x = some a) :
    a ∈ s ∧ x ≤ a ∧ ∀ b ∈ s, x ≤ b → a ≤ b := by
  obtain ⟨hxa, as, bs, hl, hbefore⟩ := List.find?_eq_some_iff_append.mp h
  have hs := s.sorted
  rw [hl, List.pairwise_append, List.pairwise_cons] at hs
  refine ⟨by rw [mem_def, hl]; simp, by simpa using hxa, fun b hb hxb => ?_⟩
  rw [mem_def, hl, List.mem_append, List.mem_cons] at hb
  rcases hb with hb | rfl | hb
  · -- the items before `a` lie before `x`
    exact absurd hxb (by simpa using hbefore b hb)
  · exact le_rfl
  · exact (hs.2.1.1 b hb).le

theorem first_ge_eq_none {s : OrdSet α} {x : α} (h : s.first_ge x = none) : ∀ b ∈ s, b < x := by
  intro b hb
  have := List.find?_eq_none.mp h b hb
  simpa using this

/-! ## Searching a circle -/

theorem circle_dist_of_le {y start n : Nat} (h : start ≤ y) (hy : y < n) :
    (y + n - start) % n = y - start := by
  rw [show y + n - start = y - start + n by omega, Nat.add_mod_right, Nat.mod_eq_of_lt (by omega)]

theorem circle_dist_of_lt {y start n : Nat} (h : y < start) (hs : start < n) :
    (y + n - start) % n = y + n - start :=
  Nat.mod_eq_of_lt (by omega)

/-- The least item at or after `x`, or else the least item, is nearest to `start` going forward on
a circle of `n` points, where the items at or after `x` are those placed at or after `start`. -/
theorem circular_min {s : OrdSet α} {f : α → Nat} (hf : Monotone f) {x : α} {start n : Nat}
    (hx : ∀ b, x ≤ b ↔ start ≤ f b) (hstart : start < n) (hn : ∀ b ∈ s, f b < n) {a : α}
    (ha : (s.first_ge x).or s.first = some a) :
    a ∈ s ∧ ∀ b ∈ s, (f a + n - start) % n ≤ (f b + n - start) % n := by
  cases hge : s.first_ge x with
  | some a' =>
    rw [hge, Option.some_or] at ha
    cases ha
    obtain ⟨has, hxa, hmin⟩ := first_ge_eq_some hge
    have hfa := (hx a).mp hxa
    refine ⟨has, fun b hb => ?_⟩
    rw [circle_dist_of_le hfa (hn a has)]
    by_cases hxb : x ≤ b
    · -- `b` is also at or after `x`, so no nearer
      have hfb := (hx b).mp hxb
      rw [circle_dist_of_le hfb (hn b hb)]
      have := hf (hmin b hb hxb)
      omega
    · -- `b` lies before `start`, so its way round passes the end of the circle
      have hfb : f b < start := not_le.mp fun h => hxb ((hx b).mpr h)
      rw [circle_dist_of_lt hfb hstart]
      have := hn a has
      omega
  | none =>
    rw [hge, Option.none_or] at ha
    obtain ⟨has, hmin⟩ := first_eq_some ha
    have hbefore : ∀ b ∈ s, f b < start := fun b hb =>
      not_le.mp fun h => (not_le.mpr (first_ge_eq_none hge b hb)) ((hx b).mpr h)
    refine ⟨has, fun b hb => ?_⟩
    rw [circle_dist_of_lt (hbefore a has) hstart, circle_dist_of_lt (hbefore b hb) hstart]
    have := hf (hmin b hb)
    omega

end OrdSet
