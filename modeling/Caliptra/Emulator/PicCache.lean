import Mathlib
import Caliptra.Lib.Lookup
import Caliptra.Emulator.Pic

/-!
# The PIC's cache agrees with its registers (`sw-emulator/lib/cpu/src/pic.rs`)

The registers define the interrupt the core is to take (`PicImplRegs.Selects`): among the ids
1..31 enabled in `meie` and pending in `meip`, the one of highest priority (the largest `meipl`
in the standard order, the smallest in the reverse order that `mpiccfg` selects), the lower id on
a tie, provided its priority clears the threshold. `PicImpl` answers from a cache instead.

`Consistent` says that the cache is what `refresh_order` computes from the registers, with one
"enabled and pending" flag per rank, and `GatewayFresh` that each `meip` bit is what its gateway
outputs. `set_level`, `poll` and every bus write keep both (`PicInput.apply_valid`), except a word
write to `meip` itself, which replaces the pending bits and refreshes nothing. Under `Consistent`,
`highest_priority_irq` answers what the registers define (`Consistent.highest_priority_irq`).
-/

namespace Caliptra.Emulator

/-! ## The arbitration the registers define -/

namespace PicImplRegs

/-- The priority of interrupt `i`: the `PRIORITY` field of `meipl[i]`. -/
def level (regs : PicImplRegs) (i : Fin 32) : Nat := (regs.meipl.get i &&& 0xF).toNat

/-- `mpiccfg` selects the reverse order, in which 0 is the highest priority. -/
def reverse (regs : PicImplRegs) : Bool := regs.mpiccfg &&& 1 = 1

/-- Interrupt `i` is enabled in `meie` and pending in `meip`. -/
def fires (regs : PicImplRegs) (i : Fin 32) : Bool :=
  regs.meie.get i &&& 1 ≠ 0 && regs.meip.get i

/-- `a` is served before `b`: its priority is higher, or the same and its id lower. -/
def Precedes (regs : PicImplRegs) (a b : Fin 32) : Prop :=
  if regs.reverse then regs.level a < regs.level b ∨ regs.level a = regs.level b ∧ a < b
  else regs.level b < regs.level a ∨ regs.level a = regs.level b ∧ a < b

/-- The priority of `a` clears the threshold `th`. -/
def Passes (regs : PicImplRegs) (a : Fin 32) (th : Nat) : Prop :=
  if regs.reverse then regs.level a < th else th < regs.level a

/-- `a` is the interrupt to serve: one of 1..31 that fires, and is served before every other. -/
def Best (regs : PicImplRegs) (a : Fin 32) : Prop :=
  a.val ≠ 0 ∧ regs.fires a = true ∧
    ∀ j : Fin 32, j.val ≠ 0 → regs.fires j = true → j ≠ a → regs.Precedes a j

/-- The answer the registers define at the threshold `th`. -/
def Selects (regs : PicImplRegs) (th : Nat) : Option (Fin 32) → Prop
  | some a => regs.Best a ∧ regs.Passes a th
  | none => ∀ a, regs.Best a → ¬regs.Passes a th

theorem level_lt (regs : PicImplRegs) (i : Fin 32) : regs.level i < 16 := by
  rw [level, Bits.toNat_and_low 4 rfl]
  omega

theorem Precedes.asymm {regs : PicImplRegs} {a b : Fin 32} (h : regs.Precedes a b) :
    ¬regs.Precedes b a := by
  unfold Precedes at *
  simp only [Fin.lt_def] at *
  split_ifs at * <;> omega

theorem Best.unique {regs : PicImplRegs} {a b : Fin 32} (ha : regs.Best a) (hb : regs.Best b) :
    a = b := by
  by_contra hne
  exact (ha.2.2 b hb.1 hb.2.1 (Ne.symm hne)).asymm (hb.2.2 a ha.1 ha.2.1 hne)

end PicImplRegs

/-! ## The sorted array and its inverse -/

namespace IrqPriority

theorem le_iff (a b : IrqPriority) :
    a.le b = true ↔ a.priority_xored.toNat < b.priority_xored.toNat ∨
      a.priority_xored.toNat = b.priority_xored.toNat ∧ a.id.val ≤ b.id.val := by
  simp only [le, Bool.or_eq_true, Bool.and_eq_true, beq_iff_eq, decide_eq_true_eq,
    UInt8.lt_iff_toNat_lt, ← UInt8.toNat_inj, Fin.le_def]

theorem le_total (a b : IrqPriority) : a.le b = true ∨ b.le a = true := by
  rw [le_iff, le_iff]
  omega

theorem le_trans {a b c : IrqPriority} (hab : a.le b = true) (hbc : b.le c = true) :
    a.le c = true := by
  rw [le_iff] at *
  omega

theorem pairwise_sort (priorities : List IrqPriority) :
    (sort priorities).Pairwise fun a b => a.le b = true :=
  @List.pairwise_insertionSort _ _ _ ⟨le_total⟩ ⟨fun _ _ _ => le_trans⟩ priorities

theorem perm_sort (priorities : List IrqPriority) : (sort priorities).Perm priorities :=
  List.perm_insertionSort _ priorities

end IrqPriority

namespace PicImplRegs

theorem priority_id (regs : PicImplRegs) (i : Fin 32) : (regs.priority i).id = i := by
  unfold priority
  split_ifs with h
  · exact h.symm
  · rfl

theorem mem_sort_priorities {regs : PicImplRegs} {e : IrqPriority} :
    e ∈ IrqPriority.sort regs.priorities ↔ ∃ i, regs.priority i = e := by
  rw [(IrqPriority.perm_sort _).mem_iff, priorities, List.mem_map]
  simp

theorem nodup_sort_priorities (regs : PicImplRegs) : (IrqPriority.sort regs.priorities).Nodup := by
  rw [(IrqPriority.perm_sort _).nodup_iff, priorities]
  refine (List.nodup_finRange 32).map fun i j h => ?_
  rw [← regs.priority_id i, ← regs.priority_id j, h]

theorem length_sort_priorities (regs : PicImplRegs) :
    (IrqPriority.sort regs.priorities).length = 32 := by
  simp [IrqPriority.length_sort, priorities]

theorem sorted_get_mem (regs : PicImplRegs) (r : Fin 32) :
    regs.sorted.get r ∈ IrqPriority.sort regs.priorities := by
  simp only [sorted, Vector.get_eq_getElem, Vector.getElem_mk, List.getElem_toArray]
  exact List.getElem_mem _

theorem exists_sorted_get {regs : PicImplRegs} {e : IrqPriority}
    (he : e ∈ IrqPriority.sort regs.priorities) : ∃ r, regs.sorted.get r = e := by
  obtain ⟨i, hi, rfl⟩ := List.mem_iff_getElem.mp he
  refine ⟨⟨i, regs.length_sort_priorities ▸ hi⟩, ?_⟩
  simp only [sorted, Vector.get_eq_getElem, Vector.getElem_mk, List.getElem_toArray]

theorem sorted_le (regs : PicImplRegs) {r s : Fin 32} (h : r < s) :
    (regs.sorted.get r).le (regs.sorted.get s) = true := by
  have hlen := regs.length_sort_priorities
  have := List.pairwise_iff_getElem.mp (IrqPriority.pairwise_sort regs.priorities) r s
    (by omega) (by omega) h
  simpa only [sorted, Vector.get_eq_getElem, Vector.getElem_mk, List.getElem_toArray] using this

theorem sorted_get_inj (regs : PicImplRegs) {r s : Fin 32}
    (h : regs.sorted.get r = regs.sorted.get s) : r = s := by
  simp only [sorted, Vector.get_eq_getElem, Vector.getElem_mk, List.getElem_toArray] at h
  exact Fin.ext ((List.Nodup.getElem_inj_iff regs.nodup_sort_priorities).mp h)

theorem sorted_get_eq_priority (regs : PicImplRegs) (r : Fin 32) :
    regs.sorted.get r = regs.priority (regs.sorted.get r).id := by
  obtain ⟨i, hi⟩ := mem_sort_priorities.mp (regs.sorted_get_mem r)
  rw [← hi, priority_id]

theorem sorted_get_id_inj (regs : PicImplRegs) {r s : Fin 32}
    (h : (regs.sorted.get r).id = (regs.sorted.get s).id) : r = s := by
  apply regs.sorted_get_inj
  rw [regs.sorted_get_eq_priority r, regs.sorted_get_eq_priority s, h]

/-- The loop of `refresh_order` gives each id the rank of its entry. -/
theorem id_to_order_of_sorted_get (regs : PicImplRegs) (r : Fin 32) :
    (PicImpl.id_to_order_of regs.sorted).get (regs.sorted.get r).id = r := by
  unfold PicImpl.id_to_order_of
  exact Lookup.foldl_set_get (fun v k => Vector.get v k) (fun v k x => v.set k x k.isLt)
    Lookup.vector_get_set (fun index => (regs.sorted.get index).id) (fun index => index)
    (List.finRange 32) _ (List.mem_finRange r) (fun _ _ hs => regs.sorted_get_id_inj hs)

theorem sorted_get_id_to_order_of (regs : PicImplRegs) (i : Fin 32) :
    regs.sorted.get ((PicImpl.id_to_order_of regs.sorted).get i) = regs.priority i := by
  obtain ⟨r, hr⟩ := exists_sorted_get (mem_sort_priorities.mpr ⟨i, rfl⟩)
  have hid : (regs.sorted.get r).id = i := by rw [hr, priority_id]
  rw [← hid, id_to_order_of_sorted_get]
  exact regs.sorted_get_eq_priority r

theorem id_to_order_of_inj (regs : PicImplRegs) {i j : Fin 32}
    (h : (PicImpl.id_to_order_of regs.sorted).get i = (PicImpl.id_to_order_of regs.sorted).get j) :
    i = j := by
  have hij := congrArg regs.sorted.get h
  rw [sorted_get_id_to_order_of, sorted_get_id_to_order_of] at hij
  rw [← regs.priority_id i, ← regs.priority_id j, hij]

/-! ## From xored priorities to the order of the registers -/

theorem xor_fifteen {n : Nat} (hn : n < 16) : n ^^^ 15 = 15 - n := by
  have h : ∀ m : Fin 16, m.val ^^^ 15 = 15 - m.val := by decide
  exact h ⟨n, hn⟩

theorem priority_xor_toNat (regs : PicImplRegs) :
    regs.priority_xor.toNat = if regs.reverse then 0 else 15 := by
  unfold priority_xor reverse
  split_ifs <;> simp_all

/-- Xoring with `priority_xor` turns the standard order around, so that the smaller xored value
always goes first. -/
theorem xored_toNat (regs : PicImplRegs) {n : Nat} (hn : n < 16) :
    n ^^^ regs.priority_xor.toNat = if regs.reverse then n else 15 - n := by
  rw [priority_xor_toNat]
  split_ifs
  · exact Nat.xor_zero n
  · exact xor_fifteen hn

theorem priority_xored_toNat (regs : PicImplRegs) {i : Fin 32} (hi : i ≠ 0) :
    (regs.priority i).priority_xored.toNat =
      if regs.reverse then regs.level i else 15 - regs.level i := by
  have hlevel : ((regs.meipl.get i &&& 0xF).toUInt8).toNat = regs.level i := by
    rw [UInt32.toNat_toUInt8, level]
    have := regs.level_lt i
    unfold level at this
    omega
  simp only [priority, if_neg hi, UInt8.toNat_xor, hlevel]
  exact regs.xored_toNat (regs.level_lt i)

theorem precedes_of_le (regs : PicImplRegs) {i j : Fin 32} (hi : i ≠ 0) (hj : j ≠ 0) (hij : i ≠ j)
    (h : (regs.priority i).le (regs.priority j) = true) : regs.Precedes i j := by
  have hne : i.val ≠ j.val := Fin.val_ne_of_ne hij
  have hli := regs.level_lt i
  have hlj := regs.level_lt j
  rw [IrqPriority.le_iff, priority_xored_toNat regs hi, priority_xored_toNat regs hj,
    priority_id, priority_id] at h
  unfold Precedes
  simp only [Fin.lt_def]
  split_ifs at h ⊢ <;> omega

theorem lt_xor_iff_passes (regs : PicImplRegs) {i : Fin 32} (hi : i ≠ 0) {th : UInt8}
    (hth : th ≤ MAX_PRIORITY) :
    (regs.priority i).priority_xored < th ^^^ regs.priority_xor ↔ regs.Passes i th.toNat := by
  have hth' : th.toNat < 16 := by
    rw [MAX_PRIORITY, UInt8.le_iff_toNat_le] at hth
    simp only [UInt8.reduceToNat] at hth
    omega
  have hli := regs.level_lt i
  rw [UInt8.lt_iff_toNat_lt, UInt8.toNat_xor, regs.xored_toNat hth', priority_xored_toNat regs hi]
  unfold Passes
  split_ifs <;> omega

theorem priorities_congr {r r' : PicImplRegs} (hmeipl : r.meipl = r'.meipl)
    (hcfg : r.mpiccfg = r'.mpiccfg) : r.priorities = r'.priorities := by
  unfold priorities priority priority_xor
  rw [hmeipl, hcfg]

theorem sorted_congr {r r' : PicImplRegs} (hmeipl : r.meipl = r'.meipl)
    (hcfg : r.mpiccfg = r'.mpiccfg) : r.sorted = r'.sorted := by
  apply Vector.toArray_inj.mp
  simp only [sorted, priorities_congr hmeipl hcfg]

end PicImplRegs

/-! ## The invariant -/

namespace PicImpl

/-- The parts of the cache that `refresh_order` computes from `meipl` and `mpiccfg`. -/
structure OrderFresh (p : PicImpl) : Prop where
  priority_xor : p.priority_xor = p.regs.priority_xor
  priority_order : p.priority_order = p.regs.sorted
  id_to_order : p.id_to_order = id_to_order_of p.regs.sorted

/-- The flag at the rank of `i` says whether `i` fires. -/
def FlagFresh (p : PicImpl) (i : Fin 32) : Prop :=
  p.ordered_irq_pending.get (p.id_to_order.get i) = p.regs.fires i

/-- The cache agrees with the registers. `meie[0]`, which no bus write reaches, is clear, so the
reserved entry never fires. -/
structure Consistent (p : PicImpl) : Prop where
  meie_zero : p.regs.meie.get 0 = 0
  order : p.OrderFresh
  flag : ∀ i, p.FlagFresh i

/-- The `meip` bit of line `i` is what its gateway outputs: the pending flop when the line is
edge-triggered, and the level last driven on it, xor the polarity, when it is level-triggered. -/
def GatewayFresh (p : PicImpl) (i : Fin 32) : Prop :=
  p.regs.meip.get i =
    if p.regs.meigwctrl.get i &&& 2 = 2 then p.gw_pending_ff.get i
    else p.irq_levels.get i ^^ (p.regs.meigwctrl.get i &&& 1 ≠ 0)

/-- The invariant of the PIC. -/
structure Valid (p : PicImpl) : Prop where
  consistent : p.Consistent
  gateway : ∀ i, p.GatewayFresh i

theorem OrderFresh.id_to_order_inj {p : PicImpl} (h : p.OrderFresh) {i j : Fin 32}
    (hij : p.id_to_order.get i = p.id_to_order.get j) : i = j := by
  rw [h.id_to_order] at hij
  exact PicImplRegs.id_to_order_of_inj _ hij

/-- The cache fields do not change, and the registers change elsewhere than in `meipl` and
`mpiccfg`. -/
theorem OrderFresh.of_eq {p q : PicImpl} (h : p.OrderFresh) (hmeipl : q.regs.meipl = p.regs.meipl)
    (hcfg : q.regs.mpiccfg = p.regs.mpiccfg) (hxor : q.priority_xor = p.priority_xor)
    (horder : q.priority_order = p.priority_order) (hito : q.id_to_order = p.id_to_order) :
    q.OrderFresh where
  priority_xor := by rw [hxor, h.priority_xor]; unfold PicImplRegs.priority_xor; rw [hcfg]
  priority_order := by rw [horder, h.priority_order, PicImplRegs.sorted_congr hmeipl hcfg]
  id_to_order := by rw [hito, h.id_to_order, PicImplRegs.sorted_congr hmeipl hcfg]

@[simp] theorem set_ordered_irq_pending_regs (p : PicImpl) (i : Fin 32) (v : Bool) :
    (p.set_ordered_irq_pending i v).regs = p.regs := rfl

@[simp] theorem set_ordered_irq_pending_irq_levels (p : PicImpl) (i : Fin 32) (v : Bool) :
    (p.set_ordered_irq_pending i v).irq_levels = p.irq_levels := rfl

@[simp] theorem set_ordered_irq_pending_gw_pending_ff (p : PicImpl) (i : Fin 32) (v : Bool) :
    (p.set_ordered_irq_pending i v).gw_pending_ff = p.gw_pending_ff := rfl

/-- Setting the flag of `i` from its `meip` bit makes the cache consistent, if it was but for the
flag of `i`. -/
theorem consistent_set_ordered_irq_pending {p : PicImpl} {i : Fin 32}
    (hzero : p.regs.meie.get 0 = 0) (ho : p.OrderFresh) (hflag : ∀ j, j ≠ i → p.FlagFresh j) :
    (p.set_ordered_irq_pending i (p.regs.meip.get i)).Consistent where
  meie_zero := hzero
  order := ho.of_eq rfl rfl rfl rfl rfl
  flag j := by
    unfold FlagFresh set_ordered_irq_pending
    simp only [Bits32.get_set]
    by_cases hji : j = i
    · subst hji
      simp [PicImplRegs.fires]
    · rw [if_neg fun h => hji (ho.id_to_order_inj h)]
      exact hflag j hji

theorem foldl_refresh_enabled (l : List (Fin 32)) (p : PicImpl) :
    l.foldl refresh_enabled p =
      { p with
        ordered_irq_pending := l.foldl (fun b i => b.set (p.id_to_order.get i) (p.regs.fires i))
          p.ordered_irq_pending } := by
  induction l generalizing p with
  | nil => rfl
  | cons i l ih =>
    rw [List.foldl_cons, ih]
    rfl

/-- `refresh_order` makes the cache consistent, whatever it held. -/
theorem consistent_refresh_order {p : PicImpl} (hzero : p.regs.meie.get 0 = 0) :
    p.refresh_order.Consistent := by
  have ho : OrderFresh { p with
      priority_xor := p.regs.priority_xor
      priority_order := p.regs.sorted
      id_to_order := id_to_order_of p.regs.sorted } := by
    constructor <;> dsimp only
  unfold refresh_order
  rw [foldl_refresh_enabled]
  refine ⟨hzero, ho.of_eq rfl rfl rfl rfl rfl, fun i => ?_⟩
  unfold FlagFresh
  exact Lookup.foldl_set_get Bits32.get Bits32.set Bits32.get_set _ _ (List.finRange 32) _
    (List.mem_finRange i) (fun _ _ h => ho.id_to_order_inj h)

theorem refresh_order_regs (p : PicImpl) : p.refresh_order.regs = p.regs := by
  unfold refresh_order
  rw [foldl_refresh_enabled]

theorem refresh_order_gatewayFresh {p : PicImpl} {i : Fin 32} (h : p.GatewayFresh i) :
    p.refresh_order.GatewayFresh i := by
  unfold refresh_order
  rw [foldl_refresh_enabled]
  dsimp only [GatewayFresh] at h ⊢
  exact h

/-- `irq_set_level` on line `i` leaves the PIC valid, also when the gateway of `i` was stale: the
path by which a write to `meigwctrl[i]` or `meigwclr[i]` refreshes the gateway. -/
theorem valid_irq_set_level {p : PicImpl} (hc : p.Consistent) {i : Fin 32}
    (hg : ∀ j, j ≠ i → p.GatewayFresh j) (v : Bool) : (p.irq_set_level i v).Valid := by
  -- the pending flop and the gateway output of line `i`
  set ctrl := p.regs.meigwctrl.get i
  set ff := if v ^^ (ctrl &&& 1 ≠ 0) then p.gw_pending_ff.set i true else p.gw_pending_ff with hff
  set b := if ctrl &&& 2 = 2 then ff.get i else v ^^ (ctrl &&& 1 ≠ 0) with hb
  set q : PicImpl := { p with
    irq_levels := p.irq_levels.set i v
    gw_pending_ff := ff
    regs := { p.regs with meip := p.regs.meip.set i b } } with hq
  have hset : p.irq_set_level i v = q.set_ordered_irq_pending i (q.regs.meip.get i) := by
    simp only [hq, Bits32.get_set, if_true]
    rfl
  have hfires : ∀ j, j ≠ i → q.regs.fires j = p.regs.fires j := fun j hj => by
    simp [hq, PicImplRegs.fires, Bits32.get_set, hj]
  have hff_ne : ∀ j, j ≠ i → ff.get j = p.gw_pending_ff.get j := fun j hj => by
    rw [hff]
    split_ifs <;> simp [hj]
  rw [hset]
  refine ⟨consistent_set_ordered_irq_pending hc.meie_zero
    (hc.order.of_eq rfl rfl rfl rfl rfl) fun j hj => ?_, fun j => ?_⟩
  · unfold FlagFresh
    rw [hfires j hj]
    exact hc.flag j
  · unfold GatewayFresh
    simp only [set_ordered_irq_pending_regs, set_ordered_irq_pending_irq_levels,
      set_ordered_irq_pending_gw_pending_ff, hq, Bits32.get_set]
    by_cases hji : j = i
    · subst hji
      simp only [if_true]
      exact hb
    · simp only [if_neg hji, hff_ne j hji]
      exact hg j hji

/-- Clearing the pending flop of line `i` changes nothing the cache reads. -/
theorem consistent_set_gw_pending_ff {p : PicImpl} (hc : p.Consistent) (ff : Bits32) :
    ({ p with gw_pending_ff := ff } : PicImpl).Consistent :=
  ⟨hc.meie_zero, hc.order.of_eq rfl rfl rfl rfl rfl, hc.flag⟩

/-- Nor does a write to `meigwctrl`. -/
theorem consistent_set_meigwctrl {p : PicImpl} (hc : p.Consistent) (ctrl : Vector UInt32 32) :
    ({ p with regs := { p.regs with meigwctrl := ctrl } } : PicImpl).Consistent :=
  ⟨hc.meie_zero, hc.order.of_eq rfl rfl rfl rfl rfl, hc.flag⟩

/-- `refresh_gateway` of line `i` leaves the PIC valid if only the gateway of `i` was stale. -/
theorem valid_refresh_gateway {p : PicImpl} (hc : p.Consistent) {i : Fin 32}
    (hg : ∀ j, j ≠ i → p.GatewayFresh j) : (p.refresh_gateway i).Valid :=
  valid_irq_set_level hc hg _

/-- A write to `meie[i]` and then `refresh_enabled i` keep the PIC valid; `meie[0]` stays clear. -/
theorem valid_refresh_enabled {p : PicImpl} (hv : p.Valid) {i : Fin 32} (hi : i ≠ 0) (val : UInt32) :
    (({ p with regs := { p.regs with meie := p.regs.meie.set i val i.isLt } } : PicImpl).refresh_enabled
      i).Valid := by
  refine ⟨consistent_set_ordered_irq_pending ?_ (hv.consistent.order.of_eq rfl rfl rfl rfl rfl)
    fun j hj => ?_, hv.gateway⟩
  · dsimp only
    rw [Lookup.vector_get_set, if_neg (Ne.symm hi)]
    exact hv.consistent.meie_zero
  · -- only the flag of `i` reads the new enable bit
    have := hv.consistent.flag j
    unfold FlagFresh PicImplRegs.fires at this ⊢
    dsimp only
    rwa [Lookup.vector_get_set, if_neg hj]

/-- `refresh_order` after a write to `meipl` or `mpiccfg`, which no gateway reads. -/
theorem valid_refresh_order {p : PicImpl} (hzero : p.regs.meie.get 0 = 0)
    (hg : ∀ j, p.GatewayFresh j) : p.refresh_order.Valid :=
  ⟨consistent_refresh_order hzero, fun j => refresh_order_gatewayFresh (hg j)⟩

end PicImpl

/-! ## Bus writes -/

namespace PicImplRegs

theorem toNat_and_window (addr : UInt32) : (addr &&& 0xFFFF_F000).toNat = addr.toNat / 4096 * 4096 :=
  Bits.toNat_and_high 12 (by norm_num) rfl

theorem toNat_and_offset (addr : UInt32) : (addr &&& 0x0fff).toNat = addr.toNat % 4096 :=
  Bits.toNat_and_low 12 rfl

/-- An aligned offset in the 4 KiB window at `base` is item `offset / 4` of the window's array. -/
theorem toNat_of_window {addr base : UInt32} (hw : addr &&& 0xFFFF_F000 = base)
    (hbase : base.toNat % 4096 = 0) (halign : (addr &&& 0x0fff).toNat % 4 = 0) :
    addr.toNat = base.toNat + 4 * ((addr &&& 0x0fff).toNat / 4) := by
  have h := congrArg UInt32.toNat hw
  rw [toNat_and_window] at h
  rw [toNat_and_offset] at halign ⊢
  omega

/-- What a bus write that goes through does to the registers: it replaces `meip` (by a word
write only), `mpiccfg`, or the item of an array at the address. -/
theorem write_eq_ok {regs regs' : PicImplRegs} {size : RvSize} {addr val : UInt32}
    (h : regs.write size addr val = .ok regs') :
    (addr.toNat = 0x1000 ∧ size = .Word ∧ regs' = { regs with meip := ⟨val⟩ }) ∨
    (addr.toNat = 0x3000 ∧ regs' = { regs with mpiccfg := val }) ∨
    (∃ i : Fin 32, addr.toNat = 4 * i ∧
      regs' = { regs with meipl := regs.meipl.set i val i.isLt }) ∨
    (∃ i : Fin 32, addr.toNat = 0x2000 + 4 * i ∧
      regs' = { regs with meie := regs.meie.set i val i.isLt }) ∨
    (∃ i : Fin 32, addr.toNat = 0x4000 + 4 * i ∧
      regs' = { regs with meigwctrl := regs.meigwctrl.set i val i.isLt }) := by
  unfold write at h
  split_ifs at h with h1 h2 h3 h4 h5
  · obtain ⟨meip, hw, rfl⟩ := Except.map_eq_ok.mp h
    unfold Bits32.write at hw
    split_ifs at hw with hs
    cases hw
    exact .inl ⟨by rw [h1]; rfl, not_not.mp hs, rfl⟩
  · obtain ⟨mpiccfg, hw, rfl⟩ := Except.map_eq_ok.mp h
    unfold ReadWriteRegister.write at hw
    split_ifs at hw
    cases hw
    exact .inr (.inl ⟨by rw [h2]; rfl, rfl⟩)
  -- the three arrays: the offset in the window names the item
  · obtain ⟨meipl, hw, rfl⟩ := Except.map_eq_ok.mp h
    obtain ⟨hlt, -, halign, rfl⟩ := ReadWriteRegisterArray.write_eq_ok.mp hw
    exact .inr (.inr (.inl ⟨⟨_, hlt⟩, by simpa using toNat_of_window h3 rfl halign, rfl⟩))
  · obtain ⟨meie, hw, rfl⟩ := Except.map_eq_ok.mp h
    obtain ⟨hlt, -, halign, rfl⟩ := ReadWriteRegisterArray.write_eq_ok.mp hw
    exact .inr (.inr (.inr (.inl ⟨⟨_, hlt⟩, toNat_of_window h4 rfl halign, rfl⟩)))
  · obtain ⟨meigwctrl, hw, rfl⟩ := Except.map_eq_ok.mp h
    obtain ⟨hlt, -, halign, rfl⟩ := ReadWriteRegisterArray.write_eq_ok.mp hw
    exact .inr (.inr (.inr (.inr ⟨⟨_, hlt⟩, toNat_of_window h5 rfl halign, rfl⟩)))

end PicImplRegs

theorem irq_id_from_addr_val (addr : UInt32) : (irq_id_from_addr addr).val = addr.toNat % 128 / 4 := by
  show ((addr &&& 0x7f) / 4).toNat = _
  rw [UInt32.toNat_div, Bits.toNat_and_low 7 rfl]
  rfl

theorem irq_id_from_addr_eq {addr : UInt32} {base : Nat} (hbase : base % 128 = 0) {i : Fin 32}
    (ha : addr.toNat = base + 4 * i) : irq_id_from_addr addr = i := by
  apply Fin.ext
  rw [irq_id_from_addr_val]
  omega

namespace PicMmioRegisters

/-- What a bus write that goes through does to the PIC, by the path `write` takes. -/
theorem write_eq_ok {p p' : PicImpl} {size : RvSize} {addr val : UInt32}
    (h : write p size addr val = .ok p') :
    (∃ i : Fin 32, i ≠ 0 ∧ p' = ({ p with regs := { p.regs with
        meigwctrl := p.regs.meigwctrl.set i val i.isLt } } : PicImpl).refresh_gateway i) ∨
    (∃ i : Fin 32, i ≠ 0 ∧
      p' = ({ p with gw_pending_ff := p.gw_pending_ff.set i false } : PicImpl).refresh_gateway i) ∨
    (∃ i : Fin 32, i ≠ 0 ∧ p' = ({ p with regs := { p.regs with
        meipl := p.regs.meipl.set i val i.isLt } } : PicImpl).refresh_order) ∨
    p' = ({ p with regs := { p.regs with mpiccfg := val } } : PicImpl).refresh_order ∨
    (∃ i : Fin 32, i ≠ 0 ∧ p' = ({ p with regs := { p.regs with
        meie := p.regs.meie.set i val i.isLt } } : PicImpl).refresh_enabled i) ∨
    (addr.toNat = 0x1000 ∧ size = .Word ∧ p' = { p with regs := { p.regs with meip := ⟨val⟩ } }) := by
  have hpos : ∀ i : Fin 32, 0 < i.val → i ≠ 0 := fun i h => Fin.pos_iff_ne_zero.mp h
  unfold write at h
  split_ifs at h with h0 h1 h2 h3 h4
  -- in each path, the register write can only have hit the registers of that path
  · simp only [UInt32.le_iff_toNat_le, UInt32.reduceToNat] at h1
    obtain ⟨regs', hw, rfl⟩ := Except.map_eq_ok.mp h
    rcases PicImplRegs.write_eq_ok hw with ⟨ha, -⟩ | ⟨ha, -⟩ | ⟨i, ha, -⟩ | ⟨i, ha, -⟩ | ⟨i, ha, rfl⟩
    iterate 4 omega
    rw [irq_id_from_addr_eq (by norm_num) ha]
    exact .inl ⟨i, hpos i (by omega), rfl⟩
  · simp only [UInt32.le_iff_toNat_le, UInt32.reduceToNat] at h2
    cases h
    have hid := irq_id_from_addr_val addr
    exact .inr (.inl ⟨_, hpos _ (by omega), rfl⟩)
  · simp only [← UInt32.toNat_inj, UInt32.le_iff_toNat_le, UInt32.reduceToNat] at h3
    obtain ⟨regs', hw, rfl⟩ := Except.map_eq_ok.mp h
    rcases PicImplRegs.write_eq_ok hw with ⟨ha, -⟩ | ⟨-, rfl⟩ | ⟨i, ha, rfl⟩ | ⟨i, ha, -⟩ | ⟨i, ha, -⟩
    · omega
    · exact .inr (.inr (.inr (.inl rfl)))
    · exact .inr (.inr (.inl ⟨i, hpos i (by omega), rfl⟩))
    · omega
    · omega
  · simp only [UInt32.le_iff_toNat_le, UInt32.reduceToNat] at h4
    obtain ⟨regs', hw, rfl⟩ := Except.map_eq_ok.mp h
    rcases PicImplRegs.write_eq_ok hw with ⟨ha, -⟩ | ⟨ha, -⟩ | ⟨i, ha, -⟩ | ⟨i, ha, rfl⟩ | ⟨i, ha, -⟩
    iterate 3 omega
    · rw [irq_id_from_addr_eq (by norm_num) ha]
      exact .inr (.inr (.inr (.inr (.inl ⟨i, hpos i (by omega), rfl⟩))))
    · omega
  · simp only [← UInt32.toNat_inj, UInt32.le_iff_toNat_le, UInt32.reduceToNat] at h0 h1 h3 h4
    obtain ⟨regs', hw, rfl⟩ := Except.map_eq_ok.mp h
    rcases PicImplRegs.write_eq_ok hw with ⟨ha, hs, rfl⟩ | ⟨ha, -⟩ | ⟨i, ha, -⟩ | ⟨i, ha, -⟩ |
      ⟨i, ha, -⟩
    · exact .inr (.inr (.inr (.inr (.inr ⟨ha, hs, rfl⟩))))
    all_goals omega

/-- A bus write keeps the PIC valid, unless it is a word write to `meip`. -/
theorem write_valid {p p' : PicImpl} (hv : p.Valid) {size : RvSize} {addr val : UInt32}
    (h : write p size addr val = .ok p') (hmeip : addr.toNat = 0x1000 → size ≠ .Word) :
    p'.Valid := by
  rcases write_eq_ok h with ⟨i, -, rfl⟩ | ⟨i, -, rfl⟩ | ⟨i, -, rfl⟩ | rfl | ⟨i, hi, rfl⟩ |
    ⟨ha, hs, -⟩
  · -- `meigwctrl[i]`: only the gateway of `i` reads the new control bits
    refine PicImpl.valid_refresh_gateway (PicImpl.consistent_set_meigwctrl hv.consistent _)
      fun j hj => ?_
    have := hv.gateway j
    unfold PicImpl.GatewayFresh at this ⊢
    dsimp only
    rwa [Lookup.vector_get_set, if_neg hj]
  · -- `meigwclr[i]`: only the gateway of `i` reads its flop
    refine PicImpl.valid_refresh_gateway (PicImpl.consistent_set_gw_pending_ff hv.consistent _)
      fun j hj => ?_
    have := hv.gateway j
    unfold PicImpl.GatewayFresh at this ⊢
    dsimp only
    rwa [Bits32.get_set, if_neg hj]
  · exact PicImpl.valid_refresh_order hv.consistent.meie_zero hv.gateway
  · exact PicImpl.valid_refresh_order hv.consistent.meie_zero hv.gateway
  · exact PicImpl.valid_refresh_enabled hv hi val
  · exact absurd hs (hmeip ha)

/-- `poll` takes the interrupt it schedules, if any, and drives its line low. -/
theorem poll_eq_ok {p p' : PicImpl} {r : Option (Fin 32)} (h : poll p = .ok (p', r)) :
    (r = none ∧ p' = p) ∨ ∃ irq, r = some irq ∧ p' = p.irq_set_level irq false := by
  unfold poll at h
  obtain ⟨a, -, h⟩ := Checked.bind_eq_ok.mp h
  -- first at threshold `MAX_PRIORITY - 1`, then at threshold 0
  cases a with
  | some irq =>
    cases h
    exact .inr ⟨irq, rfl, rfl⟩
  | none =>
    obtain ⟨b, -, h⟩ := Checked.bind_eq_ok.mp h
    cases b with
    | some irq =>
      cases h
      exact .inr ⟨irq, rfl, rfl⟩
    | none =>
      cases h
      exact .inl ⟨rfl, rfl⟩

end PicMmioRegisters

/-- Every input but a word write to `meip` keeps the PIC valid. -/
theorem PicInput.apply_valid {p : PicImpl} (hv : p.Valid) {input : PicInput}
    (hin : ∀ v, input ≠ .write .Word 0x1000 v) : (input.apply p).Valid := by
  cases input with
  | write size addr val =>
    dsimp only [PicInput.apply]
    split
    · next p' hw =>
      refine PicMmioRegisters.write_valid hv hw fun ha hs => hin val ?_
      have haddr : addr = 0x1000 := UInt32.toNat_inj.mp (by rw [ha]; rfl)
      rw [haddr, hs]
    · exact hv
  | set_level irq is_high => exact PicImpl.valid_irq_set_level hv.consistent (fun j _ => hv.gateway j) _
  | poll =>
    dsimp only [PicInput.apply]
    split
    · next p' r hp =>
      rcases PicMmioRegisters.poll_eq_ok hp with ⟨-, rfl⟩ | ⟨irq, -, rfl⟩
      · exact hv
      · exact PicImpl.valid_irq_set_level hv.consistent (fun j _ => hv.gateway j) _
    · exact hv

/-- The exclusion is needed: a word write to `meip` replaces the pending bits and refreshes no
cached flag. With line 3 enabled at priority 5, writing `8` to `meip` makes line 3 the interrupt
the registers select at threshold 0, yet `highest_priority_irq 0` answers `none`. -/
theorem meip_word_write_leaves_cache_stale :
    let p := PicImpl.new.run [.write .Word 0x200C 1, .write .Word 0x000C 5, .write .Word 0x1000 8]
    p.regs.Best 3 ∧ p.regs.Passes 3 0 ∧ p.highest_priority_irq 0 = .ok none := by
  unfold PicImplRegs.Best PicImplRegs.Passes PicImplRegs.Precedes
  decide +kernel

namespace PicImpl

theorem valid_new : PicImpl.new.Valid := by
  refine valid_refresh_order rfl fun i => ?_
  unfold GatewayFresh
  simp [PicImplRegs.new]

/-! ## The cached arbitration -/

theorem Consistent.rank_id {p : PicImpl} (hc : p.Consistent) (k : Fin 32) :
    p.id_to_order.get (p.priority_order.get k).id = k := by
  rw [hc.order.id_to_order, hc.order.priority_order]
  exact PicImplRegs.id_to_order_of_sorted_get _ k

theorem Consistent.entry {p : PicImpl} (hc : p.Consistent) (i : Fin 32) :
    p.priority_order.get (p.id_to_order.get i) = p.regs.priority i := by
  rw [hc.order.priority_order, hc.order.id_to_order]
  exact PicImplRegs.sorted_get_id_to_order_of _ i

/-- The flag at rank `k` says whether the id at rank `k` fires. -/
theorem Consistent.rank_flag {p : PicImpl} (hc : p.Consistent) (k : Fin 32) :
    p.ordered_irq_pending.get k = p.regs.fires (p.priority_order.get k).id := by
  have := hc.flag (p.priority_order.get k).id
  unfold FlagFresh at this
  rwa [hc.rank_id k] at this

/-- The id at the lowest rank whose flag is set is the interrupt to serve. -/
theorem Consistent.best_of_first_set_index {p : PicImpl} (hc : p.Consistent) {k : Fin 32}
    (hf : p.ordered_irq_pending.first_set_index = some k) :
    p.regs.Best (p.priority_order.get k).id := by
  obtain ⟨hk, hbelow⟩ := Bits32.first_set_index_eq_some hf
  set w := (p.priority_order.get k).id
  have hw : p.regs.fires w = true := by rw [← hc.rank_flag k]; exact hk
  have hw0 : w ≠ 0 := fun h => by
    rw [h, PicImplRegs.fires, hc.meie_zero] at hw
    cases hw
  refine ⟨Fin.val_ne_zero_iff.mpr hw0, hw, fun j hj0 hj hjw => ?_⟩
  -- `j` fires, so its flag is set and its rank is past `k`
  have hr : k < p.id_to_order.get j := by
    rcases lt_trichotomy k (p.id_to_order.get j) with h | h | h
    · exact h
    · exact absurd (hc.order.id_to_order_inj ((hc.rank_id k).trans h)).symm hjw
    · have hoff := hbelow _ h
      rw [hc.flag j, hj] at hoff
      cases hoff
  have hle := PicImplRegs.sorted_le p.regs hr
  rw [← hc.order.priority_order, ← hc.rank_id k, hc.entry, hc.entry] at hle
  exact PicImplRegs.precedes_of_le _ hw0 (Fin.val_ne_zero_iff.mp hj0) (Ne.symm hjw) hle

/-- Under `Consistent`, `highest_priority_irq` answers what the registers define. -/
theorem Consistent.highest_priority_irq {p : PicImpl} (hc : p.Consistent) {th : UInt8}
    (hth : th ≤ MAX_PRIORITY) :
    ∃ r, p.highest_priority_irq th = .ok r ∧ p.regs.Selects th.toNat r := by
  unfold PicImpl.highest_priority_irq
  rw [if_pos hth]
  cases hf : p.ordered_irq_pending.first_set_index with
  | none =>
    -- no flag is set, so nothing fires
    refine ⟨none, rfl, fun a ha => absurd ha.2.1 ?_⟩
    have := Bits32.first_set_index_eq_none hf (p.id_to_order.get a)
    rw [hc.flag a] at this
    simp [this]
  | some k =>
    have hbest := hc.best_of_first_set_index hf
    have hpass := PicImplRegs.lt_xor_iff_passes p.regs (Fin.val_ne_zero_iff.mp hbest.1) hth
    rw [← hc.order.priority_xor, ← hc.entry, hc.rank_id k] at hpass
    dsimp only
    by_cases hp : p.regs.Passes (p.priority_order.get k).id th.toNat
    · rw [if_pos (hpass.mpr hp)]
      exact ⟨_, rfl, hbest, hp⟩
    · rw [if_neg (mt hpass.mp hp)]
      refine ⟨none, rfl, fun a ha => ?_⟩
      rw [ha.unique hbest]
      exact hp

/-- `poll` takes the interrupt to serve if its priority clears the threshold `MAX_PRIORITY - 1`,
or else the threshold 0. -/
theorem Consistent.poll {p : PicImpl} (hc : p.Consistent) :
    ∃ p' r, PicMmioRegisters.poll p = .ok (p', r) ∧
      ∀ a, r = some a ↔ p.regs.Best a ∧ (p.regs.Passes a 14 ∨ p.regs.Passes a 0) := by
  obtain ⟨r₁, h₁, hs₁⟩ := @Consistent.highest_priority_irq p hc (MAX_PRIORITY - 1) (by decide)
  obtain ⟨r₀, h₀, hs₀⟩ := @Consistent.highest_priority_irq p hc 0 (by decide)
  -- an answer `some a` names the interrupt to serve, which is unique
  have hsome : ∀ a, p.regs.Best a → (p.regs.Passes a 14 ∨ p.regs.Passes a 0) →
      ∀ b, some a = some b ↔ p.regs.Best b ∧ (p.regs.Passes b 14 ∨ p.regs.Passes b 0) :=
    fun a ha hp b => ⟨by rintro ⟨⟩; exact ⟨ha, hp⟩, fun hb => by rw [hb.1.unique ha]⟩
  unfold PicMmioRegisters.poll
  rw [h₁]
  cases r₁ with
  | some a => exact ⟨_, some a, rfl, hsome a hs₁.1 (.inl hs₁.2)⟩
  | none =>
    rw [h₀]
    cases r₀ with
    | some a => exact ⟨_, some a, rfl, hsome a hs₀.1 (.inr hs₀.2)⟩
    | none =>
      refine ⟨_, none, rfl, fun a => ⟨nofun, fun ⟨ha, hp⟩ => ?_⟩⟩
      exact absurd hp (not_or.mpr ⟨hs₁ a ha, hs₀ a ha⟩)

/-- The invariant holds after every run of inputs with no word write to `meip`. -/
theorem run_valid {p : PicImpl} (hv : p.Valid) {inputs : List PicInput}
    (hin : ∀ v, PicInput.write .Word 0x1000 v ∉ inputs) : (p.run inputs).Valid := by
  induction inputs generalizing p with
  | nil => exact hv
  | cons input inputs ih =>
    have hstep := PicInput.apply_valid hv fun v h => hin v (h ▸ List.mem_cons_self)
    exact ih hstep fun v hv' => hin v (List.mem_cons_of_mem _ hv')

/-! ## Runs from reset -/

/-- From reset, every run of inputs that makes no word write to `meip` leaves the cache in
agreement with the registers, and each `meip` bit equal to what its gateway outputs. -/
theorem new_run_valid {inputs : List PicInput}
    (hin : ∀ v, PicInput.write .Word 0x1000 v ∉ inputs) : (PicImpl.new.run inputs).Valid :=
  run_valid valid_new hin

/-- Enable line 3, give it priority 5, and drive it high: no word write to `meip`. -/
theorem no_meip_write_raise_three : ∀ v, PicInput.write .Word 0x1000 v ∉
    [.write .Word 0x200C 1, .write .Word 0x000C 5, .set_level ⟨3⟩ true] := by
  simp

theorem new_run_valid_raise_three :
    let inputs : List PicInput := [.write .Word 0x200C 1, .write .Word 0x000C 5, .set_level ⟨3⟩ true]
    (∀ v, PicInput.write .Word 0x1000 v ∉ inputs) ∧ (PicImpl.new.run inputs).Valid :=
  ⟨no_meip_write_raise_three, new_run_valid no_meip_write_raise_three⟩

/-- After every such run, `highest_priority_irq` answers what the registers define. -/
theorem new_run_highest_priority_irq {inputs : List PicInput}
    (hin : ∀ v, PicInput.write .Word 0x1000 v ∉ inputs) {th : UInt8} (hth : th ≤ MAX_PRIORITY) :
    ∃ r, (PicImpl.new.run inputs).highest_priority_irq th = .ok r ∧
      (PicImpl.new.run inputs).regs.Selects th.toNat r :=
  (run_valid valid_new hin).consistent.highest_priority_irq hth

theorem new_run_highest_priority_irq_raise_three :
    let inputs : List PicInput := [.write .Word 0x200C 1, .write .Word 0x000C 5, .set_level ⟨3⟩ true]
    (∀ v, PicInput.write .Word 0x1000 v ∉ inputs) ∧ (3 : UInt8) ≤ MAX_PRIORITY ∧
      ∃ r, (PicImpl.new.run inputs).highest_priority_irq 3 = .ok r ∧
        (PicImpl.new.run inputs).regs.Selects 3 r :=
  ⟨no_meip_write_raise_three, by decide,
    new_run_highest_priority_irq no_meip_write_raise_three (by decide)⟩

/-- Priority 5 clears the threshold 3 but not the threshold 5. -/
example :
    let p := PicImpl.new.run [.write .Word 0x200C 1, .write .Word 0x000C 5, .set_level ⟨3⟩ true]
    p.highest_priority_irq 3 = .ok (some 3) ∧ p.highest_priority_irq 5 = .ok none := by
  decide +kernel

/-- After every such run, `poll` takes the interrupt to serve if its priority clears the threshold
`MAX_PRIORITY - 1` or 0. -/
theorem new_run_poll {inputs : List PicInput}
    (hin : ∀ v, PicInput.write .Word 0x1000 v ∉ inputs) :
    ∃ p' r, PicMmioRegisters.poll (PicImpl.new.run inputs) = .ok (p', r) ∧
      ∀ a, r = some a ↔ (PicImpl.new.run inputs).regs.Best a ∧
        ((PicImpl.new.run inputs).regs.Passes a 14 ∨ (PicImpl.new.run inputs).regs.Passes a 0) :=
  (run_valid valid_new hin).consistent.poll

theorem new_run_poll_raise_three :
    let inputs : List PicInput := [.write .Word 0x200C 1, .write .Word 0x000C 5, .set_level ⟨3⟩ true]
    (∀ v, PicInput.write .Word 0x1000 v ∉ inputs) ∧
      ∃ p' r, PicMmioRegisters.poll (PicImpl.new.run inputs) = .ok (p', r) ∧
        ∀ a, r = some a ↔ (PicImpl.new.run inputs).regs.Best a ∧
          ((PicImpl.new.run inputs).regs.Passes a 14 ∨ (PicImpl.new.run inputs).regs.Passes a 0) :=
  ⟨no_meip_write_raise_three, new_run_poll no_meip_write_raise_three⟩

end PicImpl

end Caliptra.Emulator
