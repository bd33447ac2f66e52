import Mathlib
import Caliptra.Lib.RustCore
import Caliptra.Lib.OrdSet
import Caliptra.Lib.Simulation

/-!
# The emulator clock (`sw-emulator/lib/bus/src/clock.rs`)

`ClockImpl` counts cycles in a `u64` that wraps, and holds the actions that peripherals schedule
through their `Timer`s in a `BTreeSet` ordered by time, then id, then action. It caches
`next_action_time`, the time of the pending action that comes first going forward round the
circle of `u64` values from `now - (u64::MAX >> 1)`, so that `increment` only looks further when
that time has come; `remove_fired_actions` then takes actions off the front of the same search
while their time has come.

The pointer that tells the clocks apart in an action id is left out, and so are the assertions
that compare it: one clock is modelled. `increment_and_process_timer_actions`, which hands the
fired actions to a bus in the order of a `HashSet`, is left out.
-/

namespace Caliptra.Emulator

/-- `u64::MAX >> 1`: how far ahead an action may be scheduled, and by how much the clock may
advance at once, both exclusive. -/
def max_ticks : UInt64 := (0xFFFF_FFFF_FFFF_FFFF : UInt64) >>> 1

/-- `TimerAction`. -/
inductive TimerAction
  | Poll
  | WarmReset
  | UpdateReset
  | Nmi (mcause : UInt32)
  | SetNmiVec (addr : UInt32)
  | ExtInt (irq : UInt8) (can_wake : Bool)
  | SetExtIntVec (addr : UInt32)
  | SetGlobalIntEn (en : Bool)
  | SetExtIntEn (en : Bool)
  | Halt
  deriving DecidableEq, Repr

namespace TimerAction

/-- The place of the variant in the declaration, which the derived `Ord` compares first. -/
def variant : TimerAction → Nat
  | .Poll => 0
  | .WarmReset => 1
  | .UpdateReset => 2
  | .Nmi _ => 3
  | .SetNmiVec _ => 4
  | .ExtInt _ _ => 5
  | .SetExtIntVec _ => 6
  | .SetGlobalIntEn _ => 7
  | .SetExtIntEn _ => 8
  | .Halt => 9

/-- The fields, in the order in which the derived `Ord` compares them next. -/
def fields : TimerAction → Nat
  | .Nmi mcause => mcause.toNat
  | .SetNmiVec addr => addr.toNat
  | .ExtInt irq can_wake => 2 * irq.toNat + can_wake.toNat
  | .SetExtIntVec addr => addr.toNat
  | .SetGlobalIntEn en => en.toNat
  | .SetExtIntEn en => en.toNat
  | _ => 0

/-- The derived `Ord`, as a number. -/
def rank (a : TimerAction) : Nat := a.variant * 2 ^ 32 + a.fields

theorem fields_lt (a : TimerAction) : a.fields < 2 ^ 32 := by
  cases a with
  | Nmi m | SetNmiVec m | SetExtIntVec m => exact m.toNat_lt
  | ExtInt irq b =>
    have := irq.toNat_lt
    have := Bool.toNat_le b
    simp only [fields]
    omega
  | SetGlobalIntEn b | SetExtIntEn b =>
    have := Bool.toNat_le b
    simp only [fields]
    omega
  | _ => simp [fields]

theorem rank_lt (a : TimerAction) : a.rank < 2 ^ 36 := by
  have hv : a.variant < 10 := by cases a <;> simp [variant]
  have := a.fields_lt
  unfold rank
  omega

theorem eq_of_toNat_eq {b c : Bool} (h : b.toNat = c.toNat) : b = c := by
  cases b <;> cases c <;> simp_all

theorem rank_injective : Function.Injective rank := by
  intro a b h
  have ha := fields_lt a
  have hb := fields_lt b
  have hv : a.variant = b.variant := by unfold rank at h; omega
  have hf : a.fields = b.fields := by unfold rank at h; omega
  -- equal variants leave the cases of one constructor, whose fields are then equal
  cases a <;> cases b <;> simp only [variant] at hv <;> simp only [fields] at hf
  case Nmi.Nmi | SetNmiVec.SetNmiVec | SetExtIntVec.SetExtIntVec => rw [UInt32.toNat_inj.mp hf]
  case SetGlobalIntEn.SetGlobalIntEn | SetExtIntEn.SetExtIntEn => rw [eq_of_toNat_eq hf]
  case ExtInt.ExtInt irq can_wake irq' can_wake' =>
    have := Bool.toNat_le can_wake
    have := Bool.toNat_le can_wake'
    rw [UInt8.toNat_inj.mp (show irq.toNat = irq'.toNat by omega),
      eq_of_toNat_eq (show can_wake.toNat = can_wake'.toNat by omega)]
  -- the other cases have distinct variants, or no fields
  all_goals first | rfl | omega

end TimerAction

/-- `ActionHandleImpl`: the time an action is due, the id the clock gave it, and the action. -/
structure ActionHandleImpl where
  time : UInt64
  id : UInt64
  action : TimerAction
  deriving Repr

namespace ActionHandleImpl

/-- The derived `Ord`, as a number: by time, then id, then action. -/
def key (a : ActionHandleImpl) : Nat := (a.time.toNat * 2 ^ 64 + a.id.toNat) * 2 ^ 36 + a.action.rank

theorem key_injective : Function.Injective key := by
  rintro ⟨t, i, x⟩ ⟨t', i', x'⟩ h
  have := x.rank_lt
  have := x'.rank_lt
  have := i.toNat_lt
  have := i'.toNat_lt
  unfold key at h
  dsimp only at h
  rw [UInt64.toNat_inj.mp (show t.toNat = t'.toNat by omega),
    UInt64.toNat_inj.mp (show i.toNat = i'.toNat by omega),
    TimerAction.rank_injective (show x.rank = x'.rank by omega)]

/-- The derived `Ord`; its equality test is that of the handles' keys. -/
instance : LinearOrder ActionHandleImpl := LinearOrder.lift' key key_injective

theorem le_iff_key_le {a b : ActionHandleImpl} : a ≤ b ↔ a.key ≤ b.key := Iff.rfl

/-- Handles are ordered by time first. -/
theorem time_mono : Monotone fun a : ActionHandleImpl => a.time.toNat := by
  intro a b h
  rw [le_iff_key_le] at h
  have := a.action.rank_lt
  have := b.action.rank_lt
  have := a.id.toNat_lt
  have := b.id.toNat_lt
  unfold key at h
  dsimp only
  omega

/-- The handle that `find_next_action` searches from is at or before exactly the handles of its
time or later. -/
theorem search_le_iff (start : UInt64) (b : ActionHandleImpl) :
    (⟨start, 0, .Poll⟩ : ActionHandleImpl) ≤ b ↔ start.toNat ≤ b.time.toNat := by
  rw [le_iff_key_le]
  have hpoll : TimerAction.Poll.rank = 0 := rfl
  have := b.action.rank_lt
  have := b.id.toNat_lt
  simp only [key, hpoll, UInt64.toNat_zero]
  omega

end ActionHandleImpl

/-- `ClockImpl`. -/
structure ClockImpl where
  now : UInt64
  next_action_time : Option UInt64
  next_action_id : UInt64
  action_handles : OrdSet ActionHandleImpl

namespace ClockImpl

/-- `ClockImpl::new`. -/
def new : ClockImpl := ⟨0, none, 0, .empty⟩

/-- `has_fired`: `action_time` is less than `u64::MAX >> 1` cycles behind `now`. -/
def has_fired (c : ClockImpl) (action_time : UInt64) : Bool := c.now - action_time < max_ticks

/-- `find_next_action`. -/
def find_next_action (c : ClockImpl) (future_actions : OrdSet ActionHandleImpl) :
    Option ActionHandleImpl :=
  let search_start := c.now - max_ticks
  let search_action : ActionHandleImpl := ⟨search_start, 0, .Poll⟩
  (future_actions.first_ge search_action).or future_actions.first

/-- `recompute_next_action_time`. -/
def recompute_next_action_time (c : ClockImpl) (future_actions : OrdSet ActionHandleImpl) :
    ClockImpl :=
  { c with next_action_time := (c.find_next_action future_actions).map (·.time) }

/-- `schedule_action_at`; the assertion is a panic. `next_action_id()` hands out the counter and
advances it. -/
def schedule_action_at (c : ClockImpl) (time : UInt64) (action : TimerAction) :
    Checked Empty (ClockImpl × ActionHandleImpl) :=
  if time - c.now < max_ticks then
    let new_action : ActionHandleImpl := ⟨time, c.next_action_id, action⟩
    let actions := c.action_handles.insert new_action
    pure ({ c with next_action_id := c.next_action_id + 1, action_handles := actions }
      |>.recompute_next_action_time actions, new_action)
  else Checked.panic

/-- `cancel`. -/
def cancel (c : ClockImpl) (action : ActionHandleImpl) : ClockImpl :=
  let future_actions := c.action_handles.erase action
  { c with action_handles := future_actions }.recompute_next_action_time future_actions

/-- The `while let` loop of `remove_fired_actions`. A pass that goes on removes a handle, so the
loop makes at most as many passes as there are handles: that many is the fuel. -/
def remove_fired_loop (c : ClockImpl) : Nat → OrdSet ActionHandleImpl → Finset TimerAction →
    OrdSet ActionHandleImpl × Finset TimerAction
  | 0, future_actions, fired_actions => (future_actions, fired_actions)
  | fuel + 1, future_actions, fired_actions =>
    match c.find_next_action future_actions with
    | none => (future_actions, fired_actions)
    | some action =>
      if !c.has_fired action.time then (future_actions, fired_actions)
      else c.remove_fired_loop fuel (future_actions.erase action) (insert action.action fired_actions)

/-- `remove_fired_actions`. -/
def remove_fired_actions (c : ClockImpl) (fired_actions : Finset TimerAction) :
    ClockImpl × Finset TimerAction :=
  let r := c.remove_fired_loop c.action_handles.toList.length c.action_handles fired_actions
  ({ c with action_handles := r.1 }.recompute_next_action_time r.1, r.2)

/-- `increment`: the clock after it, and the actions fired; the assertion is a panic. -/
def increment (c : ClockImpl) (delta : UInt64) : Checked Empty (ClockImpl × Finset TimerAction) :=
  if delta < max_ticks then
    let c := { c with now := c.now + delta }
    match c.next_action_time with
    | some next_action_time =>
      if c.has_fired next_action_time then pure (c.remove_fired_actions ∅) else pure (c, ∅)
    | none => pure (c, ∅)
  else Checked.panic

end ClockImpl

namespace Timer

/-- `Timer::fired`: whether the time of the action has come, and the handle it leaves behind. -/
def fired (c : ClockImpl) (action : Option ActionHandleImpl) : Bool × Option ActionHandleImpl :=
  let has_fired := match action with
    | some action => c.has_fired action.time
    | none => false
  (has_fired, if has_fired then none else action)

/-- `Timer::schedule_poll_at`. -/
def schedule_poll_at (c : ClockImpl) (time : UInt64) : Checked Empty (ClockImpl × ActionHandleImpl) :=
  c.schedule_action_at time .Poll

/-- `Timer::schedule_poll_in`. -/
def schedule_poll_in (c : ClockImpl) (ticks_from_now : UInt64) :
    Checked Empty (ClockImpl × ActionHandleImpl) :=
  schedule_poll_at c (c.now + ticks_from_now)

/-- `Timer::schedule_action_in`. -/
def schedule_action_in (c : ClockImpl) (ticks_from_now : UInt64) (reset_type : TimerAction) :
    Checked Empty (ClockImpl × ActionHandleImpl) :=
  c.schedule_action_at (c.now + ticks_from_now) reset_type

end Timer

/-- A call on the clock: through a `Timer`, or `Clock::increment`. -/
inductive ClockOp
  | schedule_action_at (time : UInt64) (action : TimerAction)
  | cancel (action : ActionHandleImpl)
  | increment (delta : UInt64)

namespace ClockImpl

/-- One call: the clock after it, and the actions it reports as fired. -/
def step (c : ClockImpl) : ClockOp → Checked Empty (ClockImpl × Finset TimerAction)
  | .schedule_action_at time action => (c.schedule_action_at time action).map fun r => (r.1, ∅)
  | .cancel action => pure (c.cancel action, ∅)
  | .increment delta => c.increment delta

/-- A sequence of calls: the clock after them and what each reported, or a panic. -/
def run (c : ClockImpl) (ops : List ClockOp) :
    Checked Empty (ClockImpl × List (Finset TimerAction)) :=
  Simulation.runSteps step c ops

end ClockImpl

end Caliptra.Emulator
