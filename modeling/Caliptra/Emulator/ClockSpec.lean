import Mathlib
import Caliptra.Emulator.Clock

/-!
# The clock reports each action when its time comes (`sw-emulator/lib/bus/src/clock.rs`)

`Timeline` says what the clock is for: the time, the set of pending actions and the id the next
one gets. Scheduling adds an action less than `2^63 - 1` cycles ahead, cancelling removes one,
and an increment of less than `2^63 - 1` cycles reports exactly the pending actions whose time it
reaches, which then stop pending. `ClockImpl` refines it (`run_refines`): over every sequence of
calls, the clock seen through `ClockImpl.abs` and the timeline report the same actions and
panic at the same call.

The invariant `ClockImpl.Inv` carries the proof: every pending action is less than `2^63 - 1`
cycles ahead, and `next_action_time` is the time of the action `find_next_action` finds. Such an
action lies at `ahead + 2^63 - 1` on the circle that `find_next_action` searches from
`now - max_ticks`, so the search finds the action nearest ahead (`OrdSet.circular_min`). After
an increment by `delta` it lies at `ahead + 2^63 - 1 - delta`: the actions whose time has come
are exactly those at most `2^63 - 1` round the circle, and come first, which is why
`remove_fired_actions` may stop at the first action whose time has not come, and why the cached
time stays that of the nearest action when nothing fires.
-/

namespace Caliptra.Emulator

theorem max_ticks_toNat : max_ticks.toNat = 2 ^ 63 - 1 := rfl

/-! ## What the clock is for -/

/-- The time `t` has come at `now`: `now` is less than `2^63 - 1` cycles past it. -/
def Reached (now t : UInt64) : Prop := (now - t).toNat < 2 ^ 63 - 1

instance (now t : UInt64) : Decidable (Reached now t) := inferInstanceAs (Decidable (_ < _))

/-- The clock as its users see it: the time, the pending actions, and the id of the next one. -/
structure Timeline where
  now : UInt64
  pending : Finset ActionHandleImpl
  next_id : UInt64

namespace Timeline

/-- Reset: time 0, nothing pending. -/
def new : Timeline := ⟨0, ∅, 0⟩

/-- One call, and the actions it reports. -/
def step (s : Timeline) : ClockOp → Checked Empty (Timeline × Finset TimerAction)
  | .schedule_action_at time action =>
    if (time - s.now).toNat < 2 ^ 63 - 1 then
      pure (⟨s.now, insert ⟨time, s.next_id, action⟩ s.pending, s.next_id + 1⟩, ∅)
    else Checked.panic
  | .cancel action => pure (⟨s.now, s.pending.erase action, s.next_id⟩, ∅)
  | .increment delta =>
    if delta.toNat < 2 ^ 63 - 1 then
      pure (⟨s.now + delta, s.pending.filter fun a => ¬Reached (s.now + delta) a.time, s.next_id⟩,
        (s.pending.filter fun a => Reached (s.now + delta) a.time).image (·.action))
    else Checked.panic

/-- A sequence of calls. -/
def run (s : Timeline) (ops : List ClockOp) : Checked Empty (Timeline × List (Finset TimerAction)) :=
  Simulation.runSteps step s ops

end Timeline

/-! ## The arithmetic of the circle -/

section Circle

variable {now t t' delta : UInt64}

/-- An increment reaches the time of an action ahead exactly when it covers the way there. -/
theorem reached_add_iff (ht : (t - now).toNat < 2 ^ 63 - 1) (hδ : delta.toNat < 2 ^ 63 - 1) :
    Reached (now + delta) t ↔ (t - now).toNat ≤ delta.toNat := by
  have := t.toNat_lt
  have := now.toNat_lt
  unfold Reached
  simp only [UInt64.toNat_sub, UInt64.toNat_add] at *
  omega

/-- Where an action ahead lies on the circle searched from `now + delta - max_ticks`. -/
theorem search_offset_add (ht : (t - now).toNat < 2 ^ 63 - 1) (hδ : delta.toNat < 2 ^ 63 - 1) :
    (t - (now + delta - max_ticks)).toNat = (t - now).toNat + (2 ^ 63 - 1) - delta.toNat := by
  have := t.toNat_lt
  have := now.toNat_lt
  simp only [UInt64.toNat_sub, UInt64.toNat_add, max_ticks_toNat] at *
  omega

theorem search_offset (ht : (t - now).toNat < 2 ^ 63 - 1) :
    (t - (now - max_ticks)).toNat = (t - now).toNat + (2 ^ 63 - 1) := by
  have h := @search_offset_add now t 0 ht (by simp)
  rwa [add_zero, UInt64.toNat_zero, Nat.sub_zero] at h

/-- An action the increment does not reach is still ahead, by what is left of the way. -/
theorem ahead_add (ht : (t - now).toNat < 2 ^ 63 - 1) (hδ : delta.toNat < 2 ^ 63 - 1)
    (hlt : delta.toNat < (t - now).toNat) :
    (t - (now + delta)).toNat = (t - now).toNat - delta.toNat := by
  have := t.toNat_lt
  have := now.toNat_lt
  simp only [UInt64.toNat_sub, UInt64.toNat_add] at *
  omega

/-- The way ahead from `now` determines the time. -/
theorem eq_of_ahead_eq (h : (t - now).toNat = (t' - now).toNat) : t = t' := by
  have := t.toNat_lt
  have := t'.toNat_lt
  have := now.toNat_lt
  simp only [UInt64.toNat_sub] at h
  exact UInt64.toNat_inj.mp (by omega)

end Circle

/-! ## The invariant -/

namespace ClockImpl

/-- Where `t` lies on the circle that `find_next_action` searches, forward from
`now - max_ticks`. -/
def offset (c : ClockImpl) (t : UInt64) : Nat := (t - (c.now - max_ticks)).toNat

/-- What the clock's users see of it. -/
def abs (c : ClockImpl) : Timeline := ⟨c.now, c.action_handles.toFinset, c.next_action_id⟩

/-- Every pending action is less than `2^63 - 1` cycles ahead, and `next_action_time` is the time
of the action that `find_next_action` finds. -/
structure Inv (c : ClockImpl) : Prop where
  ahead : ∀ a ∈ c.action_handles, (a.time - c.now).toNat < 2 ^ 63 - 1
  cached : c.next_action_time = (c.find_next_action c.action_handles).map (·.time)

theorem has_fired_iff (c : ClockImpl) (t : UInt64) : c.has_fired t = true ↔ Reached c.now t := by
  rw [has_fired, decide_eq_true_iff, UInt64.lt_iff_toNat_lt, max_ticks_toNat]
  rfl

/-- `find_next_action` finds an action nearest round the circle it searches. -/
theorem find_next_action_eq_some {c : ClockImpl} {fa : OrdSet ActionHandleImpl}
    {a : ActionHandleImpl} (h : c.find_next_action fa = some a) :
    a ∈ fa ∧ ∀ b ∈ fa, c.offset a.time ≤ c.offset b.time := by
  have hoff : ∀ t : UInt64,
      c.offset t = (t.toNat + 2 ^ 64 - (c.now - max_ticks).toNat) % 2 ^ 64 := fun t => by
    have := (c.now - max_ticks).toNat_lt
    rw [offset, UInt64.toNat_sub]
    congr 1
    omega
  obtain ⟨ha, hmin⟩ := OrdSet.circular_min ActionHandleImpl.time_mono
    (ActionHandleImpl.search_le_iff (c.now - max_ticks)) (c.now - max_ticks).toNat_lt
    (fun b _ => b.time.toNat_lt) h
  refine ⟨ha, fun b hb => ?_⟩
  rw [hoff, hoff]
  exact hmin b hb

theorem find_next_action_eq_none {c : ClockImpl} {fa : OrdSet ActionHandleImpl} :
    c.find_next_action fa = none ↔ ∀ a, a ∉ fa := by
  constructor
  · intro h
    exact OrdSet.first_eq_none (Option.or_eq_none_iff.mp h).2
  · intro h
    have hnil : fa.toList = [] := List.eq_nil_iff_forall_not_mem.mpr h
    simp [find_next_action, OrdSet.first_ge, OrdSet.first, hnil]

/-- Among actions ahead, the one found is one nearest ahead. -/
theorem find_next_action_ahead {c : ClockImpl} {fa : OrdSet ActionHandleImpl}
    (hfa : ∀ a ∈ fa, (a.time - c.now).toNat < 2 ^ 63 - 1) {a : ActionHandleImpl}
    (h : c.find_next_action fa = some a) :
    a ∈ fa ∧ ∀ b ∈ fa, (a.time - c.now).toNat ≤ (b.time - c.now).toNat := by
  obtain ⟨ha, hmin⟩ := find_next_action_eq_some h
  refine ⟨ha, fun b hb => ?_⟩
  have := hmin b hb
  rw [offset, offset, search_offset (hfa a ha), search_offset (hfa b hb)] at this
  omega

/-! ## Removing the fired actions -/

/-- The loop of `remove_fired_actions` takes off every action whose time has come and reports
it, when those actions come before the others round the circle. -/
theorem remove_fired_loop_spec (c : ClockImpl) {fuel : Nat} {fa : OrdSet ActionHandleImpl}
    {fired : Finset TimerAction} (hfuel : fa.toList.length ≤ fuel)
    (hfirst : ∀ a ∈ fa, ∀ b ∈ fa, c.has_fired a.time = true → c.has_fired b.time = false →
      c.offset a.time < c.offset b.time) :
    (c.remove_fired_loop fuel fa fired).1.toFinset =
        fa.toFinset.filter (fun a => c.has_fired a.time = false) ∧
      (c.remove_fired_loop fuel fa fired).2 =
        fired ∪ (fa.toFinset.filter fun a => c.has_fired a.time = true).image (·.action) := by
  induction fuel generalizing fa fired with
  | zero =>
    have hnil : fa.toList = [] := List.eq_nil_of_length_eq_zero (by omega)
    have hempty : fa.toFinset = ∅ := by simp [OrdSet.toFinset, hnil]
    simp [remove_fired_loop, hempty]
  | succ fuel ih =>
    rw [remove_fired_loop]
    cases hm : c.find_next_action fa with
    | none =>
      have hempty : fa.toFinset = ∅ := by
        ext a
        simp [find_next_action_eq_none.mp hm a]
      simp [hempty]
    | some m =>
      obtain ⟨hm_mem, hmin⟩ := find_next_action_eq_some hm
      cases hf : c.has_fired m.time with
      | false =>
        -- the nearest action has not fired, so none has
        have hnone : ∀ a ∈ fa, c.has_fired a.time = false := fun a ha => by
          by_contra hne
          have := hfirst a ha m hm_mem (by simpa using hne) hf
          have := hmin a ha
          omega
        simp only [hf, Bool.not_false, if_true]
        refine ⟨(Finset.filter_true_of_mem fun a ha => hnone a (OrdSet.mem_toFinset.mp ha)).symm, ?_⟩
        rw [Finset.filter_false_of_mem fun a ha => by simp [hnone a (OrdSet.mem_toFinset.mp ha)],
          Finset.image_empty, Finset.union_empty]
      | true =>
        simp only [hf, Bool.not_true, Bool.false_eq_true, if_false]
        have hlen : (fa.erase m).toList.length ≤ fuel := by
          rw [OrdSet.length_erase hm_mem]
          omega
        obtain ⟨h₁, h₂⟩ := @ih (fa.erase m) (insert m.action fired) hlen
          fun a ha b hb => hfirst a (OrdSet.mem_erase.mp ha).2 b (OrdSet.mem_erase.mp hb).2
        rw [h₁, h₂]
        constructor
        · -- `m` has fired, so erasing it changes nothing among the others
          rw [OrdSet.toFinset_erase, Finset.filter_erase,
            Finset.erase_eq_of_notMem (by simp [hf])]
        · ext x
          simp only [Finset.mem_union, Finset.mem_insert, Finset.mem_image, Finset.mem_filter,
            OrdSet.mem_toFinset, OrdSet.mem_erase]
          constructor
          · rintro ((rfl | hx) | ⟨a, ⟨⟨-, ha⟩, hfa⟩, rfl⟩)
            · exact .inr ⟨m, ⟨hm_mem, hf⟩, rfl⟩
            · exact .inl hx
            · exact .inr ⟨a, ⟨ha, hfa⟩, rfl⟩
          · rintro (hx | ⟨a, ⟨ha, hfa⟩, rfl⟩)
            · exact .inl (.inr hx)
            · by_cases ham : a = m
              · exact .inl (.inl (by rw [ham]))
              · exact .inr ⟨a, ⟨⟨ham, ha⟩, hfa⟩, rfl⟩

/-! ## Increments -/

/-- `c₁` is `c` with its time advanced by `delta`, as `increment` first makes it. -/
structure Advanced (c c₁ : ClockImpl) (delta : UInt64) : Prop where
  now : c₁.now = c.now + delta
  handles : c₁.action_handles = c.action_handles
  next_time : c₁.next_action_time = c.next_action_time
  next_id : c₁.next_action_id = c.next_action_id

section Advanced

variable {c c₁ : ClockImpl} {delta : UInt64} (hc : c.Inv) (hadv : Advanced c c₁ delta)
  (hδ : delta.toNat < 2 ^ 63 - 1)
include hc hadv hδ

theorem Advanced.has_fired_iff {a : ActionHandleImpl} (ha : a ∈ c.action_handles) :
    c₁.has_fired a.time = true ↔ (a.time - c.now).toNat ≤ delta.toNat := by
  rw [c₁.has_fired_iff, hadv.now]
  exact reached_add_iff (hc.ahead a ha) hδ

theorem Advanced.lt_of_not_fired {a : ActionHandleImpl} (ha : a ∈ c.action_handles)
    (hn : c₁.has_fired a.time = false) : delta.toNat < (a.time - c.now).toNat := by
  by_contra hle
  rw [(hadv.has_fired_iff hc hδ ha).mpr (not_lt.mp hle)] at hn
  cases hn

theorem Advanced.offset_eq {a : ActionHandleImpl} (ha : a ∈ c.action_handles) :
    c₁.offset a.time = (a.time - c.now).toNat + (2 ^ 63 - 1) - delta.toNat := by
  rw [offset, hadv.now]
  exact search_offset_add (hc.ahead a ha) hδ

/-- What has not fired is still less than `2^63 - 1` cycles ahead. -/
theorem Advanced.ahead {a : ActionHandleImpl} (ha : a ∈ c.action_handles)
    (hn : c₁.has_fired a.time = false) : (a.time - c₁.now).toNat < 2 ^ 63 - 1 := by
  have hlt := hadv.lt_of_not_fired hc hδ ha hn
  have := hc.ahead a ha
  rw [hadv.now, ahead_add (hc.ahead a ha) hδ hlt]
  omega

/-- Round the circle searched from the new time, what has fired comes first. -/
theorem Advanced.fired_first :
    ∀ a ∈ c₁.action_handles, ∀ b ∈ c₁.action_handles, c₁.has_fired a.time = true →
      c₁.has_fired b.time = false → c₁.offset a.time < c₁.offset b.time := by
  rw [hadv.handles]
  intro a ha b hb hfa hfb
  have hle := (hadv.has_fired_iff hc hδ ha).mp hfa
  have hlt := hadv.lt_of_not_fired hc hδ hb hfb
  rw [hadv.offset_eq hc hδ ha, hadv.offset_eq hc hδ hb]
  omega

omit hc hδ in
/-- The filters of the timeline, read through `has_fired`. -/
theorem Advanced.filter_reached :
    (c.action_handles.toFinset.filter fun a => Reached (c.now + delta) a.time) =
      c.action_handles.toFinset.filter fun a => c₁.has_fired a.time = true :=
  Finset.filter_congr fun a _ => by rw [c₁.has_fired_iff, hadv.now]

omit hc hδ in
theorem Advanced.filter_not_reached :
    (c.action_handles.toFinset.filter fun a => ¬Reached (c.now + delta) a.time) =
      c.action_handles.toFinset.filter fun a => c₁.has_fired a.time = false :=
  Finset.filter_congr fun a _ => by rw [← Bool.not_eq_true, c₁.has_fired_iff, hadv.now]

/-- When nothing fires, the cached time is still that of the action nearest ahead. -/
theorem Advanced.inv (hnone : ∀ a ∈ c.action_handles, c₁.has_fired a.time = false) : c₁.Inv := by
  refine ⟨fun a ha => ?_, ?_⟩
  · rw [hadv.handles] at ha
    exact hadv.ahead hc hδ ha (hnone a ha)
  · rw [hadv.next_time, hc.cached, hadv.handles]
    cases hm : c.find_next_action c.action_handles with
    | none => rw [find_next_action_eq_none.mpr (find_next_action_eq_none.mp hm)]
    | some m =>
      -- the nearest action is nearest both before and after the increment
      obtain ⟨hm_mem, hmin⟩ := find_next_action_ahead hc.ahead hm
      cases hm' : c₁.find_next_action c.action_handles with
      | none => exact absurd hm_mem (find_next_action_eq_none.mp hm' m)
      | some m' =>
        obtain ⟨hm'_mem, hmin'⟩ := find_next_action_eq_some hm'
        have h₁ := hmin' m hm_mem
        rw [hadv.offset_eq hc hδ hm'_mem, hadv.offset_eq hc hδ hm_mem] at h₁
        have h₂ := hmin m' hm'_mem
        have := hc.ahead m hm_mem
        have := hc.ahead m' hm'_mem
        show some m.time = some m'.time
        rw [eq_of_ahead_eq (show (m.time - c.now).toNat = (m'.time - c.now).toNat by omega)]

/-- When the cached time has come, `remove_fired_actions` takes off and reports every action
whose time has come. -/
theorem Advanced.remove_fired_actions :
    (c₁.remove_fired_actions ∅).2 =
        (c.action_handles.toFinset.filter fun a => c₁.has_fired a.time = true).image (·.action) ∧
      (c₁.remove_fired_actions ∅).1.abs = ⟨c.now + delta,
        c.action_handles.toFinset.filter fun a => c₁.has_fired a.time = false, c.next_action_id⟩ ∧
      (c₁.remove_fired_actions ∅).1.Inv := by
  obtain ⟨h₁, h₂⟩ :=
    @remove_fired_loop_spec c₁ _ c₁.action_handles ∅ le_rfl (hadv.fired_first hc hδ)
  -- what is left has not fired, so it is still ahead
  have hleft : ∀ a ∈ (c₁.remove_fired_loop c₁.action_handles.toList.length c₁.action_handles ∅).1,
      (a.time - c₁.now).toNat < 2 ^ 63 - 1 := fun a ha => by
    have ha' := OrdSet.mem_toFinset.mpr ha
    rw [h₁, Finset.mem_filter, OrdSet.mem_toFinset, hadv.handles] at ha'
    exact hadv.ahead hc hδ ha'.1 ha'.2
  simp only [ClockImpl.remove_fired_actions, recompute_next_action_time, abs]
  refine ⟨?_, ?_, ⟨hleft, rfl⟩⟩
  · rw [h₂, Finset.empty_union, hadv.handles]
  · rw [h₁, hadv.handles, hadv.now, hadv.next_id]

end Advanced

/-- From a clock of the invariant, an increment by less than `2^63 - 1` cycles reports exactly
the pending actions whose time it reaches, and only those stop pending. -/
theorem Inv.increment {c : ClockImpl} (hc : c.Inv) {delta : UInt64} (hδ : delta < max_ticks) :
    ∃ c', c.increment delta = .ok (c',
        (c.action_handles.toFinset.filter fun a => Reached (c.now + delta) a.time).image (·.action)) ∧
      c'.abs = ⟨c.now + delta,
        c.action_handles.toFinset.filter fun a => ¬Reached (c.now + delta) a.time, c.next_action_id⟩ ∧
      c'.Inv := by
  have hδ' : delta.toNat < 2 ^ 63 - 1 := by rwa [UInt64.lt_iff_toNat_lt, max_ticks_toNat] at hδ
  unfold ClockImpl.increment
  rw [if_pos hδ]
  dsimp only
  have hadv : Advanced c { c with now := c.now + delta } delta := ⟨rfl, rfl, rfl, rfl⟩
  generalize ({ c with now := c.now + delta } : ClockImpl) = c₁ at hadv ⊢
  rw [hadv.filter_reached, hadv.filter_not_reached]
  -- when nothing fires, the increment only moves the time
  have hwait : (∀ a ∈ c.action_handles, c₁.has_fired a.time = false) →
      ∃ c', (pure (c₁, ∅) : Checked Empty (ClockImpl × Finset TimerAction)) =
        .ok (c', (c.action_handles.toFinset.filter fun a => c₁.has_fired a.time = true).image
          (·.action)) ∧
      c'.abs = ⟨c.now + delta, c.action_handles.toFinset.filter fun a =>
        c₁.has_fired a.time = false, c.next_action_id⟩ ∧ c'.Inv := fun hnone => by
    refine ⟨c₁, ?_, ?_, hadv.inv hc hδ' hnone⟩
    · rw [Finset.filter_false_of_mem fun a ha => by simp [hnone a (OrdSet.mem_toFinset.mp ha)],
        Finset.image_empty]
      rfl
    · rw [Finset.filter_true_of_mem fun a ha => hnone a (OrdSet.mem_toFinset.mp ha), abs,
        hadv.now, hadv.handles, hadv.next_id]
  cases hnext : c.next_action_time with
  | none =>
    exact hwait fun a ha =>
      absurd ha (find_next_action_eq_none.mp (Option.map_eq_none_iff.mp (hc.cached.symm.trans hnext)) a)
  | some t =>
    obtain ⟨m, hm, rfl⟩ := Option.map_eq_some_iff.mp (hc.cached.symm.trans hnext)
    obtain ⟨hm_mem, hmin⟩ := find_next_action_ahead hc.ahead hm
    dsimp only
    by_cases hf : c₁.has_fired m.time = true
    · -- the cached time has come
      obtain ⟨h₂, habs, hinv⟩ := hadv.remove_fired_actions hc hδ'
      rw [if_pos hf]
      exact ⟨_, by rw [← h₂]; rfl, habs, hinv⟩
    · -- the nearest action has not come, so none has
      rw [if_neg hf]
      refine hwait fun a ha => ?_
      by_contra hfa
      have hle := (hadv.has_fired_iff hc hδ' ha).mp (by simpa using hfa)
      exact hf ((hadv.has_fired_iff hc hδ' hm_mem).mpr ((hmin a ha).trans hle))

/-! ## Every call -/

theorem inv_new : ClockImpl.new.Inv :=
  ⟨fun a ha => absurd ha (OrdSet.not_mem_empty a), rfl⟩

theorem max_ticks_lt_iff (x : UInt64) : x < max_ticks ↔ x.toNat < 2 ^ 63 - 1 := by
  rw [UInt64.lt_iff_toNat_lt, max_ticks_toNat]

/-- One call, seen through `abs`, is the timeline's, and it keeps the invariant. -/
theorem Inv.step {c : ClockImpl} (hc : c.Inv) (op : ClockOp) :
    (c.step op).map (fun r => (r.1.abs, r.2)) = c.abs.step op ∧
      ∀ r, c.step op = .ok r → r.1.Inv := by
  cases op with
  | schedule_action_at time action =>
    by_cases h : time - c.now < max_ticks
    · -- the new action is ahead, and the cached time is recomputed
      have hinv : ∀ a ∈ c.action_handles.insert ⟨time, c.next_action_id, action⟩,
          (a.time - c.now).toNat < 2 ^ 63 - 1 := by
        intro a ha
        rcases OrdSet.mem_insert.mp ha with rfl | ha
        · exact (max_ticks_lt_iff _).mp h
        · exact hc.ahead a ha
      refine ⟨?_, fun r hr => ?_⟩
      · simp only [ClockImpl.step, schedule_action_at, if_pos h, Timeline.step, abs,
          (max_ticks_lt_iff _).mp h, if_true, pure, Except.pure, Except.map,
          recompute_next_action_time, OrdSet.toFinset_insert]
      · simp only [ClockImpl.step, schedule_action_at, if_pos h, pure, Except.pure, Except.map,
          Except.ok.injEq] at hr
        subst hr
        exact ⟨hinv, rfl⟩
    · -- both panic
      refine ⟨?_, fun r hr => ?_⟩
      · simp only [ClockImpl.step, schedule_action_at, if_neg h, Timeline.step, abs,
          mt (max_ticks_lt_iff _).mpr h, if_false]
        rfl
      · simp only [ClockImpl.step, schedule_action_at, if_neg h] at hr
        cases hr
  | cancel action =>
    refine ⟨?_, fun r hr => ?_⟩
    · simp only [ClockImpl.step, cancel, Timeline.step, abs, pure, Except.pure, Except.map,
        recompute_next_action_time, OrdSet.toFinset_erase]
    · simp only [ClockImpl.step, pure, Except.pure, Except.ok.injEq] at hr
      subst hr
      exact ⟨fun a ha => hc.ahead a (OrdSet.mem_erase.mp ha).2, rfl⟩
  | increment delta =>
    by_cases hδ : delta < max_ticks
    · obtain ⟨c', heq, habs, hinv⟩ := hc.increment hδ
      refine ⟨?_, fun r hr => ?_⟩
      · rw [ClockImpl.step, heq]
        simp only [Timeline.step, abs, (max_ticks_lt_iff _).mp hδ, if_true]
        show Except.ok (c'.abs, _) = _
        rw [habs]
        rfl
      · rw [ClockImpl.step, heq] at hr
        cases hr
        exact hinv
    · refine ⟨?_, fun r hr => ?_⟩
      · simp only [ClockImpl.step, ClockImpl.increment, if_neg hδ, Timeline.step,
          mt (max_ticks_lt_iff _).mpr hδ, if_false]
        rfl
      · simp only [ClockImpl.step, ClockImpl.increment, if_neg hδ] at hr
        cases hr

/-- Over every sequence of calls from `Clock::new`, the clock seen through `abs` is the timeline:
the same actions are reported by the same calls, and the same call panics. -/
theorem run_refines (ops : List ClockOp) :
    (ClockImpl.new.run ops).map (fun r => (r.1.abs, r.2)) = Timeline.new.run ops :=
  Simulation.runSteps_map step Timeline.step abs Inv (fun _ op hc => (hc.step op).1)
    (fun _ op r hc => (hc.step op).2 r) ops _ inv_new

/-- The start of the emulator's own timer test: actions due at 25 and 40 fire at 25 and 45. -/
example : (ClockImpl.new.run [.schedule_action_at 25 .Poll, .schedule_action_at 40 .Halt,
    .increment 24, .increment 1, .increment 20]).map (·.2) = .ok [∅, ∅, ∅, {.Poll}, {.Halt}] := by
  decide +kernel

theorem run_inv {ops : List ClockOp} {r : ClockImpl × List (Finset TimerAction)}
    (h : ClockImpl.new.run ops = .ok r) : r.1.Inv :=
  Simulation.runSteps_inv step Inv (fun _ op r hc => (hc.step op).2 r) ops _ _ inv_new h

/-- After every run from `Clock::new`, each pending action is less than `2^63 - 1` cycles ahead,
and `next_action_time` is the time of a pending action nearest ahead, or `None` when nothing is
pending. -/
theorem run_next_action_time {ops : List ClockOp} {c : ClockImpl}
    {fired : List (Finset TimerAction)} (h : ClockImpl.new.run ops = .ok (c, fired)) :
    (∀ a ∈ c.action_handles, (a.time - c.now).toNat < 2 ^ 63 - 1) ∧
      (c.next_action_time = none ↔ ∀ a, a ∉ c.action_handles) ∧
      ∀ t, c.next_action_time = some t → ∃ a ∈ c.action_handles, a.time = t ∧
        ∀ b ∈ c.action_handles, (a.time - c.now).toNat ≤ (b.time - c.now).toNat := by
  have hc : c.Inv := run_inv h
  refine ⟨hc.ahead, ?_, fun t ht => ?_⟩
  · rw [hc.cached, Option.map_eq_none_iff, find_next_action_eq_none]
  · rw [hc.cached] at ht
    obtain ⟨a, ha, rfl⟩ := Option.map_eq_some_iff.mp ht
    obtain ⟨hmem, hmin⟩ := find_next_action_ahead hc.ahead ha
    exact ⟨a, hmem, rfl, hmin⟩

/-- An action due at 40 and one due at 25, then 30 cycles: the one due at 40 is next. -/
theorem run_next_action_time_two_actions :
    ∃ c fired, ClockImpl.new.run
        [.schedule_action_at 40 .Halt, .schedule_action_at 25 .Poll, .increment 30] = .ok (c, fired) ∧
      (∀ a ∈ c.action_handles, (a.time - c.now).toNat < 2 ^ 63 - 1) ∧
      (c.next_action_time = none ↔ ∀ a, a ∉ c.action_handles) ∧
      ∀ t, c.next_action_time = some t → ∃ a ∈ c.action_handles, a.time = t ∧
        ∀ b ∈ c.action_handles, (a.time - c.now).toNat ≤ (b.time - c.now).toNat := by
  obtain ⟨r, hr⟩ : ∃ r, ClockImpl.new.run
      [.schedule_action_at 40 .Halt, .schedule_action_at 25 .Poll, .increment 30] = .ok r :=
    ⟨_, rfl⟩
  exact ⟨r.1, r.2, hr, run_next_action_time hr⟩

/-- No action is reported early or late: the last increment of a run reports exactly the actions
pending before it whose time it reaches, and removes only those, so no action left pending has
fired. -/
theorem run_increment_reports_reached {ops : List ClockOp} {delta : UInt64} {c : ClockImpl}
    {fired : List (Finset TimerAction)}
    (h : ClockImpl.new.run (ops ++ [.increment delta]) = .ok (c, fired)) :
    ∃ c₀ fired₀, ClockImpl.new.run ops = .ok (c₀, fired₀) ∧
      fired = fired₀ ++
        [(c₀.action_handles.toFinset.filter fun a => c.has_fired a.time = true).image (·.action)] ∧
      c.action_handles.toFinset =
        c₀.action_handles.toFinset.filter (fun a => c.has_fired a.time = false) ∧
      ∀ a ∈ c.action_handles, c.has_fired a.time = false := by
  obtain ⟨r₁, r₂, h₁, h₂, hr⟩ := Simulation.runSteps_append_eq_ok step h
  -- the last call is the increment
  obtain ⟨r, hstep, rfl⟩ := Simulation.runSteps_singleton_eq_ok step h₂
  cases hr
  have hc : r₁.1.Inv := run_inv h₁
  by_cases hδ : delta < max_ticks
  · obtain ⟨c', heq, habs, -⟩ := hc.increment hδ
    rw [ClockImpl.step, heq] at hstep
    cases hstep
    -- after the increment `has_fired` is `Reached` at the new time
    have hfired : ∀ t, c'.has_fired t = true ↔ Reached (r₁.1.now + delta) t := fun t => by
      rw [has_fired_iff, show c'.now = r₁.1.now + delta from congrArg Timeline.now habs]
    have hpending : c'.action_handles.toFinset =
        r₁.1.action_handles.toFinset.filter fun a => ¬Reached (r₁.1.now + delta) a.time :=
      congrArg Timeline.pending habs
    refine ⟨r₁.1, r₁.2, h₁, ?_, ?_, fun a ha => ?_⟩
    · rw [Finset.filter_congr fun a _ => (hfired a.time).symm]
    · rw [hpending]
      exact Finset.filter_congr fun a _ => by rw [← hfired, Bool.not_eq_true]
    · have hmem := OrdSet.mem_toFinset.mpr ha
      rw [hpending, Finset.mem_filter] at hmem
      rw [Bool.eq_false_iff, ne_eq, hfired]
      exact hmem.2
  · simp only [ClockImpl.step, ClockImpl.increment, if_neg hδ] at hstep
    cases hstep

/-- Actions due at 40 and 25, then 30 cycles: the one due at 25 is reported, and only the one due
at 40 is left, its time not come. -/
theorem run_increment_reports_reached_two_actions :
    ∃ c fired, ClockImpl.new.run
        ([.schedule_action_at 40 .Halt, .schedule_action_at 25 .Poll] ++ [.increment 30]) =
        .ok (c, fired) ∧
      ∃ c₀ fired₀, ClockImpl.new.run [.schedule_action_at 40 .Halt, .schedule_action_at 25 .Poll] =
          .ok (c₀, fired₀) ∧
        fired = fired₀ ++
          [(c₀.action_handles.toFinset.filter fun a => c.has_fired a.time = true).image (·.action)] ∧
        c.action_handles.toFinset =
          c₀.action_handles.toFinset.filter (fun a => c.has_fired a.time = false) ∧
        ∀ a ∈ c.action_handles, c.has_fired a.time = false := by
  obtain ⟨r, hr⟩ : ∃ r, ClockImpl.new.run
      ([.schedule_action_at 40 .Halt, .schedule_action_at 25 .Poll] ++ [.increment 30]) = .ok r :=
    ⟨_, rfl⟩
  exact ⟨r.1, r.2, hr, run_increment_reports_reached hr⟩

end ClockImpl

end Caliptra.Emulator
