import Mathlib
import Caliptra.Emulator.Bus

/-!
# The emulated mailbox (`sw-emulator/lib/periph/src/mailbox.rs`)

`MailboxRegs` holds the lock protocol as a `smlang` state machine whose context carries the
lock flag, the lock owner and a FIFO over the mailbox RAM. Caliptra reaches the registers
through `MailboxInternal`, an SoC requester through `MailboxExternal`, which sets the requester
for the access and puts `Caliptra` back afterwards. A run is any interleaving of such accesses.

The FIFO only ever reads and writes aligned words of the RAM, so the RAM is kept as the words
at its byte addresses. The timer that `write_ex` schedules polls a device that has no poll
action, and is left out.
-/

set_option linter.dupNamespace false

namespace Caliptra.Emulator

/-- `MailboxRequester`. -/
inductive MailboxRequester
  | Caliptra
  | SocUser (pauser : UInt32)
  deriving DecidableEq, Repr

/-- `impl From<MailboxRequester> for u32`. -/
def MailboxRequester.toU32 : MailboxRequester → UInt32
  | .Caliptra => 0xFFFF_FFFF
  | .SocUser pauser => pauser

/-- The states of the `statemachine!`. -/
inductive States
  | Idle
  | RdyForCmd
  | RdyForDlen
  | RdyForData
  | ExecUc
  | ExecSoc
  | Error
  deriving DecidableEq, Repr

/-- The events of the `statemachine!`. -/
inductive Events
  | RdLock (requester : MailboxRequester)
  | CmdWrite (cmd : UInt32)
  | DlenWrite (len : UInt32)
  | DataWrite (data : UInt32)
  | DataRead
  | SocExecSet
  | UcExecSet
  | SocExecClear
  | UcExecClear
  | SetStatus
  | Error
  | WrUnlock
  deriving DecidableEq, Repr

/-- `MAX_MAILBOX_CAPACITY_BYTES`. -/
def MAX_MAILBOX_CAPACITY_BYTES : Nat := 128 <<< 10

/-! ## The FIFO -/

/-- `Fifo`; `mailbox_ram a` is the word the RAM holds at byte address `a`. -/
structure Fifo where
  latched_dlen : UInt32
  capacity : Nat
  read_index : Nat
  write_index : Nat
  mailbox_ram : Nat → UInt32

namespace Fifo

/-- `Fifo::new` over a fresh `MailboxRam`. -/
def new : Fifo := ⟨0, MAX_MAILBOX_CAPACITY_BYTES, 0, 0, fun _ => 0⟩

/-- `Fifo::latch_dlen`. -/
def latch_dlen (f : Fifo) (dlen : Nat) : Fifo :=
  if dlen > f.capacity then { f with latched_dlen := f.capacity.toUInt32 }
  else { f with latched_dlen := dlen.toUInt32 }

/-- `Fifo::enqueue`: a write past the capacity is ignored. -/
def enqueue (f : Fifo) (element : UInt32) : Fifo :=
  if f.write_index < f.capacity then
    { f with
      mailbox_ram := Function.update f.mailbox_ram f.write_index element
      write_index := f.write_index + 4 }
  else f

/-- `Fifo::dequeue`: `none` for `Err(())`. -/
def dequeue (f : Fifo) : Option UInt32 × Fifo :=
  if f.read_index ≥ f.latched_dlen.toNat then (none, f)
  else (some (f.mailbox_ram f.read_index), { f with read_index := f.read_index + 4 })

/-- `Fifo::reset`. -/
def reset (f : Fifo) : Fifo := { f with read_index := 0, write_index := 0 }

end Fifo

/-! ## The state machine -/

/-- `Context`, the extended state of the state machine; `unlock_reg` is its field `unlock`, which
nothing writes. -/
structure Context where
  locked : UInt32
  user : MailboxRequester
  dlen : UInt32
  fifo : Fifo
  status : UInt32
  cmd : UInt32
  data_out : UInt32
  unlock_reg : UInt32

namespace Context

/-- `Context::new`. -/
def new : Context := ⟨0, .Caliptra, 0, Fifo.new, 0, 0, 0, 0⟩

/-- The guard `is_not_locked`. -/
def is_not_locked (c : Context) : Bool := c.locked ≠ 1

/-- The guard `is_locked`. -/
def is_locked (c : Context) : Bool := c.locked ≠ 0

/-- The action `init_dlen`. -/
def init_dlen (c : Context) (data_len : UInt32) : Context :=
  { c with dlen := data_len, fifo := (c.fifo.reset).latch_dlen data_len.toNat }

/-- The action `set_cmd`. -/
def set_cmd (c : Context) (cmd : UInt32) : Context := { c with cmd := cmd }

/-- The action `lock`. -/
def lock (c : Context) (user : MailboxRequester) : Context :=
  { c with fifo := c.fifo.reset, locked := 1, user := user }

/-- The action `unlock`: the lock is released and the status reset. -/
def unlock (c : Context) : Context := { c with locked := 0, status := 0 }

/-- The action `dequeue`: `data_out` is the next word, or 0 past the latched length. -/
def dequeue (c : Context) : Context :=
  { c with data_out := (c.fifo.dequeue.1).getD 0, fifo := c.fifo.dequeue.2 }

/-- The action `enqueue`. -/
def enqueue (c : Context) (data_in : UInt32) : Context := { c with fifo := c.fifo.enqueue data_in }

/-- The action `unlock_and_reset`. -/
def unlock_and_reset (c : Context) : Context :=
  let c := c.unlock
  { c with fifo := c.fifo.reset }

end Context

/-- `StateMachine<Context>`. -/
structure StateMachine where
  state : States
  context : Context

/-- `StateMachine::process_event`: the transition table of the `statemachine!`, `none` when the
event has no transition from the state or its guard fails (the state machine is unchanged). -/
def StateMachine.process_event (sm : StateMachine) (e : Events) : Option StateMachine :=
  let c := sm.context
  match sm.state, e with
  | .Idle, .RdLock user => if c.is_not_locked then some ⟨.RdyForCmd, c.lock user⟩ else none
  | .RdyForCmd, .CmdWrite cmd => some ⟨.RdyForDlen, c.set_cmd cmd⟩
  | .RdyForCmd, .WrUnlock => some ⟨.Idle, c.unlock_and_reset⟩
  | .RdyForDlen, .DlenWrite len => some ⟨.RdyForData, c.init_dlen len⟩
  | .RdyForDlen, .WrUnlock => some ⟨.Idle, c⟩
  | .RdyForData, .DataWrite data => some ⟨.RdyForData, c.enqueue data⟩
  | .RdyForData, .WrUnlock => some ⟨.Idle, c.unlock_and_reset⟩
  | .RdyForData, .SocExecSet => some ⟨.ExecUc, c⟩
  | .RdyForData, .UcExecSet => some ⟨.ExecSoc, c⟩
  | .ExecUc, .DataRead => some ⟨.ExecUc, c.dequeue⟩
  | .ExecUc, .DlenWrite len => some ⟨.ExecUc, c.init_dlen len⟩
  | .ExecUc, .DataWrite data => some ⟨.ExecUc, c.enqueue data⟩
  | .ExecUc, .SocExecClear => if c.is_locked then some ⟨.Idle, c.unlock⟩ else none
  | .ExecUc, .UcExecClear => if c.is_locked then some ⟨.Idle, c.unlock⟩ else none
  | .ExecUc, .SetStatus => some ⟨.ExecSoc, c⟩
  | .ExecUc, .WrUnlock => some ⟨.Idle, c.unlock_and_reset⟩
  | .ExecSoc, .DataRead => some ⟨.ExecSoc, c.dequeue⟩
  | .ExecSoc, .DlenWrite len => some ⟨.ExecSoc, c.init_dlen len⟩
  | .ExecSoc, .DataWrite data => some ⟨.ExecSoc, c.enqueue data⟩
  | .ExecSoc, .UcExecClear => if c.is_locked then some ⟨.Idle, c.unlock⟩ else none
  | .ExecSoc, .SocExecClear => if c.is_locked then some ⟨.Idle, c.unlock⟩ else none
  | .ExecSoc, .Error => some ⟨.Error, c⟩
  | .ExecSoc, .SetStatus => some ⟨.ExecUc, c⟩
  | .ExecSoc, .WrUnlock => some ⟨.Idle, c.unlock_and_reset⟩
  | .Error, .WrUnlock => some ⟨.Idle, c.unlock_and_reset⟩
  | _, _ => none

/-- `let _ = sm.process_event(e)`: a rejected event leaves the state machine as it was. -/
def StateMachine.deliver (sm : StateMachine) (e : Events) : StateMachine :=
  (sm.process_event e).getD sm

/-! ## The registers -/

/-- `MailboxRegs`. Of its registers only `execute` keeps a value that is read back: the others
are reached through their callbacks, or refuse the access. -/
structure MailboxRegs where
  execute : UInt32
  state_machine : StateMachine
  requester : MailboxRequester
  irq : Bool

namespace MailboxRegs

/-- `MailboxRegs::new`. -/
def new : MailboxRegs := ⟨0, ⟨.Idle, Context.new⟩, .Caliptra, false⟩

/-- `set_request`. -/
def set_request (regs : MailboxRegs) (requester : MailboxRequester) : MailboxRegs :=
  { regs with requester := requester }

/-- Deliver an event to the state machine. -/
def deliver (regs : MailboxRegs) (e : Events) : MailboxRegs :=
  { regs with state_machine := regs.state_machine.deliver e }

/-- `read_lock`: 0 when the state machine is idle, and then `RdLock` is delivered. -/
def read_lock (regs : MailboxRegs) : UInt32 × MailboxRegs :=
  let result := if regs.state_machine.state = .Idle then 0 else 1
  (result, regs.deliver (.RdLock regs.requester))

/-- `read_dout`: `DataRead` is delivered, then `data_out` is read. -/
def read_dout (regs : MailboxRegs) : UInt32 × MailboxRegs :=
  let regs := regs.deliver .DataRead
  (regs.state_machine.context.data_out, regs)

/-- `write_ex`: only the lock owner may set or clear the execute bit. -/
def write_ex (regs : MailboxRegs) (val : UInt32) : MailboxRegs :=
  if regs.requester ≠ regs.state_machine.context.user then regs.deliver .Error
  else
    let event := match regs.requester with
      | .Caliptra => if val &&& 1 ≠ 0 then Events.UcExecSet else Events.UcExecClear
      | .SocUser _ => if val &&& 1 ≠ 0 then Events.SocExecSet else Events.SocExecClear
    { regs.deliver event with irq := true, execute := val }

/-- `write_status`: `SetStatus` is delivered, then the status becomes the `STATUS` field. -/
def write_status (regs : MailboxRegs) (val : UInt32) : MailboxRegs :=
  let regs := regs.deliver .SetStatus
  { regs with state_machine := { regs.state_machine with
      context := { regs.state_machine.context with status := val &&& 0xF } } }

/-- The `MBOX_FSM_PS` code of a state. -/
def States.fsm_ps : States → UInt32
  | .ExecUc => 0x6
  | .ExecSoc => 0x4
  | .Idle => 0x0
  | .RdyForCmd => 0x1
  | .RdyForData => 0x2
  | .RdyForDlen => 0x3
  | .Error => 0x7

/-- `read_status`: the status with `MBOX_FSM_PS` set from the state. -/
def read_status (regs : MailboxRegs) : UInt32 :=
  (regs.state_machine.context.status &&& ~~~((0x7 : UInt32) <<< 6)) |||
    (States.fsm_ps regs.state_machine.state <<< 6)

/-- `Bus::read` as `#[derive(Bus)]` dispatches it. -/
def read (regs : MailboxRegs) (size : RvSize) (addr : UInt32) :
    Except BusError UInt32 × MailboxRegs :=
  let c := regs.state_machine.context
  if addr = 0x00 then
    let (v, regs) := regs.read_lock
    (.ok v, regs)
  else if addr = 0x04 then (.ok c.user.toU32, regs)
  else if addr = 0x08 then (.ok c.cmd, regs)
  else if addr = 0x0c then (.ok c.dlen, regs)
  else if addr = 0x14 then
    let (v, regs) := regs.read_dout
    (.ok v, regs)
  else if addr = 0x18 then
    (if size = .Word then .ok regs.execute else .error .LoadAccessFault, regs)
  else if addr = 0x1c then (.ok regs.read_status, regs)
  else if addr = 0x20 then (.ok c.unlock_reg, regs)
  else (.error .LoadAccessFault, regs)

/-- `Bus::write` as `#[derive(Bus)]` dispatches it. -/
def write (regs : MailboxRegs) (_size : RvSize) (addr : UInt32) (val : UInt32) :
    Except BusError Unit × MailboxRegs :=
  if addr = 0x08 then (.ok (), regs.deliver (.CmdWrite val))
  else if addr = 0x0c then (.ok (), regs.deliver (.DlenWrite val))
  else if addr = 0x10 then (.ok (), regs.deliver (.DataWrite val))
  else if addr = 0x18 then (.ok (), regs.write_ex val)
  else if addr = 0x1c then (.ok (), regs.write_status val)
  else if addr = 0x20 then (.ok (), regs.deliver .WrUnlock)
  else (.error .StoreAccessFault, regs)

end MailboxRegs

/-! ## Interleaved accesses -/

/-- The way to the registers: `MailboxInternal` for Caliptra, `MailboxExternal` with its
`soc_user` for a requester on the SoC side. -/
inductive Port
  | internal
  | external (soc_user : MailboxRequester)
  deriving DecidableEq, Repr

/-- The requester that `set_request` installs for an access through a port. -/
def Port.requester : Port → MailboxRequester
  | .internal => .Caliptra
  | .external soc_user => soc_user

/-- One bus access through a port. -/
inductive Access
  | read (port : Port) (size : RvSize) (addr : UInt32)
  | write (port : Port) (size : RvSize) (addr : UInt32) (val : UInt32)
  deriving DecidableEq, Repr

/-- What an access answers: the data of a read, or the outcome of a write. -/
inductive Reply
  | data (r : Except BusError UInt32)
  | done (r : Except BusError Unit)

/-- `MailboxInternal::read`/`write` and `MailboxExternal::read`/`write`: the requester is set
for the access, and an external access puts `Caliptra` back. -/
def Access.perform (regs : MailboxRegs) : Access → Reply × MailboxRegs
  | .read port size addr =>
    let (r, regs) := (regs.set_request port.requester).read size addr
    (.data r, regs.set_request .Caliptra)
  | .write port size addr val =>
    let (r, regs) := (regs.set_request port.requester).write size addr val
    (.done r, regs.set_request .Caliptra)

/-- The registers after a sequence of accesses. -/
def run (regs : MailboxRegs) (accesses : List Access) : MailboxRegs :=
  accesses.foldl (fun regs a => (a.perform regs).2) regs

theorem run_cons (regs : MailboxRegs) (a : Access) (accesses : List Access) :
    run regs (a :: accesses) = run (a.perform regs).2 accesses := rfl

theorem run_append (regs : MailboxRegs) (as bs : List Access) :
    run regs (as ++ bs) = run (run regs as) bs := List.foldl_append

/-! ## The actions -/

namespace Fifo

@[simp] theorem reset_capacity (f : Fifo) : f.reset.capacity = f.capacity := rfl

@[simp] theorem latch_dlen_capacity (f : Fifo) (dlen : Nat) :
    (f.latch_dlen dlen).capacity = f.capacity := by
  unfold latch_dlen; split_ifs <;> rfl

@[simp] theorem enqueue_capacity (f : Fifo) (w : UInt32) : (f.enqueue w).capacity = f.capacity := by
  unfold enqueue; split_ifs <;> rfl

@[simp] theorem dequeue_capacity (f : Fifo) : f.dequeue.2.capacity = f.capacity := by
  unfold dequeue; split_ifs <;> rfl

end Fifo

namespace Context

@[simp] theorem lock_locked (c : Context) (user : MailboxRequester) : (c.lock user).locked = 1 := rfl
@[simp] theorem unlock_locked (c : Context) : c.unlock.locked = 0 := rfl
@[simp] theorem unlock_and_reset_locked (c : Context) : c.unlock_and_reset.locked = 0 := rfl
@[simp] theorem set_cmd_locked (c : Context) (cmd : UInt32) : (c.set_cmd cmd).locked = c.locked := rfl
@[simp] theorem init_dlen_locked (c : Context) (len : UInt32) :
    (c.init_dlen len).locked = c.locked := rfl
@[simp] theorem enqueue_locked (c : Context) (data : UInt32) :
    (c.enqueue data).locked = c.locked := rfl
@[simp] theorem dequeue_locked (c : Context) : c.dequeue.locked = c.locked := rfl

@[simp] theorem lock_fifo (c : Context) (user : MailboxRequester) :
    (c.lock user).fifo = c.fifo.reset := rfl
@[simp] theorem unlock_fifo (c : Context) : c.unlock.fifo = c.fifo := rfl
@[simp] theorem unlock_and_reset_fifo (c : Context) : c.unlock_and_reset.fifo = c.fifo.reset := rfl
@[simp] theorem set_cmd_fifo (c : Context) (cmd : UInt32) : (c.set_cmd cmd).fifo = c.fifo := rfl
@[simp] theorem init_dlen_fifo (c : Context) (len : UInt32) :
    (c.init_dlen len).fifo = c.fifo.reset.latch_dlen len.toNat := rfl
@[simp] theorem enqueue_fifo (c : Context) (data : UInt32) :
    (c.enqueue data).fifo = c.fifo.enqueue data := rfl
@[simp] theorem dequeue_fifo (c : Context) : c.dequeue.fifo = c.fifo.dequeue.2 := rfl

@[simp] theorem init_dlen_user (c : Context) (len : UInt32) : (c.init_dlen len).user = c.user := rfl
@[simp] theorem enqueue_user (c : Context) (data : UInt32) : (c.enqueue data).user = c.user := rfl

end Context

/-! ## What one access does -/

/-- What an access can do to the state machine: nothing, one event, or (a status write) one event
and then a new status. -/
def StateMachine.Step (sm sm' : StateMachine) : Prop :=
  sm' = sm ∨ ∃ e, sm' = sm.deliver e ∨
    ∃ s, sm' = ⟨(sm.deliver e).state, { (sm.deliver e).context with status := s }⟩

/-- A property of the state machine that no access breaks: every event keeps it, and it does not
read the status. -/
structure StateMachine.AccessInvariant (P : StateMachine → Prop) : Prop where
  status : ∀ sm s, P sm → P ⟨sm.state, { sm.context with status := s }⟩
  deliver : ∀ sm e, P sm → P (sm.deliver e)

theorem StateMachine.AccessInvariant.step {P : StateMachine → Prop} (hP : AccessInvariant P)
    {sm sm' : StateMachine} (h : sm.Step sm') (hp : P sm) : P sm' := by
  rcases h with rfl | ⟨e, rfl | ⟨s, rfl⟩⟩
  · exact hp
  · exact hP.deliver sm e hp
  · exact hP.status _ s (hP.deliver sm e hp)

namespace MailboxRegs

@[simp] theorem set_request_state_machine (regs : MailboxRegs) (r : MailboxRequester) :
    (regs.set_request r).state_machine = regs.state_machine := rfl

@[simp] theorem set_request_requester (regs : MailboxRegs) (r : MailboxRequester) :
    (regs.set_request r).requester = r := rfl

@[simp] theorem deliver_state_machine (regs : MailboxRegs) (e : Events) :
    (regs.deliver e).state_machine = regs.state_machine.deliver e := rfl

theorem read_step (regs : MailboxRegs) (size : RvSize) (addr : UInt32) :
    regs.state_machine.Step (regs.read size addr).2.state_machine := by
  unfold read
  split_ifs
  all_goals first
    | exact .inr ⟨_, .inl rfl⟩
    | exact .inl rfl

theorem write_ex_step (regs : MailboxRegs) (val : UInt32) :
    regs.state_machine.Step (regs.write_ex val).state_machine := by
  unfold write_ex
  split_ifs <;> exact .inr ⟨_, .inl rfl⟩

theorem write_step (regs : MailboxRegs) (size : RvSize) (addr val : UInt32) :
    regs.state_machine.Step (regs.write size addr val).2.state_machine := by
  unfold write
  split_ifs
  all_goals first
    | exact regs.write_ex_step val
    | exact .inr ⟨_, .inl rfl⟩
    | exact .inr ⟨.SetStatus, .inr ⟨_, rfl⟩⟩
    | exact .inl rfl

end MailboxRegs

theorem Access.perform_requester (regs : MailboxRegs) (a : Access) :
    (a.perform regs).2.requester = .Caliptra := by
  cases a <;> rfl

theorem Access.perform_step (regs : MailboxRegs) (a : Access) :
    regs.state_machine.Step (a.perform regs).2.state_machine := by
  cases a with
  | read port size addr => exact (regs.set_request port.requester).read_step size addr
  | write port size addr val => exact (regs.set_request port.requester).write_step size addr val

theorem StateMachine.AccessInvariant.run {P : StateMachine → Prop} (hP : AccessInvariant P)
    {regs : MailboxRegs} (h : P regs.state_machine) (accesses : List Access) :
    P (run regs accesses).state_machine := by
  induction accesses generalizing regs with
  | nil => exact h
  | cons a accesses ih => exact ih (hP.step (a.perform_step regs) h)

/-! ## The lock flag -/

/-- The mailbox is locked in every state but `Idle`. -/
def StateMachine.LockedUnlessIdle (sm : StateMachine) : Prop :=
  sm.state ≠ .Idle → sm.context.locked = 1

/-- Idle, yet locked: no transition of the table leaves this state. -/
def StateMachine.Stuck (sm : StateMachine) : Prop :=
  sm.state = .Idle ∧ sm.context.locked = 1

theorem StateMachine.process_event_lockedUnlessIdle {sm sm' : StateMachine} {e : Events}
    (h : sm.LockedUnlessIdle) (he : sm.process_event e = some sm') : sm'.LockedUnlessIdle := by
  obtain ⟨state, c⟩ := sm
  simp only [LockedUnlessIdle] at h ⊢
  -- every transition into a state other than `Idle` either takes the lock or keeps it
  cases state <;> cases e <;> dsimp only [process_event] at he <;>
    simp only [Option.ite_none_right_eq_some, Option.some.injEq, reduceCtorEq] at he <;>
    first
    | (subst he; simp; done)
    | (subst he; simpa using h)
    | (obtain ⟨-, rfl⟩ := he; simp)

theorem StateMachine.lockedUnlessIdle_accessInvariant : AccessInvariant LockedUnlessIdle where
  status _ _ h := h
  deliver sm e h := by
    unfold deliver
    cases he : sm.process_event e with
    | none => exact h
    | some sm' => exact process_event_lockedUnlessIdle h he

theorem StateMachine.process_event_stuck {sm : StateMachine} (h : sm.Stuck) (e : Events) :
    sm.process_event e = none := by
  obtain ⟨state, c⟩ := sm
  obtain ⟨hidle, hlocked⟩ := h
  simp only at hidle hlocked
  subst hidle
  cases e with
  | RdLock user =>
    dsimp only [process_event]
    simp [Context.is_not_locked, hlocked]
  | _ => rfl

theorem StateMachine.deliver_stuck {sm : StateMachine} (h : sm.Stuck) (e : Events) :
    sm.deliver e = sm := by
  simp [deliver, process_event_stuck h e]

theorem StateMachine.stuck_accessInvariant : AccessInvariant Stuck where
  status _ _ h := h
  deliver sm e h := by rw [deliver_stuck h]; exact h

theorem run_lockedUnlessIdle {regs : MailboxRegs} (h : regs.state_machine.LockedUnlessIdle)
    (accesses : List Access) : (run regs accesses).state_machine.LockedUnlessIdle :=
  StateMachine.lockedUnlessIdle_accessInvariant.run h accesses

theorem run_stuck {regs : MailboxRegs} (h : regs.state_machine.Stuck) (accesses : List Access) :
    (run regs accesses).state_machine.Stuck :=
  StateMachine.stuck_accessInvariant.run h accesses

/-- From reset, and whoever accesses the registers in whatever order, the mailbox is locked
whenever its state machine is not idle. -/
theorem lockedUnlessIdle_of_new (accesses : List Access) :
    (run MailboxRegs.new accesses).state_machine.LockedUnlessIdle :=
  run_lockedUnlessIdle (fun h => absurd rfl h) accesses

/-- In a stuck state a read of the lock register answers 0, the value that means "acquired", and
the mailbox stays stuck. -/
theorem read_lock_stuck {regs : MailboxRegs} (h : regs.state_machine.Stuck) (port : Port)
    (size : RvSize) : ((Access.read port size 0x00).perform regs).1 = .data (.ok 0) := by
  simp [Access.perform, MailboxRegs.read, MailboxRegs.read_lock, h.1]

/-- Caliptra takes the lock, writes a command and unlocks while the mailbox waits for the data
length. The row `RdyForDlen + WrUnlock = Idle` has no `unlock_and_reset`, so the mailbox is idle
with the lock flag still set, and no access by anyone changes that: every read of the lock register
answers 0 and leaves the mailbox idle, unacquired. -/
theorem unlock_rdy_for_dlen_stays_locked (cmd : UInt32) (accesses : List Access) :
    let regs := run (run MailboxRegs.new
      [.read .internal .Word 0x00, .write .internal .Word 0x08 cmd, .write .internal .Word 0x20 0])
      accesses
    regs.state_machine.state = .Idle ∧ regs.state_machine.context.locked = 1 ∧
      ∀ port size, ((Access.read port size 0x00).perform regs).1 = .data (.ok 0) ∧
        ((Access.read port size 0x00).perform regs).2.state_machine.state = .Idle := by
  have h : (run (run MailboxRegs.new
      [.read .internal .Word 0x00, .write .internal .Word 0x08 cmd, .write .internal .Word 0x20 0])
      accesses).state_machine.Stuck := run_stuck ⟨rfl, rfl⟩ accesses
  refine ⟨h.1, h.2, fun port size => ⟨read_lock_stuck h port size, ?_⟩⟩
  exact (StateMachine.stuck_accessInvariant.step (Access.perform_step _ _) h).1

/-! ## Delivering a message -/

theorem StateMachine.process_event_capacity {sm sm' : StateMachine} {e : Events}
    (he : sm.process_event e = some sm') : sm'.context.fifo.capacity = sm.context.fifo.capacity := by
  obtain ⟨state, c⟩ := sm
  cases state <;> cases e <;> dsimp only [process_event] at he <;>
    simp only [Option.ite_none_right_eq_some, Option.some.injEq, reduceCtorEq] at he <;>
    first
    | (subst he; simp)
    | (obtain ⟨-, rfl⟩ := he; simp)

theorem StateMachine.capacity_accessInvariant (n : Nat) :
    AccessInvariant fun sm => sm.context.fifo.capacity = n where
  status _ _ h := h
  deliver sm e h := by
    unfold deliver
    cases he : sm.process_event e with
    | none => exact h
    | some sm' => exact (process_event_capacity he).trans h

/-- The RAM behind the FIFO keeps its size. -/
theorem run_capacity (accesses : List Access) :
    (run MailboxRegs.new accesses).state_machine.context.fifo.capacity =
      MAX_MAILBOX_CAPACITY_BYTES :=
  (StateMachine.capacity_accessInvariant _).run rfl accesses

namespace Fifo

theorem latch_dlen_latched_dlen (f : Fifo) {dlen : Nat} (hcap : f.capacity < 2 ^ 32)
    (hdlen : dlen < 2 ^ 32) : (f.latch_dlen dlen).latched_dlen.toNat = min dlen f.capacity := by
  unfold latch_dlen
  split_ifs with h
  · simp only [Nat.toUInt32_eq, UInt32.toNat_ofNat']
    omega
  · simp only [Nat.toUInt32_eq, UInt32.toNat_ofNat']
    omega

@[simp] theorem reset_read_index (f : Fifo) : f.reset.read_index = 0 := rfl
@[simp] theorem reset_write_index (f : Fifo) : f.reset.write_index = 0 := rfl

@[simp] theorem latch_dlen_read_index (f : Fifo) (dlen : Nat) :
    (f.latch_dlen dlen).read_index = f.read_index := by
  unfold latch_dlen; split_ifs <;> rfl

@[simp] theorem latch_dlen_write_index (f : Fifo) (dlen : Nat) :
    (f.latch_dlen dlen).write_index = f.write_index := by
  unfold latch_dlen; split_ifs <;> rfl

@[simp] theorem enqueue_read_index (f : Fifo) (w : UInt32) :
    (f.enqueue w).read_index = f.read_index := by
  unfold enqueue; split_ifs <;> rfl

@[simp] theorem enqueue_latched_dlen (f : Fifo) (w : UInt32) :
    (f.enqueue w).latched_dlen = f.latched_dlen := by
  unfold enqueue; split_ifs <;> rfl

theorem write_index_le_enqueue (f : Fifo) (w : UInt32) : f.write_index ≤ (f.enqueue w).write_index := by
  unfold enqueue; split_ifs <;> simp

theorem enqueue_mailbox_ram_of_lt {f : Fifo} {a : Nat} (h : a < f.write_index) (w : UInt32) :
    (f.enqueue w).mailbox_ram a = f.mailbox_ram a := by
  unfold enqueue
  split_ifs
  · exact Function.update_of_ne h.ne _ _
  · rfl

/-- What `enqueue` keeps, a run of `enqueue`s keeps. -/
theorem foldl_enqueue_eq {β : Type} (g : Fifo → β) (hg : ∀ f w, g (f.enqueue w) = g f)
    (ws : List UInt32) (f : Fifo) : g (ws.foldl enqueue f) = g f := by
  induction ws generalizing f with
  | nil => rfl
  | cons w ws ih => rw [List.foldl_cons, ih, hg]

theorem foldl_enqueue_mailbox_ram_of_lt (ws : List UInt32) {f : Fifo} {a : Nat}
    (h : a < f.write_index) : (ws.foldl enqueue f).mailbox_ram a = f.mailbox_ram a := by
  induction ws generalizing f with
  | nil => rfl
  | cons w ws ih =>
    rw [List.foldl_cons, ih (h.trans_le (write_index_le_enqueue f w)), enqueue_mailbox_ram_of_lt h]

/-- Words enqueued from word `j` on land at the following word addresses while they fit. -/
theorem foldl_enqueue_mailbox_ram (ws : List UInt32) {f : Fifo} {j i : Nat}
    (hw : f.write_index = 4 * j) (hi : i < ws.length) (hcap : 4 * (j + i) < f.capacity) :
    (ws.foldl enqueue f).mailbox_ram (4 * (j + i)) = ws[i] := by
  induction ws generalizing f j i with
  | nil => exact absurd hi (Nat.not_lt_zero _)
  | cons w ws ih =>
    have henq : f.enqueue w =
        { f with
          mailbox_ram := Function.update f.mailbox_ram f.write_index w
          write_index := f.write_index + 4 } := if_pos (by omega)
    rw [List.foldl_cons]
    cases i with
    | zero =>
      rw [foldl_enqueue_mailbox_ram_of_lt ws (by rw [henq]; dsimp only; omega), henq]
      simp [hw]
    | succ i =>
      have hw' : (f.enqueue w).write_index = 4 * (j + 1) := by rw [henq, hw]; ring
      rw [show 4 * (j + (i + 1)) = 4 * (j + 1 + i) by ring]
      exact ih hw' (by simpa using hi) (by rw [enqueue_capacity]; omega)

@[simp] theorem dequeue_latched_dlen (f : Fifo) : f.dequeue.2.latched_dlen = f.latched_dlen := by
  unfold dequeue; split_ifs <;> rfl

@[simp] theorem dequeue_mailbox_ram (f : Fifo) : f.dequeue.2.mailbox_ram = f.mailbox_ram := by
  unfold dequeue; split_ifs <;> rfl

/-- Where the reader of a latched message is after `i` reads: at word `i` while the message
lasts, and past its end after that. -/
def ReadAt (f : Fifo) (i : Nat) : Prop :=
  (4 * i < f.latched_dlen.toNat → f.read_index = 4 * i) ∧
    (f.latched_dlen.toNat ≤ 4 * i → f.latched_dlen.toNat ≤ f.read_index)

theorem readAt_zero {f : Fifo} (h : f.read_index = 0) : f.ReadAt 0 :=
  ⟨fun _ => h, fun hl => by omega⟩

theorem ReadAt.dequeue_fst {f : Fifo} {i : Nat} (h : f.ReadAt i) :
    f.dequeue.1 = if 4 * i < f.latched_dlen.toNat then some (f.mailbox_ram (4 * i)) else none := by
  obtain ⟨hlt, hge⟩ := h
  unfold dequeue
  by_cases hi : 4 * i < f.latched_dlen.toNat
  · have hr := hlt hi
    simp [hr, hi, Nat.not_le.mpr hi]
  · have hr := hge (by omega)
    simp [hi, hr]

theorem ReadAt.dequeue {f : Fifo} {i : Nat} (h : f.ReadAt i) : f.dequeue.2.ReadAt (i + 1) := by
  obtain ⟨hlt, hge⟩ := h
  unfold ReadAt Fifo.dequeue
  split_ifs with hr <;> dsimp only <;> exact ⟨fun _ => by omega, fun _ => by omega⟩

end Fifo

namespace Context

theorem foldl_enqueue (ws : List UInt32) (c : Context) :
    ws.foldl enqueue c = { c with fifo := ws.foldl Fifo.enqueue c.fifo } := by
  induction ws generalizing c with
  | nil => rfl
  | cons w ws ih => rw [List.foldl_cons, ih]; rfl

theorem iterate_dequeue_fifo (n : Nat) (c : Context) :
    (dequeue^[n] c).fifo.latched_dlen = c.fifo.latched_dlen ∧
      (dequeue^[n] c).fifo.mailbox_ram = c.fifo.mailbox_ram := by
  induction n with
  | zero => exact ⟨rfl, rfl⟩
  | succ n ih => simpa [Function.iterate_succ_apply'] using ih

theorem iterate_dequeue_readAt {c : Context} {i : Nat} (h : c.fifo.ReadAt i) (n : Nat) :
    (dequeue^[n] c).fifo.ReadAt (i + n) := by
  induction n with
  | zero => exact h
  | succ n ih =>
    rw [Function.iterate_succ_apply', dequeue_fifo, ← Nat.add_assoc]
    exact ih.dequeue

end Context

/-- The states in which the receiver reads the message. -/
def States.IsExec (s : States) : Prop := s = .ExecUc ∨ s = .ExecSoc

/-- The accesses by which the lock owner sends a message: the data length, the words, and the
execute bit. -/
def send (owner : Port) (dlen : UInt32) (words : List UInt32) : List Access :=
  .write owner .Word 0x0c dlen :: words.map (.write owner .Word 0x10) ++ [.write owner .Word 0x18 1]

namespace Access

theorem perform_write_dlen {regs : MailboxRegs} (h : regs.state_machine.state = .RdyForDlen)
    (port : Port) (size : RvSize) (dlen : UInt32) :
    ((Access.write port size 0x0c dlen).perform regs).2.state_machine =
      ⟨.RdyForData, regs.state_machine.context.init_dlen dlen⟩ := by
  obtain ⟨execute, ⟨state, c⟩, requester, irq⟩ := regs
  dsimp only at h
  subst h
  rfl

theorem perform_write_din {regs : MailboxRegs} (h : regs.state_machine.state = .RdyForData)
    (port : Port) (size : RvSize) (w : UInt32) :
    ((Access.write port size 0x10 w).perform regs).2.state_machine =
      ⟨.RdyForData, regs.state_machine.context.enqueue w⟩ := by
  obtain ⟨execute, ⟨state, c⟩, requester, irq⟩ := regs
  dsimp only at h
  subst h
  rfl

theorem perform_write_ex_set {regs : MailboxRegs} (h : regs.state_machine.state = .RdyForData)
    (port : Port) (hu : port.requester = regs.state_machine.context.user) (size : RvSize) :
    let sm := ((Access.write port size 0x18 1).perform regs).2.state_machine
    sm.state.IsExec ∧ sm.context = regs.state_machine.context := by
  obtain ⟨execute, ⟨state, c⟩, requester, irq⟩ := regs
  dsimp only at h hu
  subst h
  show (MailboxRegs.write_ex ⟨execute, ⟨.RdyForData, c⟩, port.requester, irq⟩ 1).state_machine.state.IsExec ∧
    (MailboxRegs.write_ex ⟨execute, ⟨.RdyForData, c⟩, port.requester, irq⟩ 1).state_machine.context = c
  unfold MailboxRegs.write_ex
  rw [if_neg (not_not.mpr hu)]
  -- Caliptra's execute bit hands the message to the SoC, a SoC user's to Caliptra
  cases port.requester with
  | Caliptra => exact ⟨.inr rfl, rfl⟩
  | SocUser pauser => exact ⟨.inl rfl, rfl⟩

theorem perform_read_dout {regs : MailboxRegs} (h : regs.state_machine.state.IsExec)
    (port : Port) (size : RvSize) :
    ((Access.read port size 0x14).perform regs).1 =
        .data (.ok regs.state_machine.context.dequeue.data_out) ∧
      ((Access.read port size 0x14).perform regs).2.state_machine =
        ⟨regs.state_machine.state, regs.state_machine.context.dequeue⟩ := by
  obtain ⟨execute, ⟨state, c⟩, requester, irq⟩ := regs
  rcases h with h | h <;> dsimp only at h <;> subst h <;> exact ⟨rfl, rfl⟩

end Access

theorem run_write_din {regs : MailboxRegs} (h : regs.state_machine.state = .RdyForData)
    (port : Port) (size : RvSize) (words : List UInt32) :
    (run regs (words.map (.write port size 0x10))).state_machine =
      ⟨.RdyForData, words.foldl Context.enqueue regs.state_machine.context⟩ := by
  induction words generalizing regs with
  | nil => rw [← h]; rfl
  | cons w words ih =>
    have hw := Access.perform_write_din h port size w
    rw [List.map_cons, run_cons, ih (by rw [hw]), hw, List.foldl_cons]

theorem run_read_dout {regs : MailboxRegs} (h : regs.state_machine.state.IsExec)
    {reads : List Access} (hreads : ∀ a ∈ reads, ∃ port size, a = .read port size 0x14) :
    (run regs reads).state_machine =
      ⟨regs.state_machine.state, Context.dequeue^[reads.length] regs.state_machine.context⟩ := by
  induction reads generalizing regs with
  | nil => rfl
  | cons a reads ih =>
    obtain ⟨port, size, rfl⟩ := hreads a List.mem_cons_self
    have hp := (Access.perform_read_dout h port size).2
    rw [run_cons, ih (by rw [hp]; exact h) (fun a ha => hreads a (List.mem_cons_of_mem _ ha)), hp]
    simp [Function.iterate_succ_apply]

/-- Once the owner has sent a message, the state machine waits for the receiver with the
message's words enqueued behind the latched length. -/
theorem run_send {regs : MailboxRegs} (h : regs.state_machine.state = .RdyForDlen) (owner : Port)
    (hu : owner.requester = regs.state_machine.context.user) (dlen : UInt32) (words : List UInt32) :
    let sm := (run regs (send owner dlen words)).state_machine
    sm.state.IsExec ∧
      sm.context = words.foldl Context.enqueue (regs.state_machine.context.init_dlen dlen) := by
  have hdlen := Access.perform_write_dlen h owner .Word dlen
  have hdin := run_write_din (by rw [hdlen]) owner .Word words
  rw [hdlen] at hdin
  have hex := Access.perform_write_ex_set (by rw [hdin]) owner
    (by rw [hdin, Context.foldl_enqueue]; exact hu) .Word
  rw [hdin] at hex
  simp only [send, List.cons_append, run_cons, run_append]
  exact hex

/-- Whoever reads DATAOUT after the owner has sent `words` with data length `dlen` reads the
words in order while the latched length lasts, and 0 once it is used up. -/
theorem read_dout_after_send {pre reads : List Access} {owner : Port}
    (hstate : (run MailboxRegs.new pre).state_machine.state = .RdyForDlen)
    (huser : owner.requester = (run MailboxRegs.new pre).state_machine.context.user)
    (hreads : ∀ a ∈ reads, ∃ port size, a = .read port size 0x14)
    (dlen : UInt32) (words : List UInt32) (reader : Port) (size : RvSize) :
    let reply := ((Access.read reader size 0x14).perform
      (run (run (run MailboxRegs.new pre) (send owner dlen words)) reads)).1
    (∀ w, words[reads.length]? = some w →
        4 * reads.length < min dlen.toNat MAX_MAILBOX_CAPACITY_BYTES → reply = .data (.ok w)) ∧
      (min dlen.toNat MAX_MAILBOX_CAPACITY_BYTES ≤ 4 * reads.length → reply = .data (.ok 0)) := by
  intro reply
  obtain ⟨hexec, hctx⟩ := run_send hstate owner huser dlen words
  set c := (run MailboxRegs.new pre).state_machine.context with hc
  set sent := run (run MailboxRegs.new pre) (send owner dlen words)
  -- the message as it sits in the FIFO
  set f := words.foldl Fifo.enqueue (c.fifo.reset.latch_dlen dlen.toNat) with hf
  have hfifo : sent.state_machine.context.fifo = f := by
    rw [hctx, Context.foldl_enqueue]
    rfl
  have hlatched : f.latched_dlen.toNat = min dlen.toNat MAX_MAILBOX_CAPACITY_BYTES := by
    rw [hf, Fifo.foldl_enqueue_eq _ Fifo.enqueue_latched_dlen, Fifo.latch_dlen_latched_dlen _
      (by rw [Fifo.reset_capacity, hc, run_capacity]; decide) dlen.toNat_lt, Fifo.reset_capacity,
      hc, run_capacity]
  have hread0 : f.ReadAt 0 :=
    Fifo.readAt_zero (by rw [hf, Fifo.foldl_enqueue_eq _ Fifo.enqueue_read_index]; simp)
  -- the reader after `reads`
  have hrun := run_read_dout hexec hreads
  have hreply : reply = .data (.ok (Context.dequeue^[reads.length]
      sent.state_machine.context).dequeue.data_out) := by
    have hexec' : (run sent reads).state_machine.state.IsExec := by rw [hrun]; exact hexec
    have := (Access.perform_read_dout hexec' reader size).1
    rw [hrun] at this
    exact this
  obtain ⟨hL, hram⟩ := Context.iterate_dequeue_fifo reads.length sent.state_machine.context
  have hat := Context.iterate_dequeue_readAt (by rw [hfifo]; exact hread0) reads.length
  rw [Nat.zero_add] at hat
  have hdata : (Context.dequeue^[reads.length] sent.state_machine.context).dequeue.data_out =
      if 4 * reads.length < min dlen.toNat MAX_MAILBOX_CAPACITY_BYTES then
        f.mailbox_ram (4 * reads.length) else 0 := by
    simp only [Context.dequeue, hat.dequeue_fst, hL, hram, hfifo, hlatched]
    split_ifs <;> rfl
  refine ⟨fun w hw hlt => ?_, fun hge => ?_⟩
  · obtain ⟨hi, rfl⟩ := List.getElem?_eq_some_iff.mp hw
    rw [hreply, hdata, if_pos hlt]
    have hcap : 4 * (0 + reads.length) < (c.fifo.reset.latch_dlen dlen.toNat).capacity := by
      rw [Fifo.latch_dlen_capacity, Fifo.reset_capacity, hc, run_capacity]; omega
    have := Fifo.foldl_enqueue_mailbox_ram words (j := 0) (by simp) hi hcap
    rw [Nat.zero_add] at this
    rw [hf, this]
  · rw [hreply, hdata, if_neg (by omega)]

/-- Caliptra takes the lock and writes a command. -/
def lock_and_command : List Access := [.read .internal .Word 0x00, .write .internal .Word 0x08 1]

/-- Caliptra sends two words; the SoC has read the first and reads the second. -/
theorem read_dout_after_send_second_word :
    (run MailboxRegs.new lock_and_command).state_machine.state = .RdyForDlen ∧
      Port.internal.requester = (run MailboxRegs.new lock_and_command).state_machine.context.user ∧
      (∀ a ∈ [Access.read (.external (.SocUser 7)) .Word 0x14],
        ∃ port size, a = .read port size 0x14) ∧
      let reply := ((Access.read (.external (.SocUser 7)) .Word 0x14).perform
        (run (run (run MailboxRegs.new lock_and_command) (send .internal 8 [5, 6]))
          [Access.read (.external (.SocUser 7)) .Word 0x14])).1
      (∀ w, [(5 : UInt32), 6][1]? = some w →
          4 * 1 < min (8 : UInt32).toNat MAX_MAILBOX_CAPACITY_BYTES → reply = .data (.ok w)) ∧
        (min (8 : UInt32).toNat MAX_MAILBOX_CAPACITY_BYTES ≤ 4 * 1 → reply = .data (.ok 0)) := by
  have hstate : (run MailboxRegs.new lock_and_command).state_machine.state = .RdyForDlen := rfl
  have huser : Port.internal.requester =
      (run MailboxRegs.new lock_and_command).state_machine.context.user := rfl
  have hreads : ∀ a ∈ [Access.read (.external (.SocUser 7)) .Word 0x14],
      ∃ port size, a = .read port size 0x14 := by
    simp
  exact ⟨hstate, huser, hreads,
    read_dout_after_send hstate huser hreads 8 [5, 6] (.external (.SocUser 7)) .Word⟩

example : ((Access.read (.external (.SocUser 7)) .Word 0x14).perform
    (run (run MailboxRegs.new lock_and_command) (send .internal 8 [5, 6]))).1 = .data (.ok 5) :=
  rfl

end Caliptra.Emulator
