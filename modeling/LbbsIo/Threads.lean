import LbbsIo.Process

/-!
# The threads of the process

`Bbs.run` makes each call into io.c one step. The code does not: a call is a sequence of locked
sections with nothing held between them, and read locks do not exclude each other.

* `bbs_io_transform_setup` checks that the type is possible on the stack (io.c:311, each read of
  the stack under the registry's read lock, io.c:362), holds nothing for a moment, then takes the
  registry's read lock for the rest: the free-slot test, the traversal, the hook and the store
  (io.c:315–353).
* `bbs_io_teardown_all_transformers` walks the stack under the registry's read lock.
* `cli_io_session_transformation_add` checks the name (one section), then under the session list's
  read lock finds the session, takes the type and makes the setup above on the session's stack.
* Registering and unregistering a transformer or a session take the list's write lock.

Here each thread runs its calls one section at a time, and a schedule says which thread runs its
next section. A section that changes a stack starts a phase and ends it in one step: the setup's
phase runs from its check to the end of its body, the teardown's over its walk. Sections that
overlap in the code are then, in the model, one ending while the other is in its phase, so a run in
which no thread ends a phase on a stack or an owner another thread has a phase on stands for the
executions of the code in which no two sections on one stack overlap and no stack changes between
a setup's check and its body: one writer per stack at a time. The model allows more than the code
in one way: a session may go between the add's lookup and its setup, which the session list's read
lock forbids; a result for every run of the model holds for those of the code.
-/

namespace LbbsIo

variable {n : Nat}

/-- A call into io.c under way in a thread, between two of its sections. -/
inductive CallPhase
  /-- `bbs_io_transform_setup` found `type` possible on the stack at `s` and has its body to run. -/
  | setupPossible (s owner : Ptr) (hook : SetupHook) (type : BbsIoTransformType)
      (direction : Nat) (arg : Option Ptr)
  /-- `bbs_io_teardown_all_transformers` is walking the stack at `s`. -/
  | tearingDown (s : Ptr)
  /-- `io transformation add <id> <name>` found a transformer named `name`. -/
  | addAvailable (hook : SetupHook) (id : BitVec 32) (name : CStr)
  /-- The add found the session numbered `id`. -/
  | addFound (hook : SetupHook) (session : IoSession) (name : CStr)
  /-- The add took the named transformer's type. -/
  | addResolved (hook : SetupHook) (session : IoSession) (type : BbsIoTransformType)

/-- The stack a call under way is changing, or has checked before changing it. -/
def CallPhase.stack? : CallPhase → Option Ptr
  | .setupPossible s .. => some s
  | .tearingDown s => some s
  | _ => none

/-- The owner whose descriptors a setup under way hands to its hook. -/
def CallPhase.owner? : CallPhase → Option Ptr
  | .setupPossible _ owner .. => some owner
  | _ => none

/-- Two calls under way on one stack, or handing over one owner's descriptors. -/
def CallPhase.Overlaps (p q : CallPhase) : Prop :=
  (p.stack?.isSome ∧ p.stack? = q.stack?) ∨ (p.owner?.isSome ∧ p.owner? = q.owner?)

instance (p q : CallPhase) : Decidable (p.Overlaps q) := inferInstanceAs (Decidable (_ ∨ _))

/-- The first section of a call: the process after it, and the phase the call is in next, or
`none` when it has returned. -/
def startCall (bbs : Bbs n) : BbsOp → Bbs n × Option CallPhase
  | .registry op => (bbs.step (.registry op), none)
  | .session op => (bbs.step (.session op), none)
  | .setup s owner hook type direction arg =>
    (bbs, if bbsIoTransformPossible (bbs.stackAt s).trans type then
      some (.setupPossible s owner hook type direction arg) else none)
  | .teardownAll s => (bbs, some (.tearingDown s))
  | .transformationAdd hook id name =>
    (bbs, if bbsIoNamedTransformerAvailable bbs.transformers name = 0 then none
      else some (.addAvailable hook id name))

/-- The next section of a call under way. The add's setup passes the session owner's descriptors
and `TRANSFORM_SERVER_CLIENT_TX_RX`, as `cli_io_session_transformation_add` does. -/
def CallPhase.advance (bbs : Bbs n) : CallPhase → Bbs n × Option CallPhase
  | .setupPossible s owner hook type direction arg =>
    (bbs.afterSetup s owner (setupLocked hook bbs.transformers (bbs.stackAt s).trans type direction
      (bbs.ownerAt owner).rfd (bbs.ownerAt owner).wfd arg), none)
  | .tearingDown s => (bbs.step (.teardownAll s), none)
  | .addAvailable hook id name =>
    (bbs, (findIoSession bbs.sessions.sessions id).map fun session => .addFound hook session name)
  | .addFound hook session name =>
    (bbs, (transformTypeFromName bbs.transformers name).map fun type =>
      .addResolved hook session type)
  | .addResolved hook session type =>
    (bbs, if bbsIoTransformPossible (bbs.stackAt session.s).trans type then
      some (.setupPossible session.s session.owner hook type transformServerClientTxRx none)
      else none)

/-- A thread: the call it has under way, if any, and the calls it has still to make. -/
structure Thread where
  current : Option CallPhase
  program : List BbsOp

/-- The thread runs its next section. -/
def Thread.advance (bbs : Bbs n) : Thread → Bbs n × Thread
  | ⟨some phase, program⟩ => ((phase.advance bbs).1, ⟨(phase.advance bbs).2, program⟩)
  | ⟨none, op :: program⟩ => ((startCall bbs op).1, ⟨(startCall bbs op).2, program⟩)
  | ⟨none, []⟩ => (bbs, ⟨none, []⟩)

/-- The process and its threads. -/
structure Threaded (capacity : Nat) where
  bbs : Bbs capacity
  threads : List Thread

/-- The process as `Bbs.init` has it, with one thread per program, none of them in a call. -/
def Threaded.init (capacity : Nat) (ownerAt : Ptr → Fds) (programs : List (List BbsOp)) :
    Threaded capacity :=
  ⟨Bbs.init capacity ownerAt, programs.map fun program => ⟨none, program⟩⟩

/-- Thread `i` runs its next section; a number that is no thread's changes nothing. -/
def Threaded.step (th : Threaded n) (i : Nat) : Threaded n :=
  match th.threads[i]? with
  | none => th
  | some t => ⟨(t.advance th.bbs).1, th.threads.set i (t.advance th.bbs).2⟩

def Threaded.run (th : Threaded n) (schedule : List Nat) : Threaded n := schedule.foldl step th

@[simp] theorem Threaded.run_nil (th : Threaded n) : th.run [] = th := rfl

@[simp] theorem Threaded.run_cons (th : Threaded n) (i : Nat) (schedule : List Nat) :
    th.run (i :: schedule) = (th.step i).run schedule := rfl

/-- The call under way in thread `i`. -/
def Threaded.current (th : Threaded n) (i : Nat) : Option CallPhase :=
  th.threads[i]?.bind Thread.current

/-- Thread `i`'s next section ends no phase on a stack or an owner that another thread has a
phase on. -/
def Threaded.SingleWriter (th : Threaded n) (i : Nat) : Prop :=
  ∀ p ∈ th.current i, ∀ j < th.threads.length, j ≠ i → ∀ q ∈ th.current j, ¬ p.Overlaps q

instance (th : Threaded n) (i : Nat) : Decidable (th.SingleWriter i) :=
  inferInstanceAs (Decidable (∀ p ∈ th.current i, _))

/-- Every section of the run keeps the discipline. -/
def Threaded.SingleWriterRun : Threaded n → List Nat → Prop
  | _, [] => True
  | th, i :: schedule => th.SingleWriter i ∧ (th.step i).SingleWriterRun schedule

instance Threaded.decidableSingleWriterRun :
    (th : Threaded n) → (schedule : List Nat) → Decidable (th.SingleWriterRun schedule)
  | _, [] => isTrue trivial
  | th, i :: schedule =>
    haveI := Threaded.decidableSingleWriterRun (th.step i) schedule
    inferInstanceAs (Decidable (_ ∧ _))

end LbbsIo
