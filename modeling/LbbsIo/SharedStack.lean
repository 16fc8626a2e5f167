import LbbsIo.Stack

/-!
# Threads on one stack

`bbs_io_transform_setup` takes no lock on the stack it changes. It checks the stack, calls the
hook, and stores, holding only a read lock on the registry, which any other setup may hold at the
same time. `io_transform_store` notes the assumption this rests on: only one thread is really
handling a node's I/O at a time. `io transformation add` breaks it: the console's thread runs a
setup on a stack whose connection, or a second console, may be in a setup of its own, and
`cli_io_session_transformation_add` holds the session list only for reading.

A setup here is two steps: the checks up to and including the hook call, then the store. Each
thread is at one of its phases, and a schedule of thread indices interleaves their steps over one
shared stack. This is coarser than the machine: the store's test of a slot and its two writes
(`io_transform_store`) are one step here, and the code runs them with nothing held. So an outcome
reached here is reached by the code, but an outcome the model never reaches may still happen; the
model serves to show what racing setups can do, not what they cannot. What runs with one writer
per stack can do is stated over the whole process in `LbbsIo.Threads`.
-/

namespace LbbsIo

variable {n : Nat}

/-- The first step of `bbs_io_transform_setup`, up to the hook call: the call returns (`.inl`),
or the hook of `t` succeeded with `outcome` and the store comes next (`.inr`). -/
def setupCheck (hook : SetupHook) (transformers : List BbsIoTransformer)
    (trans : BbsIoTransformations n) (type : BbsIoTransformType) (direction : Nat)
    (rfd wfd : Int) (arg : Option Ptr) : SetupResult n ⊕ (BbsIoTransformer × SetupOutcome) :=
  if !bbsIoTransformPossible trans type then .inl ⟨-1, trans, rfd, wfd, []⟩
  else if !ioTransformSlotsFree trans then .inl ⟨-1, trans, rfd, wfd, []⟩
  else match suitableTransformer transformers type direction with
  | none => .inl ⟨-1, trans, rfd, wfd, []⟩
  | some t =>
    let outcome := hook t.setup rfd wfd direction arg
    if outcome.res = 0 then .inr (t, outcome)
    else .inl ⟨outcome.res, trans, outcome.rfd, outcome.wfd, [.setup t outcome.res outcome.data]⟩

/-- The second step, on the stack as it is when the thread gets there: `io_transform_store`, and
then the cleanup and return value 1 when it fails, or the module reference when it succeeds. -/
def setupStore (trans : BbsIoTransformations n) (t : BbsIoTransformer) (outcome : SetupOutcome) :
    SetupResult n :=
  match ioTransformStore trans t outcome.data with
  | none => ⟨1, trans, outcome.rfd, outcome.wfd, [.cleanup t outcome.data]⟩
  | some trans' => ⟨0, trans', outcome.rfd, outcome.wfd, [.moduleRef t.module]⟩

/-- A thread in a call of `bbs_io_transform_setup`. -/
inductive SetupThread
  | ready (hook : SetupHook) (transformers : List BbsIoTransformer) (type : BbsIoTransformType)
      (direction : Nat) (rfd wfd : Int) (arg : Option Ptr)
  | checked (t : BbsIoTransformer) (outcome : SetupOutcome)
  | returned (res : Int)

/-- One step of a thread on the shared stack. The hook call is in the trace when it is made; the
store, with its test of a slot and its two writes, is one step. -/
def SetupThread.advance (st : StackState n) : SetupThread → StackState n × SetupThread
  | .ready hook transformers type direction rfd wfd arg =>
    match setupCheck hook transformers st.trans type direction rfd wfd arg with
    | .inl result => (⟨st.trans, st.trace ++ result.effects⟩, .returned result.res)
    | .inr (t, outcome) =>
      (⟨st.trans, st.trace ++ [.setup t outcome.res outcome.data]⟩, .checked t outcome)
  | .checked t outcome =>
    let result := setupStore st.trans t outcome
    (⟨result.trans, st.trace ++ result.effects⟩, .returned result.res)
  | .returned res => (st, .returned res)

/-- A stack and the threads in setups on it. -/
structure SharedStack (capacity : Nat) where
  stack : StackState capacity
  threads : List SetupThread

/-- Thread `i` takes a step; an index with no thread changes nothing. -/
def SharedStack.step (sh : SharedStack n) (i : Nat) : SharedStack n :=
  match sh.threads[i]? with
  | some th => ⟨(th.advance sh.stack).1, sh.threads.set i (th.advance sh.stack).2⟩
  | none => sh

def SharedStack.run (sh : SharedStack n) (schedule : List Nat) : SharedStack n :=
  schedule.foldl SharedStack.step sh

end LbbsIo
