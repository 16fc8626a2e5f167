import LbbsIo.Cli

/-!
# The process

io.c's state in a running BBS is the registry, the session list, and the stack of every
connection, with the descriptors of the connections' owners. Modules register and unregister
transformers as they load and unload; connections register their sessions, set transformations
up on their own stacks and tear them down; the sysop adds transformations from the console. Each
of these is one `BbsOp`, and `Bbs.run` is the process after a sequence of them, starting with
empty lists and empty stacks, each call made whole before the next begins. That is the process
with its calls serialised; the code takes its locks section by section, and `LbbsIo.Threads`
models it so and says which of its executions end where a serial run ends.
-/

namespace LbbsIo

variable {n : Nat}

/-- One call into io.c that changes its state. -/
inductive BbsOp
  /-- A module registers or unregisters a transformer. -/
  | registry (op : RegistryOp)
  /-- A connection registers or unregisters its session. -/
  | session (op : SessionOp)
  /-- The connection whose stack is at `s`, with owner at `owner`, calls
  `bbs_io_transform_setup`. -/
  | setup (s owner : Ptr) (hook : SetupHook) (type : BbsIoTransformType) (direction : Nat)
      (arg : Option Ptr)
  /-- The connection whose stack is at `s` calls `bbs_io_teardown_all_transformers`. -/
  | teardownAll (s : Ptr)
  /-- The sysop runs `io transformation add <id> <name>`. -/
  | transformationAdd (hook : SetupHook) (id : BitVec 32) (name : CStr)

/-- No transformers, no sessions, every stack empty; `ownerAt` gives each owner's descriptors. -/
def Bbs.init (capacity : Nat) (ownerAt : Ptr → Fds) : Bbs capacity :=
  ⟨[], Sessions.init, fun _ => StackState.init capacity, ownerAt⟩

/-- One call, made whole before any other begins. -/
def Bbs.step (bbs : Bbs n) : BbsOp → Bbs n
  | .registry op => ⟨registryStep bbs.transformers op, bbs.sessions, bbs.stackAt, bbs.ownerAt⟩
  | .session op => ⟨bbs.transformers, bbs.sessions.step op, bbs.stackAt, bbs.ownerAt⟩
  | .setup s owner hook type direction arg => (bbs.transformSetup hook s owner type direction arg).2
  | .teardownAll s =>
    ⟨bbs.transformers, bbs.sessions,
      Function.update bbs.stackAt s ((bbs.stackAt s).step .teardownAll), bbs.ownerAt⟩
  | .transformationAdd hook id name => (cliIoSessionTransformationAdd hook bbs id name).2.1

def Bbs.run (bbs : Bbs n) (ops : List BbsOp) : Bbs n := ops.foldl Bbs.step bbs

@[simp] theorem Bbs.run_nil (bbs : Bbs n) : bbs.run [] = bbs := rfl

@[simp] theorem Bbs.run_cons (bbs : Bbs n) (op : BbsOp) (ops : List BbsOp) :
    bbs.run (op :: ops) = (bbs.step op).run ops := rfl

theorem Bbs.run_append (bbs : Bbs n) (ops ops' : List BbsOp) :
    bbs.run (ops ++ ops') = (bbs.run ops).run ops' := List.foldl_append _ _ _ _

/-- The registry calls of a run, in order. -/
def BbsOp.registryOp? : BbsOp → Option RegistryOp
  | .registry op => some op
  | _ => none

/-- The session calls of a run, in order. -/
def BbsOp.sessionOp? : BbsOp → Option SessionOp
  | .session op => some op
  | _ => none

end LbbsIo
