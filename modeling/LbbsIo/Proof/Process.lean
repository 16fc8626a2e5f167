import LbbsIo.Process
import LbbsIo.Proof.Cli
import LbbsIo.Proof.Registry
import LbbsIo.Proof.Sessions

/-!
# Serial runs of the process keep each component's invariants

Each call of the process changes one component, and changes it as that component's own
operations do: the registry only by register and unregister, the session list only by session
register and unregister, and a stack only by setups and teardowns, whether a connection or the
console makes them. So after a serial run the registry is one its own calls reach, likewise the
session list, and every stack is one a connection reaches by setups and teardowns alone; every
invariant proved of a component holds of it. `LbbsIo.Proof.Threads` carries this over to the
threads of the process.
-/

namespace LbbsIo

variable {n : Nat}

/-! ### The registry and the session list -/

theorem Bbs.run_transformers (bbs : Bbs n) (ops : List BbsOp) :
    (bbs.run ops).transformers =
      (ops.filterMap BbsOp.registryOp?).foldl registryStep bbs.transformers := by
  induction ops generalizing bbs with
  | nil => rfl
  | cons op ops ih =>
    rw [Bbs.run_cons, ih]
    cases op with
    | transformationAdd hook id name =>
      exact congrArg (List.foldl registryStep · _)
        (cliIoSessionTransformationAdd_frame hook bbs id name).1
    | _ => rfl

theorem Bbs.run_sessions (bbs : Bbs n) (ops : List BbsOp) :
    (bbs.run ops).sessions = bbs.sessions.run (ops.filterMap BbsOp.sessionOp?) := by
  induction ops generalizing bbs with
  | nil => rfl
  | cons op ops ih =>
    rw [Bbs.run_cons, ih]
    cases op with
    | transformationAdd hook id name =>
      exact congrArg (Sessions.run · _)
        (cliIoSessionTransformationAdd_frame hook bbs id name).2.1
    | _ => rfl

/-! ### The stacks -/

/-- Replacing the stack at `s'` by one step of it moves every stack by a run of its own. -/
theorem update_step_run (stackAt : Ptr → StackState n) (s' : Ptr) (op : StackOp) (s : Ptr) :
    ∃ stackOps : List StackOp,
      Function.update stackAt s' ((stackAt s').step op) s = (stackAt s).run stackOps := by
  by_cases h : s = s'
  · subst h
    exact ⟨[op], by rw [Function.update_same]; rfl⟩
  · exact ⟨[], Function.update_noteq h _ _⟩

theorem Bbs.transformSetup_stackAt (bbs : Bbs n) (hook : SetupHook) (s' owner : Ptr)
    (type : BbsIoTransformType) (direction : Nat) (arg : Option Ptr) (s : Ptr) :
    ∃ stackOps : List StackOp,
      (bbs.transformSetup hook s' owner type direction arg).2.stackAt s =
        (bbs.stackAt s).run stackOps :=
  update_step_run bbs.stackAt s' (.setup hook bbs.transformers type direction
    (bbs.ownerAt owner).rfd (bbs.ownerAt owner).wfd arg) s

theorem Bbs.step_stackAt (bbs : Bbs n) (op : BbsOp) (s : Ptr) :
    ∃ stackOps : List StackOp, (bbs.step op).stackAt s = (bbs.stackAt s).run stackOps := by
  cases op with
  | registry op => exact ⟨[], rfl⟩
  | session op => exact ⟨[], rfl⟩
  | setup s' owner hook type direction arg =>
    exact bbs.transformSetup_stackAt hook s' owner type direction arg s
  | teardownAll s' => exact update_step_run bbs.stackAt s' .teardownAll s
  | transformationAdd hook id name =>
    rcases cliIoSessionTransformationAdd_snd hook bbs id name with h | ⟨session, type, -, h⟩
    · exact ⟨[], by rw [Bbs.step, h]; rfl⟩
    · rw [Bbs.step, h]
      exact bbs.transformSetup_stackAt hook _ _ type _ none s

theorem Bbs.run_stackAt (bbs : Bbs n) (ops : List BbsOp) (s : Ptr) :
    ∃ stackOps : List StackOp, (bbs.run ops).stackAt s = (bbs.stackAt s).run stackOps := by
  induction ops generalizing bbs with
  | nil => exact ⟨[], rfl⟩
  | cons op ops ih =>
    obtain ⟨first, hfirst⟩ := bbs.step_stackAt op s
    obtain ⟨rest, hrest⟩ := ih (bbs.step op)
    exact ⟨first ++ rest, by rw [Bbs.run_cons, hrest, hfirst, StackState.run_append]⟩

/-! ### The whole process -/

/-- A serial run of the process keeps every component's invariants: registered names distinct up
to case, no stack with two sessions, and the stack invariant on every stack. -/
theorem Bbs.run_keeps_invariants (ownerAt : Ptr → Fds) (ops : List BbsOp) :
    let bbs : Bbs n := (Bbs.init n ownerAt).run ops
    NamesDistinct bbs.transformers ∧ StacksDistinct bbs.sessions ∧
      ∀ s, StackInv (bbs.stackAt s) := by
  intro bbs
  refine ⟨?_, ?_, fun s => ?_⟩
  · rw [show bbs.transformers = _ from Bbs.run_transformers _ ops]
    exact namesDistinct_registryRun _
  · rw [show bbs.sessions = _ from Bbs.run_sessions _ ops]
    exact stacksDistinct_run _
  · obtain ⟨stackOps, h⟩ := Bbs.run_stackAt (Bbs.init n ownerAt) ops s
    rw [show bbs.stackAt s = _ from h]
    exact stackInv_run stackOps

end LbbsIo
