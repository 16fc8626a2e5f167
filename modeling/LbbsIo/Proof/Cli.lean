import LbbsIo.Cli
import LbbsIo.Proof.NullData

/-!
# What `io transformation add` installs

The command resolves the name only to a type. `bbs_io_transform_setup` then searches the registry
by type and direction, and installs the first transformer that fits, which is the named one only
when no transformer registered before it has the same type and a direction mask that meets
`TRANSFORM_SERVER_CLIENT_TX_RX`. The line it prints names the transformer asked for, whichever it
installed.
-/

namespace LbbsIo

variable {n : Nat}

/-- **`io transformation add` installs the first transformer of the named one's type.** When the
command succeeds, `id` numbers a session, `name` is registered under exactly that name with some
type, and the first empty slot of the session's stack now holds the first registered transformer
of that type whose direction mask meets `TRANSFORM_SERVER_CLIENT_TX_RX`, with the data its hook
returned; every other slot is as it was. -/
theorem cliAdd_installs_first_of_type (hook : SetupHook) (bbs : Bbs n) (id : BitVec 32)
    (name : CStr) (hres : (cliIoSessionTransformationAdd hook bbs id name).1 = 0) :
    ∃ session type t pre post,
      findIoSession bbs.sessions.sessions id = some session ∧
      transformTypeFromName bbs.transformers name = some type ∧
      suitableTransformer bbs.transformers type transformServerClientTxRx = some t ∧
      (bbs.stackAt session.s).trans.transformations = pre ++ .empty :: post ∧
      (∀ s ∈ pre, s ≠ .empty) ∧
      ((cliIoSessionTransformationAdd hook bbs id name).2.1.stackAt
          session.s).trans.transformations =
        pre ++ .stored t (hook t.setup (bbs.ownerAt session.owner).rfd
          (bbs.ownerAt session.owner).wfd transformServerClientTxRx none).data :: post := by
  by_cases havail : bbsIoNamedTransformerAvailable bbs.transformers name = 0
  · simp [cliIoSessionTransformationAdd, havail] at hres
  cases hfind : findIoSession bbs.sessions.sessions id with
  | none => simp [cliIoSessionTransformationAdd, havail, hfind] at hres
  | some session =>
    cases htype : transformTypeFromName bbs.transformers name with
    | none => simp [cliIoSessionTransformationAdd, havail, hfind, htype] at hres
    | some type =>
      simp only [cliIoSessionTransformationAdd, Bbs.transformSetup, Bbs.afterSetup, havail, hfind,
        htype, if_false] at hres ⊢
      obtain ⟨t, pre, post, hsuitable, hslots, hpre, hslots', -⟩ :=
        bbsIoTransformSetup_success hook bbs.transformers (bbs.stackAt session.s).trans type
          transformServerClientTxRx _ _ none hres
      exact ⟨session, type, t, pre, post, rfl, rfl, hsuitable, hslots, hpre,
        by simpa using hslots'⟩

/-- The command changes nothing, or it is one setup call on the stack of the session numbered
`id`, with the descriptors of the session's owner. -/
theorem cliIoSessionTransformationAdd_snd (hook : SetupHook) (bbs : Bbs n) (id : BitVec 32)
    (name : CStr) :
    (cliIoSessionTransformationAdd hook bbs id name).2.1 = bbs ∨
      ∃ session type, findIoSession bbs.sessions.sessions id = some session ∧
        (cliIoSessionTransformationAdd hook bbs id name).2.1 =
          (bbs.transformSetup hook session.s session.owner type transformServerClientTxRx
            none).2 := by
  unfold cliIoSessionTransformationAdd
  split
  · exact .inl rfl
  · split
    · exact .inl rfl
    · rename_i session hfind
      split
      · exact .inl rfl
      · exact .inr ⟨session, _, hfind, rfl⟩

/-- Only the session's stack and its owner's descriptors change: every other stack and owner,
the registry and the session list are as they were. -/
theorem cliIoSessionTransformationAdd_frame (hook : SetupHook) (bbs : Bbs n) (id : BitVec 32)
    (name : CStr) :
    let bbs' := (cliIoSessionTransformationAdd hook bbs id name).2.1
    bbs'.transformers = bbs.transformers ∧ bbs'.sessions = bbs.sessions ∧
      (∀ s, (∀ session, findIoSession bbs.sessions.sessions id = some session → s ≠ session.s) →
        bbs'.stackAt s = bbs.stackAt s) ∧
      (∀ p, (∀ session, findIoSession bbs.sessions.sessions id = some session →
        p ≠ session.owner) → bbs'.ownerAt p = bbs.ownerAt p) := by
  dsimp only
  rcases cliIoSessionTransformationAdd_snd hook bbs id name with h | ⟨session, type, hfind, h⟩ <;>
    rw [h]
  · exact ⟨rfl, rfl, fun _ _ => rfl, fun _ _ => rfl⟩
  · exact ⟨rfl, rfl, fun s hs => Function.update_noteq (hs session hfind) _ _,
      fun p hp => Function.update_noteq (hp session hfind) _ _⟩

/-! ### Two transformers of one type -/

/-- A session-logging transformer for both directions, named `loga`, owned by module 3. -/
def firstLogger : BbsIoTransformer :=
  ⟨⟨"loga".toList.map Char.toNat, by decide⟩, .transformSessionLogging,
    transformServerClientTxRx, 30, none, 31, 3⟩

/-- A second session-logging transformer for both directions, named `logb`, owned by module 4. -/
def secondLogger : BbsIoTransformer :=
  ⟨⟨"logb".toList.map Char.toNat, by decide⟩, .transformSessionLogging,
    transformServerClientTxRx, 40, none, 41, 4⟩

/-- Both loggers registered, `loga` first; one node session, number 1, on the stack at 7 with its
node at 9; every stack empty and every owner's descriptors 5 and 6. -/
def twoLoggersBbs : Bbs maxIoTransforms :=
  ⟨registryRun [.register firstLogger true, .register secondLogger true],
    Sessions.init.step (.register 7 .transformSessionNode 9 0 true),
    fun _ => StackState.init maxIoTransforms, fun _ => ⟨5, 6⟩⟩

/-- `io transformation add 1 logb` returns 0 and prints `Enabled transformation logb`, and the
slot it fills holds `loga`. -/
theorem cliAdd_installs_other_logger :
    let result : Int × Bbs maxIoTransforms × List String :=
      cliIoSessionTransformationAdd dataHook twoLoggersBbs 1 secondLogger.name
    result.1 = 0 ∧ result.2.2 = ["Enabled transformation logb\n"] ∧
      (result.2.1.stackAt 7).trans.transformations.head? = some (.stored firstLogger (some 130)) ∧
      firstLogger.name ≠ secondLogger.name := by
  decide

/-- The same command, seen through the general statement: the transformer installed is the first
logger, the first suitable one of the registry. -/
theorem cliAdd_installs_first_logger :
    (cliIoSessionTransformationAdd dataHook twoLoggersBbs 1 secondLogger.name).1 = 0 ∧
    ∃ session type t pre post,
      findIoSession twoLoggersBbs.sessions.sessions 1 = some session ∧
      transformTypeFromName twoLoggersBbs.transformers secondLogger.name = some type ∧
      suitableTransformer twoLoggersBbs.transformers type transformServerClientTxRx = some t ∧
      (twoLoggersBbs.stackAt session.s).trans.transformations = pre ++ .empty :: post ∧
      (∀ s ∈ pre, s ≠ .empty) ∧
      ((cliIoSessionTransformationAdd dataHook twoLoggersBbs 1 secondLogger.name).2.1.stackAt
          session.s).trans.transformations =
        pre ++ .stored t (dataHook t.setup (twoLoggersBbs.ownerAt session.owner).rfd
          (twoLoggersBbs.ownerAt session.owner).wfd transformServerClientTxRx none).data :: post :=
  ⟨by decide, cliAdd_installs_first_of_type dataHook twoLoggersBbs 1 secondLogger.name (by decide)⟩

end LbbsIo
