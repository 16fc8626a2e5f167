import LbbsIo.Stack
import LbbsIo.Session

/-!
# The sysop commands on I/O sessions

Of the console commands io.c registers, `io session <id>` reads one session's stack and
`io transformation add <id> <name>` changes it: it checks that a transformer is named `name`,
finds the session numbered `id`, takes the named transformer's type, and runs the stack setup
for that type on the session's stack, with the descriptors of the session's owner. The setup
then picks its transformer by type, not by name.

The commands see the whole process: the registry, the sessions, every connection's stack and
the owners' descriptors. `Bbs` collects these.
-/

namespace LbbsIo

/-- The descriptor fields of a session's owner: `node->rfd` and `node->wfd` for a node,
`tcpclient->rfd` and `tcpclient->wfd` for a TCP client. -/
structure Fds where
  rfd : Int
  wfd : Int

/-- The state the commands read and change: the transformer registry, the session list, each
connection's stack (by address) with the calls made on its behalf, and each owner's descriptors
(by address). -/
structure Bbs (capacity : Nat) where
  transformers : List BbsIoTransformer
  sessions : Sessions
  stackAt : Ptr → StackState capacity
  ownerAt : Ptr → Fds

variable {n : Nat}

/-- The name `cli_io_session` prints for a slot: that of its transformer, if the slot has data. -/
def activeName : BbsIoTransformation → Option String
  | .stored t (some _) => some t.name.text
  | _ => none

/-- `cli_io_session`. `idText` is `argv[2]` and `id` the number `atoi` reads from it; the result is
the return value and the lines written to the console. -/
def cliIoSession (bbs : Bbs n) (id : BitVec 32) (idText : String) : Int × List String :=
  match findIoSession bbs.sessions.sessions id with
  | none => (-1, ["No such I/O session: " ++ idText ++ "\n"])
  | some io =>
    let names := (bbs.stackAt io.s).trans.transformations.filterMap activeName
    (0, "Active Transformations:\n" :: names.map (· ++ "\n") ++
      ["# Active Transformations: " ++ toString names.length ++ "\n"])

/-- The process once a setup on the stack at `s`, for the owner at `owner`, has left `result`:
the stack and the owner's descriptors are those it left, and its calls follow the stack's earlier
ones. -/
def Bbs.afterSetup (bbs : Bbs n) (s owner : Ptr) (result : SetupResult n) : Bbs n :=
  ⟨bbs.transformers, bbs.sessions,
    Function.update bbs.stackAt s ⟨result.trans, (bbs.stackAt s).trace ++ result.effects⟩,
    Function.update bbs.ownerAt owner ⟨result.rfd, result.wfd⟩⟩

/-- A call of `bbs_io_transform_setup` on the stack at `s`, passing the descriptor fields of the
owner at `owner`: its return value and the process after. -/
def Bbs.transformSetup (bbs : Bbs n) (hook : SetupHook) (s owner : Ptr) (type : BbsIoTransformType)
    (direction : Nat) (arg : Option Ptr) : Int × Bbs n :=
  let fds := bbs.ownerAt owner
  let result := bbsIoTransformSetup hook bbs.transformers (bbs.stackAt s).trans type direction
    fds.rfd fds.wfd arg
  (result.res, bbs.afterSetup s owner result)

/-- `cli_io_session_transformation_add`. `id` is `(unsigned int) atoi(argv[3])` and `transformer`
is `argv[4]`; the result is the return value, the state after, and the lines written to the
console. Both owner types keep their descriptors in fields `rfd` and `wfd`, so the two branches of
the `switch` on the session type make the same call. -/
def cliIoSessionTransformationAdd (hook : SetupHook) (bbs : Bbs n) (id : BitVec 32)
    (transformer : CStr) : Int × Bbs n × List String :=
  if bbsIoNamedTransformerAvailable bbs.transformers transformer = 0 then
    (-1, bbs, ["Transformer \x27" ++ transformer.text ++ "\x27 not available\n"])
  else match findIoSession bbs.sessions.sessions id with
  | none => (-1, bbs, ["No such I/O session: " ++ transformer.text ++ "\n"])
  | some i =>
    match transformTypeFromName bbs.transformers transformer with
    | none => (-1, bbs, [])
    | some type =>
      let result := bbs.transformSetup hook i.s i.owner type transformServerClientTxRx none
      (result.1, result.2,
        [(if result.1 ≠ 0 then "Failed to enable" else "Enabled") ++ " transformation " ++
          transformer.text ++ "\n"])

end LbbsIo
