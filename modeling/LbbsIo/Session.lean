import LbbsIo.LinkedList
import LbbsIo.Transformer

/-!
# The I/O session list

Every connection registers its transformation stack as an I/O session, so that the sysop console
can list it and find it by number. io.c keeps the sessions in one list, `sessions`, and numbers
them from the counter `io_session_io`, an `unsigned int` that `bbs_io_session_register`
increments before each use. A stack has at most one session: registering it again is refused,
and unregistering removes its session.
-/

namespace LbbsIo

/-- `enum bbs_io_session_type`: the two kinds of owner io.c switches on. -/
inductive BbsIoSessionType
  | transformSessionNode
  | transformSessionTcpclient
deriving DecidableEq, Repr

/-- `session_type_name`. -/
def sessionTypeName : BbsIoSessionType → String
  | .transformSessionNode => "Node"
  | .transformSessionTcpclient => "TCP Client"

/-- `struct io_session`: the stack, the number, `time(NULL)` at registration, and the owner. -/
structure IoSession where
  s : Ptr
  id : BitVec 32
  start : Int
  type : BbsIoSessionType
  owner : Ptr
deriving DecidableEq

/-- The list `sessions` with the counter `io_session_io`. -/
structure Sessions where
  sessions : List IoSession
  ioSessionIo : BitVec 32

/-- Both start empty and zero. -/
def Sessions.init : Sessions := ⟨[], 0⟩

/-- `bbs_io_session_register`. `now` is what `time(NULL)` returns, `allocOk` whether `calloc`
succeeded; the counter moves only when the session is added. -/
def bbsIoSessionRegister (st : Sessions) (s : Ptr) (type : BbsIoSessionType) (owner : Ptr)
    (now : Int) (allocOk : Bool) : Int × Sessions :=
  if st.sessions.any (·.s = s) then (-1, st)
  else if allocOk then
    (0, ⟨st.sessions ++ [⟨s, st.ioSessionIo + 1, now, type, owner⟩], st.ioSessionIo + 1⟩)
  else (-1, st)

/-- `bbs_io_session_unregister`. -/
def bbsIoSessionUnregister (st : Sessions) (s : Ptr) : Int × Sessions :=
  ((removeFirst (·.s = s) st.sessions).1, ⟨(removeFirst (·.s = s) st.sessions).2, st.ioSessionIo⟩)

/-- `find_io_session`: the first session with number `id`. -/
def findIoSession (sessions : List IoSession) (id : BitVec 32) : Option IoSession :=
  sessions.find? (·.id = id)

/-- A call that changes the session list. -/
inductive SessionOp
  | register (s : Ptr) (type : BbsIoSessionType) (owner : Ptr) (now : Int) (allocOk : Bool)
  | unregister (s : Ptr)

def Sessions.step (st : Sessions) : SessionOp → Sessions
  | .register s type owner now allocOk => (bbsIoSessionRegister st s type owner now allocOk).2
  | .unregister s => (bbsIoSessionUnregister st s).2

def Sessions.run (st : Sessions) (ops : List SessionOp) : Sessions := ops.foldl Sessions.step st

@[simp] theorem Sessions.run_nil (st : Sessions) : st.run [] = st := rfl

@[simp] theorem Sessions.run_cons (st : Sessions) (op : SessionOp) (ops : List SessionOp) :
    st.run (op :: ops) = (st.step op).run ops := rfl

theorem Sessions.run_append (st : Sessions) (ops ops' : List SessionOp) :
    st.run (ops ++ ops') = (st.run ops).run ops' := List.foldl_append _ _ _ _

end LbbsIo
