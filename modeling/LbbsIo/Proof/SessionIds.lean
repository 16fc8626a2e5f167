import LbbsIo.Proof.Sessions
import Mathlib.Data.List.Pairwise
import Mathlib.Algebra.Group.Nat.Basic

/-!
# Session numbers

The spec describes session numbers as an unbounded counter: each new session gets a number
larger than every number before it, none is reused, and a number names one session. io.c keeps
the counter in an `unsigned int`. `SpecSessions` below is the list as the spec describes it,
numbered by a natural number; the code's list is its image under truncation to 32 bits. Below
`2 ^ 32` issued numbers the truncation changes nothing and the spec's properties carry over; the
`2 ^ 32`-th number is 0, and the one after it repeats the first.
-/

namespace LbbsIo

/-- A session numbered by the spec's unbounded counter. -/
structure SpecSession where
  s : Ptr
  id : Nat
  start : Int
  type : BbsIoSessionType
  owner : Ptr

/-- The session list of the spec, with the count of numbers issued so far. -/
structure SpecSessions where
  sessions : List SpecSession
  issued : Nat

def SpecSessions.init : SpecSessions := ⟨[], 0⟩

def SpecSessions.step (st : SpecSessions) : SessionOp → SpecSessions
  | .register s type owner now allocOk =>
    if st.sessions.any (·.s = s) then st
    else if allocOk then ⟨st.sessions ++ [⟨s, st.issued + 1, now, type, owner⟩], st.issued + 1⟩
    else st
  | .unregister s => ⟨st.sessions.eraseP (·.s = s), st.issued⟩

def SpecSessions.run (st : SpecSessions) (ops : List SessionOp) : SpecSessions :=
  ops.foldl SpecSessions.step st

/-- The session as the code stores it: the number truncated to an `unsigned int`. -/
def SpecSession.impl (x : SpecSession) : IoSession :=
  ⟨x.s, BitVec.ofNat 32 x.id, x.start, x.type, x.owner⟩

def SpecSessions.impl (st : SpecSessions) : Sessions :=
  ⟨st.sessions.map SpecSession.impl, BitVec.ofNat 32 st.issued⟩

/-! ### The code refines the spec -/

theorem any_map_impl (sessions : List SpecSession) (s : Ptr) :
    (sessions.map SpecSession.impl).any (·.s = s) = sessions.any (·.s = s) := by
  induction sessions with
  | nil => rfl
  | cons x xs ih => simp [SpecSession.impl, ih]

/-- One call on the code's list is one call on the spec's list, seen through truncation. -/
theorem SpecSessions.impl_step (st : SpecSessions) (op : SessionOp) :
    st.impl.step op = (st.step op).impl := by
  cases op with
  | register s type owner now allocOk =>
    simp only [Sessions.step, SpecSessions.step, bbsIoSessionRegister, SpecSessions.impl,
      any_map_impl]
    split
    · rfl
    · split
      · simp [SpecSession.impl, BitVec.ofNat_add]
      · rfl
  | unregister s =>
    simp only [Sessions.step, SpecSessions.step, bbsIoSessionUnregister, SpecSessions.impl,
      removeFirst_snd, List.eraseP_map]
    rfl

theorem SpecSessions.impl_run (st : SpecSessions) (ops : List SessionOp) :
    st.impl.run ops = (st.run ops).impl := by
  induction ops generalizing st with
  | nil => rfl
  | cons op ops ih => rw [Sessions.run_cons, impl_step, ih]; rfl

theorem Sessions.init_run_eq_impl (ops : List SessionOp) :
    Sessions.init.run ops = (SpecSessions.init.run ops).impl :=
  SpecSessions.impl_run SpecSessions.init ops

/-! ### The spec's numbers increase -/

/-- In the spec, numbers increase along the list and none exceeds the count issued. -/
structure SpecSessions.Inv (st : SpecSessions) : Prop where
  ids_increase : st.sessions.Pairwise (·.id < ·.id)
  ids_issued : ∀ x ∈ st.sessions, 0 < x.id ∧ x.id ≤ st.issued

theorem SpecSessions.Inv.step {st : SpecSessions} (hinv : st.Inv) (op : SessionOp) :
    (st.step op).Inv := by
  cases op with
  | register s type owner now allocOk =>
    simp only [SpecSessions.step]
    split
    · exact hinv
    · split
      · refine ⟨List.pairwise_append.2 ⟨hinv.ids_increase, List.pairwise_singleton _ _, ?_⟩, ?_⟩
        · simp only [List.mem_singleton]
          rintro a ha _ rfl
          exact Nat.lt_succ_of_le (hinv.ids_issued a ha).2
        · simp only [List.mem_append, List.mem_singleton]
          rintro x (hx | rfl)
          · exact ⟨(hinv.ids_issued x hx).1, Nat.le_succ_of_le (hinv.ids_issued x hx).2⟩
          · exact ⟨Nat.succ_pos _, le_rfl⟩
      · exact hinv
  | unregister s =>
    exact ⟨hinv.ids_increase.sublist (List.eraseP_sublist _),
      fun x hx => hinv.ids_issued x (List.mem_of_mem_eraseP hx)⟩

theorem SpecSessions.inv_run (ops : List SessionOp) : (SpecSessions.init.run ops).Inv := by
  suffices ∀ st : SpecSessions, st.Inv → (st.run ops).Inv from
    this _ ⟨List.Pairwise.nil, fun _ h => nomatch h⟩
  induction ops with
  | nil => exact fun _ h => h
  | cons op ops ih => exact fun st h => ih _ (h.step op)

/-- **Below `2 ^ 32` numbers, the code numbers as the spec does.** While fewer than `2 ^ 32`
sessions have been registered, the live sessions' numbers increase along the list, none exceeds
the counter, and `find_io_session` finds each live session by its number. -/
theorem sessionIds_ordered_below_wrap (ops : List SessionOp)
    (hbelow : (SpecSessions.init.run ops).issued < 2 ^ 32) :
    let st : Sessions := Sessions.init.run ops
    st.sessions.Pairwise (fun a b => a.id.toNat < b.id.toNat) ∧
    (∀ x ∈ st.sessions, x.id.toNat ≤ st.ioSessionIo.toNat) ∧
    ∀ x ∈ st.sessions, findIoSession st.sessions x.id = some x := by
  intro st
  have hinv := SpecSessions.inv_run ops
  have hst : st = (SpecSessions.init.run ops).impl := SpecSessions.impl_run SpecSessions.init ops
  generalize SpecSessions.init.run ops = spec at hinv hbelow hst
  have htoNat : ∀ x ∈ spec.sessions, x.impl.id.toNat = x.id := fun x hx => by
    simp only [SpecSession.impl, BitVec.toNat_ofNat]
    exact Nat.mod_eq_of_lt ((hinv.ids_issued x hx).2.trans_lt hbelow)
  have hincrease : st.sessions.Pairwise (fun a b => a.id.toNat < b.id.toNat) := by
    rw [hst, SpecSessions.impl, List.pairwise_map]
    exact hinv.ids_increase.imp_of_mem fun ha hb h => by rw [htoNat _ ha, htoNat _ hb]; exact h
  refine ⟨hincrease, ?_, fun x hx => ?_⟩
  · rw [hst]
    simp only [SpecSessions.impl, List.mem_map, BitVec.toNat_ofNat, Nat.mod_eq_of_lt hbelow]
    rintro _ ⟨x, hx, rfl⟩
    exact (htoNat x hx).symm ▸ (hinv.ids_issued x hx).2
  · obtain ⟨pre, post, hsplit⟩ := List.append_of_mem hx
    rw [hsplit] at hincrease ⊢
    have hpre : ∀ y ∈ pre, y.id ≠ x.id := fun y hy h => by
      have := (List.pairwise_append.1 hincrease).2.2 y hy x (List.mem_cons_self _ _)
      rw [h] at this
      exact lt_irrefl _ this
    simp [findIoSession, List.find?_append]
    exact .inr hpre

/-- Two sessions, far below the wrap. -/
theorem sessionIds_ordered_two_sessions :
    let ops := [SessionOp.register 1 .transformSessionNode 100 0 true,
      .register 3 .transformSessionNode 300 0 true]
    (SpecSessions.init.run ops).issued < 2 ^ 32 ∧
    let st : Sessions := Sessions.init.run ops
    st.sessions.Pairwise (fun a b => a.id.toNat < b.id.toNat) ∧
    (∀ x ∈ st.sessions, x.id.toNat ≤ st.ioSessionIo.toNat) ∧
    ∀ x ∈ st.sessions, findIoSession st.sessions x.id = some x :=
  ⟨by decide, sessionIds_ordered_below_wrap _ (by decide)⟩

/-! ### Past the wrap -/

/-- `k` rounds of a connection on stack 2 registering and unregistering. -/
def churn : Nat → List SessionOp
  | 0 => []
  | k + 1 => .register 2 .transformSessionTcpclient 200 0 true :: .unregister 2 :: churn k

theorem SpecSessions.run_cons (st : SpecSessions) (op : SessionOp) (ops : List SessionOp) :
    st.run (op :: ops) = (st.step op).run ops := rfl

theorem SpecSessions.run_append (st : SpecSessions) (ops ops' : List SessionOp) :
    st.run (ops ++ ops') = (st.run ops).run ops' := List.foldl_append _ _ _ _

/-- Churn on a stack without a session leaves the list as it was and issues one number a round. -/
theorem SpecSessions.run_churn (st : SpecSessions) (hfresh : ∀ x ∈ st.sessions, x.s ≠ 2)
    (k : Nat) : st.run (churn k) = ⟨st.sessions, st.issued + k⟩ := by
  induction k generalizing st with
  | zero => rfl
  | succ k ih =>
    have hany : st.sessions.any (·.s = 2) = false := by simpa using hfresh
    have herase : (st.sessions ++
        [(⟨2, st.issued + 1, 0, .transformSessionTcpclient, 200⟩ : SpecSession)]).eraseP
        (·.s = 2) = st.sessions := by
      rw [List.eraseP_append_right _ (by simpa using hfresh)]
      simp
    simp only [churn, SpecSessions.run, List.foldl_cons, SpecSessions.step, hany, if_true,
      Bool.false_eq_true, if_false, herase]
    rw [← SpecSessions.run, ih ⟨st.sessions, st.issued + 1⟩ hfresh]
    simp only [Nat.add_right_comm _ 1 k, Nat.add_assoc]

/-- After one session on stack 1, `2 ^ 32 - 1` sessions come and go on stack 2, and a session on
stack 3 is registered: the counter has wrapped, stack 3's session gets number 1, which stack 1's
session still has, and `find_io_session(1)` returns stack 1's. -/
theorem sessionId_reissued_after_wrap :
    let st : Sessions := Sessions.init.run
      (.register 1 .transformSessionNode 100 0 true :: churn (2 ^ 32 - 1) ++
        [.register 3 .transformSessionNode 300 0 true])
    st.sessions.map (·.s) = [1, 3] ∧ st.sessions.map (·.id) = [1, 1] ∧
      (findIoSession st.sessions 1).map (·.s) = some 1 := by
  intro st
  have hrun : SpecSessions.init.run (.register 1 .transformSessionNode 100 0 true ::
      churn (2 ^ 32 - 1) ++ [.register 3 .transformSessionNode 300 0 true]) =
      ⟨[⟨1, 1, 0, .transformSessionNode, 100⟩, ⟨3, 2 ^ 32 + 1, 0, .transformSessionNode, 300⟩],
        2 ^ 32 + 1⟩ := by
    have hfirst : SpecSessions.init.step (.register 1 .transformSessionNode 100 0 true) =
        ⟨[⟨1, 1, 0, .transformSessionNode, 100⟩], 1⟩ := rfl
    rw [SpecSessions.run_append, SpecSessions.run_cons SpecSessions.init, hfirst,
      SpecSessions.run_churn _ (by simp)]
    rfl
  have hst : st = _ := SpecSessions.impl_run SpecSessions.init _
  rw [hst, hrun]
  decide

end LbbsIo
