import LbbsIo.Session
import Mathlib.Data.List.Nodup

/-!
# One session per stack

`bbs_io_session_register` refuses a stack that already has a session, so the list never holds
two sessions of one stack; `bbs_io_session_unregister` removes the first session of the stack,
which is then its only one. Both leave the list and the counter alone when they fail.
-/

namespace LbbsIo

/-- No stack has two sessions. -/
def StacksDistinct (st : Sessions) : Prop := (st.sessions.map (·.s)).Nodup

variable {st : Sessions} {s : Ptr} {type : BbsIoSessionType} {owner : Ptr} {now : Int}
  {allocOk : Bool}

theorem bbsIoSessionRegister_fst_eq_zero_iff :
    (bbsIoSessionRegister st s type owner now allocOk).1 = 0 ↔
      (∀ x ∈ st.sessions, x.s ≠ s) ∧ allocOk = true := by
  have hfresh : st.sessions.any (·.s = s) = false ↔ ∀ x ∈ st.sessions, x.s ≠ s := by
    simp [List.any_eq_false]
  rw [← hfresh]
  unfold bbsIoSessionRegister
  cases st.sessions.any (·.s = s) <;> cases allocOk <;> simp

theorem bbsIoSessionRegister_snd :
    (bbsIoSessionRegister st s type owner now allocOk).2 =
      if (bbsIoSessionRegister st s type owner now allocOk).1 = 0 then
        ⟨st.sessions ++ [⟨s, st.ioSessionIo + 1, now, type, owner⟩], st.ioSessionIo + 1⟩
      else st := by
  unfold bbsIoSessionRegister
  by_cases hdup : st.sessions.any (·.s = s) <;> cases allocOk <;> simp [hdup]

theorem stacksDistinct_register (hdistinct : StacksDistinct st) :
    StacksDistinct (bbsIoSessionRegister st s type owner now allocOk).2 := by
  rw [bbsIoSessionRegister_snd]
  split
  · rename_i hok
    have hfresh := (bbsIoSessionRegister_fst_eq_zero_iff.1 hok).1
    exact nodup_map_append_of_not_any (fun _ => decide_eq_true_iff) hdistinct
      (List.any_eq_false.2 fun x hx h => hfresh x hx (of_decide_eq_true h)) rfl
  · exact hdistinct

theorem bbsIoSessionUnregister_fst_eq_zero_iff :
    (bbsIoSessionUnregister st s).1 = 0 ↔ ∃ x ∈ st.sessions, x.s = s := by
  simp [bbsIoSessionUnregister, removeFirst_fst_eq_zero_iff]

theorem bbsIoSessionUnregister_sessions (hdistinct : StacksDistinct st) :
    (bbsIoSessionUnregister st s).2.sessions = st.sessions.filter (·.s ≠ s) := by
  rw [bbsIoSessionUnregister, removeFirst_snd,
    eraseP_eq_filter_of_nodup (fun _ => decide_eq_true_iff) hdistinct]
  simp

theorem bbsIoSessionUnregister_of_ne_zero (h : (bbsIoSessionUnregister st s).1 ≠ 0) :
    (bbsIoSessionUnregister st s).2 = st := by
  have hnone : ∀ x ∈ st.sessions, ¬decide (x.s = s) = true := by
    simpa [bbsIoSessionUnregister_fst_eq_zero_iff] using h
  simp [bbsIoSessionUnregister, removeFirst_snd, List.eraseP_of_forall_not hnone]

theorem stacksDistinct_unregister (hdistinct : StacksDistinct st) :
    StacksDistinct (bbsIoSessionUnregister st s).2 := by
  simp only [StacksDistinct, bbsIoSessionUnregister, removeFirst_snd]
  exact nodup_map_eraseP hdistinct

theorem stacksDistinct_run (ops : List SessionOp) : StacksDistinct (Sessions.init.run ops) := by
  suffices ∀ st : Sessions, StacksDistinct st → StacksDistinct (st.run ops) from
    this _ List.nodup_nil
  induction ops with
  | nil => exact fun _ h => h
  | cons op ops ih =>
    intro st h
    cases op with
    | register s type owner now allocOk => exact ih _ (stacksDistinct_register h)
    | unregister s => exact ih _ (stacksDistinct_unregister h)

/-- **One session per stack.** After any run of register and unregister, no stack has two
sessions. Registering succeeds exactly when the stack has none and memory was there, and then
appends one session for it; unregistering succeeds exactly when the stack has one, and leaves
every other session, in its order, and none of the stack. A failed call changes neither the list
nor the counter. -/
theorem sessionRun_one_per_stack (ops : List SessionOp) :
    let st : Sessions := Sessions.init.run ops
    (st.sessions.map (·.s)).Nodup ∧
    (∀ s type owner now allocOk,
      let result := bbsIoSessionRegister st s type owner now allocOk
      (result.1 = 0 ↔ (∀ x ∈ st.sessions, x.s ≠ s) ∧ allocOk = true) ∧
      (result.1 = 0 → result.2.sessions =
        st.sessions ++ [⟨s, st.ioSessionIo + 1, now, type, owner⟩]) ∧
      (result.1 ≠ 0 → result.2 = st)) ∧
    (∀ s,
      let result := bbsIoSessionUnregister st s
      (result.1 = 0 ↔ ∃ x ∈ st.sessions, x.s = s) ∧
      result.2.sessions = st.sessions.filter (·.s ≠ s) ∧
      (result.1 ≠ 0 → result.2 = st)) := by
  intro st
  have hdistinct := stacksDistinct_run ops
  refine ⟨hdistinct, fun s type owner now allocOk => ⟨bbsIoSessionRegister_fst_eq_zero_iff,
    fun h => ?_, fun h => ?_⟩, fun s => ⟨bbsIoSessionUnregister_fst_eq_zero_iff,
    bbsIoSessionUnregister_sessions hdistinct, bbsIoSessionUnregister_of_ne_zero⟩⟩
  · rw [bbsIoSessionRegister_snd, if_pos h]
  · rw [bbsIoSessionRegister_snd, if_neg h]

end LbbsIo
