import LbbsIo.SharedStack
import LbbsIo.Proof.NullData

/-!
# Two setups that check before either stores

Run back to back, a thread's two steps are one call of `bbs_io_transform_setup`. Interleaved, two
threads can both pass the checks on the same stack before either stores. Then both store: with
two empty slots the stack ends with two slots with data of one type, which no sequence of calls
reaches; with one, the second store fails, and the branch that cleans up and returns 1, dead in
every sequential run, is taken.
-/

namespace LbbsIo

open BbsIoTransformation

variable {n : Nat}

section Call

variable (hook : SetupHook) (transformers : List BbsIoTransformer)
  (trans : BbsIoTransformations n) (type : BbsIoTransformType) (direction : Nat) (rfd wfd : Int)
  (arg : Option Ptr)

/-- `bbs_io_transform_setup` is its check followed by its store on the same stack. -/
theorem bbsIoTransformSetup_eq_check_store :
    bbsIoTransformSetup hook transformers trans type direction rfd wfd arg =
      match setupCheck hook transformers trans type direction rfd wfd arg with
      | .inl result => result
      | .inr (t, outcome) =>
        ⟨(setupStore trans t outcome).res, (setupStore trans t outcome).trans,
          (setupStore trans t outcome).rfd, (setupStore trans t outcome).wfd,
          .setup t outcome.res outcome.data :: (setupStore trans t outcome).effects⟩ := by
  unfold bbsIoTransformSetup setupLocked setupCheck
  split
  · rfl
  · split
    · rfl
    · cases suitableTransformer transformers type direction with
      | none => rfl
      | some t =>
        by_cases hres : (hook t.setup rfd wfd direction arg).res = 0
        · simp only [hres, if_true, setupStore]
          cases ioTransformStore trans t (hook t.setup rfd wfd direction arg).data <;> rfl
        · simp only [hres, if_false]

/-- Where the checks pass and the hook succeeds, the check step hands the store its outcome. -/
theorem setupCheck_eq_inr {t : BbsIoTransformer}
    (hpossible : bbsIoTransformPossible trans type = true)
    (hfree : .empty ∈ trans.transformations)
    (hfind : suitableTransformer transformers type direction = some t)
    (hres : (hook t.setup rfd wfd direction arg).res = 0) :
    setupCheck hook transformers trans type direction rfd wfd arg =
      .inr (t, hook t.setup rfd wfd direction arg) := by
  have hfree' : ioTransformSlotsFree trans = true := by
    simpa [ioTransformSlotsFree, transformer_eq_none_iff] using hfree
  simp [setupCheck, hpossible, hfree', hfind, hres]

/-- A check that ends the call leaves the stack as it was. -/
theorem setupCheck_inl_trans {result : SetupResult n}
    (h : setupCheck hook transformers trans type direction rfd wfd arg = .inl result) :
    result.trans = trans := by
  unfold setupCheck at h
  split at h
  · cases h; rfl
  · split at h
    · cases h; rfl
    · split at h
      · cases h; rfl
      · dsimp only at h
        split at h
        · cases h
        · cases h; rfl

end Call

/-! ### The store on a stack with an empty slot -/

section Store

variable {trans : BbsIoTransformations n} {t : BbsIoTransformer} {outcome : SetupOutcome}

/-- A store on a stack with an empty slot fills one: one empty slot fewer, and one more slot
satisfying any test that `stored t outcome.data` passes and an empty slot fails. -/
theorem setupStore_of_empty_mem (hfree : .empty ∈ trans.transformations) :
    (setupStore trans t outcome).res = 0 ∧
      (setupStore trans t outcome).effects = [.moduleRef t.module] ∧
      (setupStore trans t outcome).trans.transformations.count .empty + 1 =
        trans.transformations.count .empty ∧
      ∀ p : BbsIoTransformation → Bool, p .empty = false →
        (setupStore trans t outcome).trans.transformations.countP p =
          trans.transformations.countP p + if p (.stored t outcome.data) then 1 else 0 := by
  obtain ⟨trans', hstore⟩ := Option.isSome_iff_exists.1
    (ioTransformStore_isSome (ioTransformSlotsFree_iff.2 hfree) :
      (ioTransformStore trans t outcome.data).isSome)
  obtain ⟨pre, post, hslots, -, hslots'⟩ :=
    storeFirstFree_eq_some_iff.1 (ioTransformStore_eq_some_iff.1 hstore)
  simp only [setupStore, hstore, hslots, hslots', true_and]
  refine ⟨by simp [List.count_cons]; omega, fun p hp => ?_⟩
  by_cases hnew : p (.stored t outcome.data) <;> simp [List.countP_cons, hp, hnew]; omega

/-- A store on a stack with no empty slot fails: the stack is as it was, the thread returns 1,
and the hook's data goes to cleanup. -/
theorem setupStore_of_empty_not_mem (hfull : .empty ∉ trans.transformations) :
    setupStore trans t outcome =
      ⟨1, trans, outcome.rfd, outcome.wfd, [.cleanup t outcome.data]⟩ := by
  have hnone : ioTransformStore trans t outcome.data = none :=
    ioTransformStore_eq_none_iff.2 (storeFirstFree_eq_none_iff.2 hfull)
  simp [setupStore, hnone]

end Store

/-! ### Threads -/

/-- A thread that takes both its steps, with no other step between, moves the stack as one call of
`bbs_io_transform_setup` and returns what the call returns. -/
theorem SharedStack.step_step_of_ready (sh : SharedStack n) (i : Nat) (hook : SetupHook)
    (transformers : List BbsIoTransformer) (type : BbsIoTransformType) (direction : Nat)
    (rfd wfd : Int) (arg : Option Ptr)
    (hi : sh.threads[i]? = some (.ready hook transformers type direction rfd wfd arg)) :
    (sh.step i).step i =
      ⟨sh.stack.step (.setup hook transformers type direction rfd wfd arg),
        sh.threads.set i (.returned (bbsIoTransformSetup hook transformers sh.stack.trans type
          direction rfd wfd arg).res)⟩ := by
  have hlen : i < sh.threads.length := (List.getElem?_eq_some_iff.1 hi).1
  rw [StackState.step, bbsIoTransformSetup_eq_check_store]
  cases hcheck : setupCheck hook transformers sh.stack.trans type direction rfd wfd arg with
  | inl result =>
    simp [SharedStack.step, hi, SetupThread.advance, hcheck, List.getElem?_set_self hlen,
      setupCheck_inl_trans hook transformers sh.stack.trans type direction rfd wfd arg hcheck]
  | inr pending =>
    obtain ⟨t, outcome⟩ := pending
    simp [SharedStack.step, hi, SetupThread.advance, hcheck, List.getElem?_set_self hlen,
      List.append_assoc]

/-- The schedule in which two threads both check before either stores. -/
def checkCheckStoreStore : List Nat := [0, 1, 0, 1]

section Race

variable (st : StackState n) (hook : SetupHook) (transformers : List BbsIoTransformer)
  (type : BbsIoTransformType) (direction : Nat) (rfd wfd : Int) (arg : Option Ptr)
  {t : BbsIoTransformer}

/-- The race: both threads check the untouched stack and call the hook, then each stores on the
stack as the threads before it left it. -/
theorem racing_run (hfree : .empty ∈ st.trans.transformations)
    (hpossible : bbsIoTransformPossible st.trans type = true)
    (hfind : suitableTransformer transformers type direction = some t)
    (hres : (hook t.setup rfd wfd direction arg).res = 0) :
    let call := SetupThread.ready hook transformers type direction rfd wfd arg
    let outcome := hook t.setup rfd wfd direction arg
    (SharedStack.mk st [call, call]).run checkCheckStoreStore =
      ⟨⟨(setupStore (setupStore st.trans t outcome).trans t outcome).trans,
          st.trace ++ [.setup t 0 outcome.data, .setup t 0 outcome.data] ++
            (setupStore st.trans t outcome).effects ++
            (setupStore (setupStore st.trans t outcome).trans t outcome).effects⟩,
        [.returned (setupStore st.trans t outcome).res,
          .returned (setupStore (setupStore st.trans t outcome).trans t outcome).res]⟩ := by
  have hcheck := setupCheck_eq_inr hook transformers st.trans type direction rfd wfd arg
    hpossible hfree hfind hres
  simp [checkCheckStoreStore, SharedStack.run, SharedStack.step, SetupThread.advance, hcheck,
    hres, List.append_assoc]

/-- **Two setups that check before either stores both succeed.** On any stack where a setup of
`type` would succeed, with at least two empty slots and a hook that sets data, two threads making
that call under the schedule check, check, store, store both return 0, and the stack ends with
two slots with data of `type`. Made one after the other, the second call is refused. -/
theorem racing_setups_duplicate_type (hfree : 2 ≤ st.trans.transformations.count .empty)
    (hpossible : bbsIoTransformPossible st.trans type = true)
    (hfind : suitableTransformer transformers type direction = some t)
    (hres : (hook t.setup rfd wfd direction arg).res = 0)
    (hdata : (hook t.setup rfd wfd direction arg).data ≠ none) :
    let call := SetupThread.ready hook transformers type direction rfd wfd arg
    let sh : SharedStack n := (SharedStack.mk st [call, call]).run checkCheckStoreStore
    sh.threads = [.returned 0, .returned 0] ∧
      sh.stack.trans.transformations.countP (·.activeType = some type) = 2 ∧
      (bbsIoTransformSetup hook transformers
        (st.step (.setup hook transformers type direction rfd wfd arg)).trans type direction
        rfd wfd arg).res ≠ 0 := by
  intro call sh
  set outcome := hook t.setup rfd wfd direction arg
  have hmem : .empty ∈ st.trans.transformations := List.count_pos_iff.1 (by omega)
  obtain ⟨hres₁, -, hcount₁, hcountP₁⟩ := @setupStore_of_empty_mem n st.trans t outcome hmem
  have hmem₁ : .empty ∈ (setupStore st.trans t outcome).trans.transformations :=
    List.count_pos_iff.1 (by omega)
  obtain ⟨hres₂, -, -, hcountP₂⟩ :=
    @setupStore_of_empty_mem n (setupStore st.trans t outcome).trans t outcome hmem₁
  have hrun : sh = _ := racing_run st hook transformers type direction rfd wfd arg hmem hpossible
    hfind hres
  have hnew : (stored t outcome.data).activeType = some type := by
    obtain ⟨d, hd⟩ := Option.ne_none_iff_exists'.1 hdata
    rw [hd, activeType_stored_some, suitableTransformer_type hfind]
  have hzero : st.trans.transformations.countP (·.activeType = some type) = 0 :=
    List.countP_eq_zero.2 fun s hs => by
      simpa using (bbsIoTransformPossible_eq_true_iff.1 hpossible).1 s hs
  refine ⟨by rw [hrun, hres₁, hres₂], ?_, ?_⟩
  · rw [hrun, hcountP₂ _ (by simp), hcountP₁ _ (by simp), hzero]
    simp [hnew]
  · have hfirst : (st.step (.setup hook transformers type direction rfd wfd arg)).trans =
        (setupStore st.trans t outcome).trans := by
      simp only [StackState.step, bbsIoTransformSetup_eq_check_store,
        setupCheck_eq_inr hook transformers st.trans type direction rfd wfd arg hpossible hmem
          hfind hres]
    have hpos : 0 < (setupStore st.trans t outcome).trans.transformations.countP
        (·.activeType = some type) := by
      rw [hcountP₁ _ (by simp)]
      simp [hnew]
    obtain ⟨s, hs, hstype⟩ := List.countP_pos_iff.1 hpos
    have hnot : bbsIoTransformPossible (setupStore st.trans t outcome).trans type = false := by
      rw [← Bool.not_eq_true, bbsIoTransformPossible_eq_true_iff]
      exact fun h => h.1 s hs (by simpa using hstype)
    simp [hfirst, bbsIoTransformSetup, hnot]

/-- Two threads enabling TLS at once on an empty stack. -/
theorem racing_tls_setups_on_empty_stack :
    2 ≤ (StackState.init maxIoTransforms).trans.transformations.count .empty ∧
    bbsIoTransformPossible (StackState.init maxIoTransforms).trans .transformTlsEncryption = true ∧
    suitableTransformer [tlsTransformer] .transformTlsEncryption transformServerClientTxRx =
      some tlsTransformer ∧
    (dataHook tlsTransformer.setup 0 1 transformServerClientTxRx none).res = 0 ∧
    (dataHook tlsTransformer.setup 0 1 transformServerClientTxRx none).data ≠ none ∧
    let call := SetupThread.ready dataHook [tlsTransformer] .transformTlsEncryption
      transformServerClientTxRx 0 1 none
    let sh : SharedStack maxIoTransforms :=
      (SharedStack.mk (StackState.init maxIoTransforms) [call, call]).run checkCheckStoreStore
    sh.threads = [.returned 0, .returned 0] ∧
      sh.stack.trans.transformations.countP (·.activeType = some .transformTlsEncryption) = 2 ∧
      (bbsIoTransformSetup dataHook [tlsTransformer]
        ((StackState.init maxIoTransforms).step (.setup dataHook [tlsTransformer]
          .transformTlsEncryption transformServerClientTxRx 0 1 none)).trans
        .transformTlsEncryption transformServerClientTxRx 0 1 none).res ≠ 0 :=
  ⟨by decide, by decide, by decide, rfl, by decide,
    @racing_setups_duplicate_type maxIoTransforms (StackState.init maxIoTransforms) dataHook
      [tlsTransformer] .transformTlsEncryption transformServerClientTxRx 0 1 none tlsTransformer
      (by decide) (by decide) (by decide) rfl (by decide)⟩

/-- **With one empty slot, the dead branch is taken.** On any stack where a setup of `type` would
succeed and exactly one slot is empty, two threads making that call under the schedule check,
check, store, store: the first returns 0; the second's store fails, so it calls the transformer's
cleanup on its hook's data and returns 1; the stack is as the first call alone leaves it, and
io.c holds one module reference for the two hook successes. -/
theorem racing_setups_reach_store_failure (hfree : st.trans.transformations.count .empty = 1)
    (hpossible : bbsIoTransformPossible st.trans type = true)
    (hfind : suitableTransformer transformers type direction = some t)
    (hres : (hook t.setup rfd wfd direction arg).res = 0) :
    let call := SetupThread.ready hook transformers type direction rfd wfd arg
    let sh : SharedStack n := (SharedStack.mk st [call, call]).run checkCheckStoreStore
    sh.threads = [.returned 0, .returned 1] ∧
      sh.stack.trans = (st.step (.setup hook transformers type direction rfd wfd arg)).trans ∧
      cleanupCalls sh.stack.trace =
        cleanupCalls st.trace ++ [(t, (hook t.setup rfd wfd direction arg).data)] ∧
      ∀ module, netRefs module sh.stack.trace =
        netRefs module st.trace + if t.module = module then 1 else 0 := by
  intro call sh
  set outcome := hook t.setup rfd wfd direction arg
  have hmem : .empty ∈ st.trans.transformations := List.count_pos_iff.1 (by omega)
  obtain ⟨hres₁, heffects₁, hcount₁, -⟩ := @setupStore_of_empty_mem n st.trans t outcome hmem
  have hfull : .empty ∉ (setupStore st.trans t outcome).trans.transformations := fun h => by
    have := List.count_pos_iff.2 h
    omega
  have hrun : sh = _ := racing_run st hook transformers type direction rfd wfd arg hmem hpossible
    hfind hres
  rw [hrun, setupStore_of_empty_not_mem hfull, hres₁]
  refine ⟨rfl, ?_, by simp [heffects₁], fun module => by simp [heffects₁]⟩
  simp only [StackState.step, bbsIoTransformSetup_eq_check_store,
    setupCheck_eq_inr hook transformers st.trans type direction rfd wfd arg hpossible hmem hfind
      hres]

/-- Two threads enabling TLS at once on a stack of one slot. -/
theorem racing_tls_setups_on_one_slot :
    (StackState.init 1).trans.transformations.count .empty = 1 ∧
    bbsIoTransformPossible (StackState.init 1).trans .transformTlsEncryption = true ∧
    suitableTransformer [tlsTransformer] .transformTlsEncryption transformServerClientTxRx =
      some tlsTransformer ∧
    (dataHook tlsTransformer.setup 0 1 transformServerClientTxRx none).res = 0 ∧
    let call := SetupThread.ready dataHook [tlsTransformer] .transformTlsEncryption
      transformServerClientTxRx 0 1 none
    let sh : SharedStack 1 := (SharedStack.mk (StackState.init 1) [call, call]).run
      checkCheckStoreStore
    sh.threads = [.returned 0, .returned 1] ∧
      sh.stack.trans = ((StackState.init 1).step (.setup dataHook [tlsTransformer]
        .transformTlsEncryption transformServerClientTxRx 0 1 none)).trans ∧
      cleanupCalls sh.stack.trace = cleanupCalls (StackState.init 1).trace ++
        [(tlsTransformer,
          (dataHook tlsTransformer.setup 0 1 transformServerClientTxRx none).data)] ∧
      ∀ module, netRefs module sh.stack.trace =
        netRefs module (StackState.init 1).trace + if tlsTransformer.module = module then 1 else 0 :=
  ⟨by decide, by decide, by decide, rfl,
    @racing_setups_reach_store_failure 1 (StackState.init 1) dataHook [tlsTransformer]
      .transformTlsEncryption transformServerClientTxRx 0 1 none tlsTransformer (by decide)
      (by decide) (by decide) rfl⟩

end Race

end LbbsIo
