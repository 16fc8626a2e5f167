import LbbsIo.Proof.Process

/-!
# No slot outlives its transformer

`bbs_io_transformer_unregister` frees the transformer it removes, whichever stacks still point at
it, and a slot is read through its transformer pointer long after the setup that filled it: by
`io_transform_slots_free`, by `bbs_io_transform_query`, by the teardown, which calls the cleanup
hook, and by `io session`, which prints the name. io.c leaves the protection to the module loader.
Each slot holds a reference on its transformer's module, and a module unregisters its
transformers only when it unloads, which the loader allows only while nothing holds a reference
on it.

`UnloadSafeRun` is that contract, call by call. Under it no slot of any stack ever holds a
transformer that is no longer registered: the stack invariant counts io.c's references on a
module as the slots holding its transformers, so a module without references has no transformer
in any slot, whichever hooks the setups met, `NULL` data included. Read the other way, io.c holds
a reference on a module only while a transformer of it is registered, so a module that has
unregistered its transformers is never kept loaded by a stack.
-/

namespace LbbsIo

variable {n : Nat}

/-- The transformers the slots of a stack point at, with data or without. -/
def heldTransformers (trans : BbsIoTransformations n) : List BbsIoTransformer :=
  trans.transformations.filterMap BbsIoTransformation.transformer

/-- io.c holds no reference on `module` from any stack. -/
def Unreferenced (bbs : Bbs n) (module : Ptr) : Prop :=
  ∀ s, netRefs module (bbs.stackAt s).trace = 0

/-- The module loader's side: a transformer is unregistered only while io.c holds no reference on
the module that owns it. -/
def BbsOp.UnloadSafe (bbs : Bbs n) : BbsOp → Prop
  | .registry (.unregister name) =>
    ∀ t ∈ bbs.transformers, namedUpToCase name t = true → Unreferenced bbs t.module
  | _ => True

/-- The contract holds at every call of a run. -/
def UnloadSafeRun : Bbs n → List BbsOp → Prop
  | _, [] => True
  | bbs, op :: ops => op.UnloadSafe bbs ∧ UnloadSafeRun (bbs.step op) ops

/-- Every transformer a slot of any stack points at is registered. -/
def HeldRegistered (bbs : Bbs n) : Prop :=
  ∀ s, ∀ t ∈ heldTransformers (bbs.stackAt s).trans, t ∈ bbs.transformers

/-! ### What a stack call can add to the slots -/

theorem mem_heldTransformers_iff {trans : BbsIoTransformations n} {t : BbsIoTransformer} :
    t ∈ heldTransformers trans ↔ ∃ slot ∈ trans.transformations, slot.transformer = some t :=
  List.mem_filterMap

/-- A setup adds no transformer to the slots but the one it found in the registry. -/
theorem mem_heldTransformers_setup {hook : SetupHook} {transformers : List BbsIoTransformer}
    {trans : BbsIoTransformations n} {type : BbsIoTransformType} {direction : Nat}
    {rfd wfd : Int} {arg : Option Ptr} {t : BbsIoTransformer}
    (h : t ∈ heldTransformers
      (bbsIoTransformSetup hook transformers trans type direction rfd wfd arg).trans) :
    t ∈ heldTransformers trans ∨ t ∈ transformers := by
  rcases bbsIoTransformSetup_cases hook transformers trans type direction rfd wfd arg with
    ⟨-, htrans, -⟩ | ⟨t', -, -, hfind, -, hstore, -, -⟩
  · exact .inl (htrans ▸ h)
  · obtain ⟨pre, post, hslots, -, hslots'⟩ :=
      storeFirstFree_eq_some_iff.1 (ioTransformStore_eq_some_iff.1 hstore)
    simp only [heldTransformers, hslots, hslots', List.filterMap_append, List.filterMap_cons,
      BbsIoTransformation.transformer_empty, BbsIoTransformation.transformer_stored,
      List.mem_append, List.mem_cons] at h ⊢
    rcases h with h | rfl | h
    · exact .inl (.inl h)
    · exact .inr (List.mem_of_find?_eq_some hfind)
    · exact .inl (.inr h)

/-- A teardown only empties slots. -/
theorem mem_heldTransformers_teardown {st : StackState n} {t : BbsIoTransformer}
    (h : t ∈ heldTransformers (st.step .teardownAll).trans) : t ∈ heldTransformers st.trans := by
  obtain ⟨slot, hslot, ht⟩ := mem_heldTransformers_iff.1 h
  rcases mem_teardownSlots hslot with rfl | hslot
  · cases ht
  · exact mem_heldTransformers_iff.2 ⟨slot, hslot, ht⟩

/-- A slot holding a transformer of `t.module` is one of io.c's references on it. -/
theorem netRefs_pos_of_held {st : StackState n} (hinv : StackInv st) {t : BbsIoTransformer}
    (h : t ∈ heldTransformers st.trans) : 0 < netRefs t.module st.trace := by
  obtain ⟨slot, hslot, ht⟩ := mem_heldTransformers_iff.1 h
  have hcount : 0 < st.trans.transformations.countP (·.heldBy t.module) := by
    refine List.countP_pos_iff.2 ⟨slot, hslot, ?_⟩
    rcases slot with _ | ⟨u, data⟩
    · cases ht
    · cases ht; simp
  rw [hinv.refs_balanced]
  exact_mod_cast hcount

/-! ### One call of the process -/

theorem Bbs.transformSetup_held (bbs : Bbs n) (hook : SetupHook) (s owner : Ptr)
    (type : BbsIoTransformType) (direction : Nat) (arg : Option Ptr) (s' : Ptr)
    {t : BbsIoTransformer}
    (h : t ∈ heldTransformers
      ((bbs.transformSetup hook s owner type direction arg).2.stackAt s').trans) :
    t ∈ heldTransformers (bbs.stackAt s').trans ∨ t ∈ bbs.transformers := by
  by_cases hs : s' = s
  · subst hs
    simp only [Bbs.transformSetup, Bbs.afterSetup, Function.update_same] at h
    exact mem_heldTransformers_setup h
  · simp only [Bbs.transformSetup, Bbs.afterSetup, Function.update_noteq hs] at h
    exact .inl h

theorem HeldRegistered.unregister {bbs : Bbs n} (hheld : HeldRegistered bbs)
    (hinv : ∀ s, StackInv (bbs.stackAt s)) {name : CStr}
    (hsafe : (BbsOp.registry (.unregister name)).UnloadSafe bbs) :
    HeldRegistered (bbs.step (.registry (.unregister name))) := by
  intro s t ht
  have hreg := hheld s t ht
  have hname : namedUpToCase name t = false := by
    by_contra hname
    have hzero := hsafe t hreg (by simpa using hname) s
    have hpos := netRefs_pos_of_held (hinv s) ht
    omega
  show t ∈ (bbsIoTransformerUnregister bbs.transformers name).2
  rw [bbsIoTransformerUnregister, removeFirst_snd, List.mem_eraseP_of_neg (by simp [hname])]
  exact hreg

theorem HeldRegistered.step {bbs : Bbs n} (hheld : HeldRegistered bbs)
    (hinv : ∀ s, StackInv (bbs.stackAt s)) {op : BbsOp} (hsafe : op.UnloadSafe bbs) :
    HeldRegistered (bbs.step op) := by
  cases op with
  | registry op =>
    cases op with
    | register entry allocOk =>
      intro s t ht
      have hreg := hheld s t ht
      show t ∈ (bbsIoTransformerRegister bbs.transformers entry allocOk).2
      unfold bbsIoTransformerRegister
      split_ifs <;> simp [hreg]
    | unregister name => exact hheld.unregister hinv hsafe
  | session op => exact hheld
  | setup s owner hook type direction arg =>
    intro s' t ht
    exact (bbs.transformSetup_held hook s owner type direction arg s' ht).elim (hheld s' t) id
  | teardownAll s =>
    intro s' t ht
    by_cases hs : s' = s
    · subst hs
      simp only [Bbs.step, Function.update_same] at ht
      exact hheld s' t (mem_heldTransformers_teardown ht)
    · simp only [Bbs.step, Function.update_noteq hs] at ht
      exact hheld s' t ht
  | transformationAdd hook sessionId name =>
    intro s' t ht
    rcases cliIoSessionTransformationAdd_snd hook bbs sessionId name with
      h | ⟨session, type, -, h⟩ <;> simp only [Bbs.step, h] at ht ⊢
    · exact hheld s' t ht
    · exact (bbs.transformSetup_held hook _ _ type _ none s' ht).elim (hheld s' t) id

theorem HeldRegistered.run {bbs : Bbs n} (hheld : HeldRegistered bbs)
    (hinv : ∀ s, StackInv (bbs.stackAt s)) {ops : List BbsOp} (hsafe : UnloadSafeRun bbs ops) :
    HeldRegistered (bbs.run ops) := by
  induction ops generalizing bbs with
  | nil => exact hheld
  | cons op ops ih =>
    have hinv' : ∀ s, StackInv ((bbs.step op).stackAt s) := fun s => by
      obtain ⟨stackOps, h⟩ := bbs.step_stackAt op s
      exact h ▸ (hinv s).run stackOps
    exact ih (hheld.step hinv hsafe.1) hinv' hsafe.2

/-- A module io.c holds a reference on owns a transformer some slot holds. -/
theorem held_of_netRefs_ne_zero {st : StackState n} (hinv : StackInv st) {module : Ptr}
    (h : netRefs module st.trace ≠ 0) :
    ∃ t ∈ heldTransformers st.trans, t.module = module := by
  rw [hinv.refs_balanced] at h
  obtain ⟨slot, hslot, hheld⟩ := List.countP_pos_iff.1 (Nat.pos_of_ne_zero (by exact_mod_cast h))
  rcases slot with _ | ⟨t, data⟩
  · cases hheld
  · exact ⟨t, mem_heldTransformers_iff.2 ⟨_, hslot, rfl⟩, by simpa using hheld⟩

/-- **No slot outlives its transformer.** On every run of the process in which modules unregister
their transformers only while io.c holds no reference on them, every transformer that a slot of
any stack points at is still registered: no slot, with data or without, is left pointing at a
transformer `bbs_io_transformer_unregister` has freed. And io.c holds a reference on a module
only while one of the module's transformers is registered: once a module has unregistered its
transformers, no stack keeps it loaded. -/
theorem held_and_referenced_registered (ownerAt : Ptr → Fds) (ops : List BbsOp)
    (hsafe : UnloadSafeRun (Bbs.init n ownerAt) ops) :
    let bbs : Bbs n := (Bbs.init n ownerAt).run ops
    (∀ s, ∀ t ∈ heldTransformers (bbs.stackAt s).trans, t ∈ bbs.transformers) ∧
      ∀ s module, netRefs module (bbs.stackAt s).trace ≠ 0 →
        ∃ t ∈ bbs.transformers, t.module = module := by
  intro bbs
  have hheld : HeldRegistered bbs :=
    HeldRegistered.run (fun s t ht => by simp [heldTransformers, Bbs.init, StackState.init,
      BbsIoTransformations.init] at ht) (fun _ => StackInv.init) hsafe
  refine ⟨hheld, fun s module h => ?_⟩
  obtain ⟨stackOps, hst⟩ := Bbs.run_stackAt (Bbs.init n ownerAt) ops s
  have hinv : StackInv (bbs.stackAt s) := hst ▸ stackInv_run stackOps
  obtain ⟨t, ht, rfl⟩ := held_of_netRefs_ne_zero hinv h
  exact ⟨t, hheld s t ht, rfl⟩

/-- TLS and compression registered, TLS set up on the stack at 7, then the compression module,
which no stack references, unloads. -/
def deflateUnloadRun : List BbsOp :=
  [.registry (.register tlsTransformer true), .registry (.register deflateTransformer true),
    .setup 7 9 dataHook .transformTlsEncryption transformServerClientTxRx none,
    .registry (.unregister deflateTransformer.name)]

theorem deflateUnloadRun_safe :
    UnloadSafeRun (Bbs.init maxIoTransforms fun _ => ⟨5, 6⟩) deflateUnloadRun := by
  refine ⟨trivial, trivial, trivial, fun t ht hname s => ?_, trivial⟩
  obtain rfl : t = deflateTransformer := by revert t; decide
  by_cases hs : s = 7
  · subst hs; decide
  · simp [Bbs.step, Bbs.transformSetup, Bbs.afterSetup, Function.update_noteq hs, Bbs.init,
      StackState.init]

/-- The run keeps the contract, and the stack at 7 still holds TLS, which is still registered. -/
theorem tls_held_while_deflate_unloads :
    UnloadSafeRun (Bbs.init maxIoTransforms fun _ => ⟨5, 6⟩) deflateUnloadRun ∧
    heldTransformers
        (((Bbs.init maxIoTransforms fun _ => ⟨5, 6⟩).run deflateUnloadRun).stackAt 7).trans =
      [tlsTransformer] ∧
    let bbs : Bbs maxIoTransforms := (Bbs.init maxIoTransforms fun _ => ⟨5, 6⟩).run deflateUnloadRun
    (∀ s, ∀ t ∈ heldTransformers (bbs.stackAt s).trans, t ∈ bbs.transformers) ∧
      ∀ s module, netRefs module (bbs.stackAt s).trace ≠ 0 →
        ∃ t ∈ bbs.transformers, t.module = module :=
  ⟨deflateUnloadRun_safe, by decide,
    held_and_referenced_registered (fun _ => ⟨5, 6⟩) deflateUnloadRun deflateUnloadRun_safe⟩

end LbbsIo
