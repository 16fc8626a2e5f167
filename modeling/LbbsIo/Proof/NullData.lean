import LbbsIo.Proof.StackInvariants

/-!
# A hook that succeeds with `NULL` data

Nothing in `bbs_io_transform_setup` checks the data a setup hook leaves behind. A hook that
returns 0 and leaves `*data` at `NULL` gets its transformer stored all the same, in a slot whose
transformer is set and whose data is not. `io_transform_slots_free` and `io_transform_store`
count that slot as used; `bbs_io_transform_active`, the possibility check and teardown do not see
it. The runs below follow the consequences: a second transformer of the same type, encryption on
top of compression, and a slot that teardown never cleans, with its module reference left held.
Such a slot stays, with its reference, through every later setup and teardown.
-/

namespace LbbsIo

open BbsIoTransformation

/-- A setup hook that reports success and leaves `*data` as `NULL`, and the descriptors alone. -/
def nullDataHook : SetupHook := fun _ rfd wfd _ _ => ⟨0, none, rfd, wfd⟩

/-- A setup hook that reports success with private data at an address of its own. -/
def dataHook : SetupHook := fun setup rfd wfd _ _ => ⟨0, some (setup + 100), rfd, wfd⟩

/-- A TLS transformer for both directions, owned by module 1. -/
def tlsTransformer : BbsIoTransformer :=
  ⟨⟨"tls".toList.map Char.toNat, by decide⟩, .transformTlsEncryption, transformServerClientTxRx,
    10, none, 11, 1⟩

/-- A compression transformer for both directions, owned by module 2. -/
def deflateTransformer : BbsIoTransformer :=
  ⟨⟨"deflate".toList.map Char.toNat, by decide⟩, .transformDeflateCompression,
    transformServerClientTxRx, 20, none, 21, 2⟩

/-- Setting up `t`'s type through `hook`, with `t` the only transformer registered. -/
def setupWith (hook : SetupHook) (t : BbsIoTransformer) : StackOp :=
  .setup hook [t] t.type transformServerClientTxRx 0 1 none

/-- After a setup whose hook succeeds with `NULL` data, slot 0 has a transformer and no data, and
`bbs_io_transform_active` says no TLS transformation is active although one is stored. -/
theorem nullData_slot_has_transformer_only :
    let st : StackState maxIoTransforms :=
      (StackState.init maxIoTransforms).run [setupWith nullDataHook tlsTransformer]
    st.trans.transformations.head? = some (.stored tlsTransformer none) ∧
      (stored tlsTransformer none).transformer ≠ none ∧
      (stored tlsTransformer none).data = none ∧
      bbsIoTransformActive st.trans .transformTlsEncryption = false := by
  decide

/-- Two setups of TLS through a hook that succeeds with `NULL` data: both succeed, and slots 0
and 1 hold TLS transformers. -/
theorem nullData_duplicate_type :
    let st : StackState maxIoTransforms := (StackState.init maxIoTransforms).run
      [setupWith nullDataHook tlsTransformer, setupWith nullDataHook tlsTransformer]
    st.trans.transformations.take 2 =
      [.stored tlsTransformer none, .stored tlsTransformer none] := by
  decide

/-- Compression set up through a hook that succeeds with `NULL` data, then TLS through one that
leaves data: the compression check does not see the compression slot, and TLS goes in on top of
it, at the higher index. -/
theorem nullData_tls_after_deflate :
    let st : StackState maxIoTransforms := (StackState.init maxIoTransforms).run
      [setupWith nullDataHook deflateTransformer, setupWith dataHook tlsTransformer]
    st.trans.transformations.take 2 =
      [.stored deflateTransformer none, .stored tlsTransformer (some 110)] := by
  decide

/-- A setup whose hook succeeds with `NULL` data, then teardown: the success is never cleaned up,
the slot is still there, and module 1 keeps the reference io.c took. A second teardown changes
nothing. -/
theorem nullData_survives_teardown :
    let st : StackState maxIoTransforms := (StackState.init maxIoTransforms).run
      [setupWith nullDataHook tlsTransformer, .teardownAll]
    hookSuccesses st.trace = [(tlsTransformer, none)] ∧ cleanupCalls st.trace = [] ∧
      st.trans.transformations.head? = some (.stored tlsTransformer none) ∧
      netRefs tlsTransformer.module st.trace = 1 ∧
      (st.step .teardownAll).trans.transformations = st.trans.transformations := by
  decide

/-- One setup or teardown leaves a slot without data where it is: the store looks for a slot
without a transformer, and the teardown for a slot with data. -/
theorem StackState.step_keeps_bareSlot {n : Nat} (st : StackState n) (op : StackOp) {i : Nat}
    {t : BbsIoTransformer} (h : st.trans.transformations[i]? = some (.stored t none)) :
    (st.step op).trans.transformations[i]? = some (.stored t none) := by
  cases op with
  | setup hook transformers type direction rfd wfd arg =>
    rcases bbsIoTransformSetup_cases hook transformers st.trans type direction rfd wfd arg with
      ⟨-, htrans, -⟩ | ⟨u, -, -, -, -, hstore, -⟩
    · simpa [StackState.step, htrans] using h
    · exact storeFirstFree_getElem? (ioTransformStore_eq_some_iff.1 hstore) h (by simp)
  | teardownAll =>
    show (teardownSlots st.trans.transformations).1[i]? = _
    rw [teardownSlots_fst, List.getElem?_map, h]
    rfl

theorem StackState.run_keeps_bareSlot {n : Nat} (st : StackState n) (ops : List StackOp)
    {i : Nat} {t : BbsIoTransformer} (h : st.trans.transformations[i]? = some (.stored t none)) :
    (st.run ops).trans.transformations[i]? = some (.stored t none) := by
  induction ops generalizing st with
  | nil => exact h
  | cons op ops ih => exact ih _ (st.step_keeps_bareSlot op h)

/-- **A slot without data is never released.** Once a setup hook has succeeded with `NULL` data,
its slot stays as it is through every later setup and teardown, with any registry and hooks: no
setup reuses it, no teardown cleans it up, and io.c keeps its reference on the transformer's
module for as long as the stack exists. -/
theorem bareSlot_never_released {n : Nat} (ops ops' : List StackOp) {i : Nat}
    {t : BbsIoTransformer}
    (hbare : ((StackState.init n).run ops).trans.transformations[i]? = some (.stored t none)) :
    let st : StackState n := ((StackState.init n).run ops).run ops'
    st.trans.transformations[i]? = some (.stored t none) ∧ 0 < netRefs t.module st.trace := by
  intro st
  have hslot : st.trans.transformations[i]? = some (.stored t none) :=
    StackState.run_keeps_bareSlot _ ops' hbare
  have hinv : StackInv st := by
    rw [show st = (StackState.init n).run (ops ++ ops') from (StackState.run_append _ _ _).symm]
    exact stackInv_run _
  refine ⟨hslot, ?_⟩
  have hcount : 0 < st.trans.transformations.countP (·.heldBy t.module) :=
    List.countP_pos_iff.2 ⟨_, List.getElem?_mem hslot, by simp⟩
  rw [hinv.refs_balanced]
  exact_mod_cast hcount

/-- TLS through a hook that leaves data `NULL`, then a teardown, TLS again with data, and a
second teardown: slot 0 still holds the first TLS transformer, and module 1 its reference. -/
theorem tls_bare_slot_outlives_teardowns :
    ((StackState.init maxIoTransforms).run
        [setupWith nullDataHook tlsTransformer]).trans.transformations[0]? =
      some (.stored tlsTransformer none) ∧
    let st : StackState maxIoTransforms :=
      ((StackState.init maxIoTransforms).run [setupWith nullDataHook tlsTransformer]).run
        [.teardownAll, setupWith dataHook tlsTransformer, .teardownAll]
    st.trans.transformations[0]? = some (.stored tlsTransformer none) ∧
      0 < netRefs tlsTransformer.module st.trace :=
  ⟨by decide, bareSlot_never_released [setupWith nullDataHook tlsTransformer]
    [.teardownAll, setupWith dataHook tlsTransformer, .teardownAll] (by decide)⟩

/-! ### Hooks that set data

When no hook reports success with `NULL` data, no slot has a transformer without data, and the
two notions of occupancy coincide. The stack then keeps the invariants the spec gives the
transformation stack: occupancy by either field agrees, the occupied slots are a prefix, at most
one slot is active per kind, encryption is never added over compression, and a teardown empties
every slot, returns every reference and invokes cleanup once per success. -/

/-- A setup hook that never reports success with `*data` left `NULL`. -/
def SetupHook.SetsData (hook : SetupHook) : Prop :=
  ∀ setup rfd wfd dir arg,
    (hook setup rfd wfd dir arg).res = 0 → (hook setup rfd wfd dir arg).data ≠ none

/-- The call's hook, if it has one, sets data. -/
def StackOp.SetsData : StackOp → Prop
  | .setup hook _ _ _ _ _ _ => hook.SetsData
  | .teardownAll => True

/-- No slot has a transformer and no data. -/
def NoBareSlot (slots : List BbsIoTransformation) : Prop := ∀ t, stored t none ∉ slots

theorem mem_teardownSlots : ∀ {slots : List BbsIoTransformation} {s : BbsIoTransformation},
    s ∈ (teardownSlots slots).1 → s = .empty ∨ s ∈ slots
  | [], _, h => nomatch h
  | slot :: rest, s, h => by
    rcases List.mem_cons.1 h with rfl | h
    · rcases slot with _ | ⟨t, _ | d⟩ <;> simp [teardownSlot]
    · exact (mem_teardownSlots h).imp_right (List.mem_cons_of_mem _)

theorem NoBareSlot.step {n : Nat} {st : StackState n} (hbare : NoBareSlot st.trans.transformations)
    {op : StackOp} (hop : op.SetsData) : NoBareSlot (st.step op).trans.transformations := by
  cases op with
  | setup hook transformers type direction rfd wfd arg =>
    rcases bbsIoTransformSetup_cases hook transformers st.trans type direction rfd wfd arg with
      ⟨-, htrans, -⟩ | ⟨t, -, -, -, hres, hstore, -⟩
    · simpa [StackState.step, htrans] using hbare
    · obtain ⟨pre, post, hslots, -, hslots'⟩ :=
        storeFirstFree_eq_some_iff.1 (ioTransformStore_eq_some_iff.1 hstore)
      have hdata := hop t.setup rfd wfd direction arg hres
      intro u hu
      simp only [StackState.step, hslots', List.mem_append, List.mem_cons] at hu
      rcases hu with hu | hu | hu
      · exact hbare u (by simp [hslots, hu])
      · exact hdata (stored.inj hu).2.symm
      · exact hbare u (by simp [hslots, hu])
  | teardownAll =>
    intro u hu
    rcases mem_teardownSlots hu with h | h
    · cases h
    · exact hbare u h

theorem noBareSlot_run {n : Nat} (ops : List StackOp) (hops : ∀ op ∈ ops, op.SetsData) :
    NoBareSlot ((StackState.init n).run ops).trans.transformations := by
  suffices ∀ st : StackState n, NoBareSlot st.trans.transformations →
      NoBareSlot (st.run ops).trans.transformations from
    this _ fun _ h => by simp [StackState.init, BbsIoTransformations.init] at h
  induction ops with
  | nil => exact fun _ h => h
  | cons op ops ih =>
    exact fun st h => ih (fun op hop => hops op (by simp [hop])) _
      (h.step (hops op (by simp)))

/-- The spec's invariants of one transformation stack: one notion of occupancy, occupied slots in
front, at most one active slot per kind, encryption below compression, and a teardown that empties
the stack, decrements each module once per slot and invokes cleanup once per success. -/
structure Orderly {n : Nat} (st : StackState n) : Prop where
  transformer_iff_data : ∀ s ∈ st.trans.transformations, s.transformer = none ↔ s.data = none
  occupied_prefix : st.trans.transformations.Pairwise
    (fun a b => b.transformer ≠ none → a.transformer ≠ none)
  types_distinct : st.trans.transformations.Pairwise
    (fun a b => ∀ t u, a.transformer = some t → b.transformer = some u → t.type ≠ u.type)
  tls_before_deflate : st.trans.transformations.Pairwise
    (fun a b => ∀ t u, a.transformer = some t → b.transformer = some u →
      t.type = .transformDeflateCompression → u.type ≠ .transformTlsEncryption)
  teardown_empties : ∀ s ∈ (st.step .teardownAll).trans.transformations, s = .empty
  teardown_releases : ∀ module, netRefs module (st.step .teardownAll).trace = 0
  teardown_cleans_once : ∀ x, (cleanupCalls (st.step .teardownAll).trace).count x =
    (hookSuccesses (st.step .teardownAll).trace).count x

theorem activeType_of_transformer {slots : List BbsIoTransformation} (hbare : NoBareSlot slots)
    {s : BbsIoTransformation} (hs : s ∈ slots) {t : BbsIoTransformer}
    (ht : s.transformer = some t) : s.activeType = some t.type := by
  rcases s with _ | ⟨u, _ | d⟩
  · cases ht
  · exact absurd hs (hbare u)
  · cases ht; rfl

/-- **Hooks that set data keep the spec's stack invariants.** On every stack reached by a run whose
setup hooks never succeed with `NULL` data, a slot's transformer is `NULL` exactly when its data
is; the occupied slots are a prefix; no two of them share a type; TLS comes before compression;
and a teardown empties every slot, takes back every reference io.c took, and calls cleanup once
for every success a hook reported. -/
theorem orderly_of_setsData {n : Nat} (ops : List StackOp) (hops : ∀ op ∈ ops, op.SetsData) :
    Orderly ((StackState.init n).run ops) := by
  have hinv := @stackInv_run n ops
  have hbare : NoBareSlot ((StackState.init n).run ops).trans.transformations :=
    noBareSlot_run ops hops
  generalize (StackState.init n).run ops = st at hinv hbare ⊢
  have hactive : ∀ s ∈ st.trans.transformations, ∀ t, s.transformer = some t →
      s.activeType = some t.type := fun _ hs _ ht => activeType_of_transformer hbare hs ht
  have htorn : ∀ s ∈ (st.step .teardownAll).trans.transformations, s = .empty := by
    intro s hs
    have hnone : s.activeType = none := activeType_of_mem_teardownSlots hs
    rcases mem_teardownSlots hs with h | h
    · exact h
    · rcases s with _ | ⟨t, _ | d⟩
      · rfl
      · exact absurd h (hbare t)
      · cases hnone
  have hinv' := hinv.step .teardownAll
  refine ⟨fun s hs => ?_, ?_, ?_, ?_, htorn, fun module => ?_, fun x => ?_⟩
  · rcases s with _ | ⟨t, _ | d⟩
    · simp
    · exact absurd hs (hbare t)
    · simp
  · refine hinv.active_after_occupied.imp_of_mem fun _ hb h hb' => ?_
    obtain ⟨t, ht⟩ := Option.ne_none_iff_exists'.1 hb'
    rw [Ne, transformer_eq_none_iff]
    exact h (by rw [hactive _ hb t ht]; simp)
  · exact hinv.active_types_distinct.imp_of_mem fun ha hb h t u ht hu heq =>
      h t.type (hactive _ ha t ht) (by rw [hactive _ hb u hu, heq])
  · exact hinv.tls_before_deflate.imp_of_mem fun ha hb h t u ht hu hdeflate htls =>
      h (by rw [hactive _ ha t ht, hdeflate]) (by rw [hactive _ hb u hu, htls])
  · have hzero : (st.step .teardownAll).trans.transformations.countP (·.heldBy module) = 0 :=
      List.countP_eq_zero.2 fun a ha => by rw [htorn a ha]; simp
    rw [hinv'.refs_balanced module, hzero]
    rfl
  · have hnil : (st.step .teardownAll).trans.transformations.filterMap pair? = [] :=
      List.filterMap_eq_nil_iff.2 fun a ha => by rw [htorn a ha]; rfl
    simp [hinv'.successes_balanced x, hnil]

/-- TLS, then compression, both through a hook that sets data. -/
theorem setsData_tls_then_deflate :
    ∀ op ∈ [setupWith dataHook tlsTransformer, setupWith dataHook deflateTransformer],
      op.SetsData := by
  simp [setupWith, StackOp.SetsData, SetupHook.SetsData, dataHook]

/-- TLS, then compression, both through hooks that set data. -/
theorem orderly_tls_then_deflate :
    (∀ op ∈ [setupWith dataHook tlsTransformer, setupWith dataHook deflateTransformer],
      op.SetsData) ∧
    Orderly ((StackState.init maxIoTransforms).run
      [setupWith dataHook tlsTransformer, setupWith dataHook deflateTransformer]) :=
  ⟨setsData_tls_then_deflate, orderly_of_setsData _ setsData_tls_then_deflate⟩

end LbbsIo
