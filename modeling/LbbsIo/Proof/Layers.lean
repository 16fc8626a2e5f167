import LbbsIo.Proof.NullData

/-!
# The stack as a stack of layers

The comments in io.c describe what the slot array is for: transformations pushed onto a stack of
file descriptors, one layer over the next, at most one of each kind, encryption never over
compression, all removed when the connection ends. `layersRun` is that description: a list of
layers, bottom first, which a setup extends by one layer or leaves alone and a teardown empties.

While no hook succeeds with `NULL` data, the code's array is exactly this list, each layer in a
slot with its data, followed by empty slots. The array's two notions of occupancy agree, and the
store into the first free slot and the teardown loop are the push and the clear of the list. Two
facts about the code follow from the layers: a stack of three slots or more never fills up, and
the teardown cleans the layers up bottom first, in the order they were pushed.
-/

namespace LbbsIo

open BbsIoTransformation

variable {n : Nat}

/-- A transformation in force: a transformer and the private data its hook set. -/
structure Layer where
  transformer : BbsIoTransformer
  data : Ptr
deriving DecidableEq

/-- The slot that holds a layer. -/
def Layer.slot (l : Layer) : BbsIoTransformation := .stored l.transformer (some l.data)

@[simp] theorem Layer.transformer_slot (l : Layer) : l.slot.transformer = some l.transformer := rfl

@[simp] theorem Layer.activeType_slot (l : Layer) : l.slot.activeType = some l.transformer.type :=
  rfl

@[simp] theorem Layer.teardownSlot_slot (l : Layer) : (teardownSlot l.slot).1 = .empty := rfl

/-- The layer a setup adds, if it adds one: none when a layer already has the type, when
encryption would go over compression, when the stack is full, when no registered transformer fits
the type and direction, or when the first that fits has a hook that fails. -/
def pushedLayer (n : Nat) (layers : List Layer) (hook : SetupHook)
    (transformers : List BbsIoTransformer) (type : BbsIoTransformType) (direction : Nat)
    (rfd wfd : Int) (arg : Option Ptr) : Option Layer :=
  if layers.any (·.transformer.type = type) ∨
      (type = .transformTlsEncryption ∧
        layers.any (·.transformer.type = .transformDeflateCompression)) ∨
      n ≤ layers.length then none
  else (suitableTransformer transformers type direction).bind fun t =>
    if (hook t.setup rfd wfd direction arg).res = 0 then
      (hook t.setup rfd wfd direction arg).data.map (Layer.mk t)
    else none

def layersStep (n : Nat) (layers : List Layer) : StackOp → List Layer
  | .setup hook transformers type direction rfd wfd arg =>
    match pushedLayer n layers hook transformers type direction rfd wfd arg with
    | some l => layers ++ [l]
    | none => layers
  | .teardownAll => []

/-- The layers after a run, from none. -/
def layersRun (n : Nat) (ops : List StackOp) : List Layer := ops.foldl (layersStep n) []

/-- The slots hold `layers`, bottom first, and then empty slots. -/
def LayersRep (st : StackState n) (layers : List Layer) : Prop :=
  layers.length ≤ n ∧
    st.trans.transformations = layers.map Layer.slot ++ List.replicate (n - layers.length) .empty

/-! ### The slot array of a list of layers -/

section Rep

variable {layers : List Layer} {k : Nat}

theorem slot_ne_empty (l : Layer) : l.slot ≠ .empty := nofun

theorem any_activeType_rep (type : BbsIoTransformType) :
    (layers.map Layer.slot ++ List.replicate k BbsIoTransformation.empty).any
        (·.activeType = some type) =
      layers.any (·.transformer.type = type) := by
  induction layers with
  | nil => cases k <;> simp [List.replicate_succ]
  | cons l layers ih => simp [ih]

theorem any_transformer_rep :
    (layers.map Layer.slot ++ List.replicate k BbsIoTransformation.empty).any
        (·.transformer = none) =
      decide (0 < k) := by
  induction layers with
  | nil => cases k <;> simp [List.replicate_succ]
  | cons l layers ih => simp [ih]

theorem storeFirstFree_rep (l : Layer) (hk : 0 < k) :
    storeFirstFree l.slot (layers.map Layer.slot ++ List.replicate k BbsIoTransformation.empty) =
      some ((layers ++ [l]).map Layer.slot ++
        List.replicate (k - 1) BbsIoTransformation.empty) := by
  obtain ⟨k, rfl⟩ := Nat.exists_eq_add_of_lt hk
  refine storeFirstFree_eq_some_iff.2
    ⟨layers.map Layer.slot, List.replicate k BbsIoTransformation.empty, ?_, ?_, ?_⟩
  · simp [List.replicate_succ]
  · simpa using fun l _ => slot_ne_empty l
  · simp

theorem teardownSlots_rep :
    (teardownSlots (layers.map Layer.slot ++ List.replicate k BbsIoTransformation.empty)).1 =
      List.replicate (layers.length + k) BbsIoTransformation.empty := by
  have hempty : (teardownSlot BbsIoTransformation.empty).1 = .empty := rfl
  rw [teardownSlots_fst, List.map_append, List.map_map, List.map_replicate, hempty,
    List.replicate_add]
  congr 1
  induction layers with
  | nil => rfl
  | cons l layers ih => simp [ih, List.replicate_succ]

end Rep

/-! ### One step -/

theorem pushedLayer_eq_some_iff {layers : List Layer} {hook : SetupHook}
    {transformers : List BbsIoTransformer} {type : BbsIoTransformType} {direction : Nat}
    {rfd wfd : Int} {arg : Option Ptr} {l : Layer} :
    pushedLayer n layers hook transformers type direction rfd wfd arg = some l ↔
      ¬(layers.any (·.transformer.type = type) ∨
        (type = .transformTlsEncryption ∧
          layers.any (·.transformer.type = .transformDeflateCompression)) ∨
        n ≤ layers.length) ∧
      suitableTransformer transformers type direction = some l.transformer ∧
      (hook l.transformer.setup rfd wfd direction arg).res = 0 ∧
      (hook l.transformer.setup rfd wfd direction arg).data = some l.data := by
  unfold pushedLayer
  split
  · simp_all
  · rename_i hcond
    simp only [hcond, not_false_eq_true, true_and, Option.bind_eq_some]
    constructor
    · rintro ⟨t, hfind, hl⟩
      split at hl
      · obtain ⟨d, hd, rfl⟩ := Option.map_eq_some'.1 hl
        exact ⟨hfind, ‹_›, hd⟩
      · cases hl
    · rintro ⟨hfind, hres, hdata⟩
      exact ⟨l.transformer, hfind, by simp [hres, hdata]⟩

/-! ### What the layers keep -/

/-- The layers have distinct types, and none of them is encryption above compression. -/
def LayersOrdered (layers : List Layer) : Prop :=
  layers.Pairwise fun a b => a.transformer.type ≠ b.transformer.type ∧
    (a.transformer.type = .transformDeflateCompression →
      b.transformer.type ≠ .transformTlsEncryption)

theorem LayersOrdered.step {layers : List Layer} (hord : LayersOrdered layers) (op : StackOp) :
    LayersOrdered (layersStep n layers op) := by
  cases op with
  | setup hook transformers type direction rfd wfd arg =>
    cases hl : pushedLayer n layers hook transformers type direction rfd wfd arg with
    | none => simpa only [layersStep, hl] using hord
    | some l =>
      simp only [layersStep, hl]
      obtain ⟨hok, hfind, -, -⟩ := pushedLayer_eq_some_iff.1 hl
      have htype := suitableTransformer_type hfind
      simp only [not_or, not_and, Bool.not_eq_true, List.any_eq_false, decide_eq_true_eq]
        at hok
      refine List.pairwise_append.2 ⟨hord, List.pairwise_singleton _ _, ?_⟩
      intro a ha b hb
      rw [List.mem_singleton] at hb
      subst hb
      refine ⟨fun h => hok.1 a ha (h.trans htype), fun hdeflate htls => ?_⟩
      exact hok.2.1 (htype ▸ htls) a ha hdeflate
  | teardownAll => exact List.Pairwise.nil

/-- Every run keeps the layers ordered and within the capacity. -/
theorem layersRun_ordered (ops : List StackOp) :
    LayersOrdered (layersRun n ops) := by
  suffices ∀ layers : List Layer, LayersOrdered layers →
      LayersOrdered (ops.foldl (layersStep n) layers) from this [] List.Pairwise.nil
  induction ops with
  | nil => exact fun _ h => h
  | cons op ops ih => exact fun layers h => ih _ (h.step op)

/-- On the array of a list of layers, the checks of `bbs_io_transform_setup` pass exactly when
the list has room for a layer of the type. -/
theorem possible_and_free_rep {st : StackState n} {layers : List Layer}
    (hrep : LayersRep st layers) (type : BbsIoTransformType) :
    (bbsIoTransformPossible st.trans type = true ∧ ioTransformSlotsFree st.trans = true) ↔
      ¬(layers.any (·.transformer.type = type) ∨
        (type = .transformTlsEncryption ∧
          layers.any (·.transformer.type = .transformDeflateCompression)) ∨
        n ≤ layers.length) := by
  simp only [bbsIoTransformPossible, bbsIoTransformActive, ioTransformSlotsFree, hrep.2,
    any_activeType_rep, any_transformer_rep]
  generalize layers.any (·.transformer.type = type) = a
  generalize layers.any (·.transformer.type = .transformDeflateCompression) = b
  cases a <;> cases b <;> simp [Nat.sub_pos_iff_lt]

theorem LayersRep.step {st : StackState n} {layers : List Layer} (hrep : LayersRep st layers)
    {op : StackOp} (hop : op.SetsData) : LayersRep (st.step op) (layersStep n layers op) := by
  cases op with
  | setup hook transformers type direction rfd wfd arg =>
    have hcond := possible_and_free_rep hrep type
    rcases bbsIoTransformSetup_cases hook transformers st.trans type direction rfd wfd arg with
      ⟨hne, htrans, -⟩ | ⟨t, hpossible, hfree, hfind, hres, hstore, -, -⟩
    · have hnone : pushedLayer n layers hook transformers type direction rfd wfd arg = none := by
        by_contra hsome
        obtain ⟨l, hl⟩ := Option.ne_none_iff_exists'.1 hsome
        obtain ⟨hok, hfind, hres, -⟩ := pushedLayer_eq_some_iff.1 hl
        exact hne (bbsIoTransformSetup_res_eq_zero hook transformers st.trans type direction rfd
          wfd arg (hcond.2 hok).1 (hcond.2 hok).2 hfind hres)
      simpa [layersStep, hnone, StackState.step, htrans] using hrep
    · obtain ⟨d, hd⟩ := Option.ne_none_iff_exists'.1 (hop t.setup rfd wfd direction arg hres)
      have hok := hcond.1 ⟨hpossible, hfree⟩
      have hpush : pushedLayer n layers hook transformers type direction rfd wfd arg =
          some ⟨t, d⟩ := pushedLayer_eq_some_iff.2 ⟨hok, hfind, hres, hd⟩
      have hroom : layers.length < n := by simp only [not_or, not_le] at hok; exact hok.2.2
      have hslots := ioTransformStore_eq_some_iff.1 hstore
      rw [hrep.2, hd, show stored t (some d) = (⟨t, d⟩ : Layer).slot from rfl,
        storeFirstFree_rep _ (by omega), Option.some_inj] at hslots
      refine ⟨by simp [layersStep, hpush]; omega, ?_⟩
      simp only [layersStep, hpush, StackState.step, ← hslots, List.length_append,
        List.length_singleton]
      congr 2
  | teardownAll =>
    refine ⟨Nat.zero_le _, ?_⟩
    simp only [StackState.step, bbsIoTeardownAllTransformers, hrep.2, teardownSlots_rep,
      layersStep, List.map_nil, List.nil_append, List.length_nil, Nat.sub_zero]
    rw [Nat.add_sub_cancel' hrep.1]

theorem LayersRep.run {st : StackState n} {layers : List Layer} (hrep : LayersRep st layers)
    {ops : List StackOp} (hops : ∀ op ∈ ops, op.SetsData) :
    LayersRep (st.run ops) (ops.foldl (layersStep n) layers) := by
  induction ops generalizing st layers with
  | nil => exact hrep
  | cons op ops ih =>
    exact ih (hrep.step (hops op (by simp))) fun op hop => hops op (by simp [hop])

theorem layersRep_init : LayersRep (StackState.init n) [] :=
  ⟨Nat.zero_le _, by simp [StackState.init, BbsIoTransformations.init]⟩

/-- **The slot array is a stack of layers.** On every run whose setup hooks never succeed with
`NULL` data, the slots hold the layers `layersRun` describes, bottom first, each with its data,
followed by empty slots: a setup pushes its layer or changes nothing, and a teardown clears the
stack. -/
theorem stack_refines_layers (ops : List StackOp) (hops : ∀ op ∈ ops, op.SetsData) :
    LayersRep ((StackState.init n).run ops) (layersRun n ops) :=
  layersRep_init.run hops

/-- TLS, then compression, as layers. -/
theorem tls_then_deflate_as_layers :
    (∀ op ∈ [setupWith dataHook tlsTransformer, setupWith dataHook deflateTransformer],
      op.SetsData) ∧
    LayersRep ((StackState.init maxIoTransforms).run
        [setupWith dataHook tlsTransformer, setupWith dataHook deflateTransformer])
      (layersRun maxIoTransforms
        [setupWith dataHook tlsTransformer, setupWith dataHook deflateTransformer]) :=
  ⟨setsData_tls_then_deflate, stack_refines_layers _ setsData_tls_then_deflate⟩

/-! ### Room on the stack

Three kinds of layer, at most one of each: a stack with room for three never refuses a setup for
want of a slot. Only a slot filled by a hook that succeeded with `NULL` data, which the checks by
data do not see, can fill a stack (`Proof/NullData.lean`). -/

/-- Ordered layers without a layer of `type` are at most two, one per other kind. -/
theorem LayersOrdered.length_le_two {layers : List Layer} (hord : LayersOrdered layers)
    {type : BbsIoTransformType} (hnot : ∀ l ∈ layers, l.transformer.type ≠ type) :
    layers.length ≤ 2 := by
  have hnodup : (layers.map (·.transformer.type)).Nodup :=
    List.pairwise_map.2 (hord.imp fun h => h.1)
  have hsub : layers.map (·.transformer.type) ⊆
      [.transformTlsEncryption, .transformDeflateCompression, .transformSessionLogging].erase
        type := by
    intro kind hkind
    obtain ⟨l, hl, rfl⟩ := List.mem_map.1 hkind
    rw [List.mem_erase_of_ne (hnot l hl)]
    cases l.transformer.type <;> simp
  have hlen := (List.subperm_of_subset hnodup hsub).length_le
  rw [List.length_map] at hlen
  exact hlen.trans (by cases type <;> rfl)

/-- **A stack never fills up while hooks set data.** On every run whose setup hooks never succeed
with `NULL` data, at any capacity of three or more, a slot is free whenever
`__bbs_io_transform_possible` allows a type: the "Already at max transformations" refusal of
`bbs_io_transform_setup` is never reached. -/
theorem possible_setup_finds_free_slot (ops : List StackOp) (hops : ∀ op ∈ ops, op.SetsData)
    (hn : 3 ≤ n) (type : BbsIoTransformType)
    (hpossible : bbsIoTransformPossible ((StackState.init n).run ops).trans type = true) :
    ioTransformSlotsFree ((StackState.init n).run ops).trans = true := by
  have hrep : LayersRep ((StackState.init n).run ops) (layersRun n ops) := layersRep_init.run hops
  have hactive : bbsIoTransformActive ((StackState.init n).run ops).trans type = false := by
    by_contra h
    simp [bbsIoTransformPossible, h] at hpossible
  simp only [bbsIoTransformActive, hrep.2, any_activeType_rep, List.any_eq_false,
    decide_eq_true_eq] at hactive
  have hlen := (layersRun_ordered ops).length_le_two hactive
  simp only [ioTransformSlotsFree, hrep.2, any_transformer_rep, decide_eq_true_eq]
  omega

/-- TLS and compression on a stack of three slots: logging is allowed, and finds the third. -/
theorem logging_fits_over_tls_and_deflate :
    bbsIoTransformPossible ((StackState.init 3).run
        [setupWith dataHook tlsTransformer, setupWith dataHook deflateTransformer]).trans
      .transformSessionLogging = true ∧
    ioTransformSlotsFree ((StackState.init 3).run
        [setupWith dataHook tlsTransformer, setupWith dataHook deflateTransformer]).trans = true :=
  ⟨by decide, possible_setup_finds_free_slot _ setsData_tls_then_deflate (le_refl 3)
    .transformSessionLogging (by decide)⟩

/-! ### Teardown order -/

theorem teardownSlots_snd_rep {layers : List Layer} {k : Nat} :
    (teardownSlots (layers.map Layer.slot ++ List.replicate k BbsIoTransformation.empty)).2 =
      layers.flatMap fun l => teardownTransformation l.transformer (some l.data) := by
  induction layers with
  | nil =>
    induction k with
    | zero => rfl
    | succ k ih => simpa [List.replicate_succ, teardownSlots, teardownSlot] using ih
  | cons l layers ih => simp [teardownSlots, Layer.slot, teardownSlot, ih]

/-- **Teardown goes bottom up.** On every run whose setup hooks never succeed with `NULL` data,
`bbs_io_teardown_all_transformers` cleans the layers up in the order they were pushed: the first
one set up, next to the connection's own descriptors, first, and the layer on top last, each
cleanup followed by the release of its module's reference. -/
theorem teardown_cleans_in_push_order (ops : List StackOp) (hops : ∀ op ∈ ops, op.SetsData) :
    (bbsIoTeardownAllTransformers ((StackState.init n).run ops).trans).2 =
      (layersRun n ops).flatMap fun l => teardownTransformation l.transformer (some l.data) := by
  show (teardownSlots _).2 = _
  rw [(layersRep_init.run hops).2, teardownSlots_snd_rep, layersRun]

/-- TLS, then compression: the teardown cleans TLS up first. -/
theorem teardown_tls_then_deflate :
    layersRun maxIoTransforms
        [setupWith dataHook tlsTransformer, setupWith dataHook deflateTransformer] =
      [⟨tlsTransformer, 110⟩, ⟨deflateTransformer, 120⟩] ∧
    (bbsIoTeardownAllTransformers ((StackState.init maxIoTransforms).run
        [setupWith dataHook tlsTransformer, setupWith dataHook deflateTransformer]).trans).2 =
      (layersRun maxIoTransforms
          [setupWith dataHook tlsTransformer, setupWith dataHook deflateTransformer]).flatMap
        fun l => teardownTransformation l.transformer (some l.data) :=
  ⟨by decide, teardown_cleans_in_push_order _ setsData_tls_then_deflate⟩

end LbbsIo
