import LbbsIo.Proof.Setup
import Mathlib.Data.List.Pairwise
import Mathlib.Data.List.Count

/-!
# What io.c keeps on every stack

The functions that decide occupancy by the data field (`bbs_io_transform_active`, the possibility
check, teardown) see a stack that is always in order, whatever the hooks return:

* a slot with data comes after slots that all have a transformer;
* no two slots with data have transformers of the same type;
* a TLS slot with data never comes after a compression slot with data;
* every module's reference count, as io.c moved it, is the number of slots holding one of its
  transformers;
* every success a setup hook reported is either still in a slot or has had its cleanup called,
  once.

`StackInv` carries the five, `StackInv.step` shows one call keeps them, `stackInv_run` that every
run does. The last two are stated on slots that have a *transformer*: a slot filled by a hook that
succeeded with `NULL` data stays there, holds its reference and is never cleaned up. That is where
the two notions of occupancy part, and `Proof/NullData.lean` runs it.
-/

namespace LbbsIo

open BbsIoTransformation

variable {n : Nat}

namespace BbsIoTransformation

/-- Does the slot hold a transformer of `module`? -/
def heldBy (module : Ptr) : BbsIoTransformation → Bool
  | empty => false
  | stored t _ => t.module = module

/-- The transformer and data of a slot that has a transformer. -/
def pair? : BbsIoTransformation → Option (BbsIoTransformer × Option Ptr)
  | empty => none
  | stored t data => some (t, data)

@[simp] theorem heldBy_empty (module : Ptr) : empty.heldBy module = false := rfl
@[simp] theorem heldBy_stored (module : Ptr) (t : BbsIoTransformer) (data : Option Ptr) :
    (stored t data).heldBy module = decide (t.module = module) := rfl
@[simp] theorem pair?_empty : empty.pair? = none := rfl
@[simp] theorem pair?_stored (t : BbsIoTransformer) (data : Option Ptr) :
    (stored t data).pair? = some (t, data) := rfl

end BbsIoTransformation

/-- A setup hook's reported success, with the data it returned. -/
def Effect.success? : Effect → Option (BbsIoTransformer × Option Ptr)
  | .setup t res data => if res = 0 then some (t, data) else none
  | _ => none

/-- A cleanup call, with the slot it was given. -/
def Effect.cleanup? : Effect → Option (BbsIoTransformer × Option Ptr)
  | .cleanup t data => some (t, data)
  | _ => none

/-- The hook successes along a trace, in order. -/
def hookSuccesses (trace : List Effect) : List (BbsIoTransformer × Option Ptr) :=
  trace.filterMap Effect.success?

/-- The cleanup calls along a trace, in order. -/
def cleanupCalls (trace : List Effect) : List (BbsIoTransformer × Option Ptr) :=
  trace.filterMap Effect.cleanup?

section TraceLemmas

variable (t : BbsIoTransformer) (res : Int) (data : Option Ptr) (module : Ptr) (rest : List Effect)

@[simp] theorem hookSuccesses_nil : hookSuccesses [] = [] := rfl
@[simp] theorem hookSuccesses_cons_setup : hookSuccesses (.setup t res data :: rest) =
    if res = 0 then (t, data) :: hookSuccesses rest else hookSuccesses rest := by
  by_cases h : res = 0 <;> simp [hookSuccesses, Effect.success?, h]
@[simp] theorem hookSuccesses_cons_cleanup :
    hookSuccesses (.cleanup t data :: rest) = hookSuccesses rest := rfl
@[simp] theorem hookSuccesses_cons_moduleRef :
    hookSuccesses (.moduleRef module :: rest) = hookSuccesses rest := rfl
@[simp] theorem hookSuccesses_cons_moduleUnref :
    hookSuccesses (.moduleUnref module :: rest) = hookSuccesses rest := rfl
@[simp] theorem cleanupCalls_nil : cleanupCalls [] = [] := rfl
@[simp] theorem cleanupCalls_cons_setup :
    cleanupCalls (.setup t res data :: rest) = cleanupCalls rest := rfl
@[simp] theorem cleanupCalls_cons_cleanup :
    cleanupCalls (.cleanup t data :: rest) = (t, data) :: cleanupCalls rest := rfl
@[simp] theorem cleanupCalls_cons_moduleRef :
    cleanupCalls (.moduleRef module :: rest) = cleanupCalls rest := rfl
@[simp] theorem cleanupCalls_cons_moduleUnref :
    cleanupCalls (.moduleUnref module :: rest) = cleanupCalls rest := rfl

end TraceLemmas

@[simp] theorem hookSuccesses_append (a b : List Effect) :
    hookSuccesses (a ++ b) = hookSuccesses a ++ hookSuccesses b := List.filterMap_append _ _ _

@[simp] theorem cleanupCalls_append (a b : List Effect) :
    cleanupCalls (a ++ b) = cleanupCalls a ++ cleanupCalls b := List.filterMap_append _ _ _

/-- The stack invariant, over the slots and the calls made so far. -/
structure StackInv (st : StackState n) : Prop where
  /-- A slot with data comes after slots that all have a transformer. -/
  active_after_occupied : st.trans.transformations.Pairwise
    (fun a b => b.activeType ≠ none → a ≠ .empty)
  /-- No two slots with data have transformers of one type. -/
  active_types_distinct : st.trans.transformations.Pairwise
    (fun a b => ∀ type, a.activeType = some type → b.activeType ≠ some type)
  /-- A TLS slot with data never comes after a compression slot with data. -/
  tls_before_deflate : st.trans.transformations.Pairwise
    (fun a b => a.activeType = some .transformDeflateCompression →
      b.activeType ≠ some .transformTlsEncryption)
  /-- io.c's net references on a module are the slots holding one of its transformers. -/
  refs_balanced : ∀ module,
    netRefs module st.trace = st.trans.transformations.countP (·.heldBy module)
  /-- Each reported hook success is in a slot or has been cleaned up, once. -/
  successes_balanced : ∀ x, (hookSuccesses st.trace).count x =
    (cleanupCalls st.trace).count x + (st.trans.transformations.filterMap pair?).count x

/-! ### Filling the first free slot -/

theorem pairwise_replace {α : Type} {R : α → α → Prop} {pre post : List α} {old new : α}
    (h : (pre ++ old :: post).Pairwise R) (hpre : ∀ a ∈ pre, R a new)
    (hpost : ∀ b ∈ post, R new b) : (pre ++ new :: post).Pairwise R := by
  simp only [List.pairwise_append, List.pairwise_cons, List.mem_cons, forall_eq_or_imp] at h ⊢
  exact ⟨h.1, ⟨hpost, h.2.1.2⟩, fun a ha => ⟨hpre a ha, (h.2.2 a ha).2⟩⟩

theorem suitableTransformer_type {transformers : List BbsIoTransformer}
    {type : BbsIoTransformType} {direction : Nat} {t : BbsIoTransformer}
    (h : suitableTransformer transformers type direction = some t) : t.type = type := by
  have := List.find?_some h
  simp only [decide_eq_true_eq] at this
  exact this.2

theorem bbsIoTransformActive_eq_false_iff {trans : BbsIoTransformations n}
    {type : BbsIoTransformType} :
    bbsIoTransformActive trans type = false ↔
      ∀ s ∈ trans.transformations, s.activeType ≠ some type := by
  simp [bbsIoTransformActive]

theorem bbsIoTransformPossible_eq_true_iff {trans : BbsIoTransformations n}
    {type : BbsIoTransformType} :
    bbsIoTransformPossible trans type = true ↔
      (∀ s ∈ trans.transformations, s.activeType ≠ some type) ∧
      (type = .transformTlsEncryption →
        ∀ s ∈ trans.transformations, s.activeType ≠ some .transformDeflateCompression) := by
  rw [← bbsIoTransformActive_eq_false_iff, ← bbsIoTransformActive_eq_false_iff]
  unfold bbsIoTransformPossible
  cases bbsIoTransformActive trans type <;>
    cases bbsIoTransformActive trans .transformDeflateCompression <;> simp

/-- Behind an empty slot there is no slot with data. -/
theorem activeType_eq_none_of_mem_post {pre post : List BbsIoTransformation}
    (h : (pre ++ .empty :: post).Pairwise (fun a b => b.activeType ≠ none → a ≠ .empty))
    {b : BbsIoTransformation} (hb : b ∈ post) : b.activeType = none := by
  simp only [List.pairwise_append, List.pairwise_cons] at h
  by_contra hactive
  exact h.2.1.1 b hb hactive rfl

section SetupStep

variable {st : StackState n} {t : BbsIoTransformer} {type : BbsIoTransformType}
  {data : Option Ptr} {pre post : List BbsIoTransformation}

/-- A successful setup keeps the invariant: `t` of the requested type, possible on the stack,
goes into the first empty slot with its data, and the trace gains the hook's success and one
reference on `t`'s module. -/
theorem StackInv.setup_success (hinv : StackInv st)
    (hpossible : bbsIoTransformPossible st.trans type = true) (htype : t.type = type)
    (hslots : st.trans.transformations = pre ++ .empty :: post)
    (hpre : ∀ s ∈ pre, s ≠ .empty) {trans' : BbsIoTransformations n}
    (hslots' : trans'.transformations = pre ++ .stored t data :: post) :
    StackInv ⟨trans', st.trace ++ [.setup t 0 data, .moduleRef t.module]⟩ := by
  obtain ⟨hnot, htls⟩ := bbsIoTransformPossible_eq_true_iff.1 hpossible
  have hordered := hinv.active_after_occupied
  rw [hslots] at hordered hnot htls
  have hpost : ∀ b ∈ post, b.activeType = none := fun b => activeType_eq_none_of_mem_post hordered
  have hnew : ∀ ty, (BbsIoTransformation.stored t data).activeType = some ty → ty = type := by
    intro ty h
    cases data with
    | none => cases h
    | some d => exact (Option.some_inj.1 h).symm.trans htype
  constructor
  · rw [hslots']
    exact pairwise_replace hordered (fun a ha _ => hpre a ha) (fun _ _ _ => nofun)
  · rw [hslots']
    have h := hinv.active_types_distinct
    rw [hslots] at h
    refine pairwise_replace h (fun a ha ty hty hnew' => ?_) (fun b hb _ _ => by simp [hpost b hb])
    exact hnot a (by simp [ha]) (hnew ty hnew' ▸ hty)
  · rw [hslots']
    have h := hinv.tls_before_deflate
    rw [hslots] at h
    refine pairwise_replace h (fun a ha hdeflate htls' => ?_) (fun b hb _ => by simp [hpost b hb])
    exact htls (hnew _ htls').symm a (by simp [ha]) hdeflate
  · intro module
    have := hinv.refs_balanced module
    rw [hslots] at this
    rw [hslots']
    simp only [netRefs_append, netRefs_cons_setup, netRefs_cons_moduleRef, netRefs_nil,
      List.countP_append, List.countP_cons, heldBy_empty, heldBy_stored] at this ⊢
    by_cases hm : t.module = module
    · simp [hm, this]; omega
    · simp [hm, this]
  · intro x
    have := hinv.successes_balanced x
    rw [hslots] at this
    rw [hslots']
    simp only [hookSuccesses_append, cleanupCalls_append, List.count_append,
      List.filterMap_append, List.filterMap_cons, pair?_empty, pair?_stored] at this ⊢
    simp [List.count_cons] at this ⊢
    omega

end SetupStep

/-! ### Tearing down -/

theorem activeType_of_mem_teardownSlots :
    ∀ {slots : List BbsIoTransformation} {s : BbsIoTransformation},
      s ∈ (teardownSlots slots).1 → s.activeType = none
  | [], _, h => nomatch h
  | slot :: rest, s, h => by
    rcases List.mem_cons.1 h with rfl | h
    · rcases slot with _ | ⟨t, _ | d⟩ <;> rfl
    · exact activeType_of_mem_teardownSlots h

theorem netRefs_teardownSlots (module : Ptr) (slots : List BbsIoTransformation) :
    netRefs module (teardownSlots slots).2 + slots.countP (·.heldBy module) =
      (teardownSlots slots).1.countP (·.heldBy module) := by
  induction slots with
  | nil => rfl
  | cons slot rest ih =>
    rcases slot with _ | ⟨t, _ | d⟩
    · simpa [teardownSlots, teardownSlot] using ih
    · by_cases hm : t.module = module <;> simp [teardownSlots, teardownSlot, hm] <;> omega
    · by_cases hm : t.module = module <;>
        simp [teardownSlots, teardownSlot, teardownTransformation, hm] <;> omega

theorem teardownSlots_fst (slots : List BbsIoTransformation) :
    (teardownSlots slots).1 = slots.map (fun s => (teardownSlot s).1) := by
  induction slots with
  | nil => rfl
  | cons s rest ih => simp only [teardownSlots, List.map_cons, ih]

theorem hookSuccesses_teardownSlots (slots : List BbsIoTransformation) :
    hookSuccesses (teardownSlots slots).2 = [] := by
  induction slots with
  | nil => rfl
  | cons slot rest ih =>
    rcases slot with _ | ⟨t, _ | d⟩ <;>
      simp [teardownSlots, teardownSlot, teardownTransformation, ih]

theorem count_teardownSlots (x : BbsIoTransformer × Option Ptr)
    (slots : List BbsIoTransformation) :
    (cleanupCalls (teardownSlots slots).2).count x +
        ((teardownSlots slots).1.filterMap pair?).count x =
      (slots.filterMap pair?).count x := by
  induction slots with
  | nil => rfl
  | cons slot rest ih =>
    rcases slot with _ | ⟨t, _ | d⟩ <;>
      simp [teardownSlots, teardownSlot, teardownTransformation, List.count_cons] at ih ⊢ <;> omega

theorem StackInv.teardown {st : StackState n} (hinv : StackInv st) :
    StackInv ⟨(bbsIoTeardownAllTransformers st.trans).1,
      st.trace ++ (bbsIoTeardownAllTransformers st.trans).2⟩ := by
  have hinactive : ∀ s ∈ (teardownSlots st.trans.transformations).1, s.activeType = none :=
    fun _ => activeType_of_mem_teardownSlots
  constructor
  · exact List.pairwise_of_forall_mem_list fun _ _ b hb h => absurd (hinactive b hb) h
  · exact List.pairwise_of_forall_mem_list fun a ha _ _ _ h => by simp [hinactive a ha] at h
  · exact List.pairwise_of_forall_mem_list fun a ha _ _ h => by simp [hinactive a ha] at h
  · intro module
    have := netRefs_teardownSlots module st.trans.transformations
    simp only [bbsIoTeardownAllTransformers, netRefs_append, hinv.refs_balanced module]
    omega
  · intro x
    have := count_teardownSlots x st.trans.transformations
    simp only [bbsIoTeardownAllTransformers, hookSuccesses_append, cleanupCalls_append,
      List.count_append, hookSuccesses_teardownSlots, hinv.successes_balanced x]
    simp
    omega

/-! ### Every run -/

/-- Calls that move no reference, report no success and clean nothing up keep the invariant. -/
theorem StackInv.append_quiet {st : StackState n} (hinv : StackInv st) {extra : List Effect}
    (hrefs : ∀ module, netRefs module extra = 0) (hsuccesses : hookSuccesses extra = [])
    (hcleanups : cleanupCalls extra = []) : StackInv ⟨st.trans, st.trace ++ extra⟩ :=
  ⟨hinv.active_after_occupied, hinv.active_types_distinct, hinv.tls_before_deflate,
    fun module => by simp [hrefs, hinv.refs_balanced module],
    fun x => by simp [hsuccesses, hcleanups, hinv.successes_balanced x]⟩

theorem StackInv.step {st : StackState n} (hinv : StackInv st) (op : StackOp) :
    StackInv (st.step op) := by
  cases op with
  | setup hook transformers type direction rfd wfd arg =>
    rcases bbsIoTransformSetup_cases hook transformers st.trans type direction rfd wfd arg with
      ⟨-, htrans, heffects⟩ | ⟨t, hpossible, -, hfind, -, hstore, -, heffects⟩
    · simp only [StackState.step, htrans]
      rcases heffects with heffects | ⟨t, res, data, hres, heffects⟩ <;> rw [heffects]
      · exact hinv.append_quiet (by simp) rfl rfl
      · exact hinv.append_quiet (by simp) (by simp [hres]) rfl
    · obtain ⟨pre, post, hslots, hpre, hslots'⟩ :=
        storeFirstFree_eq_some_iff.1 (ioTransformStore_eq_some_iff.1 hstore)
      simp only [StackState.step, heffects]
      exact hinv.setup_success hpossible (suitableTransformer_type hfind) hslots hpre hslots'
  | teardownAll => exact hinv.teardown

theorem StackInv.init : StackInv (StackState.init n) := by
  have hempty : ∀ s ∈ (StackState.init n).trans.transformations, s = .empty := fun _ hs =>
    List.eq_of_mem_replicate hs
  refine ⟨?_, ?_, ?_, fun module => ?_, fun x => ?_⟩
  · exact List.pairwise_of_forall_mem_list fun _ _ b hb h => absurd (by rw [hempty b hb]; rfl) h
  · exact List.pairwise_of_forall_mem_list fun a ha _ _ _ h => by simp [hempty a ha] at h
  · exact List.pairwise_of_forall_mem_list fun a ha _ _ h => by simp [hempty a ha] at h
  · simp [StackState.init, BbsIoTransformations.init, List.countP_replicate]
  · simp [StackState.init, BbsIoTransformations.init, List.filterMap_replicate]

theorem StackInv.run {st : StackState n} (hinv : StackInv st) (ops : List StackOp) :
    StackInv (st.run ops) := by
  induction ops generalizing st with
  | nil => exact hinv
  | cons op ops ih => exact ih (hinv.step op)

/-- Every stack a connection can reach satisfies the invariant. -/
theorem stackInv_run (ops : List StackOp) : StackInv ((StackState.init n).run ops) :=
  StackInv.init.run ops

/-- **Slots with data stay in order.** On every stack a run of setups and teardowns can reach,
whatever the registry and the hooks: a slot with data has only slots with a transformer before
it, no two slots with data have transformers of one type, and a TLS slot with data never comes
after a compression slot with data. -/
theorem activeSlots_ordered (ops : List StackOp) :
    let slots := ((StackState.init n).run ops).trans.transformations
    slots.Pairwise (fun a b => b.activeType ≠ none → a.transformer ≠ none) ∧
    slots.Pairwise (fun a b => ∀ type, a.activeType = some type → b.activeType ≠ some type) ∧
    slots.Pairwise (fun a b => a.activeType = some .transformDeflateCompression →
      b.activeType ≠ some .transformTlsEncryption) := by
  have hinv := @stackInv_run n ops
  refine ⟨hinv.active_after_occupied.imp fun h hb => ?_, hinv.active_types_distinct,
    hinv.tls_before_deflate⟩
  rw [Ne, transformer_eq_none_iff]
  exact h hb

/-- **References and cleanups balance.** Along every run, io.c's net reference change on each
module is the number of slots holding one of that module's transformers, and every success a
setup hook reported is either still in a slot or has had exactly one cleanup call. -/
theorem refs_and_cleanups_balanced (ops : List StackOp) :
    let st := (StackState.init n).run ops
    (∀ module, netRefs module st.trace = st.trans.transformations.countP (·.heldBy module)) ∧
    ∀ x, (hookSuccesses st.trace).count x =
      (cleanupCalls st.trace).count x + (st.trans.transformations.filterMap pair?).count x :=
  ⟨(stackInv_run ops).refs_balanced, (stackInv_run ops).successes_balanced⟩

/-- Under the invariant, two slots with data of one type are one slot. -/
theorem StackInv.eq_of_activeType {st : StackState n} (hinv : StackInv st)
    {a b : BbsIoTransformation} (ha : a ∈ st.trans.transformations)
    (hb : b ∈ st.trans.transformations) {type : BbsIoTransformType}
    (hta : a.activeType = some type) (htb : b.activeType = some type) : a = b := by
  by_contra hne
  have hsymm : Symmetric (fun a b : BbsIoTransformation =>
      ∀ type, a.activeType = some type → b.activeType ≠ some type) :=
    fun _ _ h type hb ha => h type ha hb
  exact hinv.active_types_distinct.forall hsymm ha hb hne type hta htb

/-- **A query reaches the one slot of its type.** On every stack a run can reach,
`bbs_io_transform_query` returns -1 when no slot with data has a transformer of the type, and
otherwise the loop body at any such slot: there is only one, so stopping at the first misses
nothing. -/
theorem query_reaches_only_slot (ops : List StackOp) (hook : QueryHook)
    (type : BbsIoTransformType) (query : Int) (data : Option Ptr) :
    let st : StackState n := (StackState.init n).run ops
    (bbsIoTransformActive st.trans type = false →
      bbsIoTransformQuery hook st.trans type query data = -1) ∧
    ∀ slot ∈ st.trans.transformations, slot.activeType = some type →
      bbsIoTransformQuery hook st.trans type query data = querySlot hook slot query data := by
  intro st
  refine ⟨fun hinactive => ?_, fun slot hslot htype => ?_⟩
  · have hnone : st.trans.transformations.find? (·.activeType = some type) = none := by
      simpa [bbsIoTransformActive] using hinactive
    simp only [bbsIoTransformQuery, hnone]
  · obtain ⟨first, hfirst⟩ :
        ∃ first, st.trans.transformations.find? (·.activeType = some type) = some first :=
      Option.ne_none_iff_exists'.1 fun hnone =>
        List.find?_eq_none.1 hnone slot hslot (decide_eq_true htype)
    have hfirst_type : first.activeType = some type := by simpa using List.find?_some hfirst
    have hsame := (stackInv_run ops).eq_of_activeType (List.mem_of_find?_eq_some hfirst) hslot
      hfirst_type htype
    simp only [bbsIoTransformQuery, hfirst, hsame]

end LbbsIo
