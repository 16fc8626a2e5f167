import LbbsIo.Transformer

/-!
# The transformation stack of one connection

A connection's `struct bbs_io_transformations` is an array of `MAX_IO_TRANSFORMS` slots. A slot
holds a transformer and the private data its setup hook returned. `bbs_io_transform_setup` finds
a transformer for the requested type and direction, calls its setup hook, and stores the result
in the first slot whose transformer is `NULL`; `bbs_io_teardown_all_transformers` calls the
cleanup hook of every slot whose data is set and empties it.

io.c reads occupancy off two different fields. `io_transform_slots_free` and
`io_transform_store` test the transformer; `bbs_io_transform_active`, `bbs_io_transform_query`,
the teardown loop and `cli_io_session` test the data. They agree only while no setup hook reports
success with its data left `NULL`, which nothing in io.c rules out.

The calls io.c makes to code outside it (the hooks, `bbs_module_ref`, `bbs_module_unref`) are
recorded in order as `Effect`s; what a hook does is an argument of the function that calls it.
-/

namespace LbbsIo

/-- `MAX_IO_TRANSFORMS`. Modelled from the spec: include/io.h, which defines it, is not under
src/; the spec gives the capacity as 8. The theorems hold at every capacity; this value is used
where a run is written out. -/
def maxIoTransforms : Nat := 8

/-- `struct bbs_io_transformation`, one slot. The code writes its two fields together, a
transformer with the data its hook returned or `NULL` with `NULL`, so a slot with data and no
transformer is not a value of this type. -/
inductive BbsIoTransformation
  | empty
  | stored (transformer : BbsIoTransformer) (data : Option Ptr)
deriving DecidableEq

namespace BbsIoTransformation

def transformer : BbsIoTransformation → Option BbsIoTransformer
  | empty => none
  | stored t _ => some t

def data : BbsIoTransformation → Option Ptr
  | empty => none
  | stored _ data => data

/-- The type of the slot's transformer, if the slot has data: the slot as the functions that
test `data` see it. -/
def activeType : BbsIoTransformation → Option BbsIoTransformType
  | stored t (some _) => some t.type
  | _ => none

@[simp] theorem transformer_empty : empty.transformer = none := rfl
@[simp] theorem transformer_stored (t : BbsIoTransformer) (data : Option Ptr) :
    (stored t data).transformer = some t := rfl
@[simp] theorem data_empty : empty.data = none := rfl
@[simp] theorem data_stored (t : BbsIoTransformer) (data : Option Ptr) :
    (stored t data).data = data := rfl
@[simp] theorem activeType_empty : empty.activeType = none := rfl
@[simp] theorem activeType_stored_none (t : BbsIoTransformer) :
    (stored t none).activeType = none := rfl
@[simp] theorem activeType_stored_some (t : BbsIoTransformer) (d : Ptr) :
    (stored t (some d)).activeType = some t.type := rfl

theorem transformer_eq_none_iff {slot : BbsIoTransformation} :
    slot.transformer = none ↔ slot = empty := by
  cases slot <;> simp

end BbsIoTransformation

open BbsIoTransformation

/-- `struct bbs_io_transformations`: the slots of one connection. -/
structure BbsIoTransformations (capacity : Nat) where
  transformations : List BbsIoTransformation
  length_transformations : transformations.length = capacity

/-- The stack a connection starts with: every slot zero. -/
def BbsIoTransformations.init (capacity : Nat) : BbsIoTransformations capacity :=
  ⟨List.replicate capacity .empty, List.length_replicate _ _⟩

theorem BbsIoTransformations.ext_transformations {n : Nat} {a b : BbsIoTransformations n}
    (h : a.transformations = b.transformations) : a = b := by
  cases a; cases b; cases h; rfl

/-- A call io.c makes to code outside it. -/
inductive Effect
  /-- `t->setup(...)` returned `res` and left `data` in `*data`. -/
  | setup (transformer : BbsIoTransformer) (res : Int) (data : Option Ptr)
  /-- `t->cleanup(&tran)` on a slot holding `transformer` and `data`. -/
  | cleanup (transformer : BbsIoTransformer) (data : Option Ptr)
  /-- `bbs_module_ref(module, 1)`. -/
  | moduleRef (module : Ptr)
  /-- `bbs_module_unref(module, 1)`. -/
  | moduleUnref (module : Ptr)
deriving DecidableEq

/-- The change io.c made to `module`'s reference count along `effects`. -/
def netRefs (module : Ptr) : List Effect → Int
  | [] => 0
  | .moduleRef m :: effects => (if m = module then 1 else 0) + netRefs module effects
  | .moduleUnref m :: effects => (if m = module then -1 else 0) + netRefs module effects
  | _ :: effects => netRefs module effects

@[simp] theorem netRefs_nil (module : Ptr) : netRefs module [] = 0 := rfl

@[simp] theorem netRefs_append (module : Ptr) (a b : List Effect) :
    netRefs module (a ++ b) = netRefs module a + netRefs module b := by
  induction a with
  | nil => simp
  | cons e a ih => cases e <;> simp [netRefs, ih] <;> omega

@[simp] theorem netRefs_cons_setup (module : Ptr) (t : BbsIoTransformer) (res : Int)
    (data : Option Ptr) (effects : List Effect) :
    netRefs module (.setup t res data :: effects) = netRefs module effects := rfl

@[simp] theorem netRefs_cons_cleanup (module : Ptr) (t : BbsIoTransformer) (data : Option Ptr)
    (effects : List Effect) :
    netRefs module (.cleanup t data :: effects) = netRefs module effects := rfl

@[simp] theorem netRefs_cons_moduleRef (module m : Ptr) (effects : List Effect) :
    netRefs module (.moduleRef m :: effects) =
      (if m = module then 1 else 0) + netRefs module effects := rfl

@[simp] theorem netRefs_cons_moduleUnref (module m : Ptr) (effects : List Effect) :
    netRefs module (.moduleUnref m :: effects) =
      (if m = module then -1 else 0) + netRefs module effects := rfl

/-- What a setup hook did when called: its return value, what it left in `*data`, `*rfd` and
`*wfd`. -/
structure SetupOutcome where
  res : Int
  data : Option Ptr
  rfd : Int
  wfd : Int

/-- The setup hooks of the loaded modules: `hook f rfd wfd dir arg` is what calling the setup
function at `f` does. -/
abbrev SetupHook := Ptr → Int → Int → Nat → Option Ptr → SetupOutcome

/-- The query hooks: `hook f tran query data` is what the query function at `f` returns. -/
abbrev QueryHook := Ptr → BbsIoTransformation → Int → Option Ptr → Int

variable {n : Nat}

/-! ### Occupancy by transformer -/

/-- `io_transform_slots_free`. -/
def ioTransformSlotsFree (trans : BbsIoTransformations n) : Bool :=
  trans.transformations.any (·.transformer = none)

/-- The loop of `io_transform_store`: put `slot` in the first slot whose transformer is `NULL`. -/
def storeFirstFree (slot : BbsIoTransformation) :
    List BbsIoTransformation → Option (List BbsIoTransformation)
  | [] => none
  | s :: rest =>
    if s.transformer = none then some (slot :: rest) else (storeFirstFree slot rest).map (s :: ·)

theorem length_of_storeFirstFree {slot : BbsIoTransformation} :
    ∀ {slots slots' : List BbsIoTransformation}, storeFirstFree slot slots = some slots' →
      slots'.length = slots.length
  | [], _, h => by simp [storeFirstFree] at h
  | s :: rest, slots', h => by
    unfold storeFirstFree at h
    split at h
    · cases h; rfl
    · obtain ⟨rest', hrest, rfl⟩ := Option.map_eq_some'.1 h
      simp [length_of_storeFirstFree hrest]

/-- `io_transform_store`: `none` where the code returns -1. -/
def ioTransformStore (trans : BbsIoTransformations n) (t : BbsIoTransformer) (data : Option Ptr) :
    Option (BbsIoTransformations n) :=
  match h : storeFirstFree (.stored t data) trans.transformations with
  | none => none
  | some slots => some ⟨slots, (length_of_storeFirstFree h).trans trans.length_transformations⟩

theorem ioTransformStore_eq_some_iff {trans trans' : BbsIoTransformations n}
    {t : BbsIoTransformer} {data : Option Ptr} :
    ioTransformStore trans t data = some trans' ↔
      storeFirstFree (.stored t data) trans.transformations = some trans'.transformations := by
  unfold ioTransformStore
  split
  · rename_i h; simp [h]
  · rename_i slots h
    simp only [h, Option.some_inj]
    exact ⟨fun h' => h' ▸ rfl, fun h' => BbsIoTransformations.ext_transformations h'⟩

theorem ioTransformStore_eq_none_iff {trans : BbsIoTransformations n} {t : BbsIoTransformer}
    {data : Option Ptr} :
    ioTransformStore trans t data = none ↔
      storeFirstFree (.stored t data) trans.transformations = none := by
  unfold ioTransformStore
  split <;> simp_all

/-! ### Occupancy by data -/

/-- `bbs_io_transform_active`. -/
def bbsIoTransformActive (trans : BbsIoTransformations n) (type : BbsIoTransformType) : Bool :=
  trans.transformations.any (·.activeType = some type)

/-- `__bbs_io_transform_possible`, and `bbs_io_transform_possible`, which calls it with `warn`
off; `warn` only chooses whether the refusal is logged. -/
def bbsIoTransformPossible (trans : BbsIoTransformations n) (type : BbsIoTransformType) : Bool :=
  if bbsIoTransformActive trans type then false
  else if type = .transformTlsEncryption ∧
      bbsIoTransformActive trans .transformDeflateCompression then false
  else true

/-- The body of the loop of `bbs_io_transform_query` at the slot it stops at: 1 when the slot's
transformer has no query hook, and otherwise what its hook returns. -/
def querySlot (hook : QueryHook) (slot : BbsIoTransformation) (query : Int)
    (data : Option Ptr) : Int :=
  match slot with
  | .stored t slotData =>
    match t.query with
    | some f => hook f (.stored t slotData) query data
    | none => 1
  | .empty => -1

/-- `bbs_io_transform_query`: -1 when no slot with data has a transformer of type `type`, and
otherwise the loop body at the first that has. -/
def bbsIoTransformQuery (hook : QueryHook) (trans : BbsIoTransformations n)
    (type : BbsIoTransformType) (query : Int) (data : Option Ptr) : Int :=
  match trans.transformations.find? (·.activeType = some type) with
  | some slot => querySlot hook slot query data
  | none => -1

/-- `teardown_transformation`: the calls it makes; the slot is left empty. -/
def teardownTransformation (t : BbsIoTransformer) (data : Option Ptr) : List Effect :=
  [.cleanup t data, .moduleUnref t.module]

/-- One pass of the loop of `bbs_io_teardown_all_transformers`: a slot with data is torn down. -/
def teardownSlot : BbsIoTransformation → BbsIoTransformation × List Effect
  | .stored t (some d) => (.empty, teardownTransformation t (some d))
  | slot => (slot, [])

/-- The loop of `bbs_io_teardown_all_transformers`, slot by slot. -/
def teardownSlots : List BbsIoTransformation → List BbsIoTransformation × List Effect
  | [] => ([], [])
  | slot :: rest =>
    ((teardownSlot slot).1 :: (teardownSlots rest).1,
      (teardownSlot slot).2 ++ (teardownSlots rest).2)

theorem length_teardownSlots (slots : List BbsIoTransformation) :
    (teardownSlots slots).1.length = slots.length := by
  induction slots with
  | nil => rfl
  | cons slot rest ih => simp [teardownSlots, ih]

/-- `bbs_io_teardown_all_transformers`. -/
def bbsIoTeardownAllTransformers (trans : BbsIoTransformations n) :
    BbsIoTransformations n × List Effect :=
  (⟨(teardownSlots trans.transformations).1,
      (length_teardownSlots _).trans trans.length_transformations⟩,
    (teardownSlots trans.transformations).2)

/-! ### Setup -/

/-- The registry traversal of `bbs_io_transform_setup`: skip a transformer whose direction mask
misses `direction`, stop at the first of type `type`. -/
def suitableTransformer (transformers : List BbsIoTransformer) (type : BbsIoTransformType)
    (direction : Nat) : Option BbsIoTransformer :=
  transformers.find? (fun t => t.dir &&& direction ≠ 0 ∧ t.type = type)

/-- What `bbs_io_transform_setup` returns and leaves: its return value, the stack, the two
descriptors, and the calls it made. -/
structure SetupResult (capacity : Nat) where
  res : Int
  trans : BbsIoTransformations capacity
  rfd : Int
  wfd : Int
  effects : List Effect

/-- The part of `bbs_io_transform_setup` after the possibility check, which the code runs with the
registry's read lock held. -/
def setupLocked (hook : SetupHook) (transformers : List BbsIoTransformer)
    (trans : BbsIoTransformations n) (type : BbsIoTransformType) (direction : Nat)
    (rfd wfd : Int) (arg : Option Ptr) : SetupResult n :=
  if !ioTransformSlotsFree trans then ⟨-1, trans, rfd, wfd, []⟩
  else match suitableTransformer transformers type direction with
  | none => ⟨-1, trans, rfd, wfd, []⟩
  | some t =>
    let outcome := hook t.setup rfd wfd direction arg
    if outcome.res = 0 then
      match ioTransformStore trans t outcome.data with
      | none => ⟨1, trans, outcome.rfd, outcome.wfd,
          [.setup t outcome.res outcome.data, .cleanup t outcome.data]⟩
      | some trans' => ⟨0, trans', outcome.rfd, outcome.wfd,
          [.setup t outcome.res outcome.data, .moduleRef t.module]⟩
    else ⟨outcome.res, trans, outcome.rfd, outcome.wfd, [.setup t outcome.res outcome.data]⟩

/-- `bbs_io_transform_setup`. -/
def bbsIoTransformSetup (hook : SetupHook) (transformers : List BbsIoTransformer)
    (trans : BbsIoTransformations n) (type : BbsIoTransformType) (direction : Nat)
    (rfd wfd : Int) (arg : Option Ptr) : SetupResult n :=
  if !bbsIoTransformPossible trans type then ⟨-1, trans, rfd, wfd, []⟩
  else setupLocked hook transformers trans type direction rfd wfd arg

/-! ### Runs on one stack

A connection's thread is the only one that changes its stack, so a stack's history is a sequence
of setups and teardowns. Each setup may see a different registry and different hooks. -/

/-- A call that changes a stack. -/
inductive StackOp
  | setup (hook : SetupHook) (transformers : List BbsIoTransformer) (type : BbsIoTransformType)
      (direction : Nat) (rfd wfd : Int) (arg : Option Ptr)
  | teardownAll

/-- A stack and the calls io.c has made on its behalf so far. -/
structure StackState (capacity : Nat) where
  trans : BbsIoTransformations capacity
  trace : List Effect

def StackState.init (capacity : Nat) : StackState capacity := ⟨.init capacity, []⟩

def StackState.step (st : StackState n) : StackOp → StackState n
  | .setup hook transformers type direction rfd wfd arg =>
    let result := bbsIoTransformSetup hook transformers st.trans type direction rfd wfd arg
    ⟨result.trans, st.trace ++ result.effects⟩
  | .teardownAll =>
    let result := bbsIoTeardownAllTransformers st.trans
    ⟨result.1, st.trace ++ result.2⟩

def StackState.run (st : StackState n) (ops : List StackOp) : StackState n := ops.foldl step st

@[simp] theorem StackState.run_nil (st : StackState n) : st.run [] = st := rfl

@[simp] theorem StackState.run_cons (st : StackState n) (op : StackOp) (ops : List StackOp) :
    st.run (op :: ops) = (st.step op).run ops := rfl

theorem StackState.run_append (st : StackState n) (ops ops' : List StackOp) :
    st.run (ops ++ ops') = (st.run ops).run ops' := List.foldl_append _ _ _ _

end LbbsIo
