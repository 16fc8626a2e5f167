import LbbsIo.CString
import LbbsIo.LinkedList

/-!
# The transformer registry

A transformer is what a loadable module contributes: a named kind of I/O transformation (TLS,
compression, session logging) with three hooks and the module that owns it. io.c keeps them in
one process-wide list, `transformers`. Registration refuses a name that is already there up to
ASCII case; lookups by name, on the other hand, use `strcmp`.

Pointers the code stores and compares but never dereferences (hook addresses, modules, private
data, stacks, owners) are `Ptr`s; `NULL` is `none` where the code tests for it.
-/

namespace LbbsIo

/-- An address the code stores and compares but never dereferences itself. -/
abbrev Ptr := Nat

/-- `enum bbs_io_transform_type`. Modelled from the spec: include/io.h, which declares it, is not
under src/. io.c names `TRANSFORM_TLS_ENCRYPTION` and `TRANSFORM_DEFLATE_COMPRESSION`; its comments
and the spec name the third kind, session logging. -/
inductive BbsIoTransformType
  | transformTlsEncryption
  | transformDeflateCompression
  | transformSessionLogging
deriving DecidableEq, Repr

/-- `TRANSFORM_SERVER_CLIENT_TX_RX`, the direction mask the CLI command asks for. Modelled from
the spec: include/io.h is not under src/; the spec names two directions (server reads and client
writes, server writes and client reads), and this mask is both of them. -/
def transformServerClientTxRx : Nat := 3

/-- `struct bbs_io_transformer`. The hooks are function pointers; what calling one does is given
to the functions that call it. `query` may be `NULL`. -/
structure BbsIoTransformer where
  name : CStr
  type : BbsIoTransformType
  dir : Nat
  setup : Ptr
  query : Option Ptr
  cleanup : Ptr
  module : Ptr
deriving DecidableEq

/-! ### Registration -/

/-- The duplicate test of `__bbs_io_transformer_register` and the match of
`bbs_io_transformer_unregister`: `!strcasecmp(name, t->name)`. -/
def namedUpToCase (name : CStr) (t : BbsIoTransformer) : Bool := strcasecmp name t.name = 0

/-- `__bbs_io_transformer_register`. Its arguments are the fields of `entry`; `allocOk` is whether
`calloc` succeeded. -/
def bbsIoTransformerRegister (transformers : List BbsIoTransformer) (entry : BbsIoTransformer)
    (allocOk : Bool) : Int × List BbsIoTransformer :=
  if transformers.any (namedUpToCase entry.name) then (-1, transformers)
  else if allocOk then (0, transformers ++ [entry])
  else (-1, transformers)

/-- `bbs_io_transformer_unregister`. -/
def bbsIoTransformerUnregister (transformers : List BbsIoTransformer) (name : CStr) :
    Int × List BbsIoTransformer :=
  removeFirst (namedUpToCase name) transformers

/-! ### Lookups -/

/-- The match of the two lookups by name: `!strcmp(name, t->name)`. -/
def namedExactly (name : CStr) (t : BbsIoTransformer) : Bool := strcmp name t.name = 0

/-- `bbs_io_named_transformer_available`. -/
def bbsIoNamedTransformerAvailable (transformers : List BbsIoTransformer) (name : CStr) : Int :=
  if transformers.any (namedExactly name) then 1 else 0

/-- `transform_type_from_name`: the type of the first transformer named exactly `name`, or
`none` where the code returns -1 and leaves `*type` alone. -/
def transformTypeFromName (transformers : List BbsIoTransformer) (name : CStr) :
    Option BbsIoTransformType :=
  (transformers.find? (namedExactly name)).map (·.type)

/-- `bbs_io_transformer_available`. -/
def bbsIoTransformerAvailable (transformers : List BbsIoTransformer)
    (transformType : BbsIoTransformType) : Int :=
  if transformers.any (·.type = transformType) then 1 else 0

/-- `cli_io_transformers`: the lines it prints, one per registered name, in list order. -/
def cliIoTransformers (transformers : List BbsIoTransformer) : List String :=
  transformers.map (·.name.text ++ "\n")

/-! ### Runs

Modules register their transformers when they load and unregister them when they unload; the
registry is whatever a sequence of these calls leaves. -/

/-- A call that changes the registry. -/
inductive RegistryOp
  | register (entry : BbsIoTransformer) (allocOk : Bool)
  | unregister (name : CStr)

def registryStep (transformers : List BbsIoTransformer) : RegistryOp → List BbsIoTransformer
  | .register entry allocOk => (bbsIoTransformerRegister transformers entry allocOk).2
  | .unregister name => (bbsIoTransformerUnregister transformers name).2

/-- The registry after a sequence of calls, from the empty list the process starts with. -/
def registryRun (ops : List RegistryOp) : List BbsIoTransformer := ops.foldl registryStep []

theorem namedUpToCase_iff {name : CStr} {t : BbsIoTransformer} :
    namedUpToCase name t = true ↔ t.name.folded = name.folded := by
  rw [namedUpToCase, decide_eq_true_iff, strcasecmp_eq_zero_iff, eq_comm]

theorem namedUpToCase_eq_decide {name : CStr} {t : BbsIoTransformer} :
    namedUpToCase name t = decide (t.name.folded = name.folded) := by
  rw [Bool.eq_iff_iff, namedUpToCase_iff, decide_eq_true_iff]

theorem namedExactly_iff {name : CStr} {t : BbsIoTransformer} :
    namedExactly name t = true ↔ t.name = name := by
  rw [namedExactly, decide_eq_true_iff, strcmp_eq_zero_iff, eq_comm]

end LbbsIo
