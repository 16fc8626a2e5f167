import LbbsIo.Transformer

/-!
# The registry is a finite map keyed by the folded name

`__bbs_io_transformer_register` refuses a name some entry already has up to ASCII case, and
`bbs_io_transformer_unregister` removes the first entry with the name up to case. Read through
`registryMap`, the list is then a finite map from folded names to entries: registering inserts a
fresh key, unregistering erases one. That `unregister` removes only the *first* match is enough
because no two entries share a folded name, which is the invariant `NamesDistinct` below, kept by
every run of register and unregister.

The lookups by name (`bbs_io_named_transformer_available`, `transform_type_from_name`) compare
with `strcmp`, so they see a different notion of name than the registry keeps: an exact match is
a match up to case, not conversely.
-/

namespace LbbsIo

/-- What the registry is for: the entry registered under each case-folded name. -/
def registryMap (transformers : List BbsIoTransformer) (key : List Nat) :
    Option BbsIoTransformer :=
  transformers.find? (·.name.folded = key)

/-- No two registered names are equal up to ASCII case. -/
def NamesDistinct (transformers : List BbsIoTransformer) : Prop :=
  (transformers.map (·.name.folded)).Nodup

variable {transformers : List BbsIoTransformer} {entry : BbsIoTransformer} {allocOk : Bool}
  {name : CStr}

theorem registryMap_eq_none_iff {key : List Nat} :
    registryMap transformers key = none ↔ ∀ t ∈ transformers, t.name.folded ≠ key := by
  simp [registryMap, List.find?_eq_none]

theorem any_namedUpToCase_eq_false_iff :
    transformers.any (namedUpToCase name) = false ↔
      ∀ t ∈ transformers, t.name.folded ≠ name.folded := by
  simp [List.any_eq_false, namedUpToCase_iff]

/-! ### Register -/

theorem bbsIoTransformerRegister_fst_eq_zero_iff :
    (bbsIoTransformerRegister transformers entry allocOk).1 = 0 ↔
      (∀ t ∈ transformers, t.name.folded ≠ entry.name.folded) ∧ allocOk = true := by
  rw [← any_namedUpToCase_eq_false_iff, bbsIoTransformerRegister]
  cases transformers.any (namedUpToCase entry.name) <;> cases allocOk <;> simp

theorem bbsIoTransformerRegister_snd :
    (bbsIoTransformerRegister transformers entry allocOk).2 =
      if (bbsIoTransformerRegister transformers entry allocOk).1 = 0 then transformers ++ [entry]
      else transformers := by
  unfold bbsIoTransformerRegister
  cases transformers.any (namedUpToCase entry.name) <;> cases allocOk <;> simp

theorem registryMap_append_fresh (hfresh : ∀ t ∈ transformers, t.name.folded ≠ entry.name.folded) :
    registryMap (transformers ++ [entry]) =
      Function.update (registryMap transformers) entry.name.folded (some entry) := by
  funext key
  by_cases hkey : key = entry.name.folded
  · subst hkey
    have hnone := registryMap_eq_none_iff.2 hfresh
    simp only [registryMap] at hnone
    simp [registryMap, List.find?_append, hnone]
  · simp [registryMap, List.find?_append, hkey, Ne.symm hkey]

theorem namesDistinct_register (hdistinct : NamesDistinct transformers) :
    NamesDistinct (bbsIoTransformerRegister transformers entry allocOk).2 := by
  rw [bbsIoTransformerRegister_snd]
  split
  · rename_i hok
    exact nodup_map_append_of_not_any (fun _ => namedUpToCase_iff) hdistinct
      (any_namedUpToCase_eq_false_iff.2 (bbsIoTransformerRegister_fst_eq_zero_iff.1 hok).1) rfl
  · exact hdistinct

/-! ### Unregister -/

theorem bbsIoTransformerUnregister_fst_eq_zero_iff :
    (bbsIoTransformerUnregister transformers name).1 = 0 ↔
      ∃ t ∈ transformers, t.name.folded = name.folded := by
  simp [bbsIoTransformerUnregister, removeFirst_fst_eq_zero_iff, namedUpToCase_iff]

/-- With distinct names, unregistering removes every entry with the name up to case and keeps the
others in their order. -/
theorem bbsIoTransformerUnregister_snd (hdistinct : NamesDistinct transformers) :
    (bbsIoTransformerUnregister transformers name).2 =
      transformers.filter (fun t => t.name.folded ≠ name.folded) := by
  rw [bbsIoTransformerUnregister, removeFirst_snd,
    eraseP_eq_filter_of_nodup (fun _ => namedUpToCase_iff) hdistinct]
  simp [namedUpToCase_eq_decide]

theorem namesDistinct_unregister (hdistinct : NamesDistinct transformers) :
    NamesDistinct (bbsIoTransformerUnregister transformers name).2 := by
  rw [bbsIoTransformerUnregister, removeFirst_snd]
  exact nodup_map_eraseP hdistinct

theorem registryMap_filter_ne (key : List Nat) :
    registryMap (transformers.filter (fun t => t.name.folded ≠ key)) =
      Function.update (registryMap transformers) key none := by
  funext other
  by_cases hother : other = key
  · subst hother
    simp [registryMap, List.find?_filter]
  · simp only [registryMap, List.find?_filter, Function.update_noteq hother]
    congr
    funext t
    by_cases ht : t.name.folded = other <;> simp [ht, hother]

theorem namesDistinct_registryStep (op : RegistryOp) (hdistinct : NamesDistinct transformers) :
    NamesDistinct (registryStep transformers op) := by
  cases op with
  | register entry allocOk => exact namesDistinct_register hdistinct
  | unregister name => exact namesDistinct_unregister hdistinct

theorem namesDistinct_registryRun (ops : List RegistryOp) : NamesDistinct (registryRun ops) := by
  suffices ∀ start, NamesDistinct start → NamesDistinct (ops.foldl registryStep start) from
    this [] List.nodup_nil
  induction ops with
  | nil => exact fun _ h => h
  | cons op ops ih => exact fun start h => ih _ (namesDistinct_registryStep op h)

/-- **The registry refines a finite map keyed by the folded name.** After any run of register and
unregister the names are distinct up to case. Registering succeeds exactly when the folded name
is a fresh key and memory was there, and then appends the one entry; otherwise the list stays as
it was. Unregistering succeeds exactly when the key is present, and leaves every other entry, in
its order, and none with the key. Through `registryMap` the two are insert and erase. -/
theorem registryRun_refines_foldedMap (ops : List RegistryOp) :
    let transformers := registryRun ops
    NamesDistinct transformers ∧
    (∀ entry allocOk,
      let result := bbsIoTransformerRegister transformers entry allocOk
      (result.1 = 0 ↔ registryMap transformers entry.name.folded = none ∧ allocOk = true) ∧
      result.2 = (if result.1 = 0 then transformers ++ [entry] else transformers) ∧
      registryMap result.2 = if result.1 = 0 then
        Function.update (registryMap transformers) entry.name.folded (some entry)
      else registryMap transformers) ∧
    (∀ name,
      let result := bbsIoTransformerUnregister transformers name
      (result.1 = 0 ↔ registryMap transformers name.folded ≠ none) ∧
      result.2 = transformers.filter (fun t => t.name.folded ≠ name.folded) ∧
      registryMap result.2 = Function.update (registryMap transformers) name.folded none) := by
  intro transformers
  have hdistinct := namesDistinct_registryRun ops
  refine ⟨hdistinct, fun entry allocOk => ?_, fun name => ?_⟩
  · have hok := @bbsIoTransformerRegister_fst_eq_zero_iff transformers entry allocOk
    refine ⟨by rw [hok, registryMap_eq_none_iff], bbsIoTransformerRegister_snd, ?_⟩
    rw [bbsIoTransformerRegister_snd]
    split
    · exact registryMap_append_fresh (hok.1 ‹_›).1
    · rfl
  · refine ⟨?_, bbsIoTransformerUnregister_snd hdistinct, ?_⟩
    · rw [bbsIoTransformerUnregister_fst_eq_zero_iff, Ne, registryMap_eq_none_iff]
      simp
    · rw [bbsIoTransformerUnregister_snd hdistinct, registryMap_filter_ne]

/-! ### Lookups by name

The two lookups by name agree with each other: both take the first entry named exactly `name`.
What they do not agree with is the registry's own notion of a name. -/

theorem bbsIoNamedTransformerAvailable_eq_one_iff :
    bbsIoNamedTransformerAvailable transformers name = 1 ↔ ∃ t ∈ transformers, t.name = name := by
  unfold bbsIoNamedTransformerAvailable
  split <;> simp_all [List.any_eq_true, namedExactly_iff]

/-- In a registry with distinct names, `transform_type_from_name` finds the type of the one entry
named exactly `name`. -/
theorem transformTypeFromName_eq_some_iff (hdistinct : NamesDistinct transformers)
    {type : BbsIoTransformType} :
    transformTypeFromName transformers name = some type ↔
      ∃ t ∈ transformers, t.name = name ∧ t.type = type := by
  constructor
  · intro h
    obtain ⟨t, ht, rfl⟩ := Option.map_eq_some'.1 h
    exact ⟨t, List.mem_of_find?_eq_some ht, namedExactly_iff.1 (List.find?_some ht), rfl⟩
  · rintro ⟨t, ht, hname, rfl⟩
    obtain ⟨u, hu⟩ := Option.isSome_iff_exists.1
      (List.find?_isSome.2 ⟨t, ht, namedExactly_iff.2 hname⟩)
    have hut : u = t := List.inj_on_of_nodup_map hdistinct (List.mem_of_find?_eq_some hu) ht
      (by rw [namedExactly_iff.1 (List.find?_some hu), hname])
    simp [transformTypeFromName, hu, hut]

/-- **The two lookups by name agree, and an exact match is a duplicate.** In every registry that
register and unregister can reach, `bbs_io_named_transformer_available(name)` is 1 exactly when
`transform_type_from_name(name)` succeeds, with the type of the entry named `name`; and then
`__bbs_io_transformer_register` would refuse `name`. -/
theorem namedLookups_agree (ops : List RegistryOp) (name : CStr) :
    let transformers := registryRun ops
    (bbsIoNamedTransformerAvailable transformers name = 1 ↔
      ∃ type, transformTypeFromName transformers name = some type) ∧
    (∀ type, transformTypeFromName transformers name = some type ↔
      ∃ t ∈ transformers, t.name = name ∧ t.type = type) ∧
    (bbsIoNamedTransformerAvailable transformers name = 1 →
      ∀ entry allocOk, entry.name = name →
        (bbsIoTransformerRegister transformers entry allocOk).1 = -1) := by
  intro transformers
  have hdistinct := namesDistinct_registryRun ops
  have htype : ∀ type, transformTypeFromName transformers name = some type ↔
      ∃ t ∈ transformers, t.name = name ∧ t.type = type :=
    fun _ => transformTypeFromName_eq_some_iff hdistinct
  refine ⟨?_, htype, ?_⟩
  · rw [bbsIoNamedTransformerAvailable_eq_one_iff]
    simp only [htype]
    exact ⟨fun ⟨t, ht, hname⟩ => ⟨t.type, t, ht, hname, rfl⟩,
      fun ⟨_, t, ht, hname, _⟩ => ⟨t, ht, hname⟩⟩
  · rw [bbsIoNamedTransformerAvailable_eq_one_iff]
    rintro ⟨t, ht, hname⟩ entry allocOk rfl
    unfold bbsIoTransformerRegister
    rw [if_pos (List.any_eq_true.2 ⟨t, ht, namedUpToCase_iff.2 (by rw [hname])⟩)]

/-- `bbs_io_named_transformer_available` and `transform_type_from_name` miss a name that
registration treats as taken: with `TLS` registered, `tls` is unavailable by name and has no
type, yet registering `tls` is refused as a duplicate and unregistering `tls` removes `TLS`. -/
theorem namedLookup_misses_case_variant :
    let upper : CStr := ⟨"TLS".toList.map Char.toNat, by decide⟩
    let lower : CStr := ⟨"tls".toList.map Char.toNat, by decide⟩
    let tls : BbsIoTransformer := ⟨upper, .transformTlsEncryption, transformServerClientTxRx, 1,
      none, 2, 3⟩
    let transformers := registryRun [.register tls true]
    bbsIoNamedTransformerAvailable transformers lower = 0 ∧
      transformTypeFromName transformers lower = none ∧
      (bbsIoTransformerRegister transformers { tls with name := lower } true).1 = -1 ∧
      (bbsIoTransformerUnregister transformers lower).1 = 0 := by
  decide

end LbbsIo
