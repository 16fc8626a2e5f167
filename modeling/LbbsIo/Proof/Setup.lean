import LbbsIo.Stack

/-!
# What one setup does

`io_transform_store` fills the first slot whose transformer is `NULL`, and
`io_transform_slots_free` asks whether there is one; since setup asks the second before it calls
the first, the store cannot fail and its failure branch (clean up, return 1) is dead. What is left
is two outcomes. Either the call fails, the stack is as it was and at most one hook was called, and
returned nonzero; or the first suitable transformer's hook succeeded, its data is in the first
free slot, and its module got one reference. The lemmas after `bbsIoTransformSetup_cases` are
all read off that one.
-/

namespace LbbsIo

open BbsIoTransformation

variable {n : Nat}

/-! ### The store -/

theorem storeFirstFree_eq_some_iff {slot : BbsIoTransformation} :
    ∀ {slots slots' : List BbsIoTransformation},
      storeFirstFree slot slots = some slots' ↔
        ∃ pre post, slots = pre ++ .empty :: post ∧ (∀ s ∈ pre, s ≠ .empty) ∧
          slots' = pre ++ slot :: post
  | [], slots' => by simp [storeFirstFree]
  | s :: rest, slots' => by
    by_cases hs : s = .empty
    · subst hs
      simp only [storeFirstFree, transformer_empty, if_true, Option.some_inj]
      constructor
      · rintro rfl; exact ⟨[], rest, rfl, by simp, rfl⟩
      · rintro ⟨pre, post, hslots, hpre, rfl⟩
        cases pre with
        | nil => cases hslots; rfl
        | cons p pre => exact absurd (List.cons_eq_cons.1 hslots).1.symm (hpre p (by simp))
    · simp only [storeFirstFree, transformer_eq_none_iff, hs, if_false, Option.map_eq_some',
        storeFirstFree_eq_some_iff]
      constructor
      · rintro ⟨rest', ⟨pre, post, rfl, hpre, rfl⟩, rfl⟩
        exact ⟨s :: pre, post, rfl, List.forall_mem_cons.2 ⟨hs, hpre⟩, rfl⟩
      · rintro ⟨pre, post, hslots, hpre, rfl⟩
        cases pre with
        | nil => exact absurd (List.cons_eq_cons.1 hslots).1 hs
        | cons p pre =>
          obtain ⟨rfl, rfl⟩ := List.cons_eq_cons.1 hslots
          exact ⟨pre ++ slot :: post, ⟨pre, post, rfl, fun s' hs' => hpre s' (by simp [hs']), rfl⟩,
            rfl⟩

theorem storeFirstFree_eq_none_iff {slot : BbsIoTransformation} :
    ∀ {slots : List BbsIoTransformation}, storeFirstFree slot slots = none ↔ .empty ∉ slots
  | [] => by simp [storeFirstFree]
  | s :: rest => by
    by_cases hs : s = .empty
    · subst hs; simp [storeFirstFree]
    · simp [storeFirstFree, transformer_eq_none_iff, hs, storeFirstFree_eq_none_iff, Ne.symm hs]

/-- The store leaves every slot that has a transformer where it is. -/
theorem storeFirstFree_getElem? {slot : BbsIoTransformation} :
    ∀ {slots slots' : List BbsIoTransformation} {i : Nat} {s : BbsIoTransformation},
      storeFirstFree slot slots = some slots' → slots[i]? = some s → s.transformer ≠ none →
        slots'[i]? = some s
  | [], _, _, _, h, _, _ => by simp [storeFirstFree] at h
  | c :: rest, slots', i, s, h, hi, hs => by
    unfold storeFirstFree at h
    split at h
    · cases h
      cases i with
      | zero =>
        rw [List.getElem?_cons_zero, Option.some_inj] at hi
        subst hi
        contradiction
      | succ i => exact hi
    · obtain ⟨rest', hrest, rfl⟩ := Option.map_eq_some'.1 h
      cases i with
      | zero => rwa [List.getElem?_cons_zero] at hi ⊢
      | succ i =>
        rw [List.getElem?_cons_succ] at hi ⊢
        exact storeFirstFree_getElem? hrest hi hs

theorem ioTransformSlotsFree_iff {trans : BbsIoTransformations n} :
    ioTransformSlotsFree trans = true ↔ .empty ∈ trans.transformations := by
  simp [ioTransformSlotsFree, transformer_eq_none_iff]

/-- Where `io_transform_slots_free` says yes, `io_transform_store` succeeds. -/
theorem ioTransformStore_isSome {trans : BbsIoTransformations n} {t : BbsIoTransformer}
    {data : Option Ptr} (hfree : ioTransformSlotsFree trans = true) :
    (ioTransformStore trans t data).isSome := by
  rw [Option.isSome_iff_ne_none, Ne, ioTransformStore_eq_none_iff, storeFirstFree_eq_none_iff,
    not_not]
  exact ioTransformSlotsFree_iff.1 hfree

/-! ### Setup -/

section Setup

variable (hook : SetupHook) (transformers : List BbsIoTransformer)
  (trans : BbsIoTransformations n) (type : BbsIoTransformType) (direction : Nat) (rfd wfd : Int)
  (arg : Option Ptr)

/-- Everything `bbs_io_transform_setup` can do. It fails, leaving the stack as it was, having
called no hook or one hook that returned nonzero; or it succeeds, having found the first suitable
transformer `t`, whose hook returned 0, stored `t` with the hook's data through
`io_transform_store`, and taken one reference on `t`'s module. -/
theorem bbsIoTransformSetup_cases :
    let result := bbsIoTransformSetup hook transformers trans type direction rfd wfd arg
    (result.res ≠ 0 ∧ result.trans = trans ∧
      (result.effects = [] ∨ ∃ t res data, res ≠ 0 ∧ result.effects = [.setup t res data])) ∨
    (∃ t, bbsIoTransformPossible trans type = true ∧ ioTransformSlotsFree trans = true ∧
      suitableTransformer transformers type direction = some t ∧
      (hook t.setup rfd wfd direction arg).res = 0 ∧
      ioTransformStore trans t (hook t.setup rfd wfd direction arg).data = some result.trans ∧
      result.res = 0 ∧
      result.effects =
        [.setup t 0 (hook t.setup rfd wfd direction arg).data, .moduleRef t.module]) := by
  intro result
  unfold result bbsIoTransformSetup setupLocked
  by_cases hpossible : bbsIoTransformPossible trans type = true
  · rw [if_neg (by simp [hpossible])]
    by_cases hfree : ioTransformSlotsFree trans = true
    · rw [if_neg (by simp [hfree])]
      split
      · exact .inl ⟨by simp, rfl, .inl rfl⟩
      · rename_i t hfind
        by_cases hres : (hook t.setup rfd wfd direction arg).res = 0
        · have hstore :
              (ioTransformStore trans t (hook t.setup rfd wfd direction arg).data).isSome :=
            ioTransformStore_isSome hfree
          rw [if_pos hres]
          split
          · simp_all
          · rename_i trans'' hstore'
            exact .inr ⟨t, hpossible, hfree, hfind, hres, hstore', rfl, by rw [hres]⟩
        · rw [if_neg hres]
          exact .inl ⟨hres, rfl, .inr ⟨t, _, _, hres, rfl⟩⟩
    · rw [if_pos (by simpa using hfree)]
      exact .inl ⟨by simp, rfl, .inl rfl⟩
  · rw [if_pos (by simpa using hpossible)]
    exact .inl ⟨by simp, rfl, .inl rfl⟩

theorem bbsIoTransformSetup_res_eq_zero {t : BbsIoTransformer}
    (hpossible : bbsIoTransformPossible trans type = true)
    (hfree : ioTransformSlotsFree trans = true)
    (hfind : suitableTransformer transformers type direction = some t)
    (hres : (hook t.setup rfd wfd direction arg).res = 0) :
    (bbsIoTransformSetup hook transformers trans type direction rfd wfd arg).res = 0 := by
  obtain ⟨trans', hstore⟩ := Option.isSome_iff_exists.1
    (ioTransformStore_isSome hfree : (ioTransformStore trans t
      (hook t.setup rfd wfd direction arg).data).isSome)
  simp [bbsIoTransformSetup, setupLocked, hpossible, hfree, hfind, hres, hstore]

/-- A setup that returns 0 put the first suitable transformer, with its hook's data, in the first
empty slot. -/
theorem bbsIoTransformSetup_success
    (hres : (bbsIoTransformSetup hook transformers trans type direction rfd wfd arg).res = 0) :
    ∃ t pre post, suitableTransformer transformers type direction = some t ∧
      trans.transformations = pre ++ .empty :: post ∧ (∀ s ∈ pre, s ≠ .empty) ∧
      (bbsIoTransformSetup hook transformers trans type direction rfd wfd arg).trans.transformations =
        pre ++ .stored t (hook t.setup rfd wfd direction arg).data :: post ∧
      (bbsIoTransformSetup hook transformers trans type direction rfd wfd arg).effects =
        [.setup t 0 (hook t.setup rfd wfd direction arg).data, .moduleRef t.module] := by
  rcases bbsIoTransformSetup_cases hook transformers trans type direction rfd wfd arg with
    ⟨hne, -, -⟩ | ⟨t, -, -, hfind, -, hstore, -, heffects⟩
  · exact absurd hres hne
  · obtain ⟨pre, post, hslots, hpre, hslots'⟩ :=
      storeFirstFree_eq_some_iff.1 (ioTransformStore_eq_some_iff.1 hstore)
    exact ⟨t, pre, post, hfind, hslots, hpre, hslots', heffects⟩

end Setup

/-- The calls of a failed setup move no module reference and clean nothing up. -/
theorem failedSetup_effects_quiet {effects : List Effect}
    (h : effects = [] ∨ ∃ t res data, res ≠ 0 ∧ effects = [.setup t res data]) :
    (∀ module, netRefs module effects = 0) ∧ ∀ t data, Effect.cleanup t data ∉ effects := by
  rcases h with rfl | ⟨_, _, _, -, rfl⟩ <;> simp

/-- **Setup is all or nothing.** `bbs_io_transform_setup` returns 0 exactly when the type is
possible on the stack, a slot is free, the registry has a transformer of that type whose direction
mask meets `direction`, and the first such transformer's hook returns 0. Then the first slot whose
transformer is `NULL` holds that transformer with the hook's data, every other slot is as it was,
and only that transformer's module gained a reference, one. Otherwise the stack is as it was and
no module's count moved. In no case is a cleanup hook called: the store-failure branch is dead. -/
theorem bbsIoTransformSetup_all_or_nothing (hook : SetupHook)
    (transformers : List BbsIoTransformer) (trans : BbsIoTransformations n)
    (type : BbsIoTransformType) (direction : Nat) (rfd wfd : Int) (arg : Option Ptr) :
    let result := bbsIoTransformSetup hook transformers trans type direction rfd wfd arg
    (result.res = 0 ↔ bbsIoTransformPossible trans type = true ∧ ioTransformSlotsFree trans = true ∧
      ∃ t, suitableTransformer transformers type direction = some t ∧
        (hook t.setup rfd wfd direction arg).res = 0) ∧
    (result.res = 0 → ∃ t pre post, suitableTransformer transformers type direction = some t ∧
      trans.transformations = pre ++ .empty :: post ∧ (∀ s ∈ pre, s ≠ .empty) ∧
      result.trans.transformations =
        pre ++ .stored t (hook t.setup rfd wfd direction arg).data :: post ∧
      ∀ module, netRefs module result.effects = if t.module = module then 1 else 0) ∧
    (result.res ≠ 0 → result.trans = trans ∧ ∀ module, netRefs module result.effects = 0) ∧
    (∀ t data, Effect.cleanup t data ∉ result.effects) := by
  dsimp only
  rcases bbsIoTransformSetup_cases hook transformers trans type direction rfd wfd arg with
    ⟨hne, htrans, heffects⟩ | ⟨t, hpossible, hfree, hfind, hres, hstore, hzero, heffects⟩
  · obtain ⟨hrefs, hclean⟩ := failedSetup_effects_quiet heffects
    refine ⟨⟨fun h => absurd h hne, fun ⟨hpossible, hfree, t, hfind, hres⟩ => absurd
      (bbsIoTransformSetup_res_eq_zero hook transformers trans type direction rfd wfd arg
        hpossible hfree hfind hres) hne⟩, fun h => absurd h hne, fun _ => ⟨htrans, hrefs⟩, hclean⟩
  · obtain ⟨pre, post, hslots, hpre, hslots'⟩ :=
      storeFirstFree_eq_some_iff.1 (ioTransformStore_eq_some_iff.1 hstore)
    exact ⟨⟨fun _ => ⟨hpossible, hfree, t, hfind, hres⟩, fun _ => hzero⟩,
      fun _ => ⟨t, pre, post, hfind, hslots, hpre, hslots', fun module => by simp [heffects]⟩,
      fun h => absurd hzero h, by simp [heffects]⟩

end LbbsIo
