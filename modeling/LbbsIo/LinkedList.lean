import Mathlib.Data.List.Nodup

/-!
# The list traversals io.c makes

Both registries in io.c, the transformers and the I/O sessions, are `RWLIST`s (the macros live in
include/linkedlists.h, which is not under src/). The code uses them in three ways: a
`RWLIST_TRAVERSE` that stops at the first match, `RWLIST_INSERT_TAIL`, and a
`RWLIST_TRAVERSE_SAFE_BEGIN` loop that removes the first match and breaks. The first two are
`List.any`/`List.find?` and `l ++ [x]`. The third is `removeFirst` below: after that loop the cursor
is `NULL` exactly when nothing matched, and both unregister functions return `cursor ? 0 : -1`.

The lemmas here are the ones both registries share: what `removeFirst` returns and leaves, and
how a list whose keys are pairwise distinct stays so.
-/

namespace LbbsIo

variable {α β : Type} {p : α → Bool} {key : α → β}

/-- A `RWLIST_TRAVERSE_SAFE_BEGIN` loop that removes the first entry satisfying `p` and breaks,
followed by the `cursor ? 0 : -1` both callers return. -/
def removeFirst (p : α → Bool) : List α → Int × List α
  | [] => (-1, [])
  | x :: xs => if p x then (0, xs) else ((removeFirst p xs).1, x :: (removeFirst p xs).2)

theorem removeFirst_snd (l : List α) : (removeFirst p l).2 = l.eraseP p := by
  induction l with
  | nil => rfl
  | cons x xs ih => by_cases hx : p x <;> simp [removeFirst, List.eraseP_cons, hx, ih]

theorem removeFirst_fst (l : List α) : (removeFirst p l).1 = if l.any p then 0 else -1 := by
  induction l with
  | nil => rfl
  | cons x xs ih => by_cases hx : p x <;> simp [removeFirst, hx, ih]

theorem removeFirst_fst_eq_zero_iff (l : List α) : (removeFirst p l).1 = 0 ↔ ∃ x ∈ l, p x := by
  rw [removeFirst_fst]; split <;> simp_all

/-! ### Lists keyed by a field

Each registry keeps at most one entry per key: the folded name of a transformer, the stack of a
session. The lemmas take the loop's test `p` together with the key it stands for. -/

section Keyed

variable {k : β} (hp : ∀ x, p x = true ↔ key x = k)
include hp

/-- With distinct keys, removing the first match removes every match, and keeps the others in
their order. -/
theorem eraseP_eq_filter_of_nodup {l : List α} (hl : (l.map key).Nodup) :
    l.eraseP p = l.filter (fun x => !p x) := by
  induction l with
  | nil => rfl
  | cons x xs ih =>
    rw [List.map_cons, List.nodup_cons] at hl
    by_cases hx : p x
    · have hrest : ∀ y ∈ xs, ¬p y = true := fun y hy hy' =>
        hl.1 (List.mem_map.2 ⟨y, hy, ((hp y).1 hy').trans ((hp x).1 hx).symm⟩)
      have hkeep : xs.filter (fun y => !p y) = xs :=
        List.filter_eq_self.2 fun y hy => by simpa using hrest y hy
      simp [List.eraseP_cons, hx, hkeep]
    · simp [List.eraseP_cons, hx, ih hl.2]

theorem nodup_map_append_of_not_any {l : List α} {x : α} (hl : (l.map key).Nodup)
    (hfresh : l.any p = false) (hx : key x = k) : ((l ++ [x]).map key).Nodup := by
  rw [List.map_append, List.nodup_append]
  refine ⟨hl, List.nodup_singleton _, ?_⟩
  simp only [List.any_eq_false] at hfresh
  simp only [List.Disjoint, List.map_cons, List.map_nil, List.mem_map, List.mem_singleton]
  rintro _ ⟨y, hy, rfl⟩ hyx
  exact hfresh y hy ((hp y).2 (hyx.trans hx))

end Keyed

theorem nodup_map_eraseP {l : List α} (hl : (l.map key).Nodup) : ((l.eraseP p).map key).Nodup :=
  hl.sublist ((List.eraseP_sublist l).map key)

end LbbsIo
