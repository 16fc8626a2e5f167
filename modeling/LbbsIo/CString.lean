import Mathlib.Data.List.Basic

/-!
# C strings and the two comparisons io.c makes

Transformer names are C strings. io.c compares them with `strcmp` when it looks a transformer up
by name, and with `strcasecmp` when it registers or unregisters one. Both walk the two strings
byte by byte and stop at the first difference or at the terminator; `strcasecmp` first passes
each byte through `tolower` of the C locale. The code only ever tests the result against zero,
so what matters below is when each returns zero.
-/

namespace LbbsIo

/-- A C string: its bytes up to, and not including, the terminating NUL. -/
structure CStr where
  bytes : List Nat
  bytes_valid : ∀ b ∈ bytes, 0 < b ∧ b < 256
deriving DecidableEq

theorem CStr.ext_bytes {a b : CStr} (h : a.bytes = b.bytes) : a = b := by
  cases a; cases b; cases h; rfl

/-- `tolower` in the C locale: it folds `A`..`Z` and leaves every other byte alone. -/
def tolower (b : Nat) : Nat := if 65 ≤ b ∧ b ≤ 90 then b + 32 else b

theorem tolower_eq_zero {b : Nat} : tolower b = 0 ↔ b = 0 := by
  unfold tolower; split <;> omega

/-- The byte loop `strcmp` and `strcasecmp` share: compare `fold`ed bytes until they differ or a
string ends (its terminator then meets the other string's byte), and return the difference. -/
def compareBytes (fold : Nat → Nat) : List Nat → List Nat → Int
  | [], [] => 0
  | [], d :: _ => 0 - (fold d : Int)
  | c :: _, [] => (fold c : Int) - 0
  | c :: s, d :: t => if fold c = fold d then compareBytes fold s t else (fold c : Int) - fold d

def strcmp (a b : CStr) : Int := compareBytes id a.bytes b.bytes

def strcasecmp (a b : CStr) : Int := compareBytes tolower a.bytes b.bytes

/-- The string's text, as `%s` prints it. -/
def CStr.text (a : CStr) : String := String.mk (a.bytes.map Char.ofNat)

/-- The name as `strcasecmp` sees it: every byte folded to lower case. -/
def CStr.folded (a : CStr) : List Nat := a.bytes.map tolower

/-- Neither comparison can stop early at a NUL inside a string, since a C string has none: two
strings compare equal exactly when their folded bytes agree. -/
theorem compareBytes_eq_zero_iff {fold : Nat → Nat} (hfold : ∀ b, fold b = 0 → b = 0)
    (s t : List Nat) (hs : ∀ b ∈ s, 0 < b) (ht : ∀ b ∈ t, 0 < b) :
    compareBytes fold s t = 0 ↔ s.map fold = t.map fold := by
  have hpos : ∀ b, 0 < b → fold b ≠ 0 := fun b hb h => by have := hfold b h; omega
  induction s generalizing t with
  | nil =>
    cases t with
    | nil => simp [compareBytes]
    | cons d t => have := hpos d (ht d (by simp)); simp [compareBytes]; omega
  | cons c s ih =>
    cases t with
    | nil => have := hpos c (hs c (by simp)); simp [compareBytes]; omega
    | cons d t =>
      have ih' := ih t (fun b hb => hs b (by simp [hb])) (fun b hb => ht b (by simp [hb]))
      by_cases hcd : fold c = fold d
      · simp [compareBytes, hcd, ih']
      · simp [compareBytes, hcd]; omega

theorem strcmp_eq_zero_iff {a b : CStr} : strcmp a b = 0 ↔ a = b := by
  have hid : ∀ x : Nat, id x = 0 → x = 0 := fun _ h => h
  rw [strcmp, compareBytes_eq_zero_iff hid _ _ (fun x hx => (a.bytes_valid x hx).1)
    (fun x hx => (b.bytes_valid x hx).1), List.map_id, List.map_id]
  exact ⟨CStr.ext_bytes, fun h => h ▸ rfl⟩

theorem strcasecmp_eq_zero_iff {a b : CStr} : strcasecmp a b = 0 ↔ a.folded = b.folded :=
  compareBytes_eq_zero_iff (fun _ => tolower_eq_zero.1) _ _ (fun x hx => (a.bytes_valid x hx).1)
    (fun x hx => (b.bytes_valid x hx).1)

end LbbsIo
