import Ns3Results.Python.Core
import Mathlib.Algebra.Order.Field.Rat
import Mathlib.Algebra.BigOperators.Group.List

/-! # Python floats

The scripts compute with Python `float`s: sums, means, quotients and comparisons of the numbers they
read, and numpy's mean and maximum of a trace. Those are IEEE 754 binary64 operations: they round,
underflow to `0.0` (a throughput of `1e-170` squares to `0.0`), overflow to `inf`, and meet `nan`
(`float('nan')`, `inf - inf`). Exact rationals have none of it, so the float type `F` and its
operations are a **parameter**, `FloatArith F`, as the parsing builtins are (`Builtins`): every
result that is not about one instance holds for binary64. The structure carries the few laws of
binary64 that the results use, each with the reason it holds; `lt` is Python's `<` (false when either
side is `nan`) and `isZero x` is `x == 0.0` (true of `-0.0` too, so signed zeros are one value here).

* **`pyDiv`** — `a / b`, raising `ZeroDivisionError` when `b == 0.0` (whatever `a` is).
* **`pySum`** — `sum(xs)`: a left fold of `+` from the int `0`.
* **`pyMin`, `pyMax`, `pyMaxBy`** — the builtins `min`, `max`, `max(…, key=…)`: keep the current item
  unless a later one compares `<` (`>`). Under a strict partial order, such as `<` on floats with
  `nan`, the result is an item that no item beats (`foldl_keep_spec`).
* **`npMax`** — `np.max`: `np.maximum` folded over the array, `nan` as soon as one item is.
* **`intTrueDiv`, `intToFloat`** — `n / m` on ints and `float(n)`: correctly rounded, with
  `OverflowError` past the float range.
* **`FloatArith.exact`** — exact rational arithmetic: an instance for evaluated examples, and the
  setting of the results that are stated over exact rationals. -/

namespace Ns3Results

/-- **Python's `float` operations** over a type `F` of float values, with the laws of IEEE 754
binary64 (round to nearest) that the results of the development use. -/
structure FloatArith (F : Type) where
  /-- `float(q)` for the exact value `q` of an int or a literal: the nearest float, `±inf` past the
  float range. -/
  ofRat : ℚ → F
  add : F → F → F
  sub : F → F → F
  mul : F → F → F
  /-- `a / b`, for `b != 0.0`. -/
  div : F → F → F
  /-- `a < b`: false when either side is `nan`. -/
  lt : F → F → Bool
  /-- `a == 0.0`. -/
  isZero : F → Bool
  isNan : F → Bool
  /-- `a` is `inf` or `-inf`. -/
  isInf : F → Bool
  /-- `int(a)`: truncation toward zero; `OverflowError` on `±inf`, `ValueError` on `nan`. -/
  toInt : F → PyResult ℤ
  /-- `np.mean(xs)`: numpy's pairwise sum of the items, divided by their count. -/
  npMean : List F → F
  /-- `0.0 == 0`. -/
  isZero_ofRat_zero : isZero (ofRat 0) = true
  /-- `float(n)` is at least `1.0` for an int `n ≥ 1`. -/
  isZero_natCast : ∀ n : ℕ, 0 < n → isZero (ofRat n) = false
  /-- `n * a` for an int `n ≥ 1` is at least `a` in magnitude: a nonzero float is at least `5e-324`
  in magnitude and the product rounds to at least that, `±inf` and `nan` stay, so the product is
  `0.0` exactly when `a` is. -/
  isZero_natCast_mul : ∀ (n : ℕ) (a : F), 0 < n → isZero (mul (ofRat n) a) = isZero a
  /-- `a > 0` implies `a != 0`. -/
  isZero_of_pos : ∀ a, lt (ofRat 0) a = true → isZero a = false
  /-- Ints up to `2 ** 53` are floats exactly, so `float` keeps their order. -/
  natCast_lt_natCast : ∀ m n : ℕ, m < n → n ≤ 2 ^ 53 → lt (ofRat m) (ofRat n) = true
  /-- `<` is irreflexive (`nan < nan` is false too) … -/
  lt_irrefl : ∀ a, lt a a = false
  /-- … and transitive: it is a strict partial order, `nan` comparable to nothing. -/
  lt_trans : ∀ a b c, lt a b = true → lt b c = true → lt a c = true
  /-- `a - b` is below `0.0` only when `a < b`: rounding is monotone and keeps `0.0`, and `nan`
  (`inf - inf` included) is below nothing. -/
  not_sub_lt_zero : ∀ a b, lt a b = false → lt (sub a b) (ofRat 0) = false
  /-- … and above `0.0` only when `b < a`. -/
  not_zero_lt_sub : ∀ a b, lt b a = false → lt (ofRat 0) (sub a b) = false
  /-- Dividing by a positive float cannot take a value that is not below `0.0` below it … -/
  not_div_lt_zero : ∀ a d, lt a (ofRat 0) = false → lt (ofRat 0) d = true → lt (div a d) (ofRat 0) = false
  /-- … nor one that is not above `0.0` above it. -/
  not_zero_lt_div : ∀ a d, lt (ofRat 0) a = false → lt (ofRat 0) d = true → lt (ofRat 0) (div a d) = false
  /-- Multiplying by a positive float: likewise. -/
  not_mul_lt_zero : ∀ a c, lt a (ofRat 0) = false → lt (ofRat 0) c = true → lt (mul a c) (ofRat 0) = false
  not_zero_lt_mul : ∀ a c, lt (ofRat 0) a = false → lt (ofRat 0) c = true → lt (ofRat 0) (mul a c) = false

/-! ## (1) The loop of `min` and `max` -/

section Keep

variable {α β : Type} (r : β → β → Bool) (key : α → β)

/-- **The loop of `min`, `max` and `max(…, key=…)`**: keep the current item `m` unless the next one
`y` beats it, `r (key m) (key y)`. -/
def foldlKeep (x : α) (xs : List α) : α := xs.foldl (fun m y => if r (key m) (key y) then y else m) x

/-- **The kept item is one of the items, and no item beats it**, when `r` is a strict partial order.
The kept item is the first one or beats it, which carries the claim from one item to the next: an
item beating the kept one would, by transitivity, beat an item the kept one replaced. -/
theorem foldl_keep_spec (hirr : ∀ a, r a a = false)
    (htrans : ∀ a b c, r a b = true → r b c = true → r a c = true) (x : α) (xs : List α) :
    foldlKeep r key x xs ∈ x :: xs ∧ (∀ y ∈ x :: xs, r (key (foldlKeep r key x xs)) (key y) = false) ∧
      (foldlKeep r key x xs = x ∨ r (key x) (key (foldlKeep r key x xs)) = true) := by
  induction xs generalizing x with
  | nil => exact ⟨List.mem_singleton_self x, fun y hy => by rw [List.mem_singleton.mp hy]; exact hirr _,
      .inl rfl⟩
  | cons z zs ih =>
    have hfold : foldlKeep r key x (z :: zs) = foldlKeep r key (if r (key x) (key z) then z else x) zs :=
      rfl
    rw [hfold]
    by_cases hzx : r (key x) (key z) = true
    · rw [if_pos hzx]
      obtain ⟨hmem, hbeat, hchain⟩ := ih z
      have hxm : r (key x) (key (foldlKeep r key z zs)) = true :=
        hchain.elim (fun h => by rw [h]; exact hzx) (htrans _ _ _ hzx)
      refine ⟨List.mem_cons_of_mem _ hmem, fun y hy => ?_, .inr hxm⟩
      rcases List.mem_cons.mp hy with rfl | hy
      · -- beating `x`, the kept item would beat itself
        cases h : r (key (foldlKeep r key z zs)) (key y)
        · rfl
        · simpa [hirr] using htrans _ _ _ h hxm
      · exact hbeat y hy
    · rw [if_neg hzx]
      obtain ⟨hmem, hbeat, hchain⟩ := ih x
      refine ⟨List.mem_cons.mpr ((List.mem_cons.mp hmem).imp id (List.mem_cons_of_mem z)),
        fun y hy => ?_, hchain⟩
      rcases List.mem_cons.mp hy with rfl | hy
      · exact hbeat _ (List.mem_cons_self _ _)
      rcases List.mem_cons.mp hy with rfl | hy
      · -- `y` did not beat `x`, so it cannot beat what beats `x`
        cases h : r (key (foldlKeep r key x zs)) (key y)
        · rfl
        · rcases hchain with hx | hx
          · rw [hx] at h; exact absurd h hzx
          · exact absurd (htrans _ _ _ hx h) hzx
      · exact hbeat y (List.mem_cons_of_mem _ hy)

end Keep

namespace FloatArith

variable {F : Type} (A : FloatArith F)

/-! ## (2) Arithmetic that can raise -/

/-- **`a / b`** on floats: `ZeroDivisionError` when `b == 0.0`. -/
def pyDiv (a b : F) : PyResult F := if A.isZero b then .error .zeroDivisionError else .ok (A.div a b)

theorem pyDiv_of_isZero {a b : F} (h : A.isZero b = true) : A.pyDiv a b = .error .zeroDivisionError :=
  if_pos h

theorem pyDiv_of_not_isZero {a b : F} (h : A.isZero b = false) : A.pyDiv a b = .ok (A.div a b) := by
  rw [pyDiv, h]
  rfl

theorem pyDiv_raisesOnly (a b : F) : RaisesOnly (· = .zeroDivisionError) (A.pyDiv a b) := by
  unfold pyDiv
  split
  · exact fun _ h => by cases h; rfl
  · exact .ok _

/-- **`n / m` on ints** (true division): the correctly rounded quotient; `ZeroDivisionError` when
`m = 0`, `OverflowError` when the quotient is past the float range. -/
def intTrueDiv (n m : ℤ) : PyResult F :=
  if m = 0 then .error .zeroDivisionError
  else if A.isInf (A.ofRat (n / m)) then .error .overflowError else .ok (A.ofRat (n / m))

/-- **`float(n)` of an int**: `OverflowError` past the float range. -/
def intToFloat (n : ℤ) : PyResult F :=
  if A.isInf (A.ofRat n) then .error .overflowError else .ok (A.ofRat n)

/-- **`np.asarray(ns, float)` of a list of ints**: their floats when none is past the float range … -/
theorem mapM_intToFloat_of_finite {ns : List ℤ} (h : ∀ n ∈ ns, A.isInf (A.ofRat n) = false) :
    ns.mapM A.intToFloat = .ok (ns.map fun n : ℤ => A.ofRat n) :=
  mapM_eq_ok fun n hn => by rw [intToFloat, h n hn, if_neg Bool.false_ne_true]

/-- … and `OverflowError` when one is. -/
theorem mapM_intToFloat_of_inf {ns : List ℤ} (h : ∃ n ∈ ns, A.isInf (A.ofRat n) = true) :
    ns.mapM A.intToFloat = .error .overflowError := by
  obtain ⟨n, hn, hinf⟩ := h
  refine mapM_eq_error ⟨n, hn, by rw [intToFloat, if_pos hinf]⟩ fun m _ => ?_
  unfold intToFloat
  split
  · exact fun _ h => by cases h; rfl
  · exact .ok _

/-- **`sum(xs)`**: a left fold of `+` from the int `0`. -/
def pySum (xs : List F) : F := xs.foldl A.add (A.ofRat 0)

/-! ## (3) `min`, `max`, `np.max` -/

/-- **`min(xs)`**: the builtin keeps its current item unless a later one compares `<`; `ValueError`
on an empty sequence. -/
def pyMin : List F → PyResult F
  | [] => .error .valueError
  | x :: xs => .ok (foldlKeep (fun m y => A.lt y m) id x xs)

/-- **`max(xs)`**: as `min`, with `>`. -/
def pyMax : List F → PyResult F
  | [] => .error .valueError
  | x :: xs => .ok (foldlKeep A.lt id x xs)

/-- **`max(items, key=key)`**: the first item whose key no later key exceeds; `ValueError` when
empty. -/
def pyMaxBy {α : Type} (key : α → F) : List α → PyResult α
  | [] => .error .valueError
  | x :: xs => .ok (foldlKeep A.lt key x xs)

theorem pyMin_spec (x : F) (xs : List F) :
    ∃ m, A.pyMin (x :: xs) = .ok m ∧ m ∈ x :: xs ∧ ∀ y ∈ x :: xs, A.lt y m = false :=
  let h := foldl_keep_spec (fun m y => A.lt y m) id A.lt_irrefl (fun a b c h₁ h₂ => A.lt_trans c b a h₂ h₁) x xs
  ⟨_, rfl, h.1, h.2.1⟩

theorem pyMax_spec (x : F) (xs : List F) :
    ∃ m, A.pyMax (x :: xs) = .ok m ∧ m ∈ x :: xs ∧ ∀ y ∈ x :: xs, A.lt m y = false :=
  let h := foldl_keep_spec A.lt id A.lt_irrefl A.lt_trans x xs
  ⟨_, rfl, h.1, h.2.1⟩

theorem pyMaxBy_ok_of_ne_nil {α : Type} (key : α → F) {xs : List α} (h : xs ≠ []) :
    ∃ m, A.pyMaxBy key xs = .ok m := by
  cases xs with
  | nil => exact absurd rfl h
  | cons x xs => exact ⟨_, rfl⟩

/-- **`max(…, key=…)` returns an item whose key no item's key exceeds.** -/
theorem pyMaxBy_spec {α : Type} {key : α → F} {xs : List α} {m : α} (h : A.pyMaxBy key xs = .ok m) :
    m ∈ xs ∧ ∀ y ∈ xs, A.lt (key m) (key y) = false := by
  cases xs with
  | nil => cases h
  | cons x xs =>
    cases h
    exact (foldl_keep_spec A.lt key A.lt_irrefl A.lt_trans x xs).imp_right And.left

/-- **`np.maximum(a, b)`**: `nan` when either is, else the larger. -/
def npMaximum (a b : F) : F :=
  if A.isNan a then a else if A.isNan b then b else if A.lt a b then b else a

/-- **`np.max(xs)`**: `np.maximum` folded over the array; `ValueError` on an empty one. -/
def npMax : List F → PyResult F
  | [] => .error .valueError
  | x :: xs => .ok (xs.foldl A.npMaximum x)

theorem foldl_npMaximum_mem (x : F) (xs : List F) : xs.foldl A.npMaximum x ∈ x :: xs := by
  induction xs generalizing x with
  | nil => exact List.mem_singleton_self x
  | cons z zs ih =>
    have hz : A.npMaximum x z = x ∨ A.npMaximum x z = z := by
      unfold npMaximum; split_ifs <;> simp
    rcases List.mem_cons.mp (ih (A.npMaximum x z)) with h | h
    · rw [List.foldl_cons, h]
      rcases hz with hz | hz <;> rw [hz] <;> simp
    · exact List.mem_cons_of_mem _ (List.mem_cons_of_mem _ h)

/-- Once a `nan` is met, `np.max` is `nan`. -/
theorem isNan_foldl_npMaximum (x : F) (xs : List F) (h : ∃ y ∈ x :: xs, A.isNan y = true) :
    A.isNan (xs.foldl A.npMaximum x) = true := by
  induction xs generalizing x with
  | nil => obtain ⟨y, hy, hn⟩ := h; rwa [← List.mem_singleton.mp hy]
  | cons z zs ih =>
    refine ih _ ?_
    obtain ⟨y, hy, hn⟩ := h
    rcases List.mem_cons.mp hy with rfl | hy
    · exact ⟨_, List.mem_cons_self _ _, by simp [npMaximum, hn]⟩
    rcases List.mem_cons.mp hy with rfl | hy
    · exact ⟨_, List.mem_cons_self _ _, by unfold npMaximum; split_ifs <;> assumption⟩
    · exact ⟨y, List.mem_cons_of_mem _ hy, hn⟩

/-- Over items none of which is `nan`, `np.max` is the loop of `max`. -/
theorem foldl_npMaximum_of_not_nan (x : F) (xs : List F) (h : ∀ y ∈ x :: xs, A.isNan y = false) :
    xs.foldl A.npMaximum x = foldlKeep A.lt id x xs := by
  induction xs generalizing x with
  | nil => rfl
  | cons z zs ih =>
    have hx := h x (List.mem_cons_self _ _)
    have hz := h z (List.mem_cons_of_mem _ (List.mem_cons_self _ _))
    have hstep : A.npMaximum x z = if A.lt x z then z else x := by simp [npMaximum, hx, hz]
    rw [List.foldl_cons, hstep]
    refine ih _ fun y hy => ?_
    rcases List.mem_cons.mp hy with rfl | hy
    · split_ifs <;> assumption
    · exact h y (List.mem_cons_of_mem _ (List.mem_cons_of_mem _ hy))

/-- **`np.max` of a non-empty array** is one of its items: `nan` as soon as one item is, and
otherwise an item that no item exceeds. -/
theorem npMax_spec (x : F) (xs : List F) :
    ∃ m, A.npMax (x :: xs) = .ok m ∧ m ∈ x :: xs ∧
      ((∃ y ∈ x :: xs, A.isNan y = true) → A.isNan m = true) ∧
      ((∀ y ∈ x :: xs, A.isNan y = false) → ∀ y ∈ x :: xs, A.lt m y = false) :=
  ⟨_, rfl, A.foldl_npMaximum_mem x xs, A.isNan_foldl_npMaximum x xs, fun h => by
    rw [A.foldl_npMaximum_of_not_nan x xs h]
    exact (foldl_keep_spec A.lt id A.lt_irrefl A.lt_trans x xs).2.1⟩

end FloatArith

/-! ## (4) Exact rational arithmetic -/

/-- **Exact rational arithmetic**: no rounding, no `inf`, no `nan`; `int(q)` truncates toward zero and
`np.mean` is the exact mean. -/
def FloatArith.exact : FloatArith ℚ where
  ofRat q := q
  add := (· + ·)
  sub := (· - ·)
  mul := (· * ·)
  div := (· / ·)
  lt a b := decide (a < b)
  isZero a := decide (a = 0)
  isNan _ := false
  isInf _ := false
  toInt q := .ok (if 0 ≤ q then q.floor else q.ceil)
  npMean xs := xs.sum / xs.length
  isZero_ofRat_zero := by simp
  isZero_natCast n hn := by simp [hn.ne']
  isZero_natCast_mul n a hn := by simp [hn.ne']
  isZero_of_pos a h := by simp only [decide_eq_true_eq, decide_eq_false_iff_not] at h ⊢; exact h.ne'
  natCast_lt_natCast m n h _ := by simp [h]
  lt_irrefl a := by simp
  lt_trans a b c h₁ h₂ := by simp only [decide_eq_true_eq] at h₁ h₂ ⊢; exact h₁.trans h₂
  not_sub_lt_zero a b h := by
    simp only [decide_eq_false_iff_not, not_lt] at h ⊢
    exact sub_nonneg.mpr h
  not_zero_lt_sub a b h := by
    simp only [decide_eq_false_iff_not, not_lt] at h ⊢
    exact sub_nonpos.mpr h
  not_div_lt_zero a d h hd := by
    simp only [decide_eq_false_iff_not, decide_eq_true_eq, not_lt] at h hd ⊢
    exact div_nonneg h hd.le
  not_zero_lt_div a d h hd := by
    simp only [decide_eq_false_iff_not, decide_eq_true_eq, not_lt] at h hd ⊢
    exact div_nonpos_of_nonpos_of_nonneg h hd.le
  not_mul_lt_zero a c h hc := by
    simp only [decide_eq_false_iff_not, decide_eq_true_eq, not_lt] at h hc ⊢
    exact mul_nonneg h hc.le
  not_zero_lt_mul a c h hc := by
    simp only [decide_eq_false_iff_not, decide_eq_true_eq, not_lt] at h hc ⊢
    exact mul_nonpos_of_nonpos_of_nonneg h hc.le

namespace FloatArith

@[simp] theorem exact_ofRat (q : ℚ) : exact.ofRat q = q := rfl
@[simp] theorem exact_add (a b : ℚ) : exact.add a b = a + b := rfl
@[simp] theorem exact_sub (a b : ℚ) : exact.sub a b = a - b := rfl
@[simp] theorem exact_mul (a b : ℚ) : exact.mul a b = a * b := rfl
@[simp] theorem exact_div (a b : ℚ) : exact.div a b = a / b := rfl
@[simp] theorem exact_lt (a b : ℚ) : exact.lt a b = decide (a < b) := rfl
@[simp] theorem exact_isZero (a : ℚ) : exact.isZero a = decide (a = 0) := rfl

@[simp] theorem exact_pySum (xs : List ℚ) : exact.pySum xs = xs.sum := List.sum_eq_foldl.symm

end FloatArith

end Ns3Results
