import Ns3Results.MultiRtt.Read
import Mathlib.Algebra.Order.BigOperators.Group.List
import Mathlib.Tactic.FieldSimp
import Mathlib.Tactic.LinearCombination
import Mathlib.Tactic.Linarith
import Mathlib.Tactic.Positivity
import Mathlib.Tactic.Ring
import Mathlib.Algebra.Order.Field.Basic

/-! # `tcp-multi-rtt`: `calculate_stats` and Jain's fairness index

`calculate_stats(flows)` summarises one variant's flows in floating point: total, mean, min and max
throughput, mean loss rate, and Jain's fairness index `(Σ xᵢ)² / (n · Σ xᵢ²)`.

* **Over any floats** (`calculateStats_ok`, `calculateStats_of_isZero`): it raises
  `ZeroDivisionError` exactly when the list is empty (the mean) or when `sumSquared`, the float sum of
  the squared throughputs, is `0.0` (the index's denominator) — with every throughput `0`, but also
  with every throughput so small that its square underflows, such as `1e-170` — and nothing else.
* **Over exact rationals** (`FloatArith.exact`) the index is a Cauchy–Schwarz ratio, and everything
  follows from one identity, the **variance identity** `n · Σ xᵢ² − (Σ xᵢ)² = n · Σ (xᵢ − μ)²`
  (`jain_gap`), with `μ` the mean: the index is at most `1`, with equality exactly when all
  throughputs are equal (`min = max`), and positive whenever the total is nonzero
  (`calculateStats_jain`). -/

namespace Ns3Results.MultiRtt

/-! ## (1) Sums of squares -/

/-- Expanding `Σ (x − c)²`. -/
theorem sum_sq_sub (xs : List ℚ) (c : ℚ) :
    (xs.map fun x => (x - c) ^ 2).sum =
      (xs.map fun x => x * x).sum - 2 * c * xs.sum + xs.length * c ^ 2 := by
  induction xs with
  | nil => simp
  | cons x xs ih =>
    simp only [List.map_cons, List.sum_cons, List.length_cons, ih]
    push_cast
    ring

/-- A nonempty list has a positive length, as a rational. -/
theorem cast_length_pos {α : Type} {xs : List α} (h : xs ≠ []) : (0 : ℚ) < xs.length :=
  Nat.cast_pos.mpr (List.length_pos.mpr h)

/-- **The variance identity behind Jain's index**: `n · Σ x² − (Σ x)² = n · Σ (x − μ)²`. -/
theorem jain_gap {xs : List ℚ} (h : xs ≠ []) :
    xs.length * (xs.map fun x => x * x).sum - xs.sum ^ 2 =
      xs.length * (xs.map fun x => (x - xs.sum / xs.length) ^ 2).sum := by
  -- with `n · μ = Σ x`, both sides are `n · Σ x² − (Σ x)²`
  have hμ : (xs.length : ℚ) * (xs.sum / xs.length) = xs.sum := mul_div_cancel₀ _ (cast_length_pos h).ne'
  rw [sum_sq_sub]
  linear_combination (xs.sum - xs.length * (xs.sum / xs.length)) * hμ

/-- A sum of squares vanishes exactly when every term does. -/
theorem sum_sq_eq_zero_iff (xs : List ℚ) (f : ℚ → ℚ) :
    (xs.map fun x => f x ^ 2).sum = 0 ↔ ∀ x ∈ xs, f x = 0 := by
  induction xs with
  | nil => simp
  | cons x xs ih =>
    have hx : 0 ≤ f x ^ 2 := sq_nonneg _
    have hs : 0 ≤ (xs.map fun x => f x ^ 2).sum :=
      List.sum_nonneg fun y hy => by obtain ⟨z, -, rfl⟩ := List.mem_map.mp hy; positivity
    simp only [List.map_cons, List.sum_cons, List.forall_mem_cons, ← ih, add_eq_zero_iff_of_nonneg hx hs,
      pow_eq_zero_iff two_ne_zero]

/-- **Cauchy–Schwarz for a list**: `(Σ x)² ≤ n · Σ x²`, with equality exactly when all terms equal
the mean. -/
theorem sq_sum_le (xs : List ℚ) : xs.sum ^ 2 ≤ xs.length * (xs.map fun x => x * x).sum := by
  rcases eq_or_ne xs [] with rfl | h
  · simp
  · have hgap := jain_gap h
    have hT : 0 ≤ (xs.length : ℚ) * (xs.map fun x => (x - xs.sum / xs.length) ^ 2).sum :=
      mul_nonneg (Nat.cast_nonneg _)
        (List.sum_nonneg fun y hy => by obtain ⟨z, -, rfl⟩ := List.mem_map.mp hy; positivity)
    linarith

theorem sq_sum_eq_iff {xs : List ℚ} (h : xs ≠ []) :
    xs.sum ^ 2 = xs.length * (xs.map fun x => x * x).sum ↔ ∀ x ∈ xs, x = xs.sum / xs.length := by
  have hn : (xs.length : ℚ) ≠ 0 := (cast_length_pos h).ne'
  have hgap := jain_gap h
  have hzero := sum_sq_eq_zero_iff xs (fun x => x - xs.sum / xs.length)
  simp only [sub_eq_zero] at hzero
  rw [← hzero]
  constructor
  · intro heq
    exact (mul_eq_zero.mp (hgap.symm.trans (sub_eq_zero.mpr heq.symm))).resolve_left hn
  · intro hz
    rw [hz, mul_zero, sub_eq_zero] at hgap
    exact hgap.symm

/-- The squares of a list sum to zero only when every term is zero. -/
theorem sum_mul_self_eq_zero_iff (xs : List ℚ) : (xs.map fun x => x * x).sum = 0 ↔ ∀ x ∈ xs, x = 0 := by
  simpa [sq] using sum_sq_eq_zero_iff xs id

/-- The sum of squares of a list with a nonzero term is positive. -/
theorem sum_mul_self_pos {xs : List ℚ} (h : ∃ x ∈ xs, x ≠ 0) : 0 < (xs.map fun x => x * x).sum := by
  have hnn : 0 ≤ (xs.map fun x => x * x).sum :=
    List.sum_nonneg fun y hy => by obtain ⟨z, -, rfl⟩ := List.mem_map.mp hy; exact mul_self_nonneg z
  refine lt_of_le_of_ne hnn fun h0 => ?_
  obtain ⟨x, hx, hx0⟩ := h
  exact hx0 ((sum_mul_self_eq_zero_iff xs).mp h0.symm x hx)

/-! ## (2) Jain's index of a list

Throughout, `xs` is a nonempty list whose squares sum to `Q > 0`, `m` a least and `M` a greatest
element of it. -/

section Jain

variable {xs : List ℚ} {m M : ℚ} (hne : xs ≠ [])
  (hm : m ∈ xs ∧ ∀ y ∈ xs, m ≤ y) (hM : M ∈ xs ∧ ∀ y ∈ xs, y ≤ M)

include hne in
/-- The mean lies between the least and the greatest element. -/
theorem mean_mem_Icc (hm : ∀ y ∈ xs, m ≤ y) (hM : ∀ y ∈ xs, y ≤ M) :
    m ≤ xs.sum / xs.length ∧ xs.sum / xs.length ≤ M := by
  have hn : (0 : ℚ) < xs.length := cast_length_pos hne
  have h1 := List.card_nsmul_le_sum xs m hm
  have h2 := List.sum_le_card_nsmul xs M hM
  rw [nsmul_eq_mul] at h1 h2
  exact ⟨(le_div_iff₀ hn).mpr (by linarith), (div_le_iff₀ hn).mpr (by linarith)⟩

/-- **Jain's index is at most `1`.** -/
theorem jain_le_one (hQ : 0 < (xs.map fun x => x * x).sum) :
    xs.sum * xs.sum / (xs.length * (xs.map fun x => x * x).sum) ≤ 1 := by
  rcases eq_or_ne xs [] with rfl | h
  · simp
  · have hn : (0 : ℚ) < xs.length := cast_length_pos h
    rw [div_le_one (by positivity), ← sq]
    exact sq_sum_le xs

include hne hm hM in
/-- **Jain's index is `1` exactly when all elements are equal**, that is when `min = max`. -/
theorem jain_eq_one_iff (hQ : 0 < (xs.map fun x => x * x).sum) :
    xs.sum * xs.sum / (xs.length * (xs.map fun x => x * x).sum) = 1 ↔ m = M := by
  have hn : (0 : ℚ) < xs.length := cast_length_pos hne
  rw [div_eq_one_iff_eq (by positivity), ← sq, sq_sum_eq_iff hne]
  constructor
  · intro hall
    rw [hall m hm.1, hall M hM.1]
  · intro hmM
    have hconst : ∀ x ∈ xs, x = m := fun x hx => le_antisymm (hmM ▸ hM.2 x hx) (hm.2 x hx)
    obtain ⟨hlo, hhi⟩ := mean_mem_Icc hne hm.2 hM.2
    intro x hx
    rw [hconst x hx]
    linarith

/-- **Jain's index is positive when the total is nonzero.** -/
theorem jain_pos (hQ : 0 < (xs.map fun x => x * x).sum) (hS : xs.sum ≠ 0) :
    0 < xs.sum * xs.sum / (xs.length * (xs.map fun x => x * x).sum) := by
  have hn : (0 : ℚ) < xs.length := by
    rcases eq_or_ne xs [] with rfl | h
    · simp at hQ
    · exact cast_length_pos h
  exact div_pos (mul_self_pos.mpr hS) (by positivity)

end Jain

/-! ## (3) `calculate_stats` -/

/-- **The dict `calculate_stats` returns.** -/
structure Stats (F : Type) where
  total : F
  avg : F
  min : F
  max : F
  fairness : F
  avgLoss : F
  deriving DecidableEq, Repr

section Floats

variable {F : Type} (A : FloatArith F)

/-- **`sum(t * t for t in throughputs)`**: the float sum of squares in Jain's index. -/
def sumSquared (flows : List (Flow F)) : F :=
  A.pySum ((flows.map (·.throughput)).map fun t => A.mul t t)

/-- **`calculate_stats(flows)`**, statement by statement: `total / len(throughputs)` divides by the
float of the length, `len(throughputs) * sum_squared` multiplies by it. -/
def calculateStats (flows : List (Flow F)) : PyResult (Stats F) := do
  let throughputs := flows.map (·.throughput)
  let lossRates := flows.map (·.lossRate)
  let total := A.pySum throughputs
  let avg ← A.pyDiv total (A.ofRat throughputs.length)
  let minTput ← A.pyMin throughputs
  let maxTput ← A.pyMax throughputs
  let avgLoss ← if lossRates.isEmpty then pure (A.ofRat 0)
    else A.pyDiv (A.pySum lossRates) (A.ofRat lossRates.length)
  let sumSquared := A.pySum (throughputs.map fun t => A.mul t t)
  let fairness ← A.pyDiv (A.mul total total) (A.mul (A.ofRat throughputs.length) sumSquared)
  pure ⟨total, avg, minTput, maxTput, fairness, avgLoss⟩

variable {A}

/-- **`calculate_stats` on a nonempty list, up to the fairness division**: with `m`, `M` the builtin
`min`, `max` of the throughputs, the mean and the mean loss divide by the nonzero float of the length. -/
theorem calculateStats_of_ne_nil {flows : List (Flow F)} {m M : F}
    (hm : A.pyMin (flows.map (·.throughput)) = .ok m) (hM : A.pyMax (flows.map (·.throughput)) = .ok M)
    (hne : flows ≠ []) :
    calculateStats A flows = (do
      let fairness ← A.pyDiv (A.mul (A.pySum (flows.map (·.throughput))) (A.pySum (flows.map (·.throughput))))
        (A.mul (A.ofRat flows.length) (sumSquared A flows))
      pure ⟨A.pySum (flows.map (·.throughput)),
        A.div (A.pySum (flows.map (·.throughput))) (A.ofRat flows.length), m, M, fairness,
        A.div (A.pySum (flows.map (·.lossRate))) (A.ofRat flows.length)⟩) := by
  have hL : (flows.map (·.lossRate)).isEmpty = false := by
    cases flows
    · exact absurd rfl hne
    · rfl
  simp only [calculateStats, List.length_map, A.pyDiv_of_not_isZero (A.isZero_natCast _ (List.length_pos.mpr hne)),
    ok_bind, hm, hM, hL, Bool.false_eq_true, if_false]
  rfl

/-- **Spec of `calculate_stats` on a list it accepts**: the statistics are the float total, mean,
`min`, `max`, Jain's index and mean loss. -/
theorem calculateStats_eq {flows : List (Flow F)} {m M : F}
    (hm : A.pyMin (flows.map (·.throughput)) = .ok m) (hM : A.pyMax (flows.map (·.throughput)) = .ok M)
    (hne : flows ≠ []) (hsq : A.isZero (sumSquared A flows) = false) :
    calculateStats A flows =
      .ok ⟨A.pySum (flows.map (·.throughput)),
        A.div (A.pySum (flows.map (·.throughput))) (A.ofRat flows.length), m, M,
        A.div (A.mul (A.pySum (flows.map (·.throughput))) (A.pySum (flows.map (·.throughput))))
          (A.mul (A.ofRat flows.length) (sumSquared A flows)),
        A.div (A.pySum (flows.map (·.lossRate))) (A.ofRat flows.length)⟩ := by
  have hden : A.isZero (A.mul (A.ofRat flows.length) (sumSquared A flows)) = false := by
    rw [A.isZero_natCast_mul _ _ (List.length_pos.mpr hne), hsq]
  rw [calculateStats_of_ne_nil hm hM hne, A.pyDiv_of_not_isZero hden]
  rfl

/-- **`calculate_stats` returns on a nonempty list whose float sum of squares is not `0.0`.** -/
theorem calculateStats_ok {flows : List (Flow F)} (hne : flows ≠ [])
    (hsq : A.isZero (sumSquared A flows) = false) : ∃ s, calculateStats A flows = .ok s := by
  obtain ⟨g, gs, rfl⟩ := List.exists_cons_of_ne_nil hne
  obtain ⟨m, hm, -⟩ := A.pyMin_spec g.throughput (gs.map (·.throughput))
  obtain ⟨M, hM, -⟩ := A.pyMax_spec g.throughput (gs.map (·.throughput))
  exact ⟨_, calculateStats_eq hm hM hne hsq⟩

/-- **… and raises `ZeroDivisionError` when it is `0.0`**: with every throughput `0`, or every square
underflowing. The empty list raises it too, at the mean. -/
theorem calculateStats_of_isZero {flows : List (Flow F)} (hsq : A.isZero (sumSquared A flows) = true) :
    calculateStats A flows = .error .zeroDivisionError := by
  rcases flows with _ | ⟨f, fs⟩
  · simp only [calculateStats, List.map_nil, List.length_nil, Nat.cast_zero,
      A.pyDiv_of_isZero A.isZero_ofRat_zero]
    rfl
  · obtain ⟨m, hm, -⟩ := A.pyMin_spec f.throughput (fs.map (·.throughput))
    obtain ⟨M, hM, -⟩ := A.pyMax_spec f.throughput (fs.map (·.throughput))
    have hden : A.isZero (A.mul (A.ofRat (f :: fs).length) (sumSquared A (f :: fs))) = true := by
      rw [A.isZero_natCast_mul _ _ (List.length_pos.mpr (List.cons_ne_nil _ _)), hsq]
    rw [calculateStats_of_ne_nil hm hM (List.cons_ne_nil _ _), A.pyDiv_of_isZero hden]
    rfl

/-- So `ZeroDivisionError` is the only exception `calculate_stats` raises. -/
theorem calculateStats_raisesOnly (flows : List (Flow F)) :
    RaisesOnly (· = .zeroDivisionError) (calculateStats A flows) := by
  intro e he
  cases hsq : A.isZero (sumSquared A flows)
  · rcases eq_or_ne flows [] with rfl | hne
    · rw [calculateStats_of_isZero A.isZero_ofRat_zero] at he
      cases he
      rfl
    · obtain ⟨s, hs⟩ := calculateStats_ok hne hsq
      rw [hs] at he
      cases he
  · rw [calculateStats_of_isZero hsq] at he
    cases he
    rfl

end Floats

/-! ## (4) `calculate_stats` over exact rationals -/

theorem sumSquared_exact (flows : List (Flow ℚ)) :
    sumSquared FloatArith.exact flows = ((flows.map (·.throughput)).map fun t => t * t).sum := by
  simp only [sumSquared, FloatArith.exact_pySum, FloatArith.exact_mul]

/-- Over exact rationals the sum of squares is `0` exactly when every throughput is. -/
theorem isZero_sumSquared_exact {flows : List (Flow ℚ)} :
    FloatArith.exact.isZero (sumSquared FloatArith.exact flows) = false ↔ ∃ f ∈ flows, f.throughput ≠ 0 := by
  rw [FloatArith.exact_isZero, sumSquared_exact, decide_eq_false_iff_not, sum_mul_self_eq_zero_iff]
  simp

/-- Python's `min` over exact rationals: an element below all of them. -/
theorem pyMin_exact (x : ℚ) (xs : List ℚ) :
    ∃ m, FloatArith.exact.pyMin (x :: xs) = .ok m ∧ m ∈ x :: xs ∧ ∀ y ∈ x :: xs, m ≤ y := by
  obtain ⟨m, hm, hmem, hle⟩ := FloatArith.exact.pyMin_spec x xs
  exact ⟨m, hm, hmem, fun y hy => by simpa using hle y hy⟩

/-- … and `max`: an element above all of them. -/
theorem pyMax_exact (x : ℚ) (xs : List ℚ) :
    ∃ M, FloatArith.exact.pyMax (x :: xs) = .ok M ∧ M ∈ x :: xs ∧ ∀ y ∈ x :: xs, y ≤ M := by
  obtain ⟨M, hM, hmem, hle⟩ := FloatArith.exact.pyMax_spec x xs
  exact ⟨M, hM, hmem, fun y hy => by simpa using hle y hy⟩

/-- **`calculate_stats` over exact rationals, on a nonempty list of flows whose throughputs are not all
zero**: it returns, and `min ≤ avg ≤ max`, `total = n · avg`, and the fairness is Jain's index
`total² / (n · Σ throughput²)`, at most `1`, equal to `1` exactly when `min = max`, and positive
whenever the total is nonzero — in particular whenever no throughput is negative. -/
theorem calculateStats_jain (flows : List (Flow ℚ)) (hne : flows ≠ [])
    (hnz : ∃ f ∈ flows, f.throughput ≠ 0) :
    ∃ s, calculateStats FloatArith.exact flows = .ok s ∧
      s.min ≤ s.avg ∧ s.avg ≤ s.max ∧ s.total = flows.length * s.avg ∧
      s.fairness = s.total ^ 2 / (flows.length * (flows.map fun f => f.throughput ^ 2).sum) ∧
      s.fairness ≤ 1 ∧ (s.fairness = 1 ↔ s.min = s.max) ∧
      (s.total ≠ 0 → 0 < s.fairness) ∧ ((∀ f ∈ flows, 0 ≤ f.throughput) → 0 < s.fairness) := by
  obtain ⟨f, fs, rfl⟩ := List.exists_cons_of_ne_nil hne
  set xs := (f :: fs).map (·.throughput) with hxs
  obtain ⟨m, hm, hm'⟩ := pyMin_exact f.throughput (fs.map fun g : Flow ℚ => g.throughput)
  obtain ⟨M, hM, hM'⟩ := pyMax_exact f.throughput (fs.map fun g : Flow ℚ => g.throughput)
  have hxne : xs ≠ [] := by simp [xs]
  have hn : (0 : ℚ) < xs.length := cast_length_pos hxne
  have hQ : 0 < (xs.map fun x => x * x).sum := sum_mul_self_pos (by simpa [xs] using hnz)
  have hcalc := calculateStats_eq hm hM hne (isZero_sumSquared_exact.mpr hnz)
  simp only [FloatArith.exact_pySum, FloatArith.exact_div, FloatArith.exact_mul, FloatArith.exact_ofRat,
    sumSquared_exact] at hcalc
  rw [← hxs] at hcalc
  have hlen : ((f :: fs).length : ℚ) = xs.length := by simp [xs]
  refine ⟨_, hcalc, ?_⟩
  simp only [hlen]
  obtain ⟨hlo, hhi⟩ := mean_mem_Icc hxne hm'.2 hM'.2
  refine ⟨hlo, hhi, by field_simp, by simp only [xs, List.map_map, Function.comp_def, sq],
    jain_le_one hQ, jain_eq_one_iff hxne hm' hM' hQ, jain_pos hQ, fun hnn => jain_pos hQ ?_⟩
  -- with no negative throughput, the nonzero one makes the total positive
  obtain ⟨g, hg, hg0⟩ := hnz
  have hpos : 0 < g.throughput := lt_of_le_of_ne (hnn g hg) (Ne.symm hg0)
  have hle := List.single_le_sum (fun x hx => by
    obtain ⟨h, hh, rfl⟩ := List.mem_map.mp hx; exact hnn h hh) g.throughput (List.mem_map_of_mem _ hg)
  exact (lt_of_lt_of_le hpos hle).ne'

/-- The spec's sample throughputs `[1, 2, 3]` (index `36 / 42`). -/
theorem calculateStats_jain_one_two_three :
    ∃ s, calculateStats FloatArith.exact
        [⟨0, 50, 1, 0, 0, 0⟩, ⟨1, 100, 2, 0, 0, 0⟩, ⟨2, 150, 3, 0, 0, 0⟩] = .ok s ∧
      s.min ≤ s.avg ∧ s.avg ≤ s.max ∧ s.total = (3 : ℕ) * s.avg ∧
      s.fairness = s.total ^ 2 / ((3 : ℕ) * ([(1 : ℚ), 2, 3].map fun t => t ^ 2).sum) ∧
      s.fairness ≤ 1 ∧ (s.fairness = 1 ↔ s.min = s.max) ∧
      (s.total ≠ 0 → 0 < s.fairness) ∧ ((∀ t ∈ [(1 : ℚ), 2, 3], 0 ≤ t) → 0 < s.fairness) := by
  obtain ⟨s, hs, h₁, h₂, h₃, h₄, h₅, h₆, h₇, h₈⟩ :=
    calculateStats_jain [⟨0, 50, 1, 0, 0, 0⟩, ⟨1, 100, 2, 0, 0, 0⟩, ⟨2, 150, 3, 0, 0, 0⟩]
      (List.cons_ne_nil _ _) ⟨_, List.mem_cons_self _ _, one_ne_zero⟩
  exact ⟨s, hs, h₁, h₂, h₃, h₄, h₅, h₆, h₇,
    fun hnn => h₈ fun f hf => hnn _ (List.mem_map_of_mem Flow.throughput hf)⟩

end Ns3Results.MultiRtt
