import Ns3Results.OgSim2.Parse

/-! # `og-sim-2`: `main`

With `--skip-sim`, `main` loads every variant whose `<variant>_fanout.csv` `parse_csv` accepts into
`results`, and every variant whose `<variant>_perflow.csv` `parse_perflow_csv` reads as a non-empty
list into `perflow_data`; it stops when `results` is empty, and otherwise prints the summary and,
with matplotlib, draws the aggregate chart, the per-flow charts and the congestion-window figures.
(Without `--skip-sim` it first runs the simulations, which only write these files and never raise.)

Only two steps can raise, neither inside a `try`:

* `print_summary` divides by LinuxReno's total throughput, its average delay and its loss rate plus
  `0.001` whenever both variants were loaded: `ZeroDivisionError` when one of these is `0.0`;
* `generate_perflow_comparison_plots` reads flows `0`, `1`, `2` of every loaded per-flow list:
  `IndexError` when one has fewer than three flows.

Otherwise the summary table and the aggregate chart list the accepted variants in `TCP_VARIANTS`
order, each with its own file's values (`main_spec`). Over positive denominators a negative percentage
of the comparison means FAST's value is below LinuxReno's and a positive one that it is above
(`printSummary_comparison`), and the per-flow charts and the congestion-window figures show each
variant's own files (`main_charts`). -/

namespace Ns3Results.OgSim2

variable {F : Type}

/-- `colors` of the bar charts, by variant. -/
def variantColors : PyDict String String := ⟨[("LinuxReno", "#e74c3c"), ("Fast", "#2ecc71")]⟩

theorem variantColors_getItem {v : String} (hv : v ∈ tcpVariants) :
    ∃ c, variantColors.getItem v = .ok c := by
  simp only [tcpVariants, List.mem_cons, List.not_mem_nil, or_false] at hv
  rcases hv with rfl | rfl <;> exact ⟨_, rfl⟩

/-- A key of a dict built from `TCP_VARIANTS` is one of them. -/
theorem mem_tcpVariants {α : Type} {d : PyDict String α} {q : String → Bool}
    (hkeys : d.keys = tcpVariants.filter q) {p : String × α} (hp : p ∈ d.items) : p.1 ∈ tcpVariants :=
  (List.mem_filter.mp (hkeys ▸ List.mem_map_of_mem Prod.fst hp : p.1 ∈ tcpVariants.filter q)).1

/-! ## (1) Loading -/

variable (b : Builtins F) (fs : FileSystem)

/-- **The two loading loops of `main`**: for each variant, `if os.path.exists(file): x = parse(file);
if x: d[variant] = x`. -/
def collectResults {α : Type} (file : String → String) (parse : String → Option α) (truthy : α → Bool) :
    PyDict String α :=
  tcpVariants.foldl (fun d v =>
    (if (fs (file v)).isSome then (parse (file v)).filter truthy else none).elim d (d.setItem v))
    PyDict.empty

/-- `results`: the aggregate dicts `parse_csv` returns (a dict is always true). -/
def loadAggregate : PyDict String (Summary F) :=
  collectResults fs fanoutFile (parseCsv b fs) fun _ => true

/-- `perflow_data`: the per-flow lists `parse_perflow_csv` returns, when non-empty. -/
def loadPerflow : PyDict String (List (PerFlow F)) :=
  collectResults fs perflowFile (parsePerflowCsv b fs) fun flows => !flows.isEmpty

/-- **The variants whose aggregate file `parse_csv` accepts**, in `TCP_VARIANTS` order, with what it
returns. -/
def acceptedResults : List (String × Summary F) :=
  tcpVariants.filterMap fun v => (parseCsv b fs (fanoutFile v)).map (v, ·)

/-- **The variants whose per-flow file `parse_perflow_csv` reads as a non-empty list**, in order. -/
def acceptedFlows : List (String × List (PerFlow F)) :=
  tcpVariants.filterMap fun v => ((parsePerflowCsv b fs (perflowFile v)).filter (!·.isEmpty)).map (v, ·)

variable {b fs}

/-- **Run lemma for the loading loops**: when parsing a missing file gives nothing, the loop keeps
the variants whose parse is true, in order. -/
theorem collectResults_items {α : Type} {file : String → String} {parse : String → Option α}
    {truthy : α → Bool} (hmissing : ∀ v, fs (file v) = none → parse (file v) = none) :
    (collectResults fs file parse truthy).items =
      tcpVariants.filterMap fun v => ((parse (file v)).filter truthy).map (v, ·) := by
  have hguard : ∀ v, (if (fs (file v)).isSome then (parse (file v)).filter truthy else none) =
      (parse (file v)).filter truthy := fun v => by
    cases hf : fs (file v) <;> simp [hmissing v, hf]
  rw [collectResults, PyDict.foldl_setItem_fresh
    (fun v => if (fs (file v)).isSome then (parse (file v)).filter truthy else none) _ _ (by decide)
    (by simp), PyDict.empty_items, List.nil_append]
  simp only [hguard]

theorem loadAggregate_items : (loadAggregate b fs).items = acceptedResults b fs := by
  rw [loadAggregate, collectResults_items fun v h => by simp [parseCsv, h], acceptedResults]
  congr 1
  funext v
  cases parseCsv b fs (fanoutFile v) <;> rfl

theorem loadPerflow_items : (loadPerflow b fs).items = acceptedFlows b fs := by
  rw [loadPerflow, collectResults_items fun v h => by simp [parsePerflowCsv, h]]
  rfl

/-- The keys of a dict built from `TCP_VARIANTS` are some of them, in order. -/
theorem keys_filterMap_pair {α : Type} (g : String → Option α) :
    (tcpVariants.filterMap fun v => (g v).map (v, ·)).map Prod.fst =
      tcpVariants.filter fun v => (g v).isSome := by
  simp only [tcpVariants, List.filterMap_cons, List.filterMap_nil, List.filter_cons, List.filter_nil]
  cases g "LinuxReno" <;> cases g "Fast" <;> rfl

theorem loadAggregate_keys :
    (loadAggregate b fs).keys = tcpVariants.filter fun v => (parseCsv b fs (fanoutFile v)).isSome := by
  rw [PyDict.keys_def, loadAggregate_items, acceptedResults, keys_filterMap_pair]

theorem loadPerflow_keys : (loadPerflow b fs).keys =
    tcpVariants.filter fun v => ((parsePerflowCsv b fs (perflowFile v)).filter (!·.isEmpty)).isSome := by
  rw [PyDict.keys_def, loadPerflow_items, acceptedFlows, keys_filterMap_pair]

/-! ## (2) `print_summary` -/

/-- **The "FAST vs LinuxReno" percentages.** -/
structure Comparison (F : Type) where
  throughputDiff : F
  delayDiff : F
  lossDiff : F

/-- **What `print_summary` prints**: one row per loaded variant, and the comparison when both are
loaded. -/
structure SummaryTable (F : Type) where
  rows : List (String × Summary F)
  comparison : Option (Comparison F)

/-- **`for variant in TCP_VARIANTS: if variant in results: r = results[variant]`**, the loop of
`print_summary` and of `generate_aggregate_plots`. -/
def resultRows (results : PyDict String (Summary F)) : PyResult (List (String × Summary F)) :=
  (tcpVariants.filter results.contains).mapM fun v => do pure (v, ← results.getItem v)

/-- **`(x - y) / d * 100`**, a percentage of the comparison: float subtraction, division (raising on a
zero `d`), and a product with the int `100`. -/
def percentDiff (A : FloatArith F) (x y d : F) : PyResult F := do
  pure (A.mul (← A.pyDiv (A.sub x y) d) (A.ofRat 100))

/-- **The comparison of `print_summary`**: each difference over LinuxReno's value, the loss rate's
over LinuxReno's loss rate plus `0.001`, as percentages. -/
def compareVariants (A : FloatArith F) (fast reno : Summary F) : PyResult (Comparison F) := do
  let throughputDiff ← percentDiff A fast.totalThroughput reno.totalThroughput reno.totalThroughput
  let delayDiff ← percentDiff A fast.avgDelay reno.avgDelay reno.avgDelay
  let lossDiff ← percentDiff A fast.lossRate reno.lossRate (A.add reno.lossRate (A.ofRat (1 / 1000)))
  pure ⟨throughputDiff, delayDiff, lossDiff⟩

/-- **`print_summary(results)`.** -/
def printSummary (A : FloatArith F) (results : PyDict String (Summary F)) : PyResult (SummaryTable F) := do
  let rows ← resultRows results
  if results.contains "LinuxReno" && results.contains "Fast" then
    let fast ← results.getItem "Fast"
    let reno ← results.getItem "LinuxReno"
    pure ⟨rows, some (← compareVariants A fast reno)⟩
  else pure ⟨rows, none⟩

/-- **A denominator of the comparison is `0.0`**: LinuxReno's total throughput, its average delay, or
its loss rate plus `0.001`. -/
def ZeroDenominator (A : FloatArith F) (reno : Summary F) : Prop :=
  A.isZero reno.totalThroughput = true ∨ A.isZero reno.avgDelay = true ∨
    A.isZero (A.add reno.lossRate (A.ofRat (1 / 1000))) = true

section Percent

variable {A : FloatArith F}

theorem percentDiff_of_isZero {x y d : F} (h : A.isZero d = true) :
    percentDiff A x y d = .error .zeroDivisionError := by
  rw [percentDiff, A.pyDiv_of_isZero h]
  rfl

theorem percentDiff_of_not_isZero {x y d : F} (h : A.isZero d = false) :
    percentDiff A x y d = .ok (A.mul (A.div (A.sub x y) d) (A.ofRat 100)) := by
  rw [percentDiff, A.pyDiv_of_not_isZero h]
  rfl

/-- **What the sign of a percentage says**: below `0.0`, FAST's value `x` is below LinuxReno's `y`;
above `0.0`, it is above. -/
def SignsAgree (A : FloatArith F) (pct x y : F) : Prop :=
  (A.lt pct (A.ofRat 0) = true → A.lt x y = true) ∧ (A.lt (A.ofRat 0) pct = true → A.lt y x = true)

/-- Over a positive denominator, a percentage's sign is that of `x - y`, in the weak sense rounding
allows: each of subtraction, division by `d > 0` and the product with `100` keeps a value that is not
below (not above) `0.0` on its side. -/
theorem signsAgree_percent {x y d : F} (hd : A.lt (A.ofRat 0) d = true) :
    SignsAgree A (A.mul (A.div (A.sub x y) d) (A.ofRat 100)) x y := by
  have h100 : A.lt (A.ofRat 0) (A.ofRat 100) = true := by
    simpa using A.natCast_lt_natCast 0 100 (by decide) (by decide)
  constructor
  · intro hneg
    by_contra hxy
    have hsub := A.not_sub_lt_zero x y (Bool.eq_false_iff.mpr hxy)
    rw [A.not_mul_lt_zero _ _ (A.not_div_lt_zero _ _ hsub hd) h100] at hneg
    exact Bool.false_ne_true hneg
  · intro hpos
    by_contra hyx
    have hsub := A.not_zero_lt_sub x y (Bool.eq_false_iff.mpr hyx)
    rw [A.not_zero_lt_mul _ _ (A.not_zero_lt_div _ _ hsub hd) h100] at hpos
    exact Bool.false_ne_true hpos

theorem compareVariants_of_zero {fast reno : Summary F} (h : ZeroDenominator A reno) :
    compareVariants A fast reno = .error .zeroDivisionError := by
  unfold compareVariants
  cases h₁ : A.isZero reno.totalThroughput
  · cases h₂ : A.isZero reno.avgDelay
    · have h₃ := (h.resolve_left (by rw [h₁]; exact Bool.false_ne_true)).resolve_left
        (by rw [h₂]; exact Bool.false_ne_true)
      rw [percentDiff_of_not_isZero h₁, ok_bind, percentDiff_of_not_isZero h₂, ok_bind,
        percentDiff_of_isZero h₃]
      rfl
    · rw [percentDiff_of_not_isZero h₁, ok_bind, percentDiff_of_isZero h₂]
      rfl
  · rw [percentDiff_of_isZero h₁]
    rfl

/-- Otherwise the three percentages are the source's float quotients. -/
theorem compareVariants_eq {fast reno : Summary F} (h : ¬ZeroDenominator A reno) :
    compareVariants A fast reno = .ok
      ⟨A.mul (A.div (A.sub fast.totalThroughput reno.totalThroughput) reno.totalThroughput) (A.ofRat 100),
        A.mul (A.div (A.sub fast.avgDelay reno.avgDelay) reno.avgDelay) (A.ofRat 100),
        A.mul (A.div (A.sub fast.lossRate reno.lossRate) (A.add reno.lossRate (A.ofRat (1 / 1000))))
          (A.ofRat 100)⟩ := by
  simp only [ZeroDenominator, not_or, Bool.not_eq_true] at h
  obtain ⟨h₁, h₂, h₃⟩ := h
  rw [compareVariants, percentDiff_of_not_isZero h₁, ok_bind, percentDiff_of_not_isZero h₂, ok_bind,
    percentDiff_of_not_isZero h₃]
  rfl

end Percent

section Results

variable {A : FloatArith F} {results : PyDict String (Summary F)} {p : String → Bool}
  (hkeys : results.keys = tcpVariants.filter p)

include hkeys in
/-- On a dict built from `TCP_VARIANTS`, the loop visits its entries in order. -/
theorem resultRows_eq : resultRows results = .ok results.items := by
  rw [resultRows, PyDict.filter_contains_of_keys_eq hkeys,
    PyDict.mapM_keys_getItem (hkeys ▸ (show tcpVariants.Nodup by decide).filter p),
    mapM_eq_ok (fun q _ => rfl : ∀ q ∈ results.items, (pure (q.1, q.2) : PyResult _) = .ok (id q))]
  simp

include hkeys in
/-- With one of the variants missing, `print_summary` prints the rows alone. -/
theorem printSummary_of_not_both
    (h : ¬(results.contains "LinuxReno" = true ∧ results.contains "Fast" = true)) :
    printSummary A results = .ok ⟨results.items, none⟩ := by
  rw [printSummary, resultRows_eq hkeys, ok_bind, if_neg (by rwa [Bool.and_eq_true])]
  rfl

include hkeys in
/-- With both variants loaded, `print_summary` prints the rows and then compares FAST, the entry
under `"Fast"`, with LinuxReno, the entry under `"LinuxReno"`. -/
theorem printSummary_of_both {reno fast : Summary F} (hreno : ("LinuxReno", reno) ∈ results.items)
    (hfast : ("Fast", fast) ∈ results.items) :
    printSummary A results = compareVariants A fast reno >>= fun c => pure ⟨results.items, some c⟩ := by
  have hnd : results.keys.Nodup := hkeys ▸ (show tcpVariants.Nodup by decide).filter p
  rw [printSummary, resultRows_eq hkeys, ok_bind, PyDict.contains_of_mem hreno,
    PyDict.contains_of_mem hfast, Bool.and_self, if_pos rfl, PyDict.getItem_of_mem hnd hfast, ok_bind,
    PyDict.getItem_of_mem hnd hreno, ok_bind]

include hkeys in
/-- **`print_summary` raises `ZeroDivisionError`** when both variants are loaded and a denominator of
the comparison is zero. -/
theorem printSummary_of_zero {reno fast : Summary F} (hreno : ("LinuxReno", reno) ∈ results.items)
    (hfast : ("Fast", fast) ∈ results.items) (hzero : ZeroDenominator A reno) :
    printSummary A results = .error .zeroDivisionError := by
  rw [printSummary_of_both hkeys hreno hfast, compareVariants_of_zero hzero]
  rfl

include hkeys in
/-- **Otherwise `print_summary` prints the loaded variants' rows**, in order. -/
theorem printSummary_ok
    (hok : ∀ reno, ("LinuxReno", reno) ∈ results.items → results.contains "Fast" →
      ¬ZeroDenominator A reno) :
    ∃ s, printSummary A results = .ok s ∧ s.rows = results.items := by
  by_cases hboth : results.contains "LinuxReno" = true ∧ results.contains "Fast" = true
  · obtain ⟨reno, hreno⟩ := PyDict.mem_keys_iff.mp (PyDict.contains_iff.mp hboth.1)
    obtain ⟨fast, hfast⟩ := PyDict.mem_keys_iff.mp (PyDict.contains_iff.mp hboth.2)
    rw [printSummary_of_both hkeys hreno hfast, compareVariants_eq (hok reno hreno hboth.2)]
    exact ⟨_, rfl, rfl⟩
  · exact ⟨_, printSummary_of_not_both hkeys hboth, rfl⟩

end Results

/-- **The comparison's signs**: with both variants loaded and the three denominators positive
(LinuxReno's total throughput, its average delay, its loss rate plus `0.001`), `print_summary` prints
the comparison, and each percentage that prints negative means FAST's value is below LinuxReno's and
each that prints positive that it is above. -/
theorem printSummary_comparison (A : FloatArith F) {results : PyDict String (Summary F)}
    {p : String → Bool} (hkeys : results.keys = tcpVariants.filter p) {reno fast : Summary F}
    (hreno : ("LinuxReno", reno) ∈ results.items) (hfast : ("Fast", fast) ∈ results.items)
    (htput : A.lt (A.ofRat 0) reno.totalThroughput = true) (hdelay : A.lt (A.ofRat 0) reno.avgDelay = true)
    (hloss : A.lt (A.ofRat 0) (A.add reno.lossRate (A.ofRat (1 / 1000))) = true) :
    ∃ c, printSummary A results = .ok ⟨results.items, some c⟩ ∧
      SignsAgree A c.throughputDiff fast.totalThroughput reno.totalThroughput ∧
      SignsAgree A c.delayDiff fast.avgDelay reno.avgDelay ∧
      SignsAgree A c.lossDiff fast.lossRate reno.lossRate := by
  have hne : ¬ZeroDenominator A reno := by
    simp only [ZeroDenominator, A.isZero_of_pos _ htput, A.isZero_of_pos _ hdelay, A.isZero_of_pos _ hloss,
      Bool.false_eq_true, or_self, not_false_eq_true]
  rw [printSummary_of_both hkeys hreno hfast, compareVariants_eq hne]
  exact ⟨_, rfl, signsAgree_percent htput, signsAgree_percent hdelay, signsAgree_percent hloss⟩

/-- LinuxReno's summary in the sample run. -/
def renoSummary : Summary ℚ := ⟨some "LinuxReno", 4, 1 / 10, 120, 30, 2, 45⟩

/-- FAST's summary in the sample run: more throughput, less delay, no loss. -/
def fastSummary : Summary ℚ := ⟨some "Fast", 5, 1 / 9, 110, 0, 0, 45⟩

/-- Both variants loaded, in `TCP_VARIANTS` order. -/
def renoFastResults : PyDict String (Summary ℚ) := ⟨[("LinuxReno", renoSummary), ("Fast", fastSummary)]⟩

theorem printSummary_comparison_reno_fast :
    ∃ c, printSummary FloatArith.exact renoFastResults = .ok ⟨renoFastResults.items, some c⟩ ∧
      SignsAgree FloatArith.exact c.throughputDiff fastSummary.totalThroughput renoSummary.totalThroughput ∧
      SignsAgree FloatArith.exact c.delayDiff fastSummary.avgDelay renoSummary.avgDelay ∧
      SignsAgree FloatArith.exact c.lossDiff fastSummary.lossRate renoSummary.lossRate :=
  printSummary_comparison FloatArith.exact
    (show renoFastResults.keys = tcpVariants.filter fun _ => true from rfl)
    (List.mem_cons_self _ _) (List.mem_cons_of_mem _ (List.mem_cons_self _ _))
    (by decide) (by decide) (by
      simp only [FloatArith.exact_lt, FloatArith.exact_add, FloatArith.exact_ofRat, decide_eq_true_eq]
      exact add_pos two_pos (one_div_pos.mpr (by decide)))

/-! ## (3) The plots -/

/-- **The aggregate chart**: one bar per loaded variant in each of three panels. -/
structure AggregateChart (F : Type) where
  variants : List String
  barColors : List String
  totalThroughputs : List F
  delays : List F
  lossRates : List F

/-- **`generate_aggregate_plots(results)`**: `None` without matplotlib or with no variant ("No data
to plot"). -/
def generateAggregatePlots (hasMatplotlib : Bool) (results : PyDict String (Summary F)) :
    PyResult (Option (AggregateChart F)) :=
  if !hasMatplotlib then pure none
  else do
    let rows ← resultRows results
    if rows.isEmpty then return none
    let barColors ← rows.mapM fun r => variantColors.getItem r.1
    pure (some ⟨rows.map (·.1), barColors, rows.map (·.2.totalThroughput), rows.map (·.2.avgDelay),
      rows.map (·.2.lossRate)⟩)

/-- **A per-flow bar chart**: its file, its title, and per variant the bars of flows 1, 2, 3. -/
structure FlowBarChart (F : Type) where
  outputFile : String
  title : String
  series : List (String × List F)

/-- `flow_indices`: flows 1, 2 and 3. -/
def flowIndices : List ℕ := [0, 1, 2]

/-- **One chart of `generate_perflow_comparison_plots`**: the throughput and the delay charts are two
copies of one loop in the source, differing in the field read, the file and the title. For each
variant of `perflow_data`, `[perflow_data[variant][idx][metric] for idx in flow_indices]`, then
`colors[variant]`. -/
def perflowChart (perflowData : PyDict String (List (PerFlow F))) (outputFile title : String)
    (metric : PerFlow F → F) : PyResult (FlowBarChart F) := do
  let series ← perflowData.keys.mapM fun v => do
    let values ← flowIndices.mapM fun idx => do
      let flows ← perflowData.getItem v
      let f ← getItem flows idx
      pure (metric f)
    let _ ← variantColors.getItem v
    pure (v, values)
  pure ⟨outputFile, title, series⟩

/-- **`generate_perflow_comparison_plots(perflow_data)`**: `None` without matplotlib. -/
def generatePerflowComparisonPlots (hasMatplotlib : Bool)
    (perflowData : PyDict String (List (PerFlow F))) : PyResult (Option (FlowBarChart F × FlowBarChart F)) :=
  if !hasMatplotlib then pure none
  else do
    let throughputChart ← perflowChart perflowData "throughput_comparison_flows.png"
      "Throughput Comparison: TCP LinuxReno vs TCP FAST" (·.throughput)
    let delayChart ← perflowChart perflowData "delay_comparison_flows.png"
      "Average Delay Comparison: TCP LinuxReno vs TCP FAST" (·.delay)
    pure (some (throughputChart, delayChart))

/-- `flow_labels` of the congestion-window panels. -/
def flowLabels : List String := ["Flow 1 (1Mbps/50ms)", "Flow 2 (2Mbps/25ms)", "Flow 3 (3Mbps/16ms)"]

/-- **A congestion-window figure**: its file, its title, and three panels, each a title and the
trace it draws (none when the file is missing or unreadable). -/
structure CwndFigure (F : Type) where
  plotFile : String
  title : String
  panels : List (String × Option (List F × List F))

variable (b fs)

/-- **`generate_cwnd_plots(variants)`**: one figure per variant, three panels each. Reading a trace
is inside a `try`; only `flow_labels[flow_idx]` is outside it, and it is in range. -/
def generateCwndPlots (hasMatplotlib : Bool) (variants : List String) :
    PyResult (Option (List (CwndFigure F))) :=
  if !hasMatplotlib then pure none
  else do
    let figures ← variants.mapM fun v => do
      let panels ← (List.range 3).mapM fun flowIdx => do
        let label ← getItem flowLabels flowIdx
        pure (label, cwndTrace b fs v flowIdx)
      pure ⟨"TCP" ++ v ++ "_cwnd_progress.png", "Congestion Window Evolution: TCP " ++ v, panels⟩
    pure (some figures)

/-! ## (4) `main` -/

/-- **How `main` ends.** -/
inductive Outcome (F : Type)
  /-- "No results found! Run simulations first." -/
  | noResults
  /-- The summary, and the plots (`none` without matplotlib). -/
  | done (summary : SummaryTable F) (aggregate : Option (AggregateChart F))
      (perflow : Option (FlowBarChart F × FlowBarChart F)) (cwnd : Option (List (CwndFigure F)))

/-- **`main()` with `--skip-sim`.** -/
def main (hasMatplotlib : Bool) : PyResult (Outcome F) := do
  let results := loadAggregate b fs
  let perflowData := loadPerflow b fs
  if results.items.isEmpty then return .noResults
  let summary ← printSummary b.toFloatArith results
  if hasMatplotlib then
    let aggregate ← generateAggregatePlots hasMatplotlib results
    let perflow ← (if perflowData.items.isEmpty then pure none
      else generatePerflowComparisonPlots hasMatplotlib perflowData : PyResult _)
    let cwnd ← generateCwndPlots b fs hasMatplotlib results.keys
    pure (.done summary aggregate perflow cwnd)
  else pure (.done summary none none none)

variable {b fs}

/-! ## (5) The plots on loaded dicts -/

theorem generateAggregatePlots_eq {results : PyDict String (Summary F)} {p : String → Bool}
    (hkeys : results.keys = tcpVariants.filter p) (hne : results.items ≠ []) :
    generateAggregatePlots true results = .ok (some ⟨results.items.map (·.1),
      results.items.map (fun r => (variantColors.getItem r.1).toOption.getD ""),
      results.items.map (·.2.totalThroughput), results.items.map (·.2.avgDelay),
      results.items.map (·.2.lossRate)⟩) := by
  have hcolor : ∀ r ∈ results.items, variantColors.getItem r.1 =
      .ok ((variantColors.getItem r.1).toOption.getD "") := fun r hr => by
    obtain ⟨c, hc⟩ := variantColors_getItem (mem_tcpVariants hkeys hr)
    rw [hc]
    rfl
  rw [generateAggregatePlots, if_neg (by decide), resultRows_eq hkeys, ok_bind,
    if_neg (by simpa using hne), mapM_eq_ok hcolor]
  rfl

section Perflow

variable {perflowData : PyDict String (List (PerFlow F))} {q : String → Bool}
  (hkeys : perflowData.keys = tcpVariants.filter q)

include hkeys in
/-- `perflow_data[variant][idx]` for a variant of the dict reads that variant's own flows. -/
theorem flowValues_eq {p : String × List (PerFlow F)} (hp : p ∈ perflowData.items) (metric : PerFlow F → F) :
    (flowIndices.mapM fun idx => do
      let flows ← perflowData.getItem p.1
      let f ← getItem flows idx
      pure (metric f)) = ((List.range 3).mapM fun idx => do
        let f ← getItem p.2 idx
        pure (metric f)) := by
  have hnd : perflowData.keys.Nodup := hkeys ▸ (show tcpVariants.Nodup by decide).filter q
  exact mapM_congr fun idx _ => by rw [PyDict.getItem_of_mem hnd hp]; rfl

include hkeys in
/-- **A per-flow chart when every variant has three flows**: each variant's bars are its own first
three flows. -/
theorem perflowChart_eq (outputFile title : String) (metric : PerFlow F → F)
    (hlen : ∀ p ∈ perflowData.items, 3 ≤ p.2.length) :
    perflowChart perflowData outputFile title metric =
      .ok ⟨outputFile, title, perflowData.items.map fun p => (p.1, (p.2.take 3).map metric)⟩ := by
  have hentry : ∀ p ∈ perflowData.items, (do
      let values ← flowIndices.mapM fun idx => do
        let flows ← perflowData.getItem p.1
        let f ← getItem flows idx
        pure (metric f)
      let _ ← variantColors.getItem p.1
      pure (p.1, values) : PyResult (String × List F)) = .ok (p.1, (p.2.take 3).map metric) :=
    fun p hp => by
      obtain ⟨c, hc⟩ := variantColors_getItem (mem_tcpVariants hkeys hp)
      rw [flowValues_eq hkeys hp, mapM_range_getItem metric (hlen p hp), ok_bind, hc]
      rfl
  rw [perflowChart, PyDict.keys_def, mapM_map, mapM_eq_ok hentry]
  rfl

include hkeys in
/-- **A per-flow chart when some variant has fewer than three flows** raises `IndexError`. -/
theorem perflowChart_eq_error (outputFile title : String) (metric : PerFlow F → F)
    (hshort : ∃ p ∈ perflowData.items, p.2.length < 3) :
    perflowChart perflowData outputFile title metric = .error .indexError := by
  obtain ⟨p, hp, hlt⟩ := hshort
  rw [perflowChart, PyDict.keys_def, mapM_map, mapM_eq_error ⟨p, hp, ?bad⟩ fun p' hp' => ?only]
  · rfl
  case bad => rw [flowValues_eq hkeys hp, mapM_range_getItem_of_lt metric hlt]; rfl
  case only =>
    obtain ⟨c, hc⟩ := variantColors_getItem (mem_tcpVariants hkeys hp')
    rw [flowValues_eq hkeys hp']
    exact .bind (.mapM fun _ _ => .bind (getItem_raisesOnly _ _) fun _ => .ok _) fun _ => by
      rw [hc]
      exact .ok _

include hkeys in
theorem generatePerflowComparisonPlots_eq (hlen : ∀ p ∈ perflowData.items, 3 ≤ p.2.length) :
    generatePerflowComparisonPlots true perflowData = .ok (some
      (⟨"throughput_comparison_flows.png", "Throughput Comparison: TCP LinuxReno vs TCP FAST",
          perflowData.items.map fun p => (p.1, (p.2.take 3).map (·.throughput))⟩,
        ⟨"delay_comparison_flows.png", "Average Delay Comparison: TCP LinuxReno vs TCP FAST",
          perflowData.items.map fun p => (p.1, (p.2.take 3).map (·.delay))⟩)) := by
  rw [generatePerflowComparisonPlots, if_neg (by decide), perflowChart_eq hkeys _ _ _ hlen, ok_bind,
    perflowChart_eq hkeys _ _ _ hlen]
  rfl

include hkeys in
theorem generatePerflowComparisonPlots_eq_error (hshort : ∃ p ∈ perflowData.items, p.2.length < 3) :
    generatePerflowComparisonPlots true perflowData = .error .indexError := by
  rw [generatePerflowComparisonPlots, if_neg (by decide), perflowChart_eq_error hkeys _ _ _ hshort]
  rfl

end Perflow

/-- **`generate_cwnd_plots` never raises**: three panels per variant, each drawing the variant's own
trace of that flow when it reads one. -/
theorem generateCwndPlots_eq (variants : List String) :
    generateCwndPlots b fs true variants = .ok (some (variants.map fun v =>
      ⟨"TCP" ++ v ++ "_cwnd_progress.png", "Congestion Window Evolution: TCP " ++ v,
        (List.range 3).map fun i => (flowLabels.getD i default, cwndTrace b fs v i)⟩)) := by
  have hpanel : ∀ v, ∀ i ∈ List.range 3, (do
      let label ← getItem flowLabels i
      pure (label, cwndTrace b fs v i) : PyResult _) = .ok (flowLabels.getD i default, cwndTrace b fs v i) :=
    fun v i hi => by
      rw [getItem_of_lt (by simpa [flowLabels] using hi)]
      rfl
  rw [generateCwndPlots, if_neg (by decide), mapM_eq_ok fun v _ => by rw [mapM_eq_ok (hpanel v)]; rfl]
  rfl

/-! ## (6) `main` -/

variable (b fs)

/-- **`print_summary` divides by zero**: both aggregate files are accepted, and a denominator of the
comparison, taken from LinuxReno's, is zero. -/
def SummaryDividesByZero : Prop :=
  ∃ reno, parseCsv b fs (fanoutFile "LinuxReno") = some reno ∧
    (parseCsv b fs (fanoutFile "Fast")).isSome ∧ ZeroDenominator b.toFloatArith reno

variable {b fs}

theorem mem_acceptedResults {v : String} {s : Summary F} :
    (v, s) ∈ acceptedResults b fs ↔ v ∈ tcpVariants ∧ parseCsv b fs (fanoutFile v) = some s := by
  simp only [acceptedResults, List.mem_filterMap, Option.map_eq_some', Prod.mk.injEq]
  constructor
  · rintro ⟨w, hw, s', hs', rfl, rfl⟩
    exact ⟨hw, hs'⟩
  · rintro ⟨hv, hs⟩
    exact ⟨v, hv, s, hs, rfl, rfl⟩

/-- Past the check `if not results`, `main` is the summary, then the plots. -/
theorem main_of_ne_nil (hasMatplotlib : Bool) (hne : acceptedResults b fs ≠ []) :
    main b fs hasMatplotlib = (do
      let summary ← printSummary b.toFloatArith (loadAggregate b fs)
      if hasMatplotlib then
        let aggregate ← generateAggregatePlots hasMatplotlib (loadAggregate b fs)
        let perflow ← (if (loadPerflow b fs).items.isEmpty then pure none
          else generatePerflowComparisonPlots hasMatplotlib (loadPerflow b fs) : PyResult _)
        let cwnd ← generateCwndPlots b fs hasMatplotlib (loadAggregate b fs).keys
        pure (.done summary aggregate perflow cwnd)
      else pure (.done summary none none none)) := by
  rw [main, loadAggregate_items, List.isEmpty_eq_false.mpr hne]
  rfl

/-- **No aggregate file accepted**: "No results found!", and `main` returns. -/
theorem main_of_nil (hasMatplotlib : Bool) (h : acceptedResults b fs = []) :
    main b fs hasMatplotlib = .ok .noResults := by
  rw [main, loadAggregate_items, h]
  rfl

/-- **A zero denominator in the comparison** makes `main` raise `ZeroDivisionError`. -/
theorem main_of_divides (hasMatplotlib : Bool) (h : SummaryDividesByZero b fs) :
    main b fs hasMatplotlib = .error .zeroDivisionError := by
  obtain ⟨reno, hreno, hfast, hzero⟩ := h
  obtain ⟨fast, hfast⟩ := Option.isSome_iff_exists.mp hfast
  have hr := mem_acceptedResults.mpr ⟨by decide, hreno⟩
  rw [main_of_ne_nil _ (List.ne_nil_of_mem hr), printSummary_of_zero loadAggregate_keys
    (loadAggregate_items ▸ hr) (loadAggregate_items ▸ mem_acceptedResults.mpr ⟨by decide, hfast⟩) hzero]
  rfl

theorem printSummary_loadAggregate (hdiv : ¬SummaryDividesByZero b fs) :
    ∃ s, printSummary b.toFloatArith (loadAggregate b fs) = .ok s ∧ s.rows = acceptedResults b fs := by
  rw [← loadAggregate_items]
  refine printSummary_ok loadAggregate_keys fun reno hreno hfast hzero => hdiv ?_
  obtain ⟨fast, hf⟩ := PyDict.mem_keys_iff.mp (PyDict.contains_iff.mp hfast)
  rw [loadAggregate_items, mem_acceptedResults] at hreno hf
  exact ⟨reno, hreno.2, by rw [hf.2]; rfl, hzero⟩

/-- **A per-flow file of one or two accepted rows** makes `main` raise `IndexError` when matplotlib is
present and the summary does not divide by zero. -/
theorem main_of_short (hne : acceptedResults b fs ≠ []) (hdiv : ¬SummaryDividesByZero b fs)
    (hshort : ∃ p ∈ acceptedFlows b fs, p.2.length < 3) :
    main b fs true = .error .indexError := by
  obtain ⟨s, hs, -⟩ := printSummary_loadAggregate hdiv
  obtain ⟨p, hp, hlt⟩ := hshort
  have hp' : p ∈ (loadPerflow b fs).items := loadPerflow_items ▸ hp
  rw [main_of_ne_nil _ hne, hs, ok_bind, if_pos rfl,
    generateAggregatePlots_eq loadAggregate_keys (loadAggregate_items ▸ hne), ok_bind,
    List.isEmpty_eq_false.mpr (List.ne_nil_of_mem hp'), if_neg Bool.false_ne_true,
    generatePerflowComparisonPlots_eq_error loadPerflow_keys ⟨p, hp', hlt⟩]
  rfl

/-- **Otherwise `main` completes**: the summary lists the accepted variants with their own values,
and so does the aggregate chart, drawn exactly when matplotlib is present. -/
theorem main_ok (hasMatplotlib : Bool) (hne : acceptedResults b fs ≠ [])
    (hdiv : ¬SummaryDividesByZero b fs)
    (hflows : hasMatplotlib = true → ∀ p ∈ acceptedFlows b fs, 3 ≤ p.2.length) :
    ∃ s agg pf cw, main b fs hasMatplotlib = .ok (.done s agg pf cw) ∧
      s.rows = acceptedResults b fs ∧ agg.isSome = hasMatplotlib ∧
      ∀ chart, agg = some chart →
        chart.variants = (acceptedResults b fs).map (·.1) ∧
        chart.totalThroughputs = (acceptedResults b fs).map (·.2.totalThroughput) ∧
        chart.delays = (acceptedResults b fs).map (·.2.avgDelay) ∧
        chart.lossRates = (acceptedResults b fs).map (·.2.lossRate) := by
  obtain ⟨s, hs, hrows⟩ := printSummary_loadAggregate hdiv
  rw [main_of_ne_nil _ hne, hs, ok_bind]
  cases hasMatplotlib with
  | false => exact ⟨s, none, none, none, rfl, hrows, rfl, fun _ h => by cases h⟩
  | true =>
    have hlen : ∀ p ∈ (loadPerflow b fs).items, 3 ≤ p.2.length :=
      fun p hp => hflows rfl p (loadPerflow_items ▸ hp)
    obtain ⟨pf, hpf⟩ : ∃ pf, (if (loadPerflow b fs).items.isEmpty then pure none
        else generatePerflowComparisonPlots true (loadPerflow b fs) : PyResult _) = .ok pf := by
      split
      · exact ⟨_, rfl⟩
      · exact ⟨_, generatePerflowComparisonPlots_eq loadPerflow_keys hlen⟩
    rw [if_pos rfl, generateAggregatePlots_eq loadAggregate_keys (loadAggregate_items ▸ hne), ok_bind,
      hpf, ok_bind, generateCwndPlots_eq]
    exact ⟨s, _, pf, _, rfl, hrows, rfl, fun chart hchart => by
      cases hchart; simp only [loadAggregate_items, and_self]⟩

/-- **What `main` draws with matplotlib**, when it completes: the per-flow charts exactly when some
per-flow file is accepted, each variant's bars its own first three flows, in `TCP_VARIANTS` order;
and one congestion-window figure per accepted aggregate file, in the same order, whose panel `i`
draws that variant's own trace of flow `i + 1`. -/
theorem main_charts (hne : acceptedResults b fs ≠ []) (hdiv : ¬SummaryDividesByZero b fs)
    (hflows : ∀ p ∈ acceptedFlows b fs, 3 ≤ p.2.length) :
    ∃ s agg pf figs, main b fs true = .ok (.done s agg pf (some figs)) ∧
      (pf.isSome ↔ acceptedFlows b fs ≠ []) ∧
      (∀ tc dc, pf = some (tc, dc) →
        tc.series = (acceptedFlows b fs).map (fun p => (p.1, (p.2.take 3).map (·.throughput))) ∧
        dc.series = (acceptedFlows b fs).map (fun p => (p.1, (p.2.take 3).map (·.delay)))) ∧
      List.Forall₂ (fun r fig => fig.plotFile = "TCP" ++ r.1 ++ "_cwnd_progress.png" ∧
        fig.panels = (List.range 3).map fun i => (flowLabels.getD i default, cwndTrace b fs r.1 i))
        (acceptedResults b fs) figs := by
  obtain ⟨s, hs, -⟩ := printSummary_loadAggregate hdiv
  have hfigs : List.Forall₂ (fun r (fig : CwndFigure F) => fig.plotFile = "TCP" ++ r.1 ++ "_cwnd_progress.png" ∧
      fig.panels = (List.range 3).map fun i => (flowLabels.getD i default, cwndTrace b fs r.1 i))
      (acceptedResults b fs) ((loadAggregate b fs).keys.map fun v =>
        ⟨"TCP" ++ v ++ "_cwnd_progress.png", "Congestion Window Evolution: TCP " ++ v,
          (List.range 3).map fun i => (flowLabels.getD i default, cwndTrace b fs v i)⟩) := by
    rw [PyDict.keys_def, loadAggregate_items, List.map_map, List.forall₂_map_right_iff, List.forall₂_same]
    exact fun _ _ => ⟨rfl, rfl⟩
  rw [main_of_ne_nil _ hne, hs, ok_bind, if_pos rfl,
    generateAggregatePlots_eq loadAggregate_keys (loadAggregate_items ▸ hne), ok_bind, generateCwndPlots_eq]
  by_cases hpf : acceptedFlows b fs = []
  · rw [loadPerflow_items, hpf]
    refine ⟨s, _, none, _, rfl, iff_of_false Bool.false_ne_true (· rfl), ?_, hfigs⟩
    rintro _ _ ⟨⟩
  · rw [generatePerflowComparisonPlots_eq loadPerflow_keys fun p hp => hflows p (loadPerflow_items ▸ hp),
      loadPerflow_items, List.isEmpty_eq_false.mpr hpf, if_neg Bool.false_ne_true]
    exact ⟨s, _, _, _, rfl, iff_of_true rfl hpf, fun _ _ h => by cases h; exact ⟨rfl, rfl⟩, hfigs⟩

/-- `Fast`'s files alone, its per-flow file with three rows. -/
def fastThreeFlowFiles (name : String) : Option String :=
  if name = "Fast_fanout.csv" then
    some ("TCP_Variant,Total_Throughput_Mbps,Avg_Throughput_Per_Flow_Mbps,Avg_Delay_ms," ++
      "Total_Lost_Packets,Loss_Rate_Percent,Num_Flows\nFast,5.0,1.7,20,3,0.5,3\n")
  else if name = "Fast_perflow.csv" then
    some "Flow_ID,Throughput_Mbps,Delay_ms\n1,2.0,50\n2,2.0,25\n3,1.0,16\n"
  else none

set_option maxRecDepth 4000 in
/-- `Fast` alone with three flows: the per-flow charts show its three flows, and its figure has three
panels. -/
theorem main_charts_fast_three_flows :
    ∃ s agg pf figs, main Builtins.decimal fastThreeFlowFiles true = .ok (.done s agg pf (some figs)) ∧
      (pf.isSome ↔ acceptedFlows Builtins.decimal fastThreeFlowFiles ≠ []) ∧
      (∀ tc dc, pf = some (tc, dc) →
        tc.series = (acceptedFlows Builtins.decimal fastThreeFlowFiles).map
          (fun p => (p.1, (p.2.take 3).map (·.throughput))) ∧
        dc.series = (acceptedFlows Builtins.decimal fastThreeFlowFiles).map
          (fun p => (p.1, (p.2.take 3).map (·.delay)))) ∧
      List.Forall₂ (fun r fig => fig.plotFile = "TCP" ++ r.1 ++ "_cwnd_progress.png" ∧
        fig.panels = (List.range 3).map fun i =>
          (flowLabels.getD i default, cwndTrace Builtins.decimal fastThreeFlowFiles r.1 i))
        (acceptedResults Builtins.decimal fastThreeFlowFiles) figs :=
  main_charts (List.ne_nil_of_length_pos (by decide))
    (fun ⟨_, h, _⟩ => nomatch (show parseCsv Builtins.decimal fastThreeFlowFiles
      (fanoutFile "LinuxReno") = none from rfl).symm.trans h) (by decide)

/-- **`main` with `--skip-sim`, case by case.** No accepted aggregate file: "No results found". A
zero denominator in `print_summary`'s comparison: `ZeroDivisionError`. Otherwise, with matplotlib, a
per-flow file with one or two accepted rows: `IndexError`. Otherwise `main` completes, its summary
and its aggregate chart listing the accepted variants, in `TCP_VARIANTS` order, with their own
values. -/
theorem main_spec (hasMatplotlib : Bool) :
    (acceptedResults b fs = [] → main b fs hasMatplotlib = .ok .noResults) ∧
      (SummaryDividesByZero b fs → main b fs hasMatplotlib = .error .zeroDivisionError) ∧
      (acceptedResults b fs ≠ [] → ¬SummaryDividesByZero b fs → hasMatplotlib = true →
        (∃ p ∈ acceptedFlows b fs, p.2.length < 3) → main b fs hasMatplotlib = .error .indexError) ∧
      (acceptedResults b fs ≠ [] → ¬SummaryDividesByZero b fs →
        (hasMatplotlib = true → ∀ p ∈ acceptedFlows b fs, 3 ≤ p.2.length) →
        ∃ s agg pf cw, main b fs hasMatplotlib = .ok (.done s agg pf cw) ∧
          s.rows = acceptedResults b fs ∧ agg.isSome = hasMatplotlib ∧
          ∀ chart, agg = some chart →
            chart.variants = (acceptedResults b fs).map (·.1) ∧
            chart.totalThroughputs = (acceptedResults b fs).map (·.2.totalThroughput) ∧
            chart.delays = (acceptedResults b fs).map (·.2.avgDelay) ∧
            chart.lossRates = (acceptedResults b fs).map (·.2.lossRate)) :=
  ⟨main_of_nil hasMatplotlib, main_of_divides hasMatplotlib,
    fun hne hdiv hm hshort => hm ▸ main_of_short hne hdiv hshort, main_ok hasMatplotlib⟩

/-- `Fast`'s files alone, its per-flow file with one row. -/
def fastOneFlowFiles (name : String) : Option String :=
  if name = "Fast_fanout.csv" then
    some ("TCP_Variant,Total_Throughput_Mbps,Avg_Throughput_Per_Flow_Mbps,Avg_Delay_ms," ++
      "Total_Lost_Packets,Loss_Rate_Percent,Num_Flows\nFast,5.0,5.0,20,3,0.5,1\n")
  else if name = "Fast_perflow.csv" then some "Flow_ID,Throughput_Mbps,Delay_ms\n1,5.0,20\n"
  else none

set_option maxRecDepth 4000 in
/-- With matplotlib and a one-row per-flow file, `main` raises `IndexError` at flow 2. -/
theorem main_fast_one_flow : main Builtins.decimal fastOneFlowFiles true = .error .indexError := rfl

end Ns3Results.OgSim2
