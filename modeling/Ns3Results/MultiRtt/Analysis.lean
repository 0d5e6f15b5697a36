import Ns3Results.MultiRtt.Stats
import Mathlib.Order.WithBot

/-! # `tcp-multi-rtt`: `main` from loading `all_results` through the bar charts

`main` runs the simulator once per variant (`TcpLinuxReno`, `TcpFast`), loads every variant whose
`read_results` is non-empty into the dict `all_results` with its `calculate_stats`, prints three
per-flow tables (throughput, loss rate, delay), the aggregate statistics, the best fairness and best
total throughput, one RTT-bias line per variant, draws three bar charts and one congestion-window
figure per variant.

Every per-flow table and bar chart walks `range(num_flows)`, where `num_flows` is the flow count of
the **first** loaded variant, and indexes every variant's flow list with it. So

* a later variant with **fewer** flows raises `IndexError`,
* a later variant with **more** flows has its extra flows dropped from every table and chart,

and only when all variants have as many flows as the first is each column exactly that variant's
flows (`loadAndAnalyze_spec`). Then the aggregate table shows each variant's own `calculate_stats`,
and the best-fairness and best-throughput lines name a variant with its own score, which no other
variant's score exceeds (`loadAndAnalyze_best`), and each RTT-bias line reads that variant's own
first and last flows (`loadAndAnalyze_bias`).

Loading raises `ZeroDivisionError` when a loaded variant's float sum of squared throughputs is `0.0`
(`calculateStats_of_isZero`). All of it is stated over any `FloatArith`: "exceeds" is the float
`<`, under which `nan` exceeds nothing and is exceeded by nothing. -/

namespace Ns3Results.MultiRtt

/-- **The variants `main` compares**, in order. -/
def variants : List String := ["TcpLinuxReno", "TcpFast"]

/-- **An entry of `all_results`**: a variant's flows and their statistics. -/
structure Entry (F : Type) where
  flows : List (Flow F)
  stats : Stats F

/-- `all_results`: variant ↦ entry, in insertion order. -/
abbrev AllResults (F : Type) := PyDict String (Entry F)

section Main

variable {F : Type} (A : FloatArith F)

/-! ## (1) Loading `all_results` -/

/-- **One iteration of `main`'s loading loop**, given what `read_results` returned: the variant enters
`all_results` only when its flow list is non-empty (`if flows:`), with its statistics. -/
def addResults (allResults : AllResults F) (variant : String) :
    Option (List (Flow F)) → PyResult (AllResults F)
  | some (f :: fs) => do
    let stats ← calculateStats A (f :: fs)
    pure (allResults.setItem variant ⟨f :: fs, stats⟩)
  | _ => pure allResults

/-- **The loading loop** over `variants`, from what `read_results` returned for each. -/
def loadResults (reads : String → Option (List (Flow F))) : PyResult (AllResults F) :=
  variants.foldlM (fun acc v => addResults A acc v (reads v)) PyDict.empty

/-- Whether `read_results` gave `v` a non-empty flow list (`if flows:`). -/
def isLoaded (reads : String → Option (List (Flow F))) (v : String) : Bool :=
  match reads v with
  | some (_ :: _) => true
  | _ => false

/-- **The variants `main` loads into `all_results`**, in order, with their flows. -/
def loaded (reads : String → Option (List (Flow F))) : List (String × List (Flow F)) :=
  (variants.filter (isLoaded reads)).map fun v => (v, (reads v).getD [])

/-- The flows of each entry of `all_results`, by variant. -/
def flowsOf (d : AllResults F) : List (String × List (Flow F)) := d.items.map fun p => (p.1, p.2.flows)

theorem map_fst_flowsOf (d : AllResults F) : (flowsOf d).map Prod.fst = d.keys := by
  rw [flowsOf, List.map_map]
  rfl

variable {A}

theorem addResults_of_not_loaded {reads : String → Option (List (Flow F))} {v : String} (d : AllResults F)
    (h : isLoaded reads v = false) : addResults A d v (reads v) = .ok d := by
  unfold isLoaded at h
  unfold addResults
  split <;> simp_all

/-- **Step lemma for the loading loop**: a loaded variant whose float sum of squares is not `0.0` is
appended with its flows and their `calculate_stats`. -/
theorem addResults_of_loaded {reads : String → Option (List (Flow F))} {v : String} {d : AllResults F}
    (h : isLoaded reads v = true) (hnz : A.isZero (sumSquared A ((reads v).getD [])) = false)
    (hv : v ∉ d.keys) :
    ∃ stats, calculateStats A ((reads v).getD []) = .ok stats ∧
      addResults A d v (reads v) = .ok ⟨d.items ++ [(v, ⟨(reads v).getD [], stats⟩)]⟩ := by
  unfold isLoaded at h
  split at h
  · rename_i f fs hr
    rw [hr, Option.getD_some] at hnz ⊢
    obtain ⟨stats, hs⟩ := calculateStats_ok (List.cons_ne_nil f fs) hnz
    exact ⟨stats, hs, by rw [addResults, hs, ok_bind, pure_eq_ok, PyDict.setItem_of_not_mem hv]⟩
  · cases h

/-- **Run lemma for the loading loop**: over distinct fresh variants whose float sums of squares are
not `0.0`, the loop appends exactly the loaded ones, in order, and every entry keeps the statistics of
its own flows. -/
theorem foldlM_addResults (reads : String → Option (List (Flow F))) :
    ∀ (vs : List String) (d : AllResults F), vs.Nodup → (∀ v ∈ vs, v ∉ d.keys) →
      (∀ v ∈ vs, isLoaded reads v = true → A.isZero (sumSquared A ((reads v).getD [])) = false) →
      (∀ e ∈ d.values, calculateStats A e.flows = .ok e.stats) →
      ∃ d', vs.foldlM (fun acc v => addResults A acc v (reads v)) d = .ok d' ∧
        flowsOf d' = flowsOf d ++ (vs.filter (isLoaded reads)).map (fun v => (v, (reads v).getD [])) ∧
        ∀ e ∈ d'.values, calculateStats A e.flows = .ok e.stats
  | [], d, _, _, _, hs => ⟨d, rfl, by simp, hs⟩
  | v :: vs, d, hnd, hfresh, hnz, hs => by
    rw [List.nodup_cons] at hnd
    rw [List.foldlM_cons]
    have hfresh' := fun w hw => hfresh w (List.mem_cons_of_mem v hw)
    have hnz' := fun w hw => hnz w (List.mem_cons_of_mem v hw)
    cases hl : isLoaded reads v
    · obtain ⟨d', hd', hflows, hs'⟩ := foldlM_addResults reads vs d hnd.2 hfresh' hnz' hs
      exact ⟨d', by rw [addResults_of_not_loaded d hl, ok_bind, hd'],
        by rw [hflows, List.filter_cons_of_neg (ne_true_of_eq_false hl)], hs'⟩
    · obtain ⟨stats, hstats, hd₁⟩ :=
        addResults_of_loaded hl (hnz v (List.mem_cons_self _ _) hl) (hfresh v (List.mem_cons_self _ _))
      obtain ⟨d', hd', hflows, hs'⟩ := foldlM_addResults reads vs
        ⟨d.items ++ [(v, ⟨(reads v).getD [], stats⟩)]⟩ hnd.2
        (fun w hw => by
          show w ∉ (d.items ++ _).map Prod.fst
          rw [List.map_append, List.mem_append, List.map_singleton, List.mem_singleton, not_or]
          exact ⟨hfresh' w hw, fun h : w = v => hnd.1 (h ▸ hw)⟩) hnz'
        (by
          show ∀ e ∈ (d.items ++ _).map Prod.snd, _
          rw [List.map_append, List.forall_mem_append]
          exact ⟨hs, List.forall_mem_singleton.mpr hstats⟩)
      refine ⟨d', by rw [hd₁, ok_bind, hd'], ?_, hs'⟩
      rw [hflows, List.filter_cons_of_pos hl]
      simp [flowsOf]

variable (A)

/-! ## (2) Tables, best variants, RTT bias -/

/-- **A per-flow comparison table**: its header (the loaded variants) and, per flow index, the RTT of
the first result's flow and one value per header variant. -/
structure FlowTable (F : Type) where
  header : List String
  rows : List (ℤ × List F)

/-- The columns of a table: each header variant with its values, top to bottom. -/
def FlowTable.columns (t : FlowTable F) : List (String × List F) :=
  t.header.mapIdx fun j v => (v, t.rows.filterMap fun r => r.2[j]?)

/-- **Row `i` of a per-flow table**: `list(all_results.values())[0]['flows'][i]['rtt_ms']`, then
`all_results[v]['flows'][i][metric]` for each `v in variants` that is `in all_results`. -/
def perFlowRow (allResults : AllResults F) (metric : Flow F → F) (i : ℕ) : PyResult (ℤ × List F) := do
  let first ← getItem allResults.values 0
  let rtt := (← getItem first.flows i).rttMs
  let line ← (variants.filter allResults.contains).mapM fun v => do
    let e ← allResults.getItem v
    let f ← getItem e.flows i
    pure (metric f)
  pure (rtt, line)

/-- **One per-flow table of `main`.** The throughput, loss-rate and delay tables are three copies of
one loop in the source, differing only in the field read: one row per `i in range(num_flows)`. -/
def perFlowTable (allResults : AllResults F) (numFlows : ℕ) (metric : Flow F → F) :
    PyResult (FlowTable F) := do
  let rows ← (List.range numFlows).mapM (perFlowRow allResults metric)
  pure ⟨variants.filter allResults.contains, rows⟩

/-- The rows of the aggregate-statistics table: label and key. -/
def aggregateMetrics : List (String × (Stats F → F)) :=
  [("Total Throughput (Mbps)", Stats.total), ("Average Throughput (Mbps)", Stats.avg),
    ("Min Throughput (Mbps)", Stats.min), ("Max Throughput (Mbps)", Stats.max),
    ("Fairness Index (Jain)", Stats.fairness)]

/-- **The aggregate-statistics table**: per metric, `all_results[v]['stats'][key]` for each loaded
variant. -/
def aggregateTable (allResults : AllResults F) : PyResult (List (String × List F)) :=
  aggregateMetrics.mapM fun m => do
    let values ← (variants.filter allResults.contains).mapM fun v => do
      pure (m.2 (← allResults.getItem v).stats)
    pure (m.1, values)

/-- **`{v: all_results[v]['stats'][key] for v in variants if v in all_results}.items()`** (distinct
keys, so the dict is its list of pairs). -/
def scores (allResults : AllResults F) (key : Stats F → F) : PyResult (List (String × F)) :=
  (variants.filter allResults.contains).mapM fun v => do
    pure (v, key (← allResults.getItem v).stats)

/-- **One RTT-bias line**: `low / high if high > 0 else float('inf')`, with `low`, `high` the
throughputs of `flows[0]` and `flows[-1]`; `⊤` is the literal `float('inf')`. -/
def rttBias (e : Entry F) : PyResult (WithTop F × F × F) := do
  let low := (← getItem e.flows 0).throughput
  let high := (← getLast e.flows).throughput
  let bias ← if A.lt (A.ofRat 0) high then WithTop.some <$> A.pyDiv low high else pure ⊤
  pure (bias, low, high)

/-- **What an RTT-bias line should show for a flow list**: the throughputs of its first and its last
flow, and as bias the literal `float('inf')` exactly when the last is not positive (`0.0` or `nan`),
and otherwise the float quotient of the two. -/
def BiasLine (flows : List (Flow F)) (line : WithTop F × F × F) : Prop :=
  ∃ first last, flows.head? = some first ∧ flows.getLast? = some last ∧
    line.2 = (first.throughput, last.throughput) ∧
    (line.1 = ⊤ ↔ A.lt (A.ofRat 0) last.throughput = false) ∧
    (A.lt (A.ofRat 0) last.throughput = true → line.1 = WithTop.some (A.div first.throughput last.throughput))

/-! ## (3) The bar charts -/

/-- **A bar chart of `plot_*_comparison`**: its file, title, axis label, the decimals of its value
labels, the RTT x-labels (from the first variant) and one bar series per variant, in legend order.
Bar geometry (widths, offsets) is left out. -/
structure BarChart (F : Type) where
  outputFile : String
  title : String
  ylabel : String
  decimals : ℕ
  rttLabels : List ℤ
  series : List (String × List F)

/-- **The common body of the three `plot_*_comparison` functions**: `num_flows` from the first
variant, then `[all_results[v]['flows'][i][metric] for i in range(num_flows)]` for every variant, and
the first variant's RTTs as labels. -/
def plotComparison (outputFile title ylabel : String) (decimals : ℕ) (metric : Flow F → F)
    (allResults : AllResults F) : PyResult (BarChart F) := do
  let vs := allResults.keys
  let numFlows := (← allResults.getItem (← getItem vs 0)).flows.length
  let series ← vs.mapM fun v => do
    let e ← allResults.getItem v
    let values ← (List.range numFlows).mapM fun i => do
      let f ← getItem e.flows i
      pure (metric f)
    pure (v, values)
  let rttLabels ← (List.range numFlows).mapM fun i => do
    let f ← getItem (← allResults.getItem (← getItem vs 0)).flows i
    pure f.rttMs
  pure ⟨outputFile, title, ylabel, decimals, rttLabels, series⟩

/-- **`plot_throughput_comparison(all_results, 'throughput_comparison.png')`.** -/
def plotThroughputComparison : AllResults F → PyResult (BarChart F) :=
  plotComparison "throughput_comparison.png"
    "Throughput Comparison: TCP Variants Across Different RTTs" "Throughput (Mbps)" 1 (·.throughput)

/-- **`plot_delay_comparison(all_results, 'delay_comparison.png')`.** -/
def plotDelayComparison : AllResults F → PyResult (BarChart F) :=
  plotComparison "delay_comparison.png"
    "Average Delay Comparison: TCP Variants Across Different RTTs" "Average Delay (ms)" 1 (·.avgDelay)

/-- **`plot_loss_comparison(all_results, 'loss_comparison.png')`.** -/
def plotLossComparison : AllResults F → PyResult (BarChart F) :=
  plotComparison "loss_comparison.png"
    "Packet Loss Rate Comparison: TCP Variants Across Different RTTs" "Packet Loss Rate (%)" 2
    (·.lossRate)

/-! ## (4) The analysis phase -/

/-- **What `main` prints and draws from `all_results`**, before the congestion-window figures. -/
structure Analysis (F : Type) where
  throughputTable : FlowTable F
  lossTable : FlowTable F
  delayTable : FlowTable F
  aggregate : List (String × List F)
  bestFairness : String × F
  bestThroughput : String × F
  bias : List (String × WithTop F × F × F)
  throughputChart : BarChart F
  delayChart : BarChart F
  lossChart : BarChart F

/-- **`main` from the per-flow tables through the three bar charts**, on a non-empty `all_results`. -/
def analyze (allResults : AllResults F) : PyResult (Analysis F) := do
  let numFlows := (← getItem allResults.values 0).flows.length
  let throughputTable ← perFlowTable allResults numFlows (·.throughput)
  let lossTable ← perFlowTable allResults numFlows (·.lossRate)
  let delayTable ← perFlowTable allResults numFlows (·.avgDelay)
  let aggregate ← aggregateTable allResults
  let bestFairness ← A.pyMaxBy Prod.snd (← scores allResults (·.fairness))
  let bestThroughput ← A.pyMaxBy Prod.snd (← scores allResults (·.total))
  let bias ← (variants.filter allResults.contains).mapM fun v => do
    pure (v, ← rttBias A (← allResults.getItem v))
  let throughputChart ← plotThroughputComparison allResults
  let delayChart ← plotDelayComparison allResults
  let lossChart ← plotLossComparison allResults
  pure ⟨throughputTable, lossTable, delayTable, aggregate, bestFairness, bestThroughput, bias,
    throughputChart, delayChart, lossChart⟩

/-- **The phase of `main` from loading `all_results` through the bar charts**, from what
`read_results` returned for each variant: `none` when nothing loaded ("No results found"). -/
def loadAndAnalyze (reads : String → Option (List (Flow F))) : PyResult (Option (Analysis F)) := do
  let allResults ← loadResults A reads
  if allResults.items.isEmpty then return none
  some <$> analyze A allResults

variable {A}

/-! ## (5) What loading guarantees -/

/-- **The invariant the loading loop establishes on `all_results`**: its keys are some of `variants`,
in their order, and every entry has a flow and the statistics of its flows. -/
structure Loaded (A : FloatArith F) (d : AllResults F) : Prop where
  keys_eq : ∃ p : String → Bool, d.keys = variants.filter p
  flows_ne : ∀ e ∈ d.values, e.flows ≠ []
  stats_eq : ∀ e ∈ d.values, calculateStats A e.flows = .ok e.stats

theorem Loaded.nodup {d : AllResults F} (hd : Loaded A d) : d.keys.Nodup := by
  obtain ⟨p, hp⟩ := hd.keys_eq
  rw [hp]
  exact (show variants.Nodup by decide).filter p

/-- On loaded results, `[v for v in variants if v in all_results]` lists the keys in order. -/
theorem Loaded.header {d : AllResults F} (hd : Loaded A d) : variants.filter d.contains = d.keys :=
  PyDict.filter_contains_of_keys_eq hd.keys_eq.choose_spec

/-- A loaded variant's flows, and only a loaded variant's, appear in `loaded`. -/
theorem mem_loaded {reads : String → Option (List (Flow F))} {v : String} {fl : List (Flow F)}
    (h : (v, fl) ∈ loaded reads) : v ∈ variants ∧ ∃ f fs, reads v = some (f :: fs) ∧ fl = f :: fs := by
  obtain ⟨w, hw, hvw⟩ := List.mem_map.mp h
  simp only [Prod.mk.injEq] at hvw
  obtain ⟨rfl, rfl⟩ := hvw
  obtain ⟨hv, hl⟩ := List.mem_filter.mp hw
  refine ⟨hv, ?_⟩
  unfold isLoaded at hl
  split at hl
  · rename_i f fs hr
    exact ⟨f, fs, hr, by rw [hr]; rfl⟩
  · cases hl

/-- … and every variant whose `read_results` returned flows is loaded with them. -/
theorem mem_loaded_of_some {reads : String → Option (List (Flow F))} {v : String} (hv : v ∈ variants)
    {f : Flow F} {fl : List (Flow F)} (h : reads v = some (f :: fl)) : (v, f :: fl) ∈ loaded reads :=
  List.mem_map.mpr ⟨v, List.mem_filter.mpr ⟨hv, by simp only [isLoaded, h]⟩, by simp only [h, Option.getD_some]⟩

theorem addResults_raisesOnly (d : AllResults F) (v : String) (r : Option (List (Flow F))) :
    RaisesOnly (· = .zeroDivisionError) (addResults A d v r) := by
  unfold addResults
  split
  · exact .bind (calculateStats_raisesOnly _) fun _ => .ok _
  · exact .ok _

/-- **The loading loop establishes `Loaded`**: when no loaded variant's float sum of squares is `0.0`,
it returns the loaded variants with their flows, in order. -/
theorem loadResults_spec {reads : String → Option (List (Flow F))}
    (hnz : ∀ p ∈ loaded reads, A.isZero (sumSquared A p.2) = false) :
    ∃ d, loadResults A reads = .ok d ∧ flowsOf d = loaded reads ∧ Loaded A d := by
  obtain ⟨d, hd, hflows, hs⟩ := foldlM_addResults reads variants PyDict.empty (by decide)
    (fun _ _ => List.not_mem_nil _)
    (fun v hv hl => hnz (v, (reads v).getD []) (List.mem_map_of_mem _ (List.mem_filter.mpr ⟨hv, hl⟩)))
    fun _ h => absurd h (List.not_mem_nil _)
  have hflows' : flowsOf d = loaded reads := hflows.trans (List.nil_append _)
  refine ⟨d, hd, hflows', ⟨isLoaded reads, ?_⟩, ?_, hs⟩
  · rw [← map_fst_flowsOf, hflows', loaded, List.map_map]
    exact List.map_id' _
  · intro e he
    obtain ⟨⟨v, e'⟩, hp, rfl⟩ := List.mem_map.mp he
    have hmem : (v, e'.flows) ∈ loaded reads := hflows' ▸ List.mem_map_of_mem _ hp
    obtain ⟨-, f, fs, -, hfl⟩ := mem_loaded hmem
    show e'.flows ≠ []
    rw [hfl]
    exact List.cons_ne_nil f fs

/-- … and when some loaded variant's float sum of squares is `0.0`, it raises `ZeroDivisionError`. -/
theorem loadResults_of_zero {reads : String → Option (List (Flow F))}
    (hz : ∃ p ∈ loaded reads, A.isZero (sumSquared A p.2) = true) :
    loadResults A reads = .error .zeroDivisionError := by
  obtain ⟨⟨v, fl⟩, hp, hzero⟩ := hz
  obtain ⟨hv, f, fs, hr, rfl⟩ := mem_loaded hp
  have hstep : ∀ acc, addResults A acc v (reads v) = .error .zeroDivisionError := fun acc => by
    rw [hr, addResults, calculateStats_of_isZero hzero]
    rfl
  obtain ⟨e, rfl, he⟩ := foldlM_eq_error (· = .zeroDivisionError)
    (fun acc v => addResults A acc v (reads v)) PyDict.empty
    ⟨v, hv, fun acc => ⟨_, hstep acc⟩⟩ fun acc w _ => addResults_raisesOnly acc w (reads w)
  exact he

theorem flowsOf_eq_cons {d : AllResults F} {v₀ : String} {fl₀ : List (Flow F)}
    {rest : List (String × List (Flow F))} (h : flowsOf d = (v₀, fl₀) :: rest) :
    ∃ e₀ rest', d.items = (v₀, e₀) :: rest' ∧ e₀.flows = fl₀ := by
  cases hi : d.items with
  | nil => simp [flowsOf, hi] at h
  | cons p rest' =>
    simp only [flowsOf, hi, List.map_cons, List.cons.injEq, Prod.mk.injEq] at h
    exact ⟨p.2, rest', by rw [← h.1.1], h.1.2⟩

theorem forall_values_iff_flowsOf {d : AllResults F} {Q : List (Flow F) → Prop} :
    (∀ e ∈ d.values, Q e.flows) ↔ ∀ p ∈ flowsOf d, Q p.2 := by
  simp only [flowsOf, PyDict.values_def, List.forall_mem_map]

/-- **Each variant with the metric of its first `n` flows**: what a table column or a bar series shows
when the first variant has `n` flows. -/
def ownSeries (vfs : List (String × List (Flow F))) (n : ℕ) (metric : Flow F → F) :
    List (String × List F) :=
  vfs.map fun p => (p.1, (p.2.take n).map metric)

/-- **What the analysis reports on `d`**, `num_flows` being `n` and the first variant's RTTs `rtts`:
every per-flow table column and bar series is a variant's own metric over its first `n` flows, every
table row and bar is labelled with an RTT of the first variant, the aggregate table shows each
variant's own `calculate_stats`, the best lines name a variant with its own score, which no variant's
score exceeds, and the RTT-bias lines are what `BiasLine` asks of each variant's flows. -/
structure Reports (A : FloatArith F) (d : AllResults F) (n : ℕ) (rtts : List ℤ) (a : Analysis F) :
    Prop where
  throughput_columns : a.throughputTable.columns = ownSeries (flowsOf d) n (·.throughput)
  loss_columns : a.lossTable.columns = ownSeries (flowsOf d) n (·.lossRate)
  delay_columns : a.delayTable.columns = ownSeries (flowsOf d) n (·.avgDelay)
  throughput_series : a.throughputChart.series = ownSeries (flowsOf d) n (·.throughput)
  delay_series : a.delayChart.series = ownSeries (flowsOf d) n (·.avgDelay)
  loss_series : a.lossChart.series = ownSeries (flowsOf d) n (·.lossRate)
  row_labels : ∀ t ∈ [a.throughputTable, a.lossTable, a.delayTable], t.rows.map Prod.fst = rtts
  bar_labels : ∀ c ∈ [a.throughputChart, a.delayChart, a.lossChart], c.rttLabels = rtts
  aggregate_eq : a.aggregate = aggregateMetrics.map fun m => (m.1, d.items.map fun p => m.2 p.2.stats)
  best_fairness_mem : a.bestFairness ∈ d.items.map fun p => (p.1, p.2.stats.fairness)
  best_throughput_mem : a.bestThroughput ∈ d.items.map fun p => (p.1, p.2.stats.total)
  fairness_le : ∀ p ∈ d.items, A.lt a.bestFairness.2 p.2.stats.fairness = false
  total_le : ∀ p ∈ d.items, A.lt a.bestThroughput.2 p.2.stats.total = false
  bias_lines : List.Forall₂ (fun p line => line.1 = p.1 ∧ BiasLine A p.2.flows line.2) d.items a.bias

/-! ## (6) The analysis on loaded results

Throughout, `d` is a `Loaded` dict whose first entry is `e₀`; `num_flows` is `e₀.flows.length`. -/

/-- **Reading a table built row by row back column by column.** -/
theorem columns_mk {β : Type} (items : List (String × β)) (x : ℕ → ℤ) (h : ℕ → String × β → F)
    (n : ℕ) :
    (FlowTable.mk (items.map Prod.fst)
        ((List.range n).map fun i => (x i, items.map fun p => h i p))).columns =
      items.map fun p => (p.1, (List.range n).map fun i => h i p) := by
  induction items with
  | nil => rfl
  | cons p items ih =>
    simp only [FlowTable.columns, List.map_cons, List.mapIdx_cons, List.filterMap_map, Function.comp_def,
      List.getElem?_cons_zero, List.getElem?_cons_succ] at ih ⊢
    rw [ih, List.filterMap_eq_map_iff_forall_eq_some.mpr fun _ _ => rfl]

section Analysis

variable {d : AllResults F} (hd : Loaded A d) {v₀ : String} {e₀ : Entry F}
  {rest : List (String × Entry F)} (hfirst : d.items = (v₀, e₀) :: rest)

include hfirst in
theorem getItem_values_zero : getItem d.values 0 = .ok e₀ := by
  rw [PyDict.values_def, hfirst]
  rfl

include hfirst in
theorem first_mem_items : (v₀, e₀) ∈ d.items := by
  rw [hfirst]
  exact List.mem_cons_self _ _

include hd in
/-- On loaded results a per-flow row visits the entries of `all_results` in order. -/
theorem perFlowRow_eq_items (metric : Flow F → F) (i : ℕ) :
    perFlowRow d metric i = (do
      let first ← getItem d.values 0
      let rtt := (← getItem first.flows i).rttMs
      let line ← d.items.mapM fun p => do
        let f ← getItem p.2.flows i
        pure (metric f)
      pure (rtt, line) : PyResult (ℤ × List F)) := by
  unfold perFlowRow
  rw [hd.header, PyDict.mapM_keys_getItem hd.nodup]

include hd in
theorem perFlowRow_raisesOnly (metric : Flow F → F) (i : ℕ) :
    RaisesOnly (· = .indexError) (perFlowRow d metric i) := by
  rw [perFlowRow_eq_items hd]
  exact .bind (getItem_raisesOnly _ _) fun _ => .bind (getItem_raisesOnly _ _) fun _ =>
    .bind (.mapM fun _ _ => .bind (getItem_raisesOnly _ _) fun _ => .ok _) fun _ => .ok _

include hd hfirst in
/-- **Row `i` when every variant has a flow `i`**: the first variant's RTT, then every variant's metric
of its own flow `i`. -/
theorem perFlowRow_eq [Inhabited F] (metric : Flow F → F) {i : ℕ} (hi : ∀ e ∈ d.values, i < e.flows.length) :
    perFlowRow d metric i =
      .ok ((e₀.flows.getD i default).rttMs, d.items.map fun p => metric (p.2.flows.getD i default)) := by
  have hline : ∀ p ∈ d.items, (do let f ← getItem p.2.flows i; pure (metric f) : PyResult F) =
      .ok (metric (p.2.flows.getD i default)) := fun p hp => by
    rw [getItem_of_lt (hi p.2 (PyDict.snd_mem_values hp))]
    rfl
  rw [perFlowRow_eq_items hd, getItem_values_zero hfirst, ok_bind,
    getItem_of_lt (hi e₀ (PyDict.snd_mem_values (first_mem_items hfirst))), ok_bind, mapM_eq_ok hline]
  rfl

include hd hfirst in
/-- **Row `i` when some variant has no flow `i`** raises `IndexError`. -/
theorem perFlowRow_eq_error (metric : Flow F → F) {i : ℕ} (hi : i < e₀.flows.length)
    (hshort : ∃ e ∈ d.values, e.flows.length ≤ i) :
    perFlowRow d metric i = .error .indexError := by
  letI : Inhabited F := ⟨A.ofRat 0⟩
  obtain ⟨e, he, hle⟩ := hshort
  obtain ⟨p, hp, rfl⟩ := List.mem_map.mp he
  have hline : d.items.mapM (fun p => do let f ← getItem p.2.flows i; pure (metric f)) =
      .error .indexError :=
    mapM_eq_error ⟨p, hp, by rw [getItem_of_le hle]; rfl⟩
      fun q _ => .bind (getItem_raisesOnly _ _) fun _ => .ok _
  rw [perFlowRow_eq_items hd, getItem_values_zero hfirst, ok_bind, getItem_of_lt hi, ok_bind]
  simp only [hline]
  rfl

include hd hfirst in
/-- **A per-flow table when no variant has fewer flows than the first**: one row per flow index of
the first variant, built from each variant's own flows. -/
theorem perFlowTable_eq [Inhabited F] (metric : Flow F → F)
    (hn : ∀ e ∈ d.values, e₀.flows.length ≤ e.flows.length) :
    perFlowTable d e₀.flows.length metric =
      .ok ⟨d.keys, (List.range e₀.flows.length).map fun i =>
        ((e₀.flows.getD i default).rttMs, d.items.map fun p => metric (p.2.flows.getD i default))⟩ := by
  rw [perFlowTable, mapM_eq_ok fun i hi => perFlowRow_eq hd hfirst metric fun e he =>
    lt_of_lt_of_le (List.mem_range.mp hi) (hn e he), hd.header]
  rfl

include hd hfirst in
/-- **Its columns are the variants' own metrics**, each over the first `num_flows` flows. -/
theorem perFlowTable_columns [Inhabited F] (metric : Flow F → F)
    (hn : ∀ e ∈ d.values, e₀.flows.length ≤ e.flows.length) {t : FlowTable F}
    (ht : perFlowTable d e₀.flows.length metric = .ok t) :
    t.columns = d.items.map fun p => (p.1, (p.2.flows.take e₀.flows.length).map metric) := by
  rw [perFlowTable_eq hd hfirst metric hn] at ht
  cases ht
  rw [PyDict.keys_def, columns_mk]
  refine List.map_congr_left fun p hp => ?_
  rw [← map_range_getD (hn p.2 (PyDict.snd_mem_values hp)), List.map_map]
  rfl

include hd hfirst in
/-- **Its rows are labelled with the first variant's RTTs**, whatever the other variants' flows. -/
theorem perFlowTable_labels [Inhabited F] (metric : Flow F → F)
    (hn : ∀ e ∈ d.values, e₀.flows.length ≤ e.flows.length) {t : FlowTable F}
    (ht : perFlowTable d e₀.flows.length metric = .ok t) : t.rows.map Prod.fst = e₀.flows.map (·.rttMs) := by
  rw [perFlowTable_eq hd hfirst metric hn] at ht
  cases ht
  have h := congrArg (List.map (·.rttMs)) (map_range_getD (le_refl e₀.flows.length))
  rw [List.map_map, List.take_length] at h
  rw [List.map_map]
  exact h

include hd hfirst in
/-- **A per-flow table when some variant has fewer flows than the first** raises `IndexError`. -/
theorem perFlowTable_eq_error (metric : Flow F → F)
    (hshort : ∃ e ∈ d.values, e.flows.length < e₀.flows.length) :
    perFlowTable d e₀.flows.length metric = .error .indexError := by
  obtain ⟨e, he, hlt⟩ := hshort
  rw [perFlowTable, mapM_eq_error ⟨e.flows.length, List.mem_range.mpr hlt,
    perFlowRow_eq_error hd hfirst metric hlt ⟨e, he, le_rfl⟩⟩ fun i _ => perFlowRow_raisesOnly hd metric i]
  rfl

include hd hfirst in
/-- **A bar chart when no variant has fewer flows than the first**: the first variant's RTTs as
labels, and each variant's metric over its first `num_flows` flows as its series. -/
theorem plotComparison_eq [Inhabited F] (outputFile title ylabel : String) (decimals : ℕ)
    (metric : Flow F → F) (hn : ∀ e ∈ d.values, e₀.flows.length ≤ e.flows.length) :
    plotComparison outputFile title ylabel decimals metric d =
      .ok ⟨outputFile, title, ylabel, decimals, e₀.flows.map (·.rttMs),
        d.items.map fun p => (p.1, (p.2.flows.take e₀.flows.length).map metric)⟩ := by
  have hkey : getItem d.keys 0 = .ok v₀ := by rw [PyDict.keys_def, hfirst]; rfl
  have he₀ : d.getItem v₀ = .ok e₀ := PyDict.getItem_of_mem hd.nodup (first_mem_items hfirst)
  have hseries : d.items.mapM (fun p => do
      let values ← (List.range e₀.flows.length).mapM fun i => do
        let f ← getItem p.2.flows i
        pure (metric f)
      pure (p.1, values)) =
      .ok (d.items.map fun p => (p.1, (p.2.flows.take e₀.flows.length).map metric)) :=
    mapM_eq_ok fun p hp => by
      rw [mapM_range_getItem metric (hn p.2 (PyDict.snd_mem_values hp))]
      rfl
  unfold plotComparison
  dsimp only
  rw [hkey, ok_bind, he₀, ok_bind, PyDict.mapM_keys_getItem hd.nodup, hseries, ok_bind]
  simp only [hkey, he₀, ok_bind]
  rw [mapM_range_getItem _ le_rfl, List.take_length]
  rfl

include hd in
theorem aggregateTable_eq :
    aggregateTable d = .ok (aggregateMetrics.map fun m => (m.1, d.items.map fun p => m.2 p.2.stats)) := by
  unfold aggregateTable
  rw [hd.header]
  exact mapM_eq_ok fun m _ => by
    rw [PyDict.mapM_keys_getItem hd.nodup, mapM_pure]
    rfl

include hd in
theorem scores_eq (key : Stats F → F) :
    scores d key = .ok (d.items.map fun p => (p.1, key p.2.stats)) := by
  unfold scores
  rw [hd.header, PyDict.mapM_keys_getItem hd.nodup, mapM_pure]

/-- **`flows[0]` and `flows[-1]` of a non-empty flow list**: the RTT-bias line is printed, without a
division by zero (a positive float is not `0.0`), and it shows what `BiasLine` asks. -/
theorem rttBias_spec {e : Entry F} (h : e.flows ≠ []) :
    ∃ line, rttBias A e = .ok line ∧ BiasLine A e.flows line := by
  obtain ⟨f, fs, hf⟩ := List.exists_cons_of_ne_nil h
  have hne : f :: fs ≠ [] := List.cons_ne_nil f fs
  obtain ⟨last, hlast⟩ : ∃ last, (f :: fs).getLast hne = last := ⟨_, rfl⟩
  have hget : rttBias A e = .ok (if A.lt (A.ofRat 0) last.throughput then
      WithTop.some (A.div f.throughput last.throughput) else ⊤, f.throughput, last.throughput) := by
    rw [rttBias, hf, getItem_cons_zero, ok_bind, getLast_of_ne_nil hne, hlast, ok_bind]
    dsimp only
    cases hpos : A.lt (A.ofRat 0) last.throughput
    · rfl
    · rw [if_pos rfl, A.pyDiv_of_not_isZero (A.isZero_of_pos _ hpos)]
      rfl
  refine ⟨_, hget, f, last, by rw [hf]; rfl, by rw [hf, List.getLast?_eq_getLast _ hne, hlast], rfl, ?_,
    fun hpos => if_pos hpos⟩
  cases A.lt (A.ofRat 0) last.throughput <;> simp

include hd in
/-- **The RTT-bias lines**: one per entry, in order, each what `BiasLine` asks of the entry's flows. -/
theorem bias_spec : ∃ r, (variants.filter d.contains).mapM (fun v => do
    pure (v, ← rttBias A (← d.getItem v))) = .ok r ∧
      List.Forall₂ (fun p line => line.1 = p.1 ∧ BiasLine A p.2.flows line.2) d.items r := by
  rw [hd.header, PyDict.mapM_keys_getItem hd.nodup]
  exact mapM_ok_forall₂ fun p hp => by
    obtain ⟨line, hline, hspec⟩ := rttBias_spec (hd.flows_ne p.2 (PyDict.snd_mem_values hp))
    exact ⟨(p.1, line), by rw [hline]; rfl, rfl, hspec⟩

include hd hfirst in
/-- **The analysis when no variant has fewer flows than the first** completes and `Reports` `d`. -/
theorem analyze_eq (hn : ∀ p ∈ flowsOf d, e₀.flows.length ≤ p.2.length) :
    ∃ a, analyze A d = .ok a ∧ Reports A d e₀.flows.length (e₀.flows.map (·.rttMs)) a := by
  letI : Inhabited F := ⟨A.ofRat 0⟩
  replace hn := (@forall_values_iff_flowsOf F d fun fl => e₀.flows.length ≤ fl.length).mpr hn
  have hT := fun metric => perFlowTable_eq hd hfirst metric hn
  have hC := fun o t y k metric => plotComparison_eq hd hfirst o t y k metric hn
  have hne : ∀ key : Stats F → F, d.items.map (fun p => (p.1, key p.2.stats)) ≠ [] := fun key => by
    rw [hfirst]
    exact List.cons_ne_nil _ _
  obtain ⟨bf, hbf⟩ := A.pyMaxBy_ok_of_ne_nil Prod.snd (hne (·.fairness))
  obtain ⟨bt, hbt⟩ := A.pyMaxBy_ok_of_ne_nil Prod.snd (hne (·.total))
  obtain ⟨bias, hbias, hlines⟩ := bias_spec hd
  have hown : ∀ metric : Flow F → F, ownSeries (flowsOf d) e₀.flows.length metric =
      d.items.map fun p => (p.1, (p.2.flows.take e₀.flows.length).map metric) := by
    simp [ownSeries, flowsOf]
  have hcols := fun metric => (perFlowTable_columns hd hfirst metric hn (hT metric)).trans (hown metric).symm
  simp only [analyze, getItem_values_zero hfirst, ok_bind, hT, aggregateTable_eq hd, scores_eq hd,
    hbf, hbt, hbias, plotThroughputComparison, plotDelayComparison, plotLossComparison, hC]
  refine ⟨_, rfl, hcols _, hcols _, hcols _, (hown _).symm, (hown _).symm, (hown _).symm, ?_, ?_, rfl,
    (A.pyMaxBy_spec hbf).1, (A.pyMaxBy_spec hbt).1, fun p hp => ?_, fun p hp => ?_, hlines⟩
  · intro t ht
    simp only [List.mem_cons, List.not_mem_nil, or_false] at ht
    rcases ht with rfl | rfl | rfl <;> exact perFlowTable_labels hd hfirst _ hn (hT _)
  · intro c hc
    simp only [List.mem_cons, List.not_mem_nil, or_false] at hc
    rcases hc with rfl | rfl | rfl <;> rfl
  · exact (A.pyMaxBy_spec hbf).2 (p.1, p.2.stats.fairness) (List.mem_map_of_mem _ hp)
  · exact (A.pyMaxBy_spec hbt).2 (p.1, p.2.stats.total) (List.mem_map_of_mem _ hp)

include hd hfirst in
/-- **The analysis when some variant has fewer flows than the first** raises `IndexError`, in the
first per-flow table. -/
theorem analyze_eq_error (hshort : ∃ p ∈ flowsOf d, p.2.length < e₀.flows.length) :
    analyze A d = .error .indexError := by
  obtain ⟨_, hq, hlt⟩ := hshort
  obtain ⟨p, hp, rfl⟩ := List.mem_map.mp hq
  rw [analyze, getItem_values_zero hfirst, ok_bind]
  dsimp only
  rw [perFlowTable_eq_error hd hfirst _ ⟨p.2, PyDict.snd_mem_values hp, hlt⟩]
  rfl

end Analysis

/-! ## (7) From the flow lists `read_results` returned to the charts -/

/-- A loaded variant whose float sum of squares is `0.0` makes `main` raise `ZeroDivisionError` while
loading. -/
theorem loadAndAnalyze_of_zero {reads : String → Option (List (Flow F))}
    (hz : ∃ p ∈ loaded reads, A.isZero (sumSquared A p.2) = true) :
    loadAndAnalyze A reads = .error .zeroDivisionError := by
  rw [loadAndAnalyze, loadResults_of_zero hz]
  rfl

/-- Once the loop returned a non-empty `all_results`, `main` goes on to the analysis. -/
theorem loadAndAnalyze_eq_analyze {reads : String → Option (List (Flow F))} {d : AllResults F}
    {v₀ : String} {e₀ : Entry F} {rest : List (String × Entry F)} (hd : loadResults A reads = .ok d)
    (hitems : d.items = (v₀, e₀) :: rest) : loadAndAnalyze A reads = some <$> analyze A d := by
  rw [loadAndAnalyze, hd, ok_bind, hitems]
  rfl

section Loading

variable {reads : String → Option (List (Flow F))}
  (hnz : ∀ p ∈ loaded reads, A.isZero (sumSquared A p.2) = false)

include hnz in
/-- Nothing loaded: "No results found", and `main` returns. -/
theorem loadAndAnalyze_of_nil (h : loaded reads = []) : loadAndAnalyze A reads = .ok none := by
  obtain ⟨d, hd, hflows, -⟩ := loadResults_spec hnz
  have hitems : d.items = [] := by simpa [flowsOf, h] using hflows
  rw [loadAndAnalyze, hd, ok_bind, hitems]
  rfl

include hnz in
/-- **A loaded variant with fewer flows than the first** makes `main` raise `IndexError`. -/
theorem loadAndAnalyze_of_short {v₀ : String} {fl₀ : List (Flow F)} {rest : List (String × List (Flow F))}
    (h : loaded reads = (v₀, fl₀) :: rest) (hshort : ∃ p ∈ loaded reads, p.2.length < fl₀.length) :
    loadAndAnalyze A reads = .error .indexError := by
  obtain ⟨d, hd, hflows, hL⟩ := loadResults_spec hnz
  obtain ⟨e₀, rest', hitems, rfl⟩ := flowsOf_eq_cons (hflows.trans h)
  rw [loadAndAnalyze_eq_analyze hd hitems, analyze_eq_error hL hitems (hflows ▸ hshort)]
  rfl

include hnz in
/-- **No loaded variant with fewer flows than the first**: `main` gets through the analysis, and
`Reports` what it prints and draws, over the loaded variants' flow lists. -/
theorem loadAndAnalyze_reports {v₀ : String} {fl₀ : List (Flow F)} {rest : List (String × List (Flow F))}
    (h : loaded reads = (v₀, fl₀) :: rest) (hn : ∀ p ∈ loaded reads, fl₀.length ≤ p.2.length) :
    ∃ d a, loadAndAnalyze A reads = .ok (some a) ∧ flowsOf d = loaded reads ∧ Loaded A d ∧
      Reports A d fl₀.length (fl₀.map (·.rttMs)) a := by
  obtain ⟨d, hd, hflows, hL⟩ := loadResults_spec hnz
  obtain ⟨e₀, rest', hitems, rfl⟩ := flowsOf_eq_cons (hflows.trans h)
  obtain ⟨a, ha, hr⟩ := analyze_eq hL hitems (hflows ▸ hn)
  exact ⟨d, a, by rw [loadAndAnalyze_eq_analyze hd hitems, ha]; rfl, hflows, hL, hr⟩

include hnz in
/-- … in particular each variant's columns and series are its own metrics over the first variant's
flow count. -/
theorem loadAndAnalyze_of_long {v₀ : String} {fl₀ : List (Flow F)} {rest : List (String × List (Flow F))}
    (h : loaded reads = (v₀, fl₀) :: rest) (hn : ∀ p ∈ loaded reads, fl₀.length ≤ p.2.length) :
    ∃ a, loadAndAnalyze A reads = .ok (some a) ∧
      a.throughputTable.columns = ownSeries (loaded reads) fl₀.length (·.throughput) ∧
      a.lossTable.columns = ownSeries (loaded reads) fl₀.length (·.lossRate) ∧
      a.delayTable.columns = ownSeries (loaded reads) fl₀.length (·.avgDelay) ∧
      a.throughputChart.series = ownSeries (loaded reads) fl₀.length (·.throughput) ∧
      a.delayChart.series = ownSeries (loaded reads) fl₀.length (·.avgDelay) ∧
      a.lossChart.series = ownSeries (loaded reads) fl₀.length (·.lossRate) := by
  obtain ⟨d, a, ha, hflows, -, hr⟩ := loadAndAnalyze_reports hnz h hn
  exact ⟨a, ha, hflows ▸ hr.throughput_columns, hflows ▸ hr.loss_columns, hflows ▸ hr.delay_columns,
    hflows ▸ hr.throughput_series, hflows ▸ hr.delay_series, hflows ▸ hr.loss_series⟩

end Loading

/-- Over exact rationals the sum of squares of a flow list is nonzero as soon as one throughput is. -/
theorem isZero_sumSquared_exact_of_forall {l : List (String × List (Flow ℚ))}
    (h : ∀ p ∈ l, ∃ f ∈ p.2, f.throughput ≠ 0) :
    ∀ p ∈ l, FloatArith.exact.isZero (sumSquared FloatArith.exact p.2) = false :=
  fun p hp => isZero_sumSquared_exact.mpr (h p hp)

/-- **`main` from loading through the bar charts, case by case.** A loaded variant whose float sum of
squared throughputs is `0.0` raises `ZeroDivisionError`; otherwise nothing loaded prints "No results
found", a loaded variant with fewer flows than the first raises `IndexError`, and else every table
column and bar series of a variant is its own metric over its first `num_flows` flows, `num_flows`
being the first variant's flow count. -/
theorem loadAndAnalyze_spec (A : FloatArith F) (reads : String → Option (List (Flow F))) :
    ((∃ p ∈ loaded reads, A.isZero (sumSquared A p.2) = true) →
        loadAndAnalyze A reads = .error .zeroDivisionError) ∧
      ((∀ p ∈ loaded reads, A.isZero (sumSquared A p.2) = false) →
        (loaded reads = [] → loadAndAnalyze A reads = .ok none) ∧
        ∀ v₀ fl₀ rest, loaded reads = (v₀, fl₀) :: rest →
          ((∃ p ∈ loaded reads, p.2.length < fl₀.length) →
              loadAndAnalyze A reads = .error .indexError) ∧
            ((∀ p ∈ loaded reads, fl₀.length ≤ p.2.length) →
              ∃ a, loadAndAnalyze A reads = .ok (some a) ∧
                a.throughputTable.columns = ownSeries (loaded reads) fl₀.length (·.throughput) ∧
                a.lossTable.columns = ownSeries (loaded reads) fl₀.length (·.lossRate) ∧
                a.delayTable.columns = ownSeries (loaded reads) fl₀.length (·.avgDelay) ∧
                a.throughputChart.series = ownSeries (loaded reads) fl₀.length (·.throughput) ∧
                a.delayChart.series = ownSeries (loaded reads) fl₀.length (·.avgDelay) ∧
                a.lossChart.series = ownSeries (loaded reads) fl₀.length (·.lossRate))) :=
  ⟨loadAndAnalyze_of_zero, fun hnz => ⟨loadAndAnalyze_of_nil hnz, fun _ _ _ h =>
    ⟨loadAndAnalyze_of_short hnz h, loadAndAnalyze_of_long hnz h⟩⟩⟩

/-- `read_results` giving both variants two flows of positive throughput. -/
def twoFlowsEach (v : String) : Option (List (Flow ℚ)) :=
  if v = "TcpLinuxReno" then some [⟨0, 20, 5, 1, 2, 0⟩, ⟨1, 80, 3, 1, 8, 1⟩]
  else if v = "TcpFast" then some [⟨0, 20, 4, 1, 2, 0⟩, ⟨1, 80, 2, 1, 8, 1⟩] else none

theorem loaded_twoFlowsEach : loaded twoFlowsEach =
    [("TcpLinuxReno", [⟨0, 20, 5, 1, 2, 0⟩, ⟨1, 80, 3, 1, 8, 1⟩]),
      ("TcpFast", [⟨0, 20, 4, 1, 2, 0⟩, ⟨1, 80, 2, 1, 8, 1⟩])] := rfl

/-- Both variants with two flows: every throughput is shown, each in its own variant's column. -/
theorem loadAndAnalyze_spec_two_each :
    ∃ a, loadAndAnalyze FloatArith.exact twoFlowsEach = .ok (some a) ∧
      a.throughputTable.columns = [("TcpLinuxReno", [5, 3]), ("TcpFast", [4, 2])] := by
  obtain ⟨a, ha, h₁, -⟩ := ((loadAndAnalyze_spec FloatArith.exact twoFlowsEach).2
    (isZero_sumSquared_exact_of_forall (by decide))).2 _ _ _ loaded_twoFlowsEach |>.2
    (by rw [loaded_twoFlowsEach]; decide)
  exact ⟨a, ha, by rw [h₁, loaded_twoFlowsEach]; rfl⟩

/-- `read_results` giving `TcpLinuxReno` two flows and `TcpFast` one. -/
def fastOneFlow (v : String) : Option (List (Flow ℚ)) :=
  if v = "TcpLinuxReno" then some [⟨0, 20, 5, 1, 2, 0⟩, ⟨1, 80, 3, 1, 8, 1⟩]
  else if v = "TcpFast" then some [⟨0, 20, 4, 1, 2, 0⟩] else none

/-- With `TcpFast` one flow short of `TcpLinuxReno`, the throughput table's row for flow 1 raises
`IndexError`. -/
theorem loadAndAnalyze_fast_one_flow : loadAndAnalyze FloatArith.exact fastOneFlow = .error .indexError := by
  have hL : loaded fastOneFlow = [("TcpLinuxReno", [⟨0, 20, 5, 1, 2, 0⟩, ⟨1, 80, 3, 1, 8, 1⟩]),
      ("TcpFast", [⟨0, 20, 4, 1, 2, 0⟩])] := rfl
  exact loadAndAnalyze_of_short (isZero_sumSquared_exact_of_forall (by decide)) hL (by decide)

/-- **The aggregate table and the best lines**, when no loaded variant has fewer flows than the first:
the table shows each loaded variant's own `calculate_stats`, and the best-fairness (best-throughput)
line names a loaded variant with its own Jain index (total throughput), which no variant's exceeds
under the float `<`. -/
theorem loadAndAnalyze_best (A : FloatArith F) {reads : String → Option (List (Flow F))}
    (hnz : ∀ p ∈ loaded reads, A.isZero (sumSquared A p.2) = false) {v₀ : String} {fl₀ : List (Flow F)}
    {rest : List (String × List (Flow F))} (h : loaded reads = (v₀, fl₀) :: rest)
    (hn : ∀ p ∈ loaded reads, fl₀.length ≤ p.2.length) :
    ∃ a ss, loadAndAnalyze A reads = .ok (some a) ∧
      List.Forall₂ (fun p s => calculateStats A p.2 = .ok s) (loaded reads) ss ∧
      a.aggregate = aggregateMetrics.map (fun m => (m.1, ss.map m.2)) ∧
      a.bestFairness ∈ ((loaded reads).map Prod.fst).zip (ss.map (·.fairness)) ∧
      a.bestThroughput ∈ ((loaded reads).map Prod.fst).zip (ss.map (·.total)) ∧
      ∀ s ∈ ss, A.lt a.bestFairness.2 s.fairness = false ∧ A.lt a.bestThroughput.2 s.total = false := by
  obtain ⟨d, a, ha, hflows, hL, hr⟩ := loadAndAnalyze_reports hnz h hn
  have hzip : ∀ key : Stats F → F, ((loaded reads).map Prod.fst).zip ((d.items.map (·.2.stats)).map key) =
      d.items.map fun p => (p.1, key p.2.stats) := fun key => by
    rw [← hflows, flowsOf, List.map_map, List.map_map, List.zip_map']
    rfl
  refine ⟨a, d.items.map (·.2.stats), ha, ?_,
    by simp [hr.aggregate_eq], by rw [hzip]; exact hr.best_fairness_mem,
    by rw [hzip]; exact hr.best_throughput_mem, ?_⟩
  · rw [← hflows, flowsOf, List.forall₂_map_left_iff, List.forall₂_map_right_iff, List.forall₂_same]
    exact fun p hp => hL.stats_eq p.2 (PyDict.snd_mem_values hp)
  · simp only [List.forall_mem_map]
    exact fun p hp => ⟨hr.fairness_le p hp, hr.total_le p hp⟩

/-- Both variants with two flows: the aggregate table and the best lines are those of the loaded
variants' own statistics. -/
theorem loadAndAnalyze_best_two_each :
    ∃ a ss, loadAndAnalyze FloatArith.exact twoFlowsEach = .ok (some a) ∧
      List.Forall₂ (fun p s => calculateStats FloatArith.exact p.2 = .ok s) (loaded twoFlowsEach) ss ∧
      a.aggregate = aggregateMetrics.map (fun m => (m.1, ss.map m.2)) ∧
      a.bestFairness ∈ ((loaded twoFlowsEach).map Prod.fst).zip (ss.map (·.fairness)) ∧
      a.bestThroughput ∈ ((loaded twoFlowsEach).map Prod.fst).zip (ss.map (·.total)) ∧
      ∀ s ∈ ss, FloatArith.exact.lt a.bestFairness.2 s.fairness = false ∧
        FloatArith.exact.lt a.bestThroughput.2 s.total = false :=
  loadAndAnalyze_best FloatArith.exact (isZero_sumSquared_exact_of_forall (by decide)) loaded_twoFlowsEach
    (by rw [loaded_twoFlowsEach]; decide)

/-- **The RTT-bias lines**, when no loaded variant has fewer flows than the first: one per loaded
variant, in order, each reading that variant's own first and last flows as `BiasLine` asks. -/
theorem loadAndAnalyze_bias (A : FloatArith F) {reads : String → Option (List (Flow F))}
    (hnz : ∀ p ∈ loaded reads, A.isZero (sumSquared A p.2) = false) {v₀ : String} {fl₀ : List (Flow F)}
    {rest : List (String × List (Flow F))} (h : loaded reads = (v₀, fl₀) :: rest)
    (hn : ∀ p ∈ loaded reads, fl₀.length ≤ p.2.length) :
    ∃ a, loadAndAnalyze A reads = .ok (some a) ∧
      List.Forall₂ (fun p line => line.1 = p.1 ∧ BiasLine A p.2 line.2) (loaded reads) a.bias := by
  obtain ⟨d, a, ha, hflows, -, hr⟩ := loadAndAnalyze_reports hnz h hn
  refine ⟨a, ha, ?_⟩
  rw [← hflows, flowsOf, List.forall₂_map_left_iff]
  exact hr.bias_lines

/-- Both variants with two flows: one bias line per variant, from its own flows. -/
theorem loadAndAnalyze_bias_two_each :
    ∃ a, loadAndAnalyze FloatArith.exact twoFlowsEach = .ok (some a) ∧
      List.Forall₂ (fun p line => line.1 = p.1 ∧ BiasLine FloatArith.exact p.2 line.2)
        (loaded twoFlowsEach) a.bias :=
  loadAndAnalyze_bias FloatArith.exact (isZero_sumSquared_exact_of_forall (by decide)) loaded_twoFlowsEach
    (by rw [loaded_twoFlowsEach]; decide)

/-- **The row and bar labels**, when no loaded variant has fewer flows than the first: every row of the
three per-flow tables and every bar group of the three charts is labelled with the RTT of the first
loaded variant's flow at that position, whatever the RTTs of the other variants' flows. -/
theorem loadAndAnalyze_labels (A : FloatArith F) {reads : String → Option (List (Flow F))}
    (hnz : ∀ p ∈ loaded reads, A.isZero (sumSquared A p.2) = false) {v₀ : String} {fl₀ : List (Flow F)}
    {rest : List (String × List (Flow F))} (h : loaded reads = (v₀, fl₀) :: rest)
    (hn : ∀ p ∈ loaded reads, fl₀.length ≤ p.2.length) :
    ∃ a, loadAndAnalyze A reads = .ok (some a) ∧
      (∀ t ∈ [a.throughputTable, a.lossTable, a.delayTable], t.rows.map Prod.fst = fl₀.map (·.rttMs)) ∧
      ∀ c ∈ [a.throughputChart, a.delayChart, a.lossChart], c.rttLabels = fl₀.map (·.rttMs) := by
  obtain ⟨d, a, ha, -, -, hr⟩ := loadAndAnalyze_reports hnz h hn
  exact ⟨a, ha, hr.row_labels, hr.bar_labels⟩

/-- Both variants with two flows: every label is an RTT of `TcpLinuxReno`'s flows. -/
theorem loadAndAnalyze_labels_two_each :
    ∃ a, loadAndAnalyze FloatArith.exact twoFlowsEach = .ok (some a) ∧
      (∀ t ∈ [a.throughputTable, a.lossTable, a.delayTable],
        t.rows.map Prod.fst = ((twoFlowsEach "TcpLinuxReno").getD []).map (·.rttMs)) ∧
      ∀ c ∈ [a.throughputChart, a.delayChart, a.lossChart],
        c.rttLabels = ((twoFlowsEach "TcpLinuxReno").getD []).map (·.rttMs) :=
  loadAndAnalyze_labels FloatArith.exact (isZero_sumSquared_exact_of_forall (by decide))
    loaded_twoFlowsEach (by rw [loaded_twoFlowsEach]; decide)

end Main

end Ns3Results.MultiRtt
