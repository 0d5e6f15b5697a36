import Ns3Results.MultiRtt.Analysis

/-! # `tcp-multi-rtt`: the congestion-window figures and `main`

After the bar charts, `main` draws one `plot_cwnd_progress` figure per loaded variant, with
`num_flows` panels on the four axes of a 2×2 grid. Both branches of a panel index `axes[flow_id]`, so

* **`plotCwndProgress_of_many`**: with more than four flows the figure always raises (`IndexError`,
  or the `ValueError` of a malformed trace read first), and **`main_of_many`**: `main` never returns 0
  when the first variant has more than four flows;
* **`cwndPanel_trace`**: a panel's statistics box is drawn over more than ten samples; it shows the
  `np.mean` of the samples after the first tenth and the `np.max` of all, which is `nan` when a
  sample is and otherwise a sample that no sample exceeds;
* **`main_done`**: once every simulation succeeded and every `read_results` returned, `main` returns 0
  exactly in the case `loadAndAnalyze_spec` completes, with at most four flows and every trace read;
  its figures are the loaded variants', in order, one panel per flow;
* **`main_exitCode_eq_zero_iff`**: `main` returns 0 exactly when every simulation succeeded, every
  `read_results` returned, and what they returned `Completes`;
* **`main_eq_noResults_iff`**: it says "No results found" exactly when every simulation succeeded and
  every results file is missing or has no data row. -/

namespace Ns3Results.MultiRtt

section Main

variable {F : Type} (A : FloatArith F)

/-! ## (1) `plot_cwnd_progress` -/

/-- The four axes of `plt.subplots(2, 2)`, flattened. -/
def axes : List ℕ := List.range 4

/-- `[50, 100, 150, 200]`: the RTT in each panel's title. -/
def defaultRtts : List ℤ := [50, 100, 150, 200]

/-- **A panel of the congestion-window figure.** -/
inductive CwndPanel (F : Type)
  /-- "No data available". -/
  | noData
  /-- The trace, the RTT of its title, and its statistics box (the mean after the first tenth, the
  maximum) when it has more than ten samples. -/
  | trace (rtt : ℤ) (times cwnds : List F) (stats : Option (F × F))

/-- **The statistics box**: `np.mean(cwnds[int(len(cwnds)*0.1):])` and `np.max(cwnds)`, drawn over
more than ten samples. In floating point `n * 0.1` lies at or just above `n / 10` for any trace
length a list can have, so `int(n * 0.1)` is `n / 10`. -/
def cwndStats (cwnds : List F) : PyResult (Option (F × F)) :=
  if 10 < cwnds.length then do
    let avgCwnd := A.npMean (cwnds.drop (cwnds.length / 10))
    let maxCwnd ← A.npMax cwnds
    pure (some (avgCwnd, maxCwnd))
  else pure none

/-- **Panel `flow_id`**, from what `read_cwnd_data` returned: the trace when it has a time, else "No
data available"; both branches index `axes[flow_id]`. -/
def cwndPanel (flowId : ℕ) : Option (List F × List F) → PyResult (CwndPanel F)
  | some (times, cwnds) =>
    if 0 < times.length then do
      let _ ← getItem axes flowId
      let rtt ← getItem defaultRtts flowId
      pure (.trace rtt times cwnds (← cwndStats A cwnds))
    else do
      let _ ← getItem axes flowId
      pure .noData
  | none => do
    let _ ← getItem axes flowId
    pure .noData

/-- **A congestion-window figure**: its file, its title and its panels. -/
structure CwndFigure (F : Type) where
  outputFile : String
  title : String
  panels : List (CwndPanel F)

variable (b : Builtins F) (fs : FileSystem)

/-- **`plot_cwnd_progress(variant, num_flows, output_file)`**: `read_cwnd_data`, then the panel, for
each `flow_id in range(num_flows)`. -/
def plotCwndProgress (variant : String) (numFlows : ℕ) (outputFile : String) :
    PyResult (CwndFigure F) := do
  let panels ← (List.range numFlows).mapM fun flowId => do
    cwndPanel b.toFloatArith flowId (← readCwndData b fs variant flowId)
  pure ⟨outputFile, "Congestion Window Progress: " ++ variant, panels⟩

/-! ## (2) `main` -/

/-- **How `main` ends.** -/
inductive Outcome (F : Type)
  /-- "Some simulations failed. Exiting.": `return 1`. -/
  | simulationsFailed
  /-- "No results found. Check simulation output.": `return 1`. -/
  | noResults
  /-- Everything printed and drawn: `return 0`. -/
  | done (analysis : Analysis F) (cwnd : List (CwndFigure F))

/-- The status `main` returns. -/
def Outcome.exitCode : Outcome F → ℕ
  | .done _ _ => 0
  | _ => 1

theorem Outcome.exitCode_eq_zero {o : Outcome F} : o.exitCode = 0 ↔ ∃ a cwnd, o = .done a cwnd := by
  cases o with
  | simulationsFailed | noResults => exact iff_of_false Nat.one_ne_zero fun ⟨_, _, h⟩ => nomatch h
  | done a cwnd => exact iff_of_true rfl ⟨a, cwnd, rfl⟩

/-- **The loading loop of `main`**: `read_results`, then `calculate_stats` when the flows are
non-empty, variant after variant. -/
def loadAll : PyResult (AllResults F) :=
  variants.foldlM (fun acc v => do addResults b.toFloatArith acc v (← readResults b fs v)) PyDict.empty

/-- **The figures of `main`**: `plot_cwnd_progress(variant, num_flows, f'{variant}_cwnd_progress.png')`
for each loaded variant. -/
def cwndFigures (allResults : AllResults F) (numFlows : ℕ) : PyResult (List (CwndFigure F)) :=
  (variants.filter allResults.contains).mapM fun v =>
    plotCwndProgress b fs v numFlows (v ++ "_cwnd_progress.png")

/-- **`main()`**, given which simulations succeed (`run_simulation` runs every variant, then the
results are checked). -/
def main (simulate : String → Bool) : PyResult (Outcome F) := do
  if !(variants.all simulate) then return .simulationsFailed
  let allResults ← loadAll b fs
  if allResults.items.isEmpty then return .noResults
  let numFlows := (← getItem allResults.values 0).flows.length
  let analysis ← analyze b.toFloatArith allResults
  let cwnd ← cwndFigures b fs allResults numFlows
  pure (.done analysis cwnd)

/-- `num_flows`: the flow count of the first loaded variant. -/
def firstCount (reads : String → Option (List (Flow F))) : ℕ := ((loaded reads).headD ("", [])).2.length

/-- **What `main` needs of its files to return 0**, given what `read_results` returned: some variant
is loaded, no loaded variant's float sum of squared throughputs is `0.0`, none has fewer flows than
the first, the first has at most four flows, and the trace of every loaded variant's first
`num_flows` flows is read. -/
structure Completes (b : Builtins F) (fs : FileSystem) (reads : String → Option (List (Flow F))) :
    Prop where
  loaded_ne : loaded reads ≠ []
  nonzero : ∀ p ∈ loaded reads, b.isZero (sumSquared b.toFloatArith p.2) = false
  no_shorter : ∀ p ∈ loaded reads, firstCount reads ≤ p.2.length
  few : firstCount reads ≤ 4
  traces : ∀ p ∈ loaded reads, ∀ flowId < firstCount reads, ∃ r, readCwndData b fs p.1 flowId = .ok r

variable {A b fs}

/-! ## (3) The panels -/

/-- **What the statistics box shows**: `np.mean` of the samples after the first tenth, and `np.max`
of all of them, which is `nan` when some sample is, and otherwise a sample that no sample exceeds. -/
def BoxShows (A : FloatArith F) (cwnds : List F) (avg maxCwnd : F) : Prop :=
  avg = A.npMean (cwnds.drop (cwnds.length / 10)) ∧ maxCwnd ∈ cwnds ∧
    ((∃ c ∈ cwnds, A.isNan c = true) → A.isNan maxCwnd = true) ∧
    ((∀ c ∈ cwnds, A.isNan c = false) → ∀ c ∈ cwnds, A.lt maxCwnd c = false)

/-- **The statistics box never raises**: it is drawn exactly over more than ten samples, and then it
shows what `BoxShows` says. -/
theorem cwndStats_spec (cwnds : List F) :
    ∃ s, cwndStats A cwnds = .ok s ∧ (s.isSome ↔ 10 < cwnds.length) ∧
      ∀ avg maxCwnd, s = some (avg, maxCwnd) → BoxShows A cwnds avg maxCwnd := by
  unfold cwndStats
  split
  · rename_i hlong
    obtain ⟨x, xs, rfl⟩ := List.exists_cons_of_length_pos (by omega : 0 < cwnds.length)
    obtain ⟨m, hm, hmem, hnan, hmax⟩ := A.npMax_spec x xs
    refine ⟨_, by rw [hm]; rfl, iff_of_true (by rfl) hlong, ?_⟩
    rintro avg maxCwnd ⟨⟩
    exact ⟨rfl, hmem, hnan, hmax⟩
  · rename_i hshort
    exact ⟨none, rfl, iff_of_false Bool.false_ne_true hshort, fun _ _ h => by cases h⟩

/-- **Past the fourth flow a panel raises `IndexError`**, with or without data. -/
theorem cwndPanel_of_ge {flowId : ℕ} (h : 4 ≤ flowId) (r : Option (List F × List F)) :
    cwndPanel A flowId r = .error .indexError := by
  have hax : getItem axes flowId = .error .indexError := getItem_of_le (by simpa [axes] using h)
  unfold cwndPanel
  split
  · split <;> rw [hax] <;> rfl
  · rw [hax]
    rfl

theorem cwndPanel_raisesOnly (flowId : ℕ) (r : Option (List F × List F)) :
    RaisesOnly (fun e => e = .valueError ∨ e = .indexError) (cwndPanel A flowId r) := by
  have hax : RaisesOnly (fun e => e = .valueError ∨ e = .indexError) (getItem axes flowId) :=
    fun e he => .inr (getItem_raisesOnly _ _ e he)
  unfold cwndPanel
  split
  · rename_i _ cwnds
    obtain ⟨s, hs, -⟩ := cwndStats_spec cwnds
    split
    · exact .bind hax fun _ => .bind (fun e he => .inr (getItem_raisesOnly _ _ e he)) fun _ =>
        .bind (by rw [hs]; exact .ok _) fun _ => .ok _
    · exact .bind hax fun _ => .ok _
  · exact .bind hax fun _ => .ok _

/-- **Within the four axes a panel never raises.** -/
theorem cwndPanel_ok {flowId : ℕ} (h : flowId < 4) (r : Option (List F × List F)) :
    ∃ p, cwndPanel A flowId r = .ok p := by
  have hax : getItem axes flowId = .ok (axes.getD flowId default) := getItem_of_lt (by simpa [axes])
  have hrtt : getItem defaultRtts flowId = .ok (defaultRtts.getD flowId default) :=
    getItem_of_lt (by simpa [defaultRtts])
  unfold cwndPanel
  split
  · rename_i _ cwnds
    obtain ⟨s, hs, -⟩ := cwndStats_spec cwnds
    split
    · exact ⟨_, by rw [hax, ok_bind, hrtt, ok_bind, hs]; rfl⟩
    · exact ⟨_, by rw [hax]; rfl⟩
  · exact ⟨_, by rw [hax]; rfl⟩

/-- **With more than four flows `plot_cwnd_progress` always raises**: `IndexError` at the fifth
panel, unless a malformed trace raised `ValueError` before it. -/
theorem plotCwndProgress_of_many {variant outputFile : String} {numFlows : ℕ} (h : 4 < numFlows) :
    ∃ e, (e = .valueError ∨ e = .indexError) ∧
      plotCwndProgress b fs variant numFlows outputFile = .error e := by
  have hstep : ∀ flowId, RaisesOnly (fun e => e = .valueError ∨ e = .indexError)
      (do cwndPanel b.toFloatArith flowId (← readCwndData b fs variant flowId)) := fun flowId =>
    .bind (fun e he => .inl (readCwndData_raisesOnly fs variant flowId e he)) fun r =>
      cwndPanel_raisesOnly flowId r
  have hfifth : ∃ e,
      (do cwndPanel b.toFloatArith 4 (← readCwndData b fs variant 4) : PyResult _) = .error e := by
    cases hr : readCwndData b fs variant 4 with
    | error e => exact ⟨e, rfl⟩
    | ok r => exact ⟨.indexError, by rw [ok_bind, cwndPanel_of_ge le_rfl]⟩
  obtain ⟨e, he, hpanels⟩ := mapM_error_of_mem _ ⟨4, List.mem_range.mpr h, hfifth⟩
    fun flowId _ => hstep flowId
  exact ⟨e, he, by rw [plotCwndProgress, hpanels]; rfl⟩

/-- **Up to four flows, with every trace read**, `plot_cwnd_progress` returns one panel per flow, each
the panel of that flow's own trace. -/
theorem plotCwndProgress_ok {variant outputFile : String} {numFlows : ℕ} (h : numFlows ≤ 4)
    {data : ℕ → Option (List F × List F)}
    (hread : ∀ flowId < numFlows, readCwndData b fs variant flowId = .ok (data flowId)) :
    ∃ fig, plotCwndProgress b fs variant numFlows outputFile = .ok fig ∧
      fig.outputFile = outputFile ∧ fig.panels.length = numFlows ∧
      ∀ flowId < numFlows,
        cwndPanel b.toFloatArith flowId (data flowId) = .ok (fig.panels.getD flowId .noData) := by
  have hstep : ∀ flowId ∈ List.range numFlows,
      (do cwndPanel b.toFloatArith flowId (← readCwndData b fs variant flowId) : PyResult (CwndPanel F)) =
        .ok (((cwndPanel b.toFloatArith flowId (data flowId)).toOption).getD .noData) := fun flowId hf => by
    have hlt := List.mem_range.mp hf
    obtain ⟨p, hp⟩ := cwndPanel_ok (by omega : flowId < 4) (data flowId)
    rw [hread flowId hlt, ok_bind, hp]
    rfl
  refine ⟨_, by rw [plotCwndProgress, mapM_eq_ok hstep]; rfl, rfl, by simp, fun flowId hlt => ?_⟩
  obtain ⟨p, hp⟩ := @cwndPanel_ok _ b.toFloatArith flowId (by omega) (data flowId)
  simp [List.getD_eq_getElem?_getD, hlt, hp]

theorem plotCwndProgress_raisesOnly (variant : String) (numFlows : ℕ) (outputFile : String) :
    RaisesOnly (fun e => e = .valueError ∨ e = .indexError)
      (plotCwndProgress b fs variant numFlows outputFile) :=
  .bind (.mapM fun flowId _ => .bind (fun e he => .inl (readCwndData_raisesOnly fs variant flowId e he))
    fun r => cwndPanel_raisesOnly flowId r) fun _ => .ok _

/-- **A trace that `read_cwnd_data` cannot read** makes its figure raise. -/
theorem plotCwndProgress_of_error {variant outputFile : String} {numFlows flowId : ℕ}
    (hlt : flowId < numFlows) {e : PyExc} (h : readCwndData b fs variant flowId = .error e) :
    ∃ e', plotCwndProgress b fs variant numFlows outputFile = .error e' := by
  have hbad : (do cwndPanel b.toFloatArith flowId (← readCwndData b fs variant flowId) : PyResult _) =
      .error e := by
    rw [h]
    rfl
  obtain ⟨e', -, he'⟩ := @mapM_error_of_mem _ _ _
    (fun flowId => do cwndPanel b.toFloatArith flowId (← readCwndData b fs variant flowId)) (fun _ => True)
    ⟨flowId, List.mem_range.mpr hlt, e, hbad⟩ fun _ _ _ _ => trivial
  exact ⟨e', by rw [plotCwndProgress, he']; rfl⟩

/-- One figure that raises makes the figures raise. -/
theorem cwndFigures_of_error {d : AllResults F} {numFlows : ℕ} {v : String}
    (hv : v ∈ variants.filter d.contains) {e : PyExc}
    (h : plotCwndProgress b fs v numFlows (v ++ "_cwnd_progress.png") = .error e) :
    ∃ e', (e' = .valueError ∨ e' = .indexError) ∧ cwndFigures b fs d numFlows = .error e' :=
  mapM_error_of_mem _ ⟨v, hv, e, h⟩ fun _ _ => plotCwndProgress_raisesOnly _ _ _

/-- **With at most four flows and every trace read**, there is one figure per loaded variant, in
order, with one panel per flow. -/
theorem cwndFigures_ok {d : AllResults F} (hL : Loaded A d) {numFlows : ℕ} (hfew : numFlows ≤ 4)
    (hcwnd : ∀ p ∈ flowsOf d, ∀ flowId < numFlows, ∃ r, readCwndData b fs p.1 flowId = .ok r) :
    ∃ figs, cwndFigures b fs d numFlows = .ok figs ∧
      List.Forall₂ (fun p fig => fig.outputFile = p.1 ++ "_cwnd_progress.png" ∧
        fig.panels.length = numFlows) (flowsOf d) figs := by
  have hfig : ∀ v ∈ d.keys, ∃ fig, plotCwndProgress b fs v numFlows (v ++ "_cwnd_progress.png") = .ok fig ∧
      (fig.outputFile = v ++ "_cwnd_progress.png" ∧ fig.panels.length = numFlows) := by
    intro v hv
    rw [← map_fst_flowsOf] at hv
    obtain ⟨p, hp, rfl⟩ := List.mem_map.mp hv
    obtain ⟨fig, hrun, hout, hlen, -⟩ := @plotCwndProgress_ok _ b fs p.1 (p.1 ++ "_cwnd_progress.png") _
      hfew (fun flowId => ((readCwndData b fs p.1 flowId).toOption).getD none) fun flowId hlt => by
        obtain ⟨r, hr⟩ := hcwnd p hp flowId hlt
        simp only [hr]
        rfl
    exact ⟨fig, hrun, hout, hlen⟩
  obtain ⟨figs, hfigs, hrel⟩ := mapM_ok_forall₂ hfig
  rw [← map_fst_flowsOf, List.forall₂_map_left_iff] at hrel
  exact ⟨figs, by rw [cwndFigures, hL.header, hfigs], hrel⟩

/-! ## (4) `main` on what `read_results` returned -/

/-- A failed simulation: `main` returns 1 before reading anything. -/
theorem main_of_failed {simulate : String → Bool} (h : variants.all simulate = false) :
    main b fs simulate = .ok .simulationsFailed := by
  rw [main, h]
  rfl

/-- **`main`'s loading loop is `loadResults`** on what `read_results` returned, once every call
returned. -/
theorem loadAll_eq {reads : String → Option (List (Flow F))}
    (hread : ∀ v ∈ variants, readResults b fs v = .ok (reads v)) :
    loadAll b fs = loadResults b.toFloatArith reads :=
  foldlM_congr _ fun acc v hv => by rw [hread v hv, ok_bind]

/-- A `read_results` that raises makes the loading loop raise. -/
theorem loadAll_of_error {v : String} (hv : v ∈ variants) {e : PyExc} (h : readResults b fs v = .error e) :
    ∃ e', loadAll b fs = .error e' := by
  have hstep : ∀ acc : AllResults F,
      (do addResults b.toFloatArith acc v (← readResults b fs v) : PyResult _) = .error e :=
    fun acc => by rw [h]; rfl
  obtain ⟨e', -, he'⟩ := foldlM_eq_error (fun _ => True)
    (fun acc v => do addResults b.toFloatArith acc v (← readResults b fs v)) PyDict.empty
    ⟨v, hv, fun acc => ⟨e, hstep acc⟩⟩ fun _ _ _ _ _ => trivial
  exact ⟨e', he'⟩

theorem main_of_loadAll_error {simulate : String → Bool} (hsim : variants.all simulate = true)
    {e : PyExc} (h : loadAll b fs = .error e) : main b fs simulate = .error e := by
  rw [main, hsim, h]
  rfl

/-- **Past the simulations and the loading loop**: when `main` returns anything but
`simulationsFailed`, every simulation succeeded and every `read_results` returned. -/
theorem reads_of_main_ok {simulate : String → Bool} {o : Outcome F} (h : main b fs simulate = .ok o)
    (ho : o ≠ .simulationsFailed) :
    variants.all simulate = true ∧
      ∀ v ∈ variants, readResults b fs v = .ok ((readResults b fs v).toOption.join) := by
  have hsim : variants.all simulate = true := by
    cases hs : variants.all simulate
    · exact absurd (Except.ok.inj ((main_of_failed hs).symm.trans h)).symm ho
    · rfl
  refine ⟨hsim, fun v hv => ?_⟩
  cases hr : readResults b fs v with
  | ok r => rfl
  | error e =>
    obtain ⟨e', he'⟩ := loadAll_of_error hv hr
    cases (main_of_loadAll_error hsim he').symm.trans h

section Reads

variable {simulate : String → Bool} {reads : String → Option (List (Flow F))}
  (hsim : variants.all simulate = true) (hread : ∀ v ∈ variants, readResults b fs v = .ok (reads v))

include hsim hread in
/-- **`main` after the simulations**: the phase `loadAndAnalyze` models, then the figures. -/
theorem main_of_reads :
    main b fs simulate = (do
      let allResults ← loadResults b.toFloatArith reads
      if allResults.items.isEmpty then return .noResults
      let numFlows := (← getItem allResults.values 0).flows.length
      let analysis ← analyze b.toFloatArith allResults
      let cwnd ← cwndFigures b fs allResults numFlows
      pure (.done analysis cwnd) : PyResult (Outcome F)) := by
  rw [main, hsim, loadAll_eq hread]
  rfl

include hsim hread in
/-- **`main` on a non-empty `all_results`**: the analysis, then the figures with the first variant's
flow count. -/
theorem main_eq_analyze {d : AllResults F} {v₀ : String} {e₀ : Entry F}
    {rest : List (String × Entry F)} (hd : loadResults b.toFloatArith reads = .ok d)
    (hitems : d.items = (v₀, e₀) :: rest) :
    main b fs simulate = (do
      let analysis ← analyze b.toFloatArith d
      let cwnd ← cwndFigures b fs d e₀.flows.length
      pure (.done analysis cwnd) : PyResult (Outcome F)) := by
  rw [main_of_reads hsim hread, hd, ok_bind, hitems]
  dsimp only [List.isEmpty_cons]
  rw [getItem_values_zero hitems]
  rfl

include hsim hread in
/-- Nothing loaded: "No results found", and `main` returns 1. -/
theorem main_of_nil (hnz : ∀ p ∈ loaded reads, b.isZero (sumSquared b.toFloatArith p.2) = false) (h : loaded reads = []) :
    main b fs simulate = .ok .noResults := by
  obtain ⟨d, hd, hflows, -⟩ := loadResults_spec hnz
  have hitems : d.items = [] := by simpa [flowsOf, h] using hflows
  rw [main_of_reads hsim hread, hd, ok_bind, hitems]
  rfl

include hsim hread in
/-- After the analysis, figures that raise make `main` raise. -/
theorem main_of_figures_error {d : AllResults F} {v₀ : String} {e₀ : Entry F}
    {rest : List (String × Entry F)} (hd : loadResults b.toFloatArith reads = .ok d)
    (hitems : d.items = (v₀, e₀) :: rest) {a : Analysis F} (ha : analyze b.toFloatArith d = .ok a) {e : PyExc}
    (h : cwndFigures b fs d e₀.flows.length = .error e) :
    main b fs simulate = .error e := by
  rw [main_eq_analyze hsim hread hd hitems, ha, ok_bind, h]
  rfl

include hsim hread in
/-- A loaded variant whose float sum of squares is `0.0`: `ZeroDivisionError`. -/
theorem main_of_zero (hz : ∃ p ∈ loaded reads, b.isZero (sumSquared b.toFloatArith p.2) = true) :
    main b fs simulate = .error .zeroDivisionError := by
  rw [main_of_reads hsim hread, loadResults_of_zero hz]
  rfl

include hsim hread in
/-- Some variant loaded: `main` never says "No results found". -/
theorem main_ne_noResults (hl : loaded reads ≠ []) : main b fs simulate ≠ .ok .noResults := by
  intro h
  by_cases hnz : ∀ p ∈ loaded reads, b.isZero (sumSquared b.toFloatArith p.2) = false
  · obtain ⟨d, hd, hflows, -⟩ := loadResults_spec hnz
    obtain ⟨⟨v₀, fl₀⟩, rest, hl'⟩ := List.exists_cons_of_ne_nil hl
    obtain ⟨e₀, rest', hitems, rfl⟩ := flowsOf_eq_cons (hflows.trans hl')
    rw [main_eq_analyze hsim hread hd hitems] at h
    obtain ⟨a, -, h⟩ := bind_eq_ok.mp h
    obtain ⟨c, -, h⟩ := bind_eq_ok.mp h
    cases h
  · simp only [not_forall, Bool.not_eq_false, exists_prop] at hnz
    cases (main_of_zero hsim hread hnz).symm.trans h

include hsim hread in
/-- A loaded variant with fewer flows than the first: `IndexError`, in the first per-flow table. -/
theorem main_of_short (hnz : ∀ p ∈ loaded reads, b.isZero (sumSquared b.toFloatArith p.2) = false) {v₀ : String}
    {fl₀ : List (Flow F)} {rest : List (String × List (Flow F))} (h : loaded reads = (v₀, fl₀) :: rest)
    (hshort : ∃ p ∈ loaded reads, p.2.length < fl₀.length) :
    main b fs simulate = .error .indexError := by
  obtain ⟨d, hd, hflows, hL⟩ := loadResults_spec hnz
  obtain ⟨e₀, rest', hitems, rfl⟩ := flowsOf_eq_cons (hflows.trans h)
  rw [main_eq_analyze hsim hread hd hitems, analyze_eq_error hL hitems (hflows ▸ hshort)]
  rfl

include hsim hread in
/-- **More than four flows in the first variant**: when the tables and charts go through, the first
congestion-window figure raises, and `main` never returns 0. -/
theorem main_of_many (hnz : ∀ p ∈ loaded reads, b.isZero (sumSquared b.toFloatArith p.2) = false) {v₀ : String}
    {fl₀ : List (Flow F)} {rest : List (String × List (Flow F))} (h : loaded reads = (v₀, fl₀) :: rest)
    (hn : ∀ p ∈ loaded reads, fl₀.length ≤ p.2.length) (hmany : 4 < fl₀.length) :
    ∃ e, (e = .valueError ∨ e = .indexError) ∧ main b fs simulate = .error e := by
  obtain ⟨d, hd, hflows, hL⟩ := loadResults_spec hnz
  obtain ⟨e₀, rest', hitems, rfl⟩ := flowsOf_eq_cons (hflows.trans h)
  obtain ⟨a, ha, -⟩ := analyze_eq hL hitems (hflows ▸ hn)
  obtain ⟨e, -, hfirst⟩ := @plotCwndProgress_of_many _ b fs v₀ (v₀ ++ "_cwnd_progress.png") _ hmany
  have hv₀ : v₀ ∈ variants.filter d.contains := by
    rw [hL.header, PyDict.keys_def, hitems]
    exact List.mem_cons_self _ _
  obtain ⟨e', he', hfigs⟩ := cwndFigures_of_error hv₀ hfirst
  exact ⟨e', he', main_of_figures_error hsim hread hd hitems ha hfigs⟩

include hsim hread in
/-- **`main` returns 0** when no loaded variant's float sum of squares is `0.0` and none has fewer
flows than the first, the first has at most four flows, and every trace they need is read: each table column and
bar series is a variant's own metric over the first `num_flows` flows, and the figures are the loaded
variants', in order, with one panel per flow. -/
theorem main_done (hnz : ∀ p ∈ loaded reads, b.isZero (sumSquared b.toFloatArith p.2) = false) {v₀ : String}
    {fl₀ : List (Flow F)} {rest : List (String × List (Flow F))} (h : loaded reads = (v₀, fl₀) :: rest)
    (hn : ∀ p ∈ loaded reads, fl₀.length ≤ p.2.length) (hfew : fl₀.length ≤ 4)
    (hcwnd : ∀ p ∈ loaded reads, ∀ flowId < fl₀.length, ∃ r, readCwndData b fs p.1 flowId = .ok r) :
    ∃ a figs, main b fs simulate = .ok (.done a figs) ∧
      a.throughputTable.columns = ownSeries (loaded reads) fl₀.length (·.throughput) ∧
      a.lossTable.columns = ownSeries (loaded reads) fl₀.length (·.lossRate) ∧
      a.delayTable.columns = ownSeries (loaded reads) fl₀.length (·.avgDelay) ∧
      a.throughputChart.series = ownSeries (loaded reads) fl₀.length (·.throughput) ∧
      a.delayChart.series = ownSeries (loaded reads) fl₀.length (·.avgDelay) ∧
      a.lossChart.series = ownSeries (loaded reads) fl₀.length (·.lossRate) ∧
      List.Forall₂ (fun p fig => fig.outputFile = p.1 ++ "_cwnd_progress.png" ∧
        fig.panels.length = fl₀.length) (loaded reads) figs := by
  obtain ⟨d, hd, hflows, hL⟩ := loadResults_spec hnz
  obtain ⟨e₀, rest', hitems, rfl⟩ := flowsOf_eq_cons (hflows.trans h)
  obtain ⟨a, ha, hr⟩ := analyze_eq hL hitems (hflows ▸ hn)
  obtain ⟨figs, hfigs, hrel⟩ := cwndFigures_ok hL hfew (hflows ▸ hcwnd)
  refine ⟨a, figs, ?_, hflows ▸ hr.throughput_columns, hflows ▸ hr.loss_columns,
    hflows ▸ hr.delay_columns, hflows ▸ hr.throughput_series, hflows ▸ hr.delay_series,
    hflows ▸ hr.loss_series, hflows ▸ hrel⟩
  rw [main_eq_analyze hsim hread hd hitems, ha, ok_bind, hfigs]
  rfl

include hsim hread in
/-- **`main` returns 0 only on files that complete**: every other case raises or returns 1. -/
theorem completes_of_main_done {a : Analysis F} {figs : List (CwndFigure F)}
    (h : main b fs simulate = .ok (.done a figs)) : Completes b fs reads := by
  have hnz : ∀ p ∈ loaded reads, b.isZero (sumSquared b.toFloatArith p.2) = false := by
    by_contra hz
    simp only [not_forall, Bool.not_eq_false, exists_prop] at hz
    cases (main_of_zero hsim hread hz).symm.trans h
  obtain ⟨d, hd, hflows, hL⟩ := loadResults_spec hnz
  cases hl : loaded reads with
  | nil => cases (main_of_nil hsim hread hnz hl).symm.trans h
  | cons p₀ rest =>
    obtain ⟨v₀, fl₀⟩ := p₀
    obtain ⟨e₀, rest', hitems, rfl⟩ := flowsOf_eq_cons (hflows.trans hl)
    have hfirst : firstCount reads = e₀.flows.length := by rw [firstCount, hl]; rfl
    have hn : ∀ p ∈ loaded reads, e₀.flows.length ≤ p.2.length := by
      by_contra hs
      push_neg at hs
      cases (main_of_short hsim hread hnz hl hs).symm.trans h
    obtain ⟨a', ha, -⟩ := analyze_eq hL hitems (hflows ▸ hn)
    have hplot : ∀ p ∈ loaded reads, ∀ e,
        plotCwndProgress b fs p.1 e₀.flows.length (p.1 ++ "_cwnd_progress.png") ≠ .error e := by
      intro p hp e he
      have hv : p.1 ∈ variants.filter d.contains := by
        rw [hL.header, ← map_fst_flowsOf, hflows]
        exact List.mem_map_of_mem _ hp
      obtain ⟨e', -, hfigs⟩ := cwndFigures_of_error hv he
      cases (main_of_figures_error hsim hread hd hitems ha hfigs).symm.trans h
    have hfew : e₀.flows.length ≤ 4 := by
      by_contra hmany
      obtain ⟨e, -, he⟩ := plotCwndProgress_of_many (Nat.lt_of_not_le hmany)
      exact hplot (v₀, e₀.flows) (hl ▸ List.mem_cons_self _ _) e he
    refine ⟨hl ▸ List.cons_ne_nil _ _, hnz, hfirst ▸ hn, hfirst ▸ hfew, fun p hp flowId hlt => ?_⟩
    cases hr : readCwndData b fs p.1 flowId with
    | ok r => exact ⟨r, rfl⟩
    | error e =>
      obtain ⟨e', he'⟩ := plotCwndProgress_of_error (hfirst ▸ hlt) hr
      exact absurd he' (hplot p hp e')

include hsim hread in
/-- **On files that complete, `main` returns 0.** -/
theorem main_done_of_completes (hc : Completes b fs reads) :
    ∃ a figs, main b fs simulate = .ok (.done a figs) := by
  obtain ⟨d, hd, hflows, hL⟩ := loadResults_spec hc.nonzero
  obtain ⟨⟨v₀, fl₀⟩, rest, hl⟩ := List.exists_cons_of_ne_nil hc.loaded_ne
  obtain ⟨e₀, rest', hitems, rfl⟩ := flowsOf_eq_cons (hflows.trans hl)
  have hfirst : firstCount reads = e₀.flows.length := by rw [firstCount, hl]; rfl
  obtain ⟨a, ha, -⟩ := analyze_eq hL hitems (hflows ▸ hfirst ▸ hc.no_shorter)
  obtain ⟨figs, hfigs, -⟩ := cwndFigures_ok hL (hfirst ▸ hc.few) (hflows ▸ hfirst ▸ hc.traces)
  exact ⟨a, figs, by rw [main_eq_analyze hsim hread hd hitems, ha, ok_bind, hfigs]; rfl⟩

end Reads

/-- **When `main` returns 0**: exactly when every simulation succeeded, every `read_results`
returned, and what they returned completes. Otherwise it returns 1 or raises. -/
theorem main_exitCode_eq_zero_iff {simulate : String → Bool} :
    (∃ o, main b fs simulate = .ok o ∧ o.exitCode = 0) ↔
      variants.all simulate = true ∧
        ∃ reads, (∀ v ∈ variants, readResults b fs v = .ok (reads v)) ∧ Completes b fs reads := by
  simp only [Outcome.exitCode_eq_zero]
  constructor
  · rintro ⟨_, h, a, figs, rfl⟩
    obtain ⟨hsim, hread⟩ := reads_of_main_ok h (nomatch ·)
    exact ⟨hsim, _, hread, completes_of_main_done hsim hread h⟩
  · rintro ⟨hsim, reads, hread, hc⟩
    obtain ⟨a, figs, h⟩ := main_done_of_completes hsim hread hc
    exact ⟨_, h, a, figs, rfl⟩

/-- **When `main` says "No results found"** and returns 1: exactly when every simulation succeeded
and every variant's results file is missing or holds a header and no data row, the reader raising
nothing. A results file with a data row never gives it: `main` then raises or goes on to the
analysis. -/
theorem main_eq_noResults_iff {simulate : String → Bool} :
    main b fs simulate = .ok .noResults ↔
      variants.all simulate = true ∧ ∀ v ∈ variants, ∀ content, fs (v ++ "_results.csv") = some content →
        (b.dictRows content).items = [] ∧ (b.dictRows content).raises = none := by
  constructor
  · intro h
    obtain ⟨hsim, hread⟩ := reads_of_main_ok h (nomatch ·)
    refine ⟨hsim, fun v hv content hfile => ?_⟩
    obtain ⟨flows, hflows, hrows, hraise⟩ := readResults_eq_ok_some _ hfile (hread v hv)
    cases flows with
    | nil => exact ⟨List.forall₂_nil_right_iff.mp hrows, hraise⟩
    | cons f fl =>
      exact absurd h (main_ne_noResults hsim hread (List.ne_nil_of_mem (mem_loaded_of_some hv hflows)))
  · rintro ⟨hsim, hfiles⟩
    let reads : String → Option (List (Flow F)) := fun v => (fs (v ++ "_results.csv")).map fun _ => []
    have hread : ∀ v ∈ variants, readResults b fs v = .ok (reads v) := by
      intro v hv
      cases hfile : fs (v ++ "_results.csv") with
      | none => simp only [readResults, hfile, reads, Option.map_none']
      | some content =>
        rw [readResults_of_no_rows _ hfile (hfiles v hv content hfile).1 (hfiles v hv content hfile).2]
        simp only [reads, hfile, Option.map_some']
    have hl : loaded reads = [] := List.eq_nil_iff_forall_not_mem.mpr fun ⟨v, _⟩ hp => by
      obtain ⟨-, f, fl, hr, -⟩ := mem_loaded hp
      cases hfile : fs (v ++ "_results.csv") <;> simp [reads, hfile] at hr
    exact main_of_nil hsim hread (fun p hp => absurd hp (hl ▸ List.not_mem_nil p)) hl

/-! ## (5) Two runs of `main` -/

/-- A header row of `<variant>_results.csv` holding the columns `read_results` reads. -/
def resultsHeader : String :=
  "Flow_ID,RTT_ms,Throughput_Mbps,Data_Received_MB,Avg_Delay_ms,Loss_Rate_Percent\n"

/-- A results directory holding the given rows for `TcpLinuxReno` and `TcpFast`, and no trace. -/
def resultsFiles (renoRows fastRows : String) (name : String) : Option String :=
  if name = "TcpLinuxReno_results.csv" then some (resultsHeader ++ renoRows)
  else if name = "TcpFast_results.csv" then some (resultsHeader ++ fastRows) else none

/-- What `read_results` returns on each variant's file, when it returns. -/
def readsOf (files : FileSystem) (v : String) : Option (List (Flow ℚ)) :=
  ((readResults Builtins.decimal files v).toOption).join

/-- Two flows for each variant. -/
def twoFlowFiles : FileSystem :=
  resultsFiles "0,50,5.0,1,20,0\n1,200,3.0,1,80,1\n" "0,50,4.0,1,20,0\n1,200,2.0,1,80,1\n"

set_option maxRecDepth 10000 in
/-- Two flows for each variant and no trace: `main` returns 0, with each variant's throughputs in its
own column and one figure per variant. -/
theorem main_done_two_flows :
    ∃ a figs, main Builtins.decimal twoFlowFiles (fun _ => true) = .ok (.done a figs) ∧
      a.throughputTable.columns = [("TcpLinuxReno", [5, 3]), ("TcpFast", [4, 2])] ∧
      figs.length = 2 := by
  have h : loaded (readsOf twoFlowFiles) =
      [("TcpLinuxReno", (readsOf twoFlowFiles "TcpLinuxReno").getD []),
        ("TcpFast", (readsOf twoFlowFiles "TcpFast").getD [])] := rfl
  have hcwnd : ∀ p ∈ loaded (readsOf twoFlowFiles),
      ∀ flowId < ((readsOf twoFlowFiles "TcpLinuxReno").getD []).length,
        (readCwndData Builtins.decimal twoFlowFiles p.1 flowId).toOption = some none := by decide
  obtain ⟨a, figs, hmain, h₁, -, -, -, -, -, hfigs⟩ :=
    @main_done ℚ Builtins.decimal twoFlowFiles (fun _ => true) (readsOf twoFlowFiles) rfl
      (fun v hv => by
        simp only [variants, List.mem_cons, List.not_mem_nil, or_false] at hv
        rcases hv with rfl | rfl <;> rfl)
      (isZero_sumSquared_exact_of_forall (by decide)) _ _ _ h (by decide) (by decide)
      fun p hp flowId hlt => ⟨none, eq_ok_iff_toOption.mpr (hcwnd p hp flowId hlt)⟩
  exact ⟨a, figs, hmain, by rw [h₁, h]; decide, by rw [← hfigs.length_eq, h]; rfl⟩

/-- Five flows for each variant. -/
def fiveFlowFiles : FileSystem :=
  let rows := "0,50,5.0,1,20,0\n1,100,4.0,1,40,0\n2,150,3.0,1,60,0\n3,200,2.0,1,80,0\n" ++
    "4,250,1.0,1,100,0\n"
  resultsFiles rows rows

set_option maxRecDepth 10000 in
/-- Five flows for each variant: the tables and charts go through and the first figure raises. -/
theorem main_of_many_five_flows :
    ∃ e, (e = .valueError ∨ e = .indexError) ∧
      main Builtins.decimal fiveFlowFiles (fun _ => true) = .error e :=
  @main_of_many ℚ Builtins.decimal fiveFlowFiles (fun _ => true) (readsOf fiveFlowFiles) rfl
    (fun v hv => by
      simp only [variants, List.mem_cons, List.not_mem_nil, or_false] at hv
      rcases hv with rfl | rfl <;> rfl)
    (isZero_sumSquared_exact_of_forall (by decide)) _ _ _ rfl (by decide) (by decide)

end Main

end Ns3Results.MultiRtt
