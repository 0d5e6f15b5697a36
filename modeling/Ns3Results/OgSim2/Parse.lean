import Ns3Results.Python.Csv

/-! # `og-sim-2`: reading the simulator's files

`results/og-sim-2/run_and_plot.py` reads three kinds of file per TCP variant, every one of them
inside a `try` that catches `Exception`:

* **`parseCsv`** — `parse_csv`, the first row of `<variant>_fanout.csv`, or `None`.
  `parseCsv_spec`: on a file whose header names the seven columns, the first row's record.
* **`parsePerflowCsv`** — `parse_perflow_csv`, every row of `<variant>_perflow.csv`, or `None`.
  `parsePerflowCsv_spec`: every row's record when all rows are well-formed; `None` as soon as one
  row is malformed, however many are well-formed.
* **`cwndTrace`** — the trace one panel of `generate_cwnd_plots` draws from
  `<variant>_cwnd_flow<k>.csv`, or nothing. `cwndTrace_spec`: on a file whose header names both
  columns, the samples of all rows when every row holds one (a float time, and an int window whose
  quotient by 1400 does not overflow) and there is a row; nothing otherwise.

Since every exception is caught, none of these ever raises; what the `try` costs is that one bad cell
discards the whole file. -/

namespace Ns3Results.OgSim2

/-- **The variants `og-sim-2` compares** (`TCP_VARIANTS`), in order. -/
def tcpVariants : List String := ["LinuxReno", "Fast"]

/-- `f"{variant}_fanout.csv"`: a variant's aggregate results. -/
def fanoutFile (variant : String) : String := variant ++ "_fanout.csv"

/-- `f"{variant}_perflow.csv"`: a variant's per-flow results. -/
def perflowFile (variant : String) : String := variant ++ "_perflow.csv"

/-- `f"{variant}_cwnd_flow{flow_idx + 1}.csv"`: the congestion-window trace of a flow. -/
def cwndFlowFile (variant : String) (flowIdx : ℕ) : String :=
  variant ++ "_cwnd_flow" ++ toString (flowIdx + 1) ++ ".csv"

/-- **The dict `parse_csv` returns.** `variant` is the raw cell, `None` on a short row. -/
structure Summary (F : Type) where
  variant : Option String
  totalThroughput : F
  avgThroughput : F
  avgDelay : F
  totalLost : ℤ
  lossRate : F
  numFlows : ℤ
  deriving DecidableEq, Repr

/-- The columns `parse_csv` reads, in the order it reads them. -/
def summaryFields : List String :=
  ["TCP_Variant", "Total_Throughput_Mbps", "Avg_Throughput_Per_Flow_Mbps", "Avg_Delay_ms",
    "Total_Lost_Packets", "Loss_Rate_Percent", "Num_Flows"]

/-- **One row of `<variant>_perflow.csv`**: the dict `parse_perflow_csv` appends. -/
structure PerFlow (F : Type) where
  flowId : ℤ
  throughput : F
  delay : F
  deriving Inhabited, DecidableEq, Repr

/-- The columns `parse_perflow_csv` reads, in the order it reads them. -/
def perflowFields : List String := ["Flow_ID", "Throughput_Mbps", "Delay_ms"]

variable {F : Type} (b : Builtins F) (fs : FileSystem)

/-! ## (1) `parse_csv` -/

/-- **The dict `parse_csv` builds from a row**, its cells read in source order; `int(float(...))` raises
on `nan` and `inf`. -/
def summaryRow (row : DictRow) : PyResult (Summary F) := do
  let variant ← row.getItem "TCP_Variant"
  let totalThroughput ← b.floatOf (← row.getItem "Total_Throughput_Mbps")
  let avgThroughput ← b.floatOf (← row.getItem "Avg_Throughput_Per_Flow_Mbps")
  let avgDelay ← b.floatOf (← row.getItem "Avg_Delay_ms")
  let totalLost ← b.toInt (← b.floatOf (← row.getItem "Total_Lost_Packets"))
  let lossRate ← b.floatOf (← row.getItem "Loss_Rate_Percent")
  let numFlows ← b.toInt (← b.floatOf (← row.getItem "Num_Flows"))
  pure ⟨variant, totalThroughput, avgThroughput, avgDelay, totalLost, lossRate, numFlows⟩

/-- **`parse_csv(filename)`**: the dict of the first row (`next(reader)`); `None` on any exception —
a missing file, no row, a missing column, a cell that does not convert. -/
def parseCsv (filename : String) : Option (Summary F) :=
  match fs filename with
  | none => none
  | some content => (do summaryRow b (← (b.dictRows content).next)).toOption

/-- **The record an aggregate row holds**: the six numeric cells as floats, two of them truncated to
ints; `none` when one is missing or does not convert, or when a truncated one is `nan` or `inf`. -/
def summaryRecord (row : DictRow) : Option (Summary F) := do
  let totalThroughput ← (row.field "Total_Throughput_Mbps").bind b.float
  let avgThroughput ← (row.field "Avg_Throughput_Per_Flow_Mbps").bind b.float
  let avgDelay ← (row.field "Avg_Delay_ms").bind b.float
  let totalLost ← (row.field "Total_Lost_Packets").bind b.float
  let totalLost ← (b.toInt totalLost).toOption
  let lossRate ← (row.field "Loss_Rate_Percent").bind b.float
  let numFlows ← (row.field "Num_Flows").bind b.float
  let numFlows ← (b.toInt numFlows).toOption
  pure ⟨row.field "TCP_Variant", totalThroughput, avgThroughput, avgDelay, totalLost, lossRate, numFlows⟩

variable {b}

theorem summaryRow_toOption {row : DictRow}
    (hkeys : ∀ k ∈ summaryFields, row.getItem k = .ok (row.field k)) :
    (summaryRow b row).toOption = summaryRecord b row := by
  simp only [summaryFields, List.mem_cons, List.not_mem_nil, or_false, forall_eq_or_imp,
    forall_eq] at hkeys
  obtain ⟨h1, h2, h3, h4, h5, h6, h7⟩ := hkeys
  simp only [summaryRow, h1, h2, h3, h4, h5, h6, h7, ok_bind, toOption_bind, Builtins.toOption_floatOf]
  rfl

/-- **`parse_csv` on a file whose header names the seven columns** is the record of its first row:
`None` exactly when there is no row or the first row is malformed; later rows are never read. -/
theorem parseCsv_spec (filename content : String) (hfile : fs filename = some content)
    (hheader : ∀ k ∈ summaryFields, k ∈ b.fieldnames content) :
    parseCsv b fs filename = ((b.dictRows content).items.head?).bind (summaryRecord b) := by
  simp only [parseCsv, hfile, PyIter.next]
  split
  · rename_i row rest hrows
    have hrow : row ∈ (b.dictRows content).items := by rw [hrows]; exact List.mem_cons_self _ _
    rw [hrows, ok_bind, summaryRow_toOption fun k hk => getItem_of_dictRows (hheader k hk) hrow]
    rfl
  · rename_i hrows
    rw [hrows]
    rfl

/-- An aggregate file of two rows. -/
def twoRowsFanout : String :=
  "TCP_Variant,Total_Throughput_Mbps,Avg_Throughput_Per_Flow_Mbps,Avg_Delay_ms,Total_Lost_Packets," ++
    "Loss_Rate_Percent,Num_Flows\nFast,30.5,0.7,120.5,12.0,0.4,45\nFast,1,1,1,1,1,1\n"

set_option maxRecDepth 4000 in
/-- The first of two rows. -/
theorem parseCsv_two_rows :
    parseCsv Builtins.decimal (fun _ => some twoRowsFanout) "Fast_fanout.csv" =
      ((Builtins.decimal.dictRows twoRowsFanout).items.head?).bind (summaryRecord Builtins.decimal) :=
  parseCsv_spec (fun _ => some twoRowsFanout) "Fast_fanout.csv" twoRowsFanout rfl (by decide)

/-! ## (2) `parse_perflow_csv` -/

variable (b)

/-- **The dict `parse_perflow_csv` builds from a row**, its cells converted in source order. -/
def perflowRow (row : DictRow) : PyResult (PerFlow F) := do
  let flowId ← b.intOf (← row.getItem "Flow_ID")
  let throughput ← b.floatOf (← row.getItem "Throughput_Mbps")
  let delay ← b.floatOf (← row.getItem "Delay_ms")
  pure ⟨flowId, throughput, delay⟩

/-- **`parse_perflow_csv(filename)`**: the loop appending each row's dict, all inside one `try`:
`None` on any exception, wherever in the file it happens. -/
def parsePerflowCsv (filename : String) : Option (List (PerFlow F)) :=
  match fs filename with
  | none => none
  | some content => (appendRecords (perflowRow b) (b.dictRows content)).toOption

/-- **The record a per-flow row holds**: `Flow_ID` an int, the two others floats; `none` when a cell
is missing or does not convert. -/
def perflowRecord (row : DictRow) : Option (PerFlow F) := do
  let flowId ← (row.field "Flow_ID").bind b.int
  let throughput ← (row.field "Throughput_Mbps").bind b.float
  let delay ← (row.field "Delay_ms").bind b.float
  pure ⟨flowId, throughput, delay⟩

variable {b}

/-- **Step lemma for `parse_perflow_csv`**: on a row with the three keys, the dict built is the row's
record, and the only exceptions are those of a failed conversion. -/
theorem perflowRow_spec {row : DictRow}
    (hkeys : ∀ k ∈ perflowFields, row.getItem k = .ok (row.field k)) :
    (perflowRow b row).toOption = perflowRecord b row ∧
      RaisesOnly IsConversionError (perflowRow b row) := by
  simp only [perflowFields, List.mem_cons, List.not_mem_nil, or_false, forall_eq_or_imp,
    forall_eq] at hkeys
  obtain ⟨h1, h2, h3⟩ := hkeys
  simp only [perflowRow, h1, h2, h3, ok_bind]
  refine ⟨by simp only [toOption_bind, Builtins.toOption_floatOf, Builtins.toOption_intOf]; rfl, ?_⟩
  exact .bind (b.intOf_raisesOnly _) fun _ => .bind (b.floatOf_raisesOnly _) fun _ =>
    .bind (b.floatOf_raisesOnly _) fun _ => .ok _

/-- **`parse_perflow_csv` on a file whose header names the three columns**: every row's record, in
file order, when every row is well-formed and `csv.reader` raises nothing; `None` when one row is
malformed, whatever the others hold, and `None` when `csv.reader` raises. -/
theorem parsePerflowCsv_spec (filename content : String) (hfile : fs filename = some content)
    (hheader : ∀ k ∈ perflowFields, k ∈ b.fieldnames content) :
    ((∀ row ∈ (b.dictRows content).items, (perflowRecord b row).isSome) →
        (b.dictRows content).raises = none →
        parsePerflowCsv b fs filename =
          some ((b.dictRows content).items.filterMap (perflowRecord b))) ∧
      ((∃ row ∈ (b.dictRows content).items, perflowRecord b row = none) →
        parsePerflowCsv b fs filename = none) ∧
      ((b.dictRows content).raises.isSome → parsePerflowCsv b fs filename = none) := by
  have hrows := appendRecords_spec fun row hr => @perflowRow_spec _ b row fun k hk =>
    getItem_of_dictRows (hheader k hk) hr
  simp only [parsePerflowCsv, hfile]
  refine ⟨fun hall hraise => by rw [hrows.1 hall hraise]; rfl, fun hbad => ?_, fun hraise => ?_⟩
  · obtain ⟨e, -, hloop⟩ := hrows.2 hbad
    rw [hloop]
    rfl
  · obtain ⟨e, hloop⟩ := @PyIter.foldlM_of_raises _ _ _
      (fun records row => do pure (records ++ [← perflowRow b row])) [] hraise
    rw [appendRecords, hloop]
    rfl

/-- Two well-formed rows: both records, in order. -/
theorem parsePerflowCsv_two_rows :
    parsePerflowCsv Builtins.decimal (fun _ => some "Flow_ID,Throughput_Mbps,Delay_ms\n1,2.5,30\n2,1.5,60\n")
        "Fast_perflow.csv" =
      some ((Builtins.decimal.dictRows "Flow_ID,Throughput_Mbps,Delay_ms\n1,2.5,30\n2,1.5,60\n").items.filterMap
        (perflowRecord Builtins.decimal)) :=
  (parsePerflowCsv_spec _ _ _ rfl (by decide)).1 (by decide) rfl

/-- One well-formed row and one with a throughput that is not a float: `None`, the good row lost. -/
theorem parsePerflowCsv_one_malformed :
    (∀ k ∈ perflowFields, k ∈ Builtins.decimal.fieldnames "Flow_ID,Throughput_Mbps,Delay_ms\n1,2.5,30\n2,x,60\n") ∧
      ((Builtins.decimal.dictRows "Flow_ID,Throughput_Mbps,Delay_ms\n1,2.5,30\n2,x,60\n").items.filterMap
        (perflowRecord Builtins.decimal)).length = 1 ∧
      parsePerflowCsv Builtins.decimal (fun _ => some "Flow_ID,Throughput_Mbps,Delay_ms\n1,2.5,30\n2,x,60\n")
        "Fast_perflow.csv" = none :=
  ⟨by decide, by decide, rfl⟩

/-! ## (3) The traces of `generate_cwnd_plots` -/

variable (b)

/-- **The body of the trace loop**: `times.append(float(row['Time']))`, then
`cwnds.append(int(row['CongestionWindow']) / 1400)`, in segments: an int true division, which raises
`OverflowError` on a window past the float range. -/
def cwndStep (acc : List F × List F) (row : DictRow) : PyResult (List F × List F) := do
  let t ← b.floatOf (← row.getItem "Time")
  let c ← b.intOf (← row.getItem "CongestionWindow")
  let segments ← b.intTrueDiv c 1400
  pure (acc.1 ++ [t], acc.2 ++ [segments])

/-- **The trace one panel draws** (`ax.plot(times, cwnds)`): drawn only when the file exists, the
whole loop runs without an exception, and both lists are non-empty. -/
def cwndTrace (variant : String) (flowIdx : ℕ) : Option (List F × List F) :=
  match fs (cwndFlowFile variant flowIdx) with
  | none => none
  | some content =>
    match ((b.dictRows content).foldlM (cwndStep b) ([], [])).toOption with
    | some (t :: ts, c :: cs) => some (t :: ts, c :: cs)
    | _ => none

/-- **The sample a trace row holds**: `Time` as a float and `CongestionWindow` as an int, in
segments; `none` when a cell is missing or does not convert, or the window overflows in segments. -/
def cwndRecord (row : DictRow) : Option (F × F) := do
  let t ← (row.field "Time").bind b.float
  let c ← (row.field "CongestionWindow").bind b.int
  let segments ← (b.intTrueDiv c 1400).toOption
  pure (t, segments)

variable {b}

/-- **Step lemma for the trace loop**: on a row with both keys, a step appends the row's sample to
both lists, and raises when the row holds none. -/
theorem cwndStep_toOption {row : DictRow}
    (hkeys : ∀ k ∈ ["Time", "CongestionWindow"], row.getItem k = .ok (row.field k))
    (acc : List F × List F) :
    (cwndStep b acc row).toOption = (cwndRecord b row).map fun s => (acc.1 ++ [s.1], acc.2 ++ [s.2]) := by
  simp only [List.mem_cons, List.not_mem_nil, or_false, forall_eq_or_imp, forall_eq] at hkeys
  simp only [cwndStep, cwndRecord, hkeys.1, hkeys.2, ok_bind, toOption_bind, Builtins.toOption_floatOf,
    Builtins.toOption_intOf]
  cases (row.field "Time").bind b.float <;> cases (row.field "CongestionWindow").bind b.int <;> try rfl
  rename_i c
  cases h : b.intTrueDiv c 1400 <;> simp [h]

/-- **Run lemma for the trace loop**: on a file whose header names both columns, the loop returns the
samples of all rows when every row holds one and the reader raises nothing, and raises otherwise. -/
theorem foldlM_cwndStep {content : String}
    (hheader : ∀ k ∈ ["Time", "CongestionWindow"], k ∈ b.fieldnames content) :
    ((b.dictRows content).foldlM (cwndStep b) ([], [])).toOption =
      if (b.dictRows content).raises = none ∧ ∀ row ∈ (b.dictRows content).items, (cwndRecord b row).isSome
      then some (((b.dictRows content).items.filterMap (cwndRecord b)).map Prod.fst,
        ((b.dictRows content).items.filterMap (cwndRecord b)).map Prod.snd)
      else none := by
  have hstep := fun acc row (hr : row ∈ (b.dictRows content).items) =>
    @cwndStep_toOption _ b row (fun k hk => getItem_of_dictRows (hheader k hk) hr) acc
  split_ifs with hok
  · obtain ⟨hraise, hall⟩ := hok
    have hloop := foldlM_eq_ok (cwndStep b) (fun acc row =>
      (acc.1 ++ ((cwndRecord b row).map Prod.fst).toList, acc.2 ++ ((cwndRecord b row).map Prod.snd).toList))
      ([], []) fun acc row hr => by
        obtain ⟨s, hs⟩ := Option.isSome_iff_exists.mp (hall row hr)
        rw [eq_ok_iff_toOption, hstep acc row hr]
        simp [hs]
    rw [PyIter.foldlM_eq_ok.mpr ⟨hloop, hraise⟩, foldl_append_pairs]
    rfl
  · rcases not_and_or.mp hok with hraise | hbad
    · obtain ⟨e, he⟩ := @PyIter.foldlM_of_raises _ _ _ (cwndStep b) ([], [])
        (Option.ne_none_iff_isSome.mp hraise)
      rw [he]
      rfl
    · push_neg at hbad
      obtain ⟨bad, hbad, hnone⟩ := hbad
      obtain ⟨e, -, hloop⟩ := foldlM_eq_error (fun _ => True) (cwndStep b) ([], [])
        ⟨bad, hbad, fun acc => by
          have h := hstep acc bad hbad
          rw [Option.not_isSome_iff_eq_none.mp hnone, Option.map_none'] at h
          cases hs : cwndStep b acc bad with
          | error e => exact ⟨e, rfl⟩
          | ok r => rw [hs] at h; cases h⟩
        fun _ _ _ _ _ => trivial
      rw [PyIter.foldlM_of_error hloop]
      rfl

/-- **The trace a panel draws, from a file whose header names `Time` and `CongestionWindow`**: the
times and the windows (in segments) of all rows, when every row holds a sample, there is a row, and
the reader raises nothing; otherwise no trace, the `except Exception` swallowing the error. -/
theorem cwndTrace_spec (variant : String) (flowIdx : ℕ) (content : String)
    (hfile : fs (cwndFlowFile variant flowIdx) = some content)
    (hheader : ∀ k ∈ ["Time", "CongestionWindow"], k ∈ b.fieldnames content) :
    cwndTrace b fs variant flowIdx =
      if (b.dictRows content).raises = none ∧ 0 < (b.dictRows content).items.length ∧
          ∀ row ∈ (b.dictRows content).items, (cwndRecord b row).isSome
      then some (((b.dictRows content).items.filterMap (cwndRecord b)).map Prod.fst,
        ((b.dictRows content).items.filterMap (cwndRecord b)).map Prod.snd)
      else none := by
  rw [cwndTrace, hfile]
  dsimp only
  rw [foldlM_cwndStep hheader]
  by_cases hok : (b.dictRows content).raises = none ∧
      ∀ row ∈ (b.dictRows content).items, (cwndRecord b row).isSome
  · rw [if_pos hok]
    rcases hitems : (b.dictRows content).items with _ | ⟨r, rs⟩
    · simp [hitems]
    · obtain ⟨s, hs⟩ := Option.isSome_iff_exists.mp (hok.2 r (by simp [hitems]))
      rw [hitems] at hok
      rw [if_pos ⟨hok.1, by simp, hok.2⟩, List.filterMap_cons, hs]
      rfl
  · rw [if_neg hok, if_neg fun h => hok ⟨h.1, h.2.2⟩]

/-- A trace of two rows. -/
def twoRowsTrace : String := "Time,CongestionWindow\n0.5,2800\n1.0,4200\n"

/-- Two rows: the panel draws their two times and their two windows. -/
theorem cwndTrace_two_rows :
    ∃ times cwnds, cwndTrace Builtins.decimal (fun _ => some twoRowsTrace) "Fast" 0 = some (times, cwnds) ∧
      times = [mkRat 1 2, 1] ∧ cwnds.length = 2 := by
  rw [cwndTrace_spec (fun _ => some twoRowsTrace) "Fast" 0 twoRowsTrace rfl (by decide),
    if_pos (by decide)]
  exact ⟨_, _, rfl, by decide, rfl⟩

end Ns3Results.OgSim2
