import Ns3Results.Python.Csv

/-! # `tcp-multi-rtt`: reading the simulator's files

`results/tcp-multi-rtt/run_and_plot.py` reads two kinds of file per TCP variant: the per-flow table
`<variant>_results.csv` (`read_results`, through `csv.DictReader`) and one congestion-window trace
`<variant>_flow<k>_cwnd.dat` per flow (`read_cwnd_data`, line by line). Neither has a `try`: a cell
that does not convert raises out of the reader, and out of `main`.

* **`readRow`, `readResults`** — the loop of `read_results`, and `flowRecord`, the record a
  well-formed row holds. `readResults_spec`: on a file whose header names the six columns, the result
  is every row's record when all rows are well-formed, and the first malformed row's
  `TypeError`/`ValueError` otherwise. `readResults_of_missing_column`: a header without one of the
  six columns makes it raise, never return.
* **`cwndLine`, `readCwndData`** — the loop of `read_cwnd_data`, and `cwndSample`, the sample a data
  line holds. `readCwndData_spec`: the samples of all data lines when every data line converts, and
  `ValueError` otherwise. -/

namespace Ns3Results.MultiRtt

/-- **One row of `<variant>_results.csv`**: the dict `read_results` appends. -/
structure Flow (F : Type) where
  flowId : ℤ
  rttMs : ℤ
  throughput : F
  dataMb : F
  avgDelay : F
  lossRate : F
  deriving Inhabited, DecidableEq, Repr

/-- The columns `read_results` reads, in the order it reads them. -/
def flowFields : List String :=
  ["Flow_ID", "RTT_ms", "Throughput_Mbps", "Data_Received_MB", "Avg_Delay_ms", "Loss_Rate_Percent"]

variable {F : Type} (b : Builtins F) (fs : FileSystem)

/-! ## (1) `read_results` -/

/-- **The dict `read_results` builds from one row**, its six cells converted in source order. -/
def readRow (row : DictRow) : PyResult (Flow F) := do
  let flowId ← b.intOf (← row.getItem "Flow_ID")
  let rttMs ← b.intOf (← row.getItem "RTT_ms")
  let throughput ← b.floatOf (← row.getItem "Throughput_Mbps")
  let dataMb ← b.floatOf (← row.getItem "Data_Received_MB")
  let avgDelay ← b.floatOf (← row.getItem "Avg_Delay_ms")
  let lossRate ← b.floatOf (← row.getItem "Loss_Rate_Percent")
  pure ⟨flowId, rttMs, throughput, dataMb, avgDelay, lossRate⟩

/-- **`read_results(variant)`**: `None` when `<variant>_results.csv` is missing; otherwise the loop
appending each row's dict, with no `try`. -/
def readResults (variant : String) : PyResult (Option (List (Flow F))) :=
  match fs (variant ++ "_results.csv") with
  | none => .ok none
  | some content => some <$> appendRecords (readRow b) (b.dictRows content)

/-- **The record a row holds**: `Flow_ID` and `RTT_ms` ints, the four others floats; `none` when a
cell is missing or does not convert. -/
def flowRecord (row : DictRow) : Option (Flow F) := do
  let flowId ← (row.field "Flow_ID").bind b.int
  let rttMs ← (row.field "RTT_ms").bind b.int
  let throughput ← (row.field "Throughput_Mbps").bind b.float
  let dataMb ← (row.field "Data_Received_MB").bind b.float
  let avgDelay ← (row.field "Avg_Delay_ms").bind b.float
  let lossRate ← (row.field "Loss_Rate_Percent").bind b.float
  pure ⟨flowId, rttMs, throughput, dataMb, avgDelay, lossRate⟩

variable {b}

/-- **Step lemma for `read_results`**: on a row with the six keys, the dict built is the row's record,
and the only exceptions are those of a failed conversion. -/
theorem readRow_spec {row : DictRow} (hkeys : ∀ k ∈ flowFields, row.getItem k = .ok (row.field k)) :
    (readRow b row).toOption = flowRecord b row ∧ RaisesOnly IsConversionError (readRow b row) := by
  simp only [flowFields, List.mem_cons, List.not_mem_nil, or_false, forall_eq_or_imp,
    forall_eq] at hkeys
  obtain ⟨h1, h2, h3, h4, h5, h6⟩ := hkeys
  simp only [readRow, h1, h2, h3, h4, h5, h6, ok_bind]
  refine ⟨by simp only [toOption_bind, Builtins.toOption_floatOf, Builtins.toOption_intOf]; rfl, ?_⟩
  exact .bind (b.intOf_raisesOnly _) fun _ => .bind (b.intOf_raisesOnly _) fun _ =>
    .bind (b.floatOf_raisesOnly _) fun _ => .bind (b.floatOf_raisesOnly _) fun _ =>
    .bind (b.floatOf_raisesOnly _) fun _ => .bind (b.floatOf_raisesOnly _) fun _ => .ok _

/-- **`read_results` on a file whose header names the six columns**: when every row is well-formed
(and `csv.reader` raises nothing) it returns every row's record, in file order; when some row is
malformed it raises that row's `TypeError` or `ValueError`, returning nothing. -/
theorem readResults_spec (variant content : String)
    (hfile : fs (variant ++ "_results.csv") = some content)
    (hheader : ∀ k ∈ flowFields, k ∈ b.fieldnames content) :
    ((∀ row ∈ (b.dictRows content).items, (flowRecord b row).isSome) →
        (b.dictRows content).raises = none →
        readResults b fs variant = .ok (some ((b.dictRows content).items.filterMap (flowRecord b)))) ∧
      ((∃ row ∈ (b.dictRows content).items, flowRecord b row = none) →
        ∃ e, IsConversionError e ∧ readResults b fs variant = .error e) := by
  have hrow := appendRecords_spec fun row hr => @readRow_spec _ b row fun k hk =>
    getItem_of_dictRows (hheader k hk) hr
  simp only [readResults, hfile]
  refine ⟨fun hall hraise => by rw [hrow.1 hall hraise]; rfl, fun hbad => ?_⟩
  obtain ⟨e, he, hloop⟩ := hrow.2 hbad
  exact ⟨e, he, by rw [hloop]; rfl⟩

/-- A results file of two well-formed rows. -/
def twoRowsCsv : String :=
  "Flow_ID,RTT_ms,Throughput_Mbps,Data_Received_MB,Avg_Delay_ms,Loss_Rate_Percent\n" ++
    "0,50,1.5,1,20,0\n1,100,2.5,1,40,0\n"

/-- Two well-formed rows: both records, in order. -/
theorem readResults_two_rows :
    readResults Builtins.decimal (fun _ => some twoRowsCsv) "TcpFast" =
      .ok (some ((Builtins.decimal.dictRows twoRowsCsv).items.filterMap (flowRecord Builtins.decimal))) :=
  (readResults_spec (fun _ => some twoRowsCsv) "TcpFast" twoRowsCsv rfl (by decide)).1 (by decide) rfl

/-- One row with a throughput that is not a float: `read_results` raises `ValueError`. -/
theorem readResults_bad_row :
    (∀ k ∈ flowFields, k ∈ Builtins.decimal.fieldnames ("Flow_ID,RTT_ms,Throughput_Mbps," ++
        "Data_Received_MB,Avg_Delay_ms,Loss_Rate_Percent\n0,50,x,1,20,0\n")) ∧
      readResults Builtins.decimal (fun _ => some ("Flow_ID,RTT_ms,Throughput_Mbps,Data_Received_MB," ++
        "Avg_Delay_ms,Loss_Rate_Percent\n0,50,x,1,20,0\n")) "TcpFast" = .error .valueError :=
  ⟨by decide, rfl⟩

/-- The dict `read_results` builds from a row raises only `KeyError`, for a column the row lacks, or a
conversion error. -/
theorem readRow_raisesOnly (row : DictRow) :
    RaisesOnly (fun e => e = .keyError ∨ IsConversionError e) (readRow b row) := by
  have hk : ∀ k, RaisesOnly (fun e => e = .keyError ∨ IsConversionError e) (row.getItem k) :=
    fun k e he => .inl (PyDict.getItem_raisesOnly row k e he)
  have hi : ∀ x, RaisesOnly (fun e => e = .keyError ∨ IsConversionError e) (b.intOf x) :=
    fun x e he => .inr (b.intOf_raisesOnly x e he)
  have hf : ∀ x, RaisesOnly (fun e => e = .keyError ∨ IsConversionError e) (b.floatOf x) :=
    fun x e he => .inr (b.floatOf_raisesOnly x e he)
  exact .bind (hk _) fun _ => .bind (hi _) fun _ => .bind (hk _) fun _ => .bind (hi _) fun _ =>
    .bind (hk _) fun _ => .bind (hf _) fun _ => .bind (hk _) fun _ => .bind (hf _) fun _ =>
    .bind (hk _) fun _ => .bind (hf _) fun _ => .bind (hk _) fun _ => .bind (hf _) fun _ => .ok _

/-- A row `read_results` turns into a dict has all six keys. -/
theorem getItem_ok_of_readRow {row : DictRow} {r : Flow F} (h : readRow b row = .ok r) :
    ∀ k ∈ flowFields, ∃ c, row.getItem k = .ok c := by
  simp only [readRow, bind_eq_ok] at h
  obtain ⟨c₁, h₁, -, -, c₂, h₂, -, -, c₃, h₃, -, -, c₄, h₄, -, -, c₅, h₅, -, -, c₆, h₆, -⟩ := h
  simp only [flowFields, List.mem_cons, List.not_mem_nil, or_false]
  rintro k (rfl | rfl | rfl | rfl | rfl | rfl)
  exacts [⟨_, h₁⟩, ⟨_, h₂⟩, ⟨_, h₃⟩, ⟨_, h₄⟩, ⟨_, h₅⟩, ⟨_, h₆⟩]

/-- **A header without one of the six columns** makes `read_results` raise at the first row:
`KeyError`, or the conversion error of a cell it reads before the missing one. It never returns. -/
theorem readResults_of_missing_column (variant content : String)
    (hfile : fs (variant ++ "_results.csv") = some content)
    (hmissing : ∃ k ∈ flowFields, k ∉ b.fieldnames content) (hrows : (b.dictRows content).items ≠ []) :
    ∃ e, (e = .keyError ∨ IsConversionError e) ∧ readResults b fs variant = .error e := by
  obtain ⟨k, hk, hnot⟩ := hmissing
  obtain ⟨row, hmem⟩ := List.exists_mem_of_ne_nil _ hrows
  have hbad : ∃ e, readRow b row = .error e := by
    cases hr : readRow b row with
    | error e => exact ⟨e, rfl⟩
    | ok r =>
      obtain ⟨c, hc⟩ := getItem_ok_of_readRow hr k hk
      obtain ⟨cells, rfl⟩ := mem_dictRows hmem
      rw [PyDict.getItem_of_not_mem fun h => hnot (mem_fieldnames_of_mem_keys h)] at hc
      cases hc
  obtain ⟨e₀, he₀⟩ := hbad
  obtain ⟨e, he, hloop⟩ := foldlM_eq_error (fun e => e = .keyError ∨ IsConversionError e)
    (fun records row => do pure (records ++ [← readRow b row])) []
    ⟨row, hmem, fun _ => ⟨e₀, by simp only [he₀, error_bind]⟩⟩
    fun _ row _ => .bind (readRow_raisesOnly row) fun _ => .ok _
  exact ⟨e, he, by simp only [readResults, hfile]; rw [appendRecords, PyIter.foldlM_of_error hloop]; rfl⟩

/-- A header of two columns and one row: `read_results` raises. -/
theorem readResults_two_columns :
    ∃ e, (e = .keyError ∨ IsConversionError e) ∧
      readResults Builtins.decimal (fun _ => some "Flow_ID,RTT_ms\n0,50\n") "TcpFast" = .error e :=
  readResults_of_missing_column (fun _ => some "Flow_ID,RTT_ms\n0,50\n") "TcpFast"
    "Flow_ID,RTT_ms\n0,50\n" rfl ⟨"Throughput_Mbps", by decide, by decide⟩
    (List.ne_nil_of_length_pos (by decide))

/-- **Inversion of `read_results` on a file it reads**: when it returns, it returned one record per
data row, each the dict built from that row, and the reader raised nothing. -/
theorem readResults_eq_ok_some {variant content : String}
    (hfile : fs (variant ++ "_results.csv") = some content) {r : Option (List (Flow F))}
    (h : readResults b fs variant = .ok r) :
    ∃ flows, r = some flows ∧ List.Forall₂ (fun row f => readRow b row = .ok f) (b.dictRows content).items
      flows ∧ (b.dictRows content).raises = none := by
  simp only [readResults, hfile] at h
  cases hloop : appendRecords (readRow b) (b.dictRows content) with
  | error e => rw [hloop] at h; cases h
  | ok flows =>
    rw [hloop] at h
    cases h
    exact ⟨flows, rfl, forall₂_of_appendRecords hloop⟩

/-- A results file with a header and no data row: `read_results` returns no flows. -/
theorem readResults_of_no_rows {variant content : String}
    (hfile : fs (variant ++ "_results.csv") = some content) (hrows : (b.dictRows content).items = [])
    (hraise : (b.dictRows content).raises = none) : readResults b fs variant = .ok (some []) := by
  simp only [readResults, hfile, appendRecords, PyIter.foldlM, hrows, hraise]
  rfl

/-! ## (2) `read_cwnd_data` -/

variable (b)

/-- **The body of `read_cwnd_data`'s loop**: skip `#` comments; on a line of exactly two tokens,
`times.append(float(parts[0]))` then `cwnds.append(float(parts[1]))`. A `ValueError` leaves the
function, so the first append, already done, is never seen. -/
def cwndLine (acc : List F × List F) (line : String) : PyResult (List F × List F) :=
  if startswith line "#" then pure acc
  else
    match split (strip line) with
    | [t, c] => do
      let t ← b.floatOf (some t)
      let c ← b.floatOf (some c)
      pure (acc.1 ++ [t], acc.2 ++ [c])
    | _ => pure acc

/-- The name of the trace of flow `flowId`: `f"{variant}_flow{flow_id}_cwnd.dat"`. -/
def cwndFile (variant : String) (flowId : ℕ) : String :=
  variant ++ "_flow" ++ toString flowId ++ "_cwnd.dat"

/-- **`read_cwnd_data(variant, flow_id)`**: `(None, None)` when the trace is missing; otherwise the
arrays the loop over its lines builds, with no `try`. -/
def readCwndData (variant : String) (flowId : ℕ) : PyResult (Option (List F × List F)) :=
  match fs (cwndFile variant flowId) with
  | none => .ok none
  | some content => some <$> (readLines content).foldlM (cwndLine b) ([], [])

/-- **The two tokens of a data line** of a trace: a line not starting with `#` that splits into
exactly two tokens. -/
def dataTokens (line : String) : Option (String × String) :=
  if startswith line "#" then none
  else
    match split (strip line) with
    | [t, c] => some (t, c)
    | _ => none

/-- **The sample a line holds**: both tokens of a data line, as floats. -/
def cwndSample (line : String) : Option (F × F) := do
  let (t, c) ← dataTokens line
  pure (← b.float t, ← b.float c)

variable {b}

/-- **Step lemma for `read_cwnd_data`**: a line that is no data line leaves the arrays as they are; a
data line appends its sample, or raises `ValueError` when a token is not a float. -/
theorem cwndLine_spec (acc : List F × List F) (line : String) :
    cwndLine b acc line =
      match dataTokens line with
      | none => .ok acc
      | some _ =>
        match cwndSample b line with
        | some (t, c) => .ok (acc.1 ++ [t], acc.2 ++ [c])
        | none => .error .valueError := by
  unfold cwndLine cwndSample dataTokens
  split_ifs
  · rfl
  · split
    · rename_i t c _
      cases ht : b.float t <;> cases hc : b.float c <;> simp [Builtins.floatOf, ht, hc]
    · rfl

theorem cwndLine_raisesOnly (acc : List F × List F) (line : String) :
    RaisesOnly (· = .valueError) (cwndLine b acc line) := by
  intro e he
  rw [cwndLine_spec] at he
  split at he
  · cases he
  · split at he <;> cases he; rfl

/-- `read_cwnd_data` raises nothing but `ValueError`. -/
theorem readCwndData_raisesOnly (variant : String) (flowId : ℕ) :
    RaisesOnly (· = .valueError) (readCwndData b fs variant flowId) := by
  unfold readCwndData
  split
  · exact .ok _
  · exact .map _ (.foldlM fun acc line _ => cwndLine_raisesOnly acc line)

/-- **`read_cwnd_data` on a present trace**: when every data line's tokens are floats it returns the
times and the windows of the data lines' samples, in file order (so of equal length); when some data
line has a token that is not a float it raises `ValueError`. Comments, blank lines and lines of
another token count are skipped. -/
theorem readCwndData_spec (variant : String) (flowId : ℕ) (content : String)
    (hfile : fs (cwndFile variant flowId) = some content) :
    ((∀ line ∈ readLines content, (dataTokens line).isSome → (cwndSample b line).isSome) →
        readCwndData b fs variant flowId =
          .ok (some (((readLines content).filterMap (cwndSample b)).map Prod.fst,
            ((readLines content).filterMap (cwndSample b)).map Prod.snd))) ∧
      ((∃ line ∈ readLines content, (dataTokens line).isSome ∧ cwndSample b line = none) →
        readCwndData b fs variant flowId = .error .valueError) := by
  simp only [readCwndData, hfile]
  constructor
  · intro hall
    rw [foldlM_eq_ok (cwndLine b) (fun acc line => (acc.1 ++ ((cwndSample b line).map Prod.fst).toList,
      acc.2 ++ ((cwndSample b line).map Prod.snd).toList)) ([], []) fun acc line hl => by
        rw [cwndLine_spec]
        cases hd : dataTokens line with
        | none => simp [cwndSample, hd]
        | some _ =>
          obtain ⟨⟨t, c⟩, hs⟩ := Option.isSome_iff_exists.mp (hall line hl (by simp [hd]))
          simp [hs], foldl_append_pairs]
    rfl
  · rintro ⟨bad, hbad, hdata, hnone⟩
    obtain ⟨e, rfl, hloop⟩ := foldlM_eq_error (· = .valueError) (cwndLine b) ([], [])
      ⟨bad, hbad, fun acc => ⟨.valueError, by
        rw [cwndLine_spec, hnone]
        obtain ⟨_, hd⟩ := Option.isSome_iff_exists.mp hdata
        simp [hd]⟩⟩
      fun acc line _ => cwndLine_raisesOnly acc line
    rw [hloop]
    rfl

/-- A trace of a comment and two samples. -/
def twoSamplesDat : String := "# time cwnd\n0.5 10\n1.0 12\n"

/-- A comment, then two samples: both samples. -/
theorem readCwndData_two_samples :
    readCwndData Builtins.decimal (fun _ => some twoSamplesDat) "TcpFast" 0 =
      .ok (some (((readLines twoSamplesDat).filterMap (cwndSample Builtins.decimal)).map Prod.fst,
        ((readLines twoSamplesDat).filterMap (cwndSample Builtins.decimal)).map Prod.snd)) :=
  (readCwndData_spec (fun _ => some twoSamplesDat) "TcpFast" 0 twoSamplesDat rfl).1 (by decide)

/-- A two-token line whose window is no float: `read_cwnd_data` raises `ValueError`. -/
theorem readCwndData_bad_window :
    readCwndData Builtins.decimal (fun _ => some "1.0 abc\n") "TcpFast" 0 = .error .valueError := rfl

end Ns3Results.MultiRtt
