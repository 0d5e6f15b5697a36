import Ns3Results.Python.Text
import Mathlib.Data.List.Basic

/-! # `reno-equilibrium`: the congestion-window trace

`results/reno-equilibrium/run_and_plot.py` runs the simulation, reads `cwnd_trace.txt` with
`parse_cwnd_file` and plots the window against time. The loop of `parse_cwnd_file` appends the time
and the window one after the other inside a `try` that swallows `ValueError`, so the `try` does not
undo the first append when the second conversion fails: a line such as `1.0 2.5` adds a time and no
window, and every later sample is paired with the wrong time.

* **`exec_parseLine`** — what one line does to the two lists: `lineTime` and `lineCwnd`.
* **`parseCwndFile_spec`** — the lists are all lines' times and all lines' windows; they pair up as the
  lines' samples exactly when no line has a float time and a window that is no int.
* **`main_of_misaligned`** — then `plt.plot` gets lists of different lengths and `main` raises
  `ValueError`.
* **`main_eq_ok_iff`** — the script plots exactly when the simulation succeeds, the trace exists, no
  line of it is misaligned and no window is past the float range (`plt.plot` converts the windows to
  floats, and raises `OverflowError` on one of 309 digits or more); it then plots every line's time
  against that line's window. -/

namespace Ns3Results.RenoEquilibrium

/-- **The two lists `parse_cwnd_file` fills**: `times` (floats) and `cwnds` (ints). -/
abbrev Series (F : Type) := List F × List ℤ

/-- `t, cwnd = line.split()`: `ValueError` unless the line has exactly two tokens. -/
def unpackPair : List String → PyResult (String × String)
  | [t, cwnd] => .ok (t, cwnd)
  | _ => .error .valueError

variable {F : Type} (b : Builtins F) (fs : FileSystem)

/-! ## (1) The model -/

/-- **The body of the `try`**: unpack, `times.append(float(t))`, then `cwnds.append(int(cwnd))`. -/
def parsePair (line : String) : PyM (Series F) Unit := do
  let (t, cwnd) ← PyM.lift (unpackPair (split line))
  let time ← PyM.lift (b.floatOf (some t))
  modify fun s => (s.1 ++ [time], s.2)
  let window ← PyM.lift (b.intOf (some cwnd))
  modify fun s => (s.1, s.2 ++ [window])

/-- **One iteration of the loop**: strip the line, skip it when blank, else run the `try` and swallow
its `ValueError`. -/
def parseLine (line : String) : PyM (Series F) Unit :=
  if strip line = "" then pure () else PyM.tryExcept .valueError (parsePair b (strip line))

/-- **`parse_cwnd_file(filename)`**: `exit(1)` when the file is missing, else the loop over its
lines from two empty lists. -/
def parseCwndFile (filename : String) : PyResult (Series F) :=
  match fs filename with
  | none => .error (.systemExit 1)
  | some content =>
    match PyM.exec ((readLines content).forM (parseLine b)) ([], []) with
    | (.ok _, s) => .ok s
    | (.error e, _) => .error e

/-- **`plot_cwnd(times, cwnds)`**: `plt.plot` checks the shapes first, raising `ValueError` when x and
y differ in length, and then converts y to floats (`np.asarray(cwnds, float)`), raising
`OverflowError` on an int past the float range. -/
def plotCwnd (A : FloatArith F) (times : List F) (cwnds : List ℤ) : PyResult Unit :=
  if times.length = cwnds.length then do
    let _ ← cwnds.mapM A.intToFloat
    pure ()
  else .error .valueError

/-- **The script's `__main__`**: `exit(1)` when the simulation fails; otherwise the sample count it
prints and the series it plots. -/
def main (simulationOk : Bool) : PyResult (ℕ × Series F) := do
  if !simulationOk then throw (.systemExit 1)
  let (times, cwnds) ← parseCwndFile b fs "results/reno-equilibrium/cwnd_trace.txt"
  plotCwnd b.toFloatArith times cwnds
  pure (times.length, (times, cwnds))

/-! ## (2) What one line does -/

/-- **The time a line appends**: its first token as a float, on a line of exactly two tokens. -/
def lineTime (line : String) : Option F :=
  match split (strip line) with
  | [t, _] => b.float t
  | _ => none

/-- **The window a line appends**: its second token as an int, once its time has converted. -/
def lineCwnd (line : String) : Option ℤ :=
  match split (strip line) with
  | [t, cwnd] => (b.float t).bind fun _ => b.int cwnd
  | _ => none

/-- **The sample a line holds**: both tokens converted, on a line of exactly two tokens. -/
def lineSample (line : String) : Option (F × ℤ) :=
  match split (strip line) with
  | [t, cwnd] => do pure (← b.float t, ← b.int cwnd)
  | _ => none

variable {b}

/-- **The `try` body, step by step**: the time is appended before the window is converted. -/
theorem exec_parsePair (line : String) (s : Series F) :
    PyM.exec (parsePair b line) s =
      match split line with
      | [t, cwnd] =>
        match b.float t with
        | none => (.error .valueError, s)
        | some time =>
          match b.int cwnd with
          | none => (.error .valueError, (s.1 ++ [time], s.2))
          | some window => (.ok (), (s.1 ++ [time], s.2 ++ [window]))
      | _ => (.error .valueError, s) := by
  unfold parsePair
  split
  · rename_i t cwnd htok
    cases ht : b.float t <;> cases hc : b.int cwnd <;>
      simp [PyM.exec_bind, unpackPair, Builtins.floatOf, Builtins.intOf, htok, ht, hc]
  · rename_i hsplit
    have hunpack : unpackPair (split line) = .error .valueError := by
      unfold unpackPair
      split
      · next t cwnd htok => exact absurd htok (hsplit t cwnd)
      · rfl
    rw [PyM.exec_bind, hunpack]
    rfl

/-- **Step lemma**: a line never raises out of the loop; it appends its time, if any, and its window,
if any. -/
theorem exec_parseLine (line : String) (s : Series F) :
    PyM.exec (parseLine b line) s =
      (.ok (), (s.1 ++ (lineTime b line).toList, s.2 ++ (lineCwnd b line).toList)) := by
  unfold parseLine lineTime lineCwnd
  split
  · rename_i hblank
    rw [hblank]
    simp [show split "" = [] from rfl]
  · rw [PyM.exec_tryExcept, exec_parsePair]
    rcases split (strip line) with _ | ⟨t, _ | ⟨cwnd, _ | ⟨x, rest⟩⟩⟩
    · simp
    · simp
    · cases ht : b.float t <;> cases hc : b.int cwnd <;> simp [ht, hc]
    · simp

/-- **Run lemma**: the loop appends every line's time and every line's window, in file order. -/
theorem exec_forM_parseLine (lines : List String) (s : Series F) :
    PyM.exec (lines.forM (parseLine b)) s =
      (.ok (), (s.1 ++ lines.filterMap (lineTime b), s.2 ++ lines.filterMap (lineCwnd b))) := by
  induction lines generalizing s with
  | nil => simp
  | cons line lines ih =>
    rw [List.forM_cons', PyM.exec_bind, exec_parseLine]
    dsimp only
    rw [ih]
    cases ht : lineTime b line <;> cases hc : lineCwnd b line <;> simp [List.filterMap_cons, ht, hc]

/-! ## (3) The whole file -/

variable (b)

/-- **A misaligned line**: its time converts and its window does not, so it appends to `times`
alone. -/
def misaligned (line : String) : Bool := (lineTime b line).isSome && (lineCwnd b line).isNone

/-- **A line whose window overflows a float**: `float(cwnd)` of its window is `±inf`. -/
def overflows (line : String) : Bool := (lineCwnd b line).any fun c => b.isInf (b.ofRat c)

variable {b}

theorem lineTime_isSome_of_lineCwnd {line : String} (h : (lineCwnd b line).isSome) :
    (lineTime b line).isSome := by
  unfold lineCwnd at h
  unfold lineTime
  split at h
  · rename_i t cwnd _
    cases ht : b.float t
    · simp [ht] at h
    · rfl
  · cases h

theorem lineCwnd_eq_map_lineSample (line : String) :
    lineCwnd b line = (lineSample b line).map Prod.snd := by
  unfold lineCwnd lineSample
  split
  · rename_i t cwnd _
    cases b.float t <;> cases b.int cwnd <;> rfl
  · rfl

theorem lineTime_eq_map_lineSample {line : String} (h : misaligned b line = false) :
    lineTime b line = (lineSample b line).map Prod.fst := by
  unfold misaligned lineTime lineCwnd at h
  unfold lineTime lineSample
  split
  · rename_i t cwnd htok
    rw [htok] at h
    cases ht : b.float t <;> cases hc : b.int cwnd <;> simp_all
  · rfl

/-- **Each misaligned line puts `times` one ahead of `cwnds`.** -/
theorem length_filterMap_lineTime (lines : List String) :
    (lines.filterMap (lineTime b)).length =
      (lines.filterMap (lineCwnd b)).length + (lines.filter (misaligned b)).length := by
  induction lines with
  | nil => rfl
  | cons line lines ih =>
    have hsome := @lineTime_isSome_of_lineCwnd _ b line
    cases ht : lineTime b line <;> cases hc : lineCwnd b line <;>
      simp_all [List.filterMap_cons, List.filter_cons, misaligned] <;> omega

/-- `parse_cwnd_file` on a missing file: `exit(1)`. -/
theorem parseCwndFile_of_missing {filename : String} (h : fs filename = none) :
    parseCwndFile b fs filename = .error (.systemExit 1) := by
  rw [parseCwndFile, h]

theorem parseCwndFile_eq {filename content : String} (hfile : fs filename = some content) :
    parseCwndFile b fs filename =
      .ok ((readLines content).filterMap (lineTime b), (readLines content).filterMap (lineCwnd b)) := by
  simp only [parseCwndFile, hfile]
  rw [exec_forM_parseLine]
  rfl

/-- Without a misaligned line, the times and the windows are those of the lines' samples. -/
theorem filterMap_eq_samples {lines : List String} (h : ∀ line ∈ lines, misaligned b line = false) :
    lines.filterMap (lineTime b) = (lines.filterMap (lineSample b)).map Prod.fst ∧
      lines.filterMap (lineCwnd b) = (lines.filterMap (lineSample b)).map Prod.snd := by
  rw [List.map_filterMap, List.map_filterMap]
  exact ⟨List.filterMap_congr fun line hl => lineTime_eq_map_lineSample (h line hl),
    List.filterMap_congr fun line _ => lineCwnd_eq_map_lineSample line⟩

/-- **`parse_cwnd_file` on a present file** never raises. It returns every line's time and every
line's window, in file order: `times` is ahead of `cwnds` by the number of misaligned lines, and only
when there is none are the two lists the times and the windows of the lines' samples. -/
theorem parseCwndFile_spec (filename content : String) (hfile : fs filename = some content) :
    ∃ times cwnds, parseCwndFile b fs filename = .ok (times, cwnds) ∧
      times = (readLines content).filterMap (lineTime b) ∧
      cwnds = (readLines content).filterMap (lineCwnd b) ∧
      times.length = cwnds.length + ((readLines content).filter (misaligned b)).length ∧
      ((∀ line ∈ readLines content, misaligned b line = false) →
        times = ((readLines content).filterMap (lineSample b)).map Prod.fst ∧
        cwnds = ((readLines content).filterMap (lineSample b)).map Prod.snd) := by
  exact ⟨_, _, parseCwndFile_eq fs hfile, rfl, rfl, length_filterMap_lineTime _, filterMap_eq_samples⟩

/-- Two well-formed lines: the run returns. -/
theorem parseCwndFile_two_samples :
    ∃ times cwnds, parseCwndFile Builtins.decimal (fun _ => some "0.5 10\n1.0 12\n")
      "results/reno-equilibrium/cwnd_trace.txt" = .ok (times, cwnds) :=
  let ⟨times, cwnds, h, _⟩ := parseCwndFile_spec (fun _ => some "0.5 10\n1.0 12\n")
    "results/reno-equilibrium/cwnd_trace.txt" "0.5 10\n1.0 12\n" rfl
  ⟨times, cwnds, h⟩

/-- A time that converts and a window that does not, then a well-formed line: two times and one
window, and the second line's window is paired with the first line's time. -/
theorem parseCwndFile_misaligned_sample :
    ∃ t₁ t₂, decimalFloat "1.0" = some t₁ ∧ decimalFloat "2.0" = some t₂ ∧
      parseCwndFile Builtins.decimal (fun _ => some "1.0 2.5\n2.0 20\n")
        "results/reno-equilibrium/cwnd_trace.txt" = .ok ([t₁, t₂], [20]) :=
  ⟨_, _, rfl, rfl, rfl⟩

/-- The windows of the lines stay in the float range exactly when no line overflows. -/
theorem forall_filterMap_lineCwnd {lines : List String} :
    (∀ c ∈ lines.filterMap (lineCwnd b), b.isInf (b.ofRat c) = false) ↔
      ∀ line ∈ lines, overflows b line = false := by
  simp only [List.mem_filterMap, overflows]
  constructor
  · intro h line hl
    cases hc : lineCwnd b line with
    | none => rfl
    | some c => exact h c ⟨line, hl, hc⟩
  · rintro h c ⟨line, hl, hc⟩
    simpa [hc] using h line hl

/-- `plt.plot` accepts the parsed lists exactly when no line is misaligned and no window overflows. -/
theorem plotCwnd_eq_ok_iff (lines : List String) :
    plotCwnd b.toFloatArith (lines.filterMap (lineTime b)) (lines.filterMap (lineCwnd b)) = .ok () ↔
      (∀ line ∈ lines, misaligned b line = false) ∧ ∀ line ∈ lines, overflows b line = false := by
  have hk : (lines.filter (misaligned b)).length = 0 ↔ ∀ line ∈ lines, misaligned b line = false := by
    simp only [List.length_eq_zero, List.filter_eq_nil_iff, Bool.not_eq_true]
  rw [plotCwnd, length_filterMap_lineTime, ← hk, ← forall_filterMap_lineCwnd]
  by_cases hm : (lines.filter (misaligned b)).length = 0
  · rw [if_pos (by omega)]
    by_cases ho : ∀ c ∈ lines.filterMap (lineCwnd b), b.isInf (b.ofRat c) = false
    · rw [b.mapM_intToFloat_of_finite ho]
      exact iff_of_true rfl ⟨hm, ho⟩
    · rw [b.mapM_intToFloat_of_inf (by simpa only [not_forall, Bool.not_eq_false, exists_prop] using ho)]
      exact iff_of_false (fun h => by cases h) fun h => ho h.2
  · rw [if_neg (by omega)]
    exact iff_of_false (fun h => by cases h) fun h => hm h.1

/-- A failed simulation: `exit(1)`. -/
theorem main_of_failed : main b fs false = .error (.systemExit 1) := rfl

/-- After a successful simulation, the script plots the lists `parse_cwnd_file` returned. -/
theorem main_eq {content : String} (hfile : fs "results/reno-equilibrium/cwnd_trace.txt" = some content) :
    main b fs true =
      plotCwnd b.toFloatArith ((readLines content).filterMap (lineTime b))
        ((readLines content).filterMap (lineCwnd b)) >>=
        fun _ => pure (((readLines content).filterMap (lineTime b)).length,
          ((readLines content).filterMap (lineTime b), (readLines content).filterMap (lineCwnd b))) := by
  simp only [main, Bool.not_true, parseCwndFile_eq fs hfile, ok_bind]
  rfl

/-- **A misaligned line makes the script raise `ValueError`** in `plt.plot`, after the simulation
and the parse succeed. -/
theorem main_of_misaligned {content : String}
    (hfile : fs "results/reno-equilibrium/cwnd_trace.txt" = some content)
    (hbad : ∃ line ∈ readLines content, misaligned b line = true) :
    main b fs true = .error .valueError := by
  have hlen := @length_filterMap_lineTime _ b (readLines content)
  have hne : ((readLines content).filterMap (lineTime b)).length ≠
      ((readLines content).filterMap (lineCwnd b)).length := by
    obtain ⟨line, hl, hm⟩ := hbad
    have hpos : 0 < ((readLines content).filter (misaligned b)).length :=
      List.length_pos_of_mem (List.mem_filter.mpr ⟨hl, hm⟩)
    omega
  have hplot : plotCwnd b.toFloatArith ((readLines content).filterMap (lineTime b))
      ((readLines content).filterMap (lineCwnd b)) = .error .valueError := if_neg hne
  rw [main_eq fs hfile, hplot]
  rfl

/-- The trace `1.0 2.5`, `2.0 20`: the script stops in `plt.plot`. -/
theorem main_misaligned_trace :
    main Builtins.decimal (fun _ => some "1.0 2.5\n2.0 20\n") true = .error .valueError :=
  main_of_misaligned (fun _ => some "1.0 2.5\n2.0 20\n") rfl ⟨"1.0 2.5\n", by decide, by decide⟩

/-- **When the script gets to `plt.show`**: exactly when the simulation succeeds, the trace file
exists, none of its lines is misaligned and no window is past the float range. It then prints the
number of the lines' samples and plots their times against their windows, so every time is paired
with its own line's window. -/
theorem main_eq_ok_iff {simulationOk : Bool} {r : ℕ × Series F} :
    main b fs simulationOk = .ok r ↔ simulationOk = true ∧
      ∃ content, fs "results/reno-equilibrium/cwnd_trace.txt" = some content ∧
        (∀ line ∈ readLines content, misaligned b line = false) ∧
        (∀ line ∈ readLines content, overflows b line = false) ∧
        r = (((readLines content).filterMap (lineSample b)).length,
          ((readLines content).filterMap (lineSample b)).map Prod.fst,
          ((readLines content).filterMap (lineSample b)).map Prod.snd) := by
  cases simulationOk with
  | false => simp [main_of_failed]
  | true =>
    cases hfile : fs "results/reno-equilibrium/cwnd_trace.txt" with
    | none => simp [main, parseCwndFile_of_missing fs hfile]
    | some content =>
      rw [main_eq fs hfile]
      constructor
      · intro h
        obtain ⟨⟨⟩, hplot, hr⟩ := bind_eq_ok.mp h
        obtain ⟨haligned, hfinite⟩ := (plotCwnd_eq_ok_iff _).mp hplot
        obtain ⟨htimes, hcwnds⟩ := filterMap_eq_samples haligned
        refine ⟨rfl, content, rfl, haligned, hfinite, ?_⟩
        rw [pure_eq_ok] at hr
        rw [← Except.ok.inj hr, htimes, hcwnds, List.length_map]
      · rintro ⟨-, _, ⟨⟩, haligned, hfinite, rfl⟩
        obtain ⟨htimes, hcwnds⟩ := filterMap_eq_samples haligned
        rw [(plotCwnd_eq_ok_iff _).mpr ⟨haligned, hfinite⟩, ok_bind, htimes, hcwnds, List.length_map]
        rfl

end Ns3Results.RenoEquilibrium
