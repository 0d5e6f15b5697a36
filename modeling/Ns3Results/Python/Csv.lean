import Ns3Results.Python.Text
import Mathlib.Data.List.Forall2

/-! # `csv.DictReader`

The tabular parsers of `tcp-multi-rtt` and `og-sim-2` read through `csv.DictReader`, which matches
cells to fields by the header's names, not by position. This file embeds the reader over the rows of
`csv.reader` (a parameter, `Builtins.csvReader`), and proves the one fact the parsers rely on: every
field the header names is a key of every row, so `row['Name']` never raises `KeyError` once the
header names `Name` — a short row holds `None` there instead.

* **`mkRow`** — `dict(zip(fieldnames, row))`, then `restval` (`None`) for the missing cells.
* **`dictReader`**, **`Builtins.dictRows`** — the header, then one dict per non-empty row.
* **`DictRow.field`** — the text a row holds for a field (`none` when missing), the vocabulary the
  parsers' specifications are written in.
* **`dictRows_field`** — on a header that names no field twice, the rows are the non-empty lines
  after the header, in order, each holding its `i`-th cell under the header's `i`-th name. -/

namespace Ns3Results

/-- **A `csv.DictReader` row**: field name ↦ cell, `None` for a cell the row is short of. -/
abbrev DictRow := PyDict String (Option String)

namespace PyDict

variable {κ ν : Type} [DecidableEq κ]

theorem mem_keys_setItem {d : PyDict κ ν} {k k' : κ} {v : ν} :
    k' ∈ (d.setItem k v).keys ↔ k' = k ∨ k' ∈ d.keys := by
  unfold setItem
  split_ifs with h
  · rw [contains_iff] at h
    simp only [keys_def, List.map_map, List.mem_map, Function.comp_def] at h ⊢
    constructor
    · rintro ⟨p, hp, rfl⟩
      split_ifs with hk
      · exact .inl rfl
      · exact .inr ⟨p, hp, rfl⟩
    · rintro (rfl | ⟨p, hp, rfl⟩)
      · obtain ⟨p, hp, rfl⟩ := h
        exact ⟨p, hp, by simp⟩
      · refine ⟨p, hp, ?_⟩
        split_ifs with hk <;> simp [hk]
  · simp [or_comm]

/-- A key present in a dict has a value there. -/
theorem getItem_ok_of_mem_keys {d : PyDict κ ν} {k : κ} (h : k ∈ d.keys) : ∃ v, d.getItem k = .ok v := by
  obtain ⟨items⟩ := d
  induction items with
  | nil => simp at h
  | cons p ps ih =>
    obtain ⟨k', v'⟩ := p
    by_cases hk : k = k'
    · subst hk; exact ⟨v', by simp [getItem, List.lookup_cons]⟩
    · simp only [keys_def, List.map_cons, List.mem_cons, hk, false_or] at h
      obtain ⟨v, hv⟩ := ih h
      exact ⟨v, by simpa [getItem, List.lookup_cons, beq_false_of_ne hk] using hv⟩

end PyDict

/-- **One `DictReader` row**: `dict(zip(fieldnames, row))`, then `d[key] = restval` (`None`) for each
field past the row's end. The cells past the header's end go under the key `None` (`restkey`), which
no script reads; they are left out. -/
def mkRow (fieldnames row : List String) : DictRow :=
  (fieldnames.drop row.length).foldl (fun d k => d.setItem k none)
    ((fieldnames.zip row).foldl (fun d kv => d.setItem kv.1 (some kv.2)) PyDict.empty)

/-- **`csv.DictReader` over the rows of `csv.reader`**: the first row names the fields; each later
row but the empty ones (`[]`) becomes a dict. With no first row, iteration just ends. -/
def dictReader (rows : PyIter (List String)) : PyIter DictRow :=
  match rows.items with
  | [] => ⟨[], rows.raises⟩
  | fieldnames :: body => ⟨(body.filter (· ≠ [])).map (mkRow fieldnames), rows.raises⟩

/-- `csv.DictReader(f)` for a file with text `content`. -/
def Builtins.dictRows {F : Type} (b : Builtins F) (content : String) : PyIter DictRow :=
  dictReader (b.csvReader (readLines content))

/-- The header of a file, as `DictReader.fieldnames` reads it (`[]` when there is none). -/
def Builtins.fieldnames {F : Type} (b : Builtins F) (content : String) : List String :=
  ((b.csvReader (readLines content)).items.head?).getD []

/-- **The text of field `k` in a row**: `none` when the row lacks the field or is short of it. -/
def DictRow.field (row : DictRow) (k : String) : Option String := (row.items.lookup k).bind id

theorem foldl_setItem_keys {α ν : Type} (key : α → String) (val : α → ν) (l : List α)
    (d : PyDict String ν) (k : String) :
    k ∈ (l.foldl (fun d a => d.setItem (key a) (val a)) d).keys ↔ k ∈ d.keys ∨ ∃ a ∈ l, key a = k := by
  induction l generalizing d with
  | nil => simp
  | cons a l ih =>
    rw [List.foldl_cons, ih, PyDict.mem_keys_setItem]
    simp only [List.mem_cons, exists_eq_or_imp]
    tauto

/-- A field of the header has a cell in the row, or lies past the row's end. -/
theorem mem_zip_or_drop : ∀ {fieldnames : List String} (row : List String) {k : String},
    k ∈ fieldnames → (∃ p ∈ fieldnames.zip row, p.1 = k) ∨ k ∈ fieldnames.drop row.length
  | [], _, _, h => by simp at h
  | _ :: _, [], _, h => .inr h
  | a :: fs, c :: row, k, h => by
    rcases List.mem_cons.mp h with rfl | h
    · exact .inl ⟨(k, c), by simp, rfl⟩
    · rcases mem_zip_or_drop row h with ⟨p, hp, hpk⟩ | h
      · exact .inl ⟨p, by simp [hp], hpk⟩
      · exact .inr h

/-- **Every field the header names is a key of every row.** -/
theorem mem_keys_mkRow {fieldnames : List String} (row : List String) {k : String} (h : k ∈ fieldnames) :
    k ∈ (mkRow fieldnames row).keys := by
  unfold mkRow
  rw [foldl_setItem_keys (fun k => k) (fun _ => none), foldl_setItem_keys Prod.fst (fun kv => some kv.2)]
  rcases mem_zip_or_drop row h with hz | hd
  · exact .inl (.inr hz)
  · exact .inr ⟨k, hd, rfl⟩

/-- … and only those: a row's keys are names of the header. -/
theorem mem_fieldnames_of_mem_keys {fieldnames row : List String} {k : String}
    (h : k ∈ (mkRow fieldnames row).keys) : k ∈ fieldnames := by
  unfold mkRow at h
  rw [foldl_setItem_keys (fun k => k) (fun _ => none), foldl_setItem_keys Prod.fst (fun kv => some kv.2)] at h
  rcases h with (h | ⟨p, hp, rfl⟩) | ⟨k', hk', rfl⟩
  · exact absurd h (List.not_mem_nil _)
  · exact (List.of_mem_zip hp).1
  · exact List.mem_of_mem_drop hk'

/-- So `row[k]` succeeds on every row, with the row's cell for `k`. -/
theorem getItem_mkRow {fieldnames row : List String} {k : String} (h : k ∈ fieldnames) :
    (mkRow fieldnames row).getItem k = .ok ((mkRow fieldnames row).field k) := by
  obtain ⟨v, hv⟩ := PyDict.getItem_ok_of_mem_keys (mem_keys_mkRow row h)
  unfold PyDict.getItem at hv
  split at hv <;> cases hv
  rename_i hl
  simp [PyDict.getItem, DictRow.field, hl]

/-- Every row `DictReader` yields is built on the header. -/
theorem mem_dictRows {F : Type} {b : Builtins F} {content : String} {row : DictRow}
    (h : row ∈ (b.dictRows content).items) : ∃ cells, row = mkRow (b.fieldnames content) cells := by
  unfold Builtins.dictRows Builtins.fieldnames dictReader at *
  revert h
  cases (b.csvReader (readLines content)).items with
  | nil => simp
  | cons fieldnames body =>
    simp only [List.mem_map, List.head?_cons, Option.getD_some]
    rintro ⟨cells, -, rfl⟩
    exact ⟨cells, rfl⟩

/-- **`row[k]` on a file whose header names `k`** is the row's cell for `k`, never a `KeyError`. -/
theorem getItem_of_dictRows {F : Type} {b : Builtins F} {content k : String} {row : DictRow}
    (hk : k ∈ b.fieldnames content) (h : row ∈ (b.dictRows content).items) :
    row.getItem k = .ok (row.field k) := by
  obtain ⟨cells, rfl⟩ := mem_dictRows h
  exact getItem_mkRow hk

/-- `zip` stops at the shorter list. -/
theorem map_fst_zip_eq_take {α β : Type} :
    ∀ (l₁ : List α) (l₂ : List β), (l₁.zip l₂).map Prod.fst = l₁.take l₂.length
  | [], _ => by simp
  | _ :: _, [] => rfl
  | a :: l₁, b :: l₂ => by simp [map_fst_zip_eq_take l₁ l₂]

/-- The keys `dict(zip(fieldnames, row))` sets: the header's first names, one per cell. -/
theorem keys_zip_cells (fieldnames cells : List String) :
    ((fieldnames.zip cells).map (fun kv => (kv.1, some kv.2))).map Prod.fst =
      fieldnames.take cells.length := by
  rw [List.map_map]
  exact map_fst_zip_eq_take _ _

/-- On a header that names no field twice, a row's entries are the cells under the header's first
names, then `None` under the rest. -/
theorem mkRow_items {fieldnames : List String} (cells : List String) (hnd : fieldnames.Nodup) :
    (mkRow fieldnames cells).items = (fieldnames.zip cells).map (fun kv => (kv.1, some kv.2)) ++
      (fieldnames.drop cells.length).map fun k => (k, none) := by
  have hzip : ((fieldnames.zip cells).map Prod.fst).Nodup := by
    rw [map_fst_zip_eq_take]
    exact hnd.sublist (List.take_sublist _ _)
  have hfirst : ((fieldnames.zip cells).foldl (fun d kv => d.setItem kv.1 (some kv.2))
      (PyDict.empty : DictRow)).items = (fieldnames.zip cells).map (fun kv => (kv.1, some kv.2)) :=
    PyDict.foldl_setItem_of_nodup Prod.fst (fun kv => some kv.2) _ PyDict.empty hzip
      fun _ _ => List.not_mem_nil _
  unfold mkRow
  refine (PyDict.foldl_setItem_of_nodup (fun k => k) (fun _ => none) _ _
    (by simpa using hnd.sublist (List.drop_sublist _ _)) fun k hk hk' => ?_).trans (by rw [hfirst])
  rw [PyDict.keys_def, hfirst, keys_zip_cells] at hk'
  exact List.disjoint_take_drop hnd le_rfl hk' hk

/-- **`DictReader` matches cells to fields by position**: on a header that names no field twice, a
row holds its `i`-th cell under the header's `i`-th name, and `None` there when it is shorter. -/
theorem field_mkRow {fieldnames : List String} (cells : List String) (hnd : fieldnames.Nodup) {i : ℕ}
    (hi : i < fieldnames.length) : (mkRow fieldnames cells).field fieldnames[i] = cells[i]? := by
  have hkeys : ((mkRow fieldnames cells).items.map Prod.fst).Nodup := by
    have hdrop : ((fieldnames.drop cells.length).map fun k => ((k, none) : String × Option String)).map
        Prod.fst = fieldnames.drop cells.length := by
      rw [List.map_map]
      exact List.map_id _
    rwa [mkRow_items cells hnd, List.map_append, keys_zip_cells, hdrop, List.take_append_drop]
  have hmem : (fieldnames[i], cells[i]?) ∈ (mkRow fieldnames cells).items := by
    rw [mkRow_items cells hnd]
    by_cases hc : i < cells.length
    · refine List.mem_append_left _ (List.mem_map.mpr
        ⟨(fieldnames[i], cells[i]), ?_, by rw [List.getElem?_eq_getElem hc]⟩)
      exact List.mem_iff_getElem.mpr
        ⟨i, by rw [List.length_zip]; exact Nat.lt_min.mpr ⟨hi, hc⟩, List.getElem_zip⟩
    · refine List.mem_append_right _ (List.mem_map.mpr
        ⟨fieldnames[i], ?_, by rw [List.getElem?_eq_none (not_lt.mp hc)]⟩)
      exact List.mem_drop_iff_getElem.mpr
        ⟨i - cells.length, by omega, by simp only [Nat.add_sub_cancel' (not_lt.mp hc)]⟩
  simp [DictRow.field, PyDict.lookup_of_mem hkeys hmem]

/-- **What `csv.DictReader` yields** on a file whose header names no field twice: one row per
non-empty line after the header, in order, holding under the header's `i`-th name the line's `i`-th
cell, and `None` when the line is shorter. -/
theorem dictRows_field {F : Type} (b : Builtins F) (content : String) (hnd : (b.fieldnames content).Nodup) :
    List.Forall₂ (fun cells (row : DictRow) => ∀ i (hi : i < (b.fieldnames content).length),
        row.field (b.fieldnames content)[i] = cells[i]?)
      (((b.csvReader (readLines content)).items.drop 1).filter (· ≠ [])) (b.dictRows content).items := by
  unfold Builtins.dictRows Builtins.fieldnames dictReader at *
  revert hnd
  cases (b.csvReader (readLines content)).items with
  | nil => exact fun _ => .nil
  | cons header body =>
    intro hnd
    dsimp only [List.head?_cons, Option.getD_some, List.drop_succ_cons, List.drop_zero] at hnd ⊢
    rw [List.forall₂_map_right_iff, List.forall₂_same]
    exact fun cells _ i hi => field_mkRow cells hnd hi

/-- A header of two fields, a full line and a short one. -/
theorem dictRows_field_short_line :
    List.Forall₂ (fun cells (row : DictRow) =>
        ∀ i (hi : i < (Builtins.decimal.fieldnames "a,b\n1,2\n3\n").length),
          row.field (Builtins.decimal.fieldnames "a,b\n1,2\n3\n")[i] = cells[i]?)
      (((Builtins.decimal.csvReader (readLines "a,b\n1,2\n3\n")).items.drop 1).filter (· ≠ []))
      (Builtins.decimal.dictRows "a,b\n1,2\n3\n").items :=
  dictRows_field Builtins.decimal "a,b\n1,2\n3\n" (by decide)

/-! ## Reading a table row by row -/

/-- **`for row in reader: records.append(conv(row))`**: one converted record per row, in order. -/
def appendRecords {α : Type} (conv : DictRow → PyResult α) (rows : PyIter DictRow) :
    PyResult (List α) :=
  rows.foldlM (fun records row => do pure (records ++ [← conv row])) []

/-- **The loop of a row-by-row reader**, given what converting one row does (its result as an
`Option`, and the exceptions it may raise): every row's record when every row converts and the rows
end without an error; an exception of the converter when some row does not convert. -/
theorem appendRecords_spec {α : Type} {conv : DictRow → PyResult α} {record : DictRow → Option α}
    {P : PyExc → Prop} {rows : PyIter DictRow}
    (h : ∀ row ∈ rows.items, (conv row).toOption = record row ∧ RaisesOnly P (conv row)) :
    ((∀ row ∈ rows.items, (record row).isSome) → rows.raises = none →
        appendRecords conv rows = .ok (rows.items.filterMap record)) ∧
      ((∃ row ∈ rows.items, record row = none) → ∃ e, P e ∧ appendRecords conv rows = .error e) := by
  constructor
  · intro hall hraise
    have hloop := foldlM_eq_ok (fun records row => do pure (records ++ [← conv row]))
      (fun acc row => acc ++ (record row).toList) [] fun acc row hr => by
        obtain ⟨r, hr'⟩ := Option.isSome_iff_exists.mp (hall row hr)
        dsimp only
        rw [eq_ok_iff_toOption.mpr (((h row hr).1).trans hr')]
        simp [hr']
    rw [appendRecords, PyIter.foldlM_eq_ok.mpr ⟨hloop, hraise⟩, foldl_append_toList, List.nil_append]
  · rintro ⟨bad, hbad, hnone⟩
    have hfail : ∀ records : List α, ∃ e, (do pure (records ++ [← conv bad]) : PyResult _) = .error e :=
      fun _ => by
        cases hc : conv bad with
        | error e => exact ⟨e, rfl⟩
        | ok r => have := (h bad hbad).1; rw [hc, hnone] at this; cases this
    obtain ⟨e, he, hloop⟩ := foldlM_eq_error P (fun records row => do pure (records ++ [← conv row]))
      [] ⟨bad, hbad, hfail⟩
      fun _ row hr => .bind (h row hr).2 fun _ => .ok _
    exact ⟨e, he, PyIter.foldlM_of_error hloop⟩

/-- **Inversion of the row loop**: from any list of records, a loop that returns has appended, row by
row, what converting that row returned. -/
theorem forall₂_of_foldlM_append {α : Type} {conv : DictRow → PyResult α} :
    ∀ {rows : List DictRow} {acc records : List α},
      rows.foldlM (fun records row => do pure (records ++ [← conv row])) acc = .ok records →
        ∃ rs, records = acc ++ rs ∧ List.Forall₂ (fun row r => conv row = .ok r) rows rs
  | [], acc, _, h => by cases h; exact ⟨[], (List.append_nil acc).symm, .nil⟩
  | row :: rows, acc, _, h => by
    rw [List.foldlM_cons] at h
    obtain ⟨acc', hstep, h⟩ := bind_eq_ok.mp h
    obtain ⟨r, hr, hacc⟩ := bind_eq_ok.mp hstep
    cases hacc
    obtain ⟨rs, rfl, hrs⟩ := forall₂_of_foldlM_append h
    exact ⟨r :: rs, (List.append_cons acc r rs).symm, .cons hr hrs⟩

/-- **When a row-by-row reader returns**, the rows ended without an error and it holds one record per
row, each what converting that row returned. -/
theorem forall₂_of_appendRecords {α : Type} {conv : DictRow → PyResult α} {rows : PyIter DictRow}
    {records : List α} (h : appendRecords conv rows = .ok records) :
    List.Forall₂ (fun row r => conv row = .ok r) rows.items records ∧ rows.raises = none := by
  obtain ⟨hloop, hraise⟩ := PyIter.foldlM_eq_ok.mp h
  obtain ⟨rs, rfl, hrs⟩ := forall₂_of_foldlM_append hloop
  exact ⟨hrs, hraise⟩

end Ns3Results
