import Mathlib.Data.List.Basic

/-! # The Python runtime the result scripts run on

The three `run_and_plot.py` scripts are straight-line Python over lists, dicts and floats. This file
fixes how their primitive operations are embedded, once, so that every script module reads as a
line-by-line translation:

* **`PyExc` / `PyResult`** — an uncaught exception is a value: a Python computation is
  `Except PyExc α`. Python ints are `ℤ`, lengths `ℕ`; floats are a parameter (`FloatArith`).
* **`getItem`** — `xs[i]`, raising `IndexError` past the end; `mapM` over `List.range n` is the list
  comprehension `[... xs[i] ... for i in range(n)]`.
* **`PyDict`** — an insertion-ordered dict as an association list (`d[k] = v`, `k in d`, `d[k]`).
* **`PyM`** — statements that mutate local lists inside `try`: `ExceptT PyExc (StateM σ)`, whose
  state survives a raised exception, as a Python mutation does. -/

namespace Ns3Results

/-- **The Python exceptions the scripts raise or catch.** `systemExit n` is `exit(n)`. -/
inductive PyExc
  | valueError
  | typeError
  | keyError
  | indexError
  | zeroDivisionError
  | overflowError
  | stopIteration
  | csvError
  | systemExit (code : ℕ)
  deriving DecidableEq, Repr

/-- A Python computation: its value, or the exception it raises. -/
abbrev PyResult (α : Type) := Except PyExc α

variable {α β γ : Type}

/-! ## (1) Peeling `PyResult` pipelines -/

/-- **Bind inversion**: a pipeline succeeds exactly when its first step does and the rest succeeds
from that value. -/
theorem bind_eq_ok {x : PyResult α} {f : α → PyResult β} {b : β} :
    x >>= f = .ok b ↔ ∃ a, x = .ok a ∧ f a = .ok b := by
  cases x <;> simp [bind, Except.bind]

@[simp] theorem ok_bind (a : α) (f : α → PyResult β) : (Except.ok a >>= f) = f a := rfl

@[simp] theorem error_bind (e : PyExc) (f : α → PyResult β) :
    (Except.error e >>= f) = .error e := rfl

@[simp] theorem pure_eq_ok (a : α) : (pure a : PyResult α) = .ok a := rfl

/-- **Exception footprint**: every exception `x` can raise satisfies `P`. -/
def RaisesOnly (P : PyExc → Prop) (x : PyResult α) : Prop := ∀ e, x = .error e → P e

theorem RaisesOnly.ok {P : PyExc → Prop} (a : α) : RaisesOnly P (.ok a) := fun _ h => by cases h

theorem RaisesOnly.bind {P : PyExc → Prop} {x : PyResult α} {f : α → PyResult β}
    (hx : RaisesOnly P x) (hf : ∀ a, RaisesOnly P (f a)) : RaisesOnly P (x >>= f) := by
  intro e he
  cases x with
  | error e' => cases he; exact hx _ rfl
  | ok a => exact hf a e he

/-- `Except.toOption` forgets which exception was raised, and commutes with `>>=`. -/
@[simp] theorem toOption_bind (x : PyResult α) (f : α → PyResult β) :
    (x >>= f).toOption = x.toOption.bind fun a => (f a).toOption := by
  cases x <;> rfl

@[simp] theorem toOption_ok (a : α) : (Except.ok a : PyResult α).toOption = some a := rfl

@[simp] theorem toOption_error (e : PyExc) : (Except.error e : PyResult α).toOption = none := rfl

theorem eq_ok_iff_toOption {x : PyResult α} {a : α} : x = .ok a ↔ x.toOption = some a := by
  cases x <;> simp

/-- **`mapM` succeeds pointwise**: when every element's step returns `g a`, the loop returns the
mapped list. -/
theorem mapM_eq_ok {l : List α} {f : α → PyResult β} {g : α → β}
    (h : ∀ a ∈ l, f a = .ok (g a)) : l.mapM f = .ok (l.map g) := by
  induction l with
  | nil => rfl
  | cons a l ih =>
    simp only [List.mapM_cons, List.mem_cons, forall_eq_or_imp] at h ⊢
    rw [h.1, ok_bind, ih h.2]
    rfl

/-- **A loop `[f(a) for a in l]` with a failing step raises**: when some step raises, and every
exception any step raises satisfies `P`, the loop raises an exception satisfying `P`. -/
theorem mapM_error_of_mem {l : List α} {f : α → PyResult β} (P : PyExc → Prop)
    (hex : ∃ a ∈ l, ∃ e, f a = .error e) (honly : ∀ a ∈ l, RaisesOnly P (f a)) :
    ∃ e, P e ∧ l.mapM f = .error e := by
  induction l with
  | nil => simp at hex
  | cons a l ih =>
    rw [List.mapM_cons]
    cases hfa : f a with
    | error e => exact ⟨e, honly a (List.mem_cons_self _ _) e hfa, rfl⟩
    | ok b =>
      obtain ⟨a', ha', hfa'⟩ := hex
      have ha'l : a' ∈ l := by
        rcases List.mem_cons.mp ha' with rfl | h
        · obtain ⟨e, he⟩ := hfa'
          rw [hfa] at he
          cases he
        · exact h
      obtain ⟨e, he, hl⟩ := ih ⟨a', ha'l, hfa'⟩ fun x hx => honly x (List.mem_cons_of_mem _ hx)
      exact ⟨e, he, by rw [ok_bind, hl]; rfl⟩

/-- … and when every step raises only `e`, it raises `e`. -/
theorem mapM_eq_error {l : List α} {f : α → PyResult β} {e : PyExc}
    (hex : ∃ a ∈ l, f a = .error e) (honly : ∀ a ∈ l, RaisesOnly (· = e) (f a)) :
    l.mapM f = .error e := by
  obtain ⟨a, ha, hfa⟩ := hex
  obtain ⟨e', rfl, h⟩ := mapM_error_of_mem (· = e) ⟨a, ha, e, hfa⟩ honly
  exact h

@[simp] theorem mapM_pure (l : List α) (g : α → β) :
    l.mapM (fun a => (pure (g a) : PyResult β)) = .ok (l.map g) :=
  mapM_eq_ok fun _ _ => rfl

/-- **`mapM` returns when every step does**, each result related to its item as its step says. -/
theorem mapM_ok_forall₂ {l : List α} {f : α → PyResult β} {Q : α → β → Prop}
    (h : ∀ a ∈ l, ∃ b, f a = .ok b ∧ Q a b) : ∃ r, l.mapM f = .ok r ∧ List.Forall₂ Q l r := by
  induction l with
  | nil => exact ⟨[], rfl, .nil⟩
  | cons a l ih =>
    obtain ⟨b, hb, hq⟩ := h a (List.mem_cons_self _ _)
    obtain ⟨r, hr, hqs⟩ := ih fun x hx => h x (List.mem_cons_of_mem _ hx)
    exact ⟨b :: r, by rw [List.mapM_cons, hb, ok_bind, hr]; rfl, .cons hq hqs⟩

theorem mapM_congr {l : List α} {f g : α → PyResult β} (h : ∀ a ∈ l, f a = g a) :
    l.mapM f = l.mapM g := by
  induction l with
  | nil => rfl
  | cons a l ih =>
    simp only [List.mapM_cons, h a (List.mem_cons_self _ _),
      ih fun x hx => h x (List.mem_cons_of_mem _ hx)]

theorem mapM_map (l : List α) (f : α → β) (g : β → PyResult γ) :
    (l.map f).mapM g = l.mapM (fun a => g (f a)) := by
  induction l with
  | nil => rfl
  | cons a l ih => simp only [List.map_cons, List.mapM_cons, ih]

theorem RaisesOnly.map {P : PyExc → Prop} {x : PyResult α} (f : α → β) (h : RaisesOnly P x) :
    RaisesOnly P (f <$> x) := by
  intro e he
  cases x with
  | error e' => cases he; exact h _ rfl
  | ok a => cases he

theorem RaisesOnly.foldlM {P : PyExc → Prop} {l : List α} {f : β → α → PyResult β} {init : β}
    (h : ∀ acc, ∀ a ∈ l, RaisesOnly P (f acc a)) : RaisesOnly P (l.foldlM f init) := by
  induction l generalizing init with
  | nil => exact .ok _
  | cons a l ih =>
    rw [List.foldlM_cons]
    exact .bind (h init a (List.mem_cons_self _ _)) fun _ =>
      ih fun acc x hx => h acc x (List.mem_cons_of_mem _ hx)

theorem RaisesOnly.mapM {P : PyExc → Prop} {l : List α} {f : α → PyResult β}
    (h : ∀ a ∈ l, RaisesOnly P (f a)) : RaisesOnly P (l.mapM f) := by
  induction l with
  | nil => exact .ok _
  | cons a l ih =>
    rw [List.mapM_cons]
    exact .bind (h a (List.mem_cons_self _ _)) fun _ =>
      .bind (ih fun x hx => h x (List.mem_cons_of_mem _ hx)) fun _ => .ok _

/-- **A loop whose every step succeeds** runs as the pure fold of those steps. -/
theorem foldlM_eq_ok {l : List α} (f : β → α → PyResult β) (g : β → α → β) (init : β)
    (h : ∀ acc, ∀ a ∈ l, f acc a = .ok (g acc a)) : l.foldlM f init = .ok (l.foldl g init) := by
  induction l generalizing init with
  | nil => rfl
  | cons a l ih =>
    rw [List.foldlM_cons, h init a (List.mem_cons_self _ _), ok_bind,
      ih _ fun acc a ha => h acc a (List.mem_cons_of_mem _ ha)]
    rfl

theorem foldlM_congr {l : List α} {f g : β → α → PyResult β} (init : β)
    (h : ∀ acc, ∀ a ∈ l, f acc a = g acc a) : l.foldlM f init = l.foldlM g init := by
  induction l generalizing init with
  | nil => rfl
  | cons a l ih =>
    rw [List.foldlM_cons, List.foldlM_cons, h init a (List.mem_cons_self _ _)]
    congr 1
    funext acc
    exact ih acc fun acc' x hx => h acc' x (List.mem_cons_of_mem _ hx)

/-- **A loop with a failing step raises**: when some step raises from every accumulator, and every
exception any step raises satisfies `P`, the loop raises an exception satisfying `P`. -/
theorem foldlM_eq_error {l : List α} (P : PyExc → Prop) (f : β → α → PyResult β) (init : β)
    (hex : ∃ a ∈ l, ∀ acc, ∃ e, f acc a = .error e)
    (hP : ∀ acc, ∀ a ∈ l, RaisesOnly P (f acc a)) :
    ∃ e, P e ∧ l.foldlM f init = .error e := by
  induction l generalizing init with
  | nil => simp at hex
  | cons a l ih =>
    rw [List.foldlM_cons]
    cases hfa : f init a with
    | error e => exact ⟨e, hP init a (List.mem_cons_self _ _) e hfa, rfl⟩
    | ok acc =>
      obtain ⟨a', ha', hfail⟩ := hex
      have ha'l : a' ∈ l := by
        rcases List.mem_cons.mp ha' with rfl | h
        · obtain ⟨e, he⟩ := hfail init; rw [hfa] at he; cases he
        · exact h
      rw [ok_bind]
      exact ih acc ⟨a', ha'l, hfail⟩ (fun acc a ha => hP acc a (List.mem_cons_of_mem _ ha))

/-- Appending one optional item per element collects the present ones. -/
theorem foldl_append_toList (h : α → Option γ) (l : List α) (init : List γ) :
    l.foldl (fun acc a => acc ++ (h a).toList) init = init ++ l.filterMap h := by
  induction l generalizing init with
  | nil => simp
  | cons a l ih => cases ha : h a <;> simp [ih, ha]

/-- Appending both halves of one optional pair per element collects the present pairs, split. -/
theorem foldl_append_pairs (h : α → Option (β × γ)) (l : List α) (init : List β × List γ) :
    l.foldl (fun acc a => (acc.1 ++ ((h a).map Prod.fst).toList, acc.2 ++ ((h a).map Prod.snd).toList))
        init = (init.1 ++ (l.filterMap h).map Prod.fst, init.2 ++ (l.filterMap h).map Prod.snd) := by
  induction l generalizing init with
  | nil => simp
  | cons a l ih => cases ha : h a <;> simp [ih, ha]

/-! ## (2) Lists: `xs[i]`, `xs[-1]` -/

/-- **`xs[i]`** for a non-negative index: `IndexError` past the end. -/
def getItem (xs : List α) (i : ℕ) : PyResult α :=
  match xs.get? i with
  | some a => .ok a
  | none => .error .indexError

@[simp] theorem getItem_cons_zero (a : α) (l : List α) : getItem (a :: l) 0 = .ok a := rfl

theorem getItem_of_lt [Inhabited α] {xs : List α} {i : ℕ} (h : i < xs.length) :
    getItem xs i = .ok (xs.getD i default) := by
  simp [getItem, List.get?_eq_getElem?, List.getElem?_eq_getElem h, List.getD_eq_getElem?_getD]

theorem getItem_of_le {xs : List α} {i : ℕ} (h : xs.length ≤ i) :
    getItem xs i = .error .indexError := by
  simp [getItem, List.get?_eq_getElem?, List.getElem?_eq_none h]

/-- `getItem` raises nothing but `IndexError`. -/
theorem getItem_eq_error {xs : List α} {i : ℕ} {e : PyExc} (h : getItem xs i = .error e) :
    e = .indexError := by
  unfold getItem at h
  split at h <;> cases h
  rfl

theorem getItem_raisesOnly (xs : List α) (i : ℕ) : RaisesOnly (· = .indexError) (getItem xs i) :=
  fun _ h => getItem_eq_error h

/-- **`xs[-1]`**: the last element, `IndexError` on an empty list. -/
def getLast (xs : List α) : PyResult α :=
  match xs.getLast? with
  | some a => .ok a
  | none => .error .indexError

theorem getLast_of_ne_nil {xs : List α} (h : xs ≠ []) : getLast xs = .ok (xs.getLast h) := by
  simp [getLast, List.getLast?_eq_getLast xs h]

/-- Reading the first `n` positions in order gives the first `n` elements. -/
theorem map_range_getD [Inhabited α] {xs : List α} {n : ℕ} (h : n ≤ xs.length) :
    (List.range n).map (fun i => xs.getD i default) = xs.take n := by
  apply List.ext_getElem <;> simp [List.getD_eq_getElem?_getD]
  · omega
  · intro i hi _
    rw [List.getElem?_eq_getElem (by omega)]
    rfl

/-- **The comprehension `[f(xs[i]) for i in range(n)]`** returns `map f (take n xs)` when `n` stays
inside `xs`. -/
theorem mapM_range_getItem {xs : List α} {n : ℕ} (f : α → β) (h : n ≤ xs.length) :
    (List.range n).mapM (fun i => do let x ← getItem xs i; pure (f x)) = .ok ((xs.take n).map f) := by
  rcases Nat.eq_zero_or_pos n with rfl | hn
  · rfl
  obtain ⟨a, -⟩ := List.exists_mem_of_length_pos (by omega : 0 < xs.length)
  letI : Inhabited α := ⟨a⟩
  have hstep : ∀ i ∈ List.range n,
      (do let x ← getItem xs i; pure (f x) : PyResult β) = .ok (f (xs.getD i default)) := by
    intro i hi
    rw [getItem_of_lt (by simp at hi; omega)]
    rfl
  rw [mapM_eq_ok hstep, ← map_range_getD h, List.map_map]
  rfl

/-- … and raises `IndexError` when `n` runs past the end of `xs`. -/
theorem mapM_range_getItem_of_lt {xs : List α} {n : ℕ} (f : α → β) (h : xs.length < n) :
    (List.range n).mapM (fun i => do let x ← getItem xs i; pure (f x)) = .error .indexError := by
  exact mapM_eq_error ⟨xs.length, by simpa using h, by rw [getItem_of_le le_rfl]; rfl⟩
    fun i _ => .bind (getItem_raisesOnly _ _) fun _ => .ok _

/-! ## (3) Iterators -/

/-- **A Python iterator run to exhaustion**: the items it yields, in order, and the exception it
raises after the last of them (`none` when it just stops). -/
structure PyIter (α : Type) where
  items : List α
  raises : Option PyExc

/-- **`for x in it:`** folding a body over an accumulator: the body's exceptions, then the
iterator's own. -/
def PyIter.foldlM (it : PyIter α) (f : β → α → PyResult β) (init : β) : PyResult β := do
  let acc ← it.items.foldlM f init
  match it.raises with
  | some e => .error e
  | none => pure acc

theorem PyIter.foldlM_eq_ok {it : PyIter α} {f : β → α → PyResult β} {init r : β} :
    it.foldlM f init = .ok r ↔ it.items.foldlM f init = .ok r ∧ it.raises = none := by
  unfold PyIter.foldlM
  cases it.items.foldlM f init <;> rcases it.raises with _ | _ <;> simp

/-- A body that raises makes the whole `for` raise, whatever the iterator does after. -/
theorem PyIter.foldlM_of_error {it : PyIter α} {f : β → α → PyResult β} {init : β} {e : PyExc}
    (h : it.items.foldlM f init = .error e) : it.foldlM f init = .error e := by
  simp [PyIter.foldlM, h]

/-- An iterator that raises makes the whole `for` raise, whatever the body does. -/
theorem PyIter.foldlM_of_raises {it : PyIter α} {f : β → α → PyResult β} {init : β}
    (h : it.raises.isSome) : ∃ e, it.foldlM f init = .error e := by
  obtain ⟨e, he⟩ := Option.isSome_iff_exists.mp h
  unfold PyIter.foldlM
  cases it.items.foldlM f init with
  | error e' => exact ⟨e', rfl⟩
  | ok acc => exact ⟨e, by simp [he]⟩

/-- **`next(it)`**: the first item; the iterator's exception, or `StopIteration`, when it has none. -/
def PyIter.next (it : PyIter α) : PyResult α :=
  match it.items with
  | a :: _ => .ok a
  | [] => .error (it.raises.getD .stopIteration)

/-! ## (4) Dicts -/

/-- **A Python dict**: its `(key, value)` pairs in insertion order, each key once. -/
structure PyDict (κ ν : Type) where
  items : List (κ × ν)

namespace PyDict

variable {κ ν : Type}

/-- `{}`. -/
def empty : PyDict κ ν := ⟨[]⟩

/-- `list(d.keys())`. -/
def keys (d : PyDict κ ν) : List κ := d.items.map Prod.fst

/-- `list(d.values())`. -/
def values (d : PyDict κ ν) : List ν := d.items.map Prod.snd

@[simp] theorem empty_items : (empty : PyDict κ ν).items = [] := rfl

@[simp] theorem keys_def (d : PyDict κ ν) : d.keys = d.items.map Prod.fst := rfl

@[simp] theorem values_def (d : PyDict κ ν) : d.values = d.items.map Prod.snd := rfl

theorem mem_keys_iff {d : PyDict κ ν} {k : κ} : k ∈ d.keys ↔ ∃ v, (k, v) ∈ d.items := by
  simp

theorem snd_mem_values {d : PyDict κ ν} {p : κ × ν} (h : p ∈ d.items) : p.2 ∈ d.values :=
  List.mem_map_of_mem _ h

variable [DecidableEq κ]

/-- `k in d`. -/
def contains (d : PyDict κ ν) (k : κ) : Bool := d.items.any (fun p => p.1 = k)

/-- `d[k]`: `KeyError` when `k` is absent. -/
def getItem (d : PyDict κ ν) (k : κ) : PyResult ν :=
  match d.items.lookup k with
  | some v => .ok v
  | none => .error .keyError

/-- `d[k] = v`: overwrite in place when present, append otherwise. -/
def setItem (d : PyDict κ ν) (k : κ) (v : ν) : PyDict κ ν :=
  if d.contains k then ⟨d.items.map fun p => if p.1 = k then (k, v) else p⟩
  else ⟨d.items ++ [(k, v)]⟩

theorem contains_iff {d : PyDict κ ν} {k : κ} : d.contains k = true ↔ k ∈ d.keys := by
  simp only [contains, keys, List.any_eq_true, List.mem_map, decide_eq_true_eq]

theorem contains_of_mem {d : PyDict κ ν} {k : κ} {v : ν} (h : (k, v) ∈ d.items) : d.contains k = true :=
  contains_iff.mpr (List.mem_map_of_mem Prod.fst h)

/-- Setting a fresh key appends it. -/
theorem setItem_of_not_mem {d : PyDict κ ν} {k : κ} {v : ν} (h : k ∉ d.keys) :
    d.setItem k v = ⟨d.items ++ [(k, v)]⟩ := by
  rw [setItem, if_neg (by rwa [contains_iff])]

theorem lookup_of_mem {k : κ} {v : ν} :
    ∀ {items : List (κ × ν)}, (items.map Prod.fst).Nodup → (k, v) ∈ items → items.lookup k = some v
  | [], _, h => by simp at h
  | (k', v') :: ps, hnd, h => by
    rw [List.map_cons, List.nodup_cons] at hnd
    rcases List.mem_cons.mp h with h' | h'
    · cases h'; simp [List.lookup_cons]
    · have hk : k ≠ k' := fun e => hnd.1 (e ▸ List.mem_map.mpr ⟨_, h', rfl⟩)
      simp only [List.lookup_cons, beq_false_of_ne hk]
      exact lookup_of_mem hnd.2 h'

/-- Looking a key up in a dict whose keys are distinct finds its pair. -/
theorem getItem_of_mem {d : PyDict κ ν} {k : κ} {v : ν} (hnd : d.keys.Nodup) (h : (k, v) ∈ d.items) :
    d.getItem k = .ok v := by
  simp [getItem, lookup_of_mem hnd h]

/-- `d[k]` on a key that is not in `d`: `KeyError`. -/
theorem getItem_of_not_mem {d : PyDict κ ν} {k : κ} (h : k ∉ d.keys) : d.getItem k = .error .keyError := by
  have hnone : d.items.lookup k = none :=
    List.lookup_eq_none_iff.mpr fun p hp => bne_iff_ne.mpr fun e => h (e ▸ List.mem_map_of_mem _ hp)
  rw [getItem, hnone]

theorem getItem_raisesOnly (d : PyDict κ ν) (k : κ) : RaisesOnly (· = .keyError) (d.getItem k) := by
  unfold getItem
  split
  · exact .ok _
  · exact fun _ h => by cases h; rfl

/-- Looking every key up in turn visits the entries in order. -/
theorem mapM_keys_getItem {β : Type} {d : PyDict κ ν} (hnd : d.keys.Nodup) (k : κ → ν → PyResult β) :
    d.keys.mapM (fun v => d.getItem v >>= k v) = d.items.mapM (fun p => k p.1 p.2) := by
  rw [keys_def, mapM_map]
  exact mapM_congr fun p hp => by rw [getItem_of_mem hnd hp]; rfl

/-- **`[k for k in l if k in d]`** on a dict whose keys are some of `l`'s, in `l`'s order: its keys. -/
theorem filter_contains_of_keys_eq {l : List κ} {p : κ → Bool} {d : PyDict κ ν}
    (h : d.keys = l.filter p) : l.filter d.contains = d.keys := by
  rw [h]
  refine List.filter_congr fun k hk => ?_
  rw [Bool.eq_iff_iff, contains_iff, h, List.mem_filter]
  exact and_iff_right hk

/-- **Run lemma of a loop `d[k] = v` over fresh keys**: setting, in turn, the distinct keys of `l`
that `g` gives a value, none of them in `d`, appends them in order. -/
theorem foldl_setItem_fresh (g : κ → Option ν) :
    ∀ (l : List κ) (d : PyDict κ ν), l.Nodup → (∀ k ∈ l, k ∉ d.keys) →
      (l.foldl (fun d k => (g k).elim d (d.setItem k)) d).items =
        d.items ++ l.filterMap fun k => (g k).map (k, ·)
  | [], d, _, _ => by simp
  | k :: l, d, hnd, hfresh => by
    rw [List.nodup_cons] at hnd
    have hrest : ∀ k' ∈ l, k' ∉ d.keys := fun k' hk' => hfresh k' (List.mem_cons_of_mem _ hk')
    rw [List.foldl_cons]
    cases hg : g k with
    | none =>
      simp only [hg, Option.elim_none, foldl_setItem_fresh g l d hnd.2 hrest, List.filterMap_cons,
        Option.map_none']
    | some v =>
      have hset : (d.setItem k v).items = d.items ++ [(k, v)] := by
        rw [setItem_of_not_mem (hfresh k (List.mem_cons_self _ _))]
      rw [Option.elim_some, foldl_setItem_fresh g l (d.setItem k v) hnd.2 fun k' hk' => by
        rw [keys_def, hset, List.map_append, List.mem_append, List.map_singleton, List.mem_singleton]
        exact fun h => h.elim (hrest k' hk') fun e => hnd.1 ((show k' = k from e) ▸ hk'), hset]
      simp [hg]

/-- **Run lemma of `d[key(a)] = val(a)` over distinct fresh keys**: the entries are appended in
order. -/
theorem foldl_setItem_of_nodup {α : Type} (key : α → κ) (val : α → ν) :
    ∀ (l : List α) (d : PyDict κ ν), (l.map key).Nodup → (∀ a ∈ l, key a ∉ d.keys) →
      (l.foldl (fun d a => d.setItem (key a) (val a)) d).items = d.items ++ l.map fun a => (key a, val a)
  | [], d, _, _ => by simp
  | a :: l, d, hnd, hfresh => by
    rw [List.map_cons, List.nodup_cons] at hnd
    have hset : (d.setItem (key a) (val a)).items = d.items ++ [(key a, val a)] := by
      rw [setItem_of_not_mem (hfresh a (List.mem_cons_self _ _))]
    rw [List.foldl_cons, foldl_setItem_of_nodup key val l _ hnd.2 fun a' ha' => by
      rw [keys_def, hset, List.map_append, List.mem_append, List.map_singleton, List.mem_singleton]
      exact fun h => h.elim (hfresh a' (List.mem_cons_of_mem _ ha'))
        fun e : key a' = key a => hnd.1 (e ▸ List.mem_map_of_mem key ha'), hset]
    simp

end PyDict

/-! ## (5) Mutation under `try` -/

/-- **Statements over mutable locals of type `σ`.** A raised exception keeps the state it was raised
in, as a Python `list.append` done before the raise stays done. -/
abbrev PyM (σ α : Type) := ExceptT PyExc (StateM σ) α

namespace PyM

variable {σ : Type}

/-- Run statements from a state: their outcome and the final state. -/
def exec (m : PyM σ α) (s : σ) : PyResult α × σ := m.run.run s

/-- A pure computation as a statement. -/
def lift : PyResult α → PyM σ α
  | .ok a => pure a
  | .error e => throw e

/-- **`try: body except exc: pass`**: `exc` is swallowed, keeping the state reached. -/
def tryExcept (exc : PyExc) (body : PyM σ Unit) : PyM σ Unit :=
  ExceptT.mk do
    match ← body.run with
    | .error e => if e = exc then pure (.ok ()) else pure (.error e)
    | .ok a => pure (.ok a)

@[simp] theorem exec_pure (a : α) (s : σ) : exec (pure a : PyM σ α) s = (.ok a, s) := rfl

@[simp] theorem exec_throw (e : PyExc) (s : σ) : exec (throw e : PyM σ α) s = (.error e, s) := rfl

@[simp] theorem exec_modify (f : σ → σ) (s : σ) :
    exec (modify f : PyM σ Unit) s = (.ok (), f s) := rfl

@[simp] theorem exec_lift_ok (a : α) (s : σ) : exec (lift (.ok a) : PyM σ α) s = (.ok a, s) := rfl

@[simp] theorem exec_lift_error (e : PyExc) (s : σ) :
    exec (lift (.error e) : PyM σ α) s = (.error e, s) := rfl

theorem exec_bind (x : PyM σ α) (f : α → PyM σ β) (s : σ) :
    exec (x >>= f) s = match exec x s with
      | (.ok a, s') => exec (f a) s'
      | (.error e, s') => (.error e, s') := by
  simp only [exec, ExceptT.run_bind, StateT.run_bind]
  rcases x.run.run s with ⟨_ | _, _⟩ <;> rfl

theorem exec_tryExcept (exc : PyExc) (body : PyM σ Unit) (s : σ) :
    exec (tryExcept exc body) s = match exec body s with
      | (.error e, s') => if e = exc then (.ok (), s') else (.error e, s')
      | r => r := by
  simp only [exec, tryExcept, ExceptT.run_mk, StateT.run_bind]
  rcases body.run.run s with ⟨e | _, s'⟩
  · by_cases h : e = exc <;> simp [h]
  · rfl

end PyM

end Ns3Results
