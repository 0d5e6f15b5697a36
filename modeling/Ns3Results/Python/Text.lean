import Ns3Results.Python.Float

/-! # Text: `str` methods, file lines and the conversion builtins

The parsers of the three scripts read a file either line by line (`for line in f`) or through
`csv.DictReader`, and convert tokens with the builtins `float` and `int`. This file embeds:

* **`isSpace`, `strip`, `split`, `startswith`** — `str.isspace`, `str.strip()`, `str.split()` (no
  separator: runs of whitespace, no empty tokens) and `str.startswith`, all by structural recursion
  on the character list, so that a concrete line evaluates by `decide`.
* **`readLines`** — iterating a file opened in text mode: universal newlines (`\r\n` and `\r` read as
  `\n`), each line keeping its `\n`.
* **`Builtins`** — `float(s)`, `int(s)` and `csv.reader(f)` as *parameters*, over the float
  arithmetic `FloatArith` they extend: they are library code, and every theorem of the development
  holds for every choice of them.
* **`Builtins.decimal`** — one concrete choice, for evaluated examples and counterexamples: decimal
  literals as Python reads them (sign, digits, one point) read as exact rationals, and `csv.reader`
  on quote-free text. -/

namespace Ns3Results

/-! ## (1) `str` methods -/

/-- **`c.isspace()`**: the characters Python's `str.split()` and `str.strip()` treat as whitespace
(Unicode categories `Zs`, `B`, `S` and `WS`). -/
def isSpace (c : Char) : Bool :=
  let n := c.toNat
  (9 ≤ n && n ≤ 13) || (28 ≤ n && n ≤ 32) || n == 133 || n == 160 || n == 5760 ||
    (8192 ≤ n && n ≤ 8202) || n == 8232 || n == 8233 || n == 8239 || n == 8287 || n == 12288

/-- **`s.strip()`**: drop leading and trailing whitespace. -/
def strip (s : String) : String :=
  String.mk ((s.toList.dropWhile isSpace).reverse.dropWhile isSpace).reverse

/-- The tokens of `cs`, `cur` being the token read so far. -/
def splitAux : List Char → List Char → List String
  | [], cur => if cur.isEmpty then [] else [String.mk cur]
  | c :: cs, cur =>
    if isSpace c then (if cur.isEmpty then splitAux cs [] else String.mk cur :: splitAux cs [])
    else splitAux cs (cur ++ [c])

/-- **`s.split()`**: the maximal runs of non-whitespace characters, in order. -/
def split (s : String) : List String := splitAux s.toList []

/-- **`s.startswith(p)`**. -/
def startswith (s p : String) : Bool := p.toList.isPrefixOf s.toList

/-! ## (2) Iterating a text file -/

/-- Universal newlines: `\r\n` and a lone `\r` are read as `\n`. -/
def translateNewlines : List Char → List Char
  | '\r' :: '\n' :: cs => '\n' :: translateNewlines cs
  | '\r' :: cs => '\n' :: translateNewlines cs
  | c :: cs => c :: translateNewlines cs
  | [] => []

/-- Cut after each `\n`; `cur` is the line read so far. -/
def splitLinesAux : List Char → List Char → List String
  | [], cur => if cur.isEmpty then [] else [String.mk cur]
  | c :: cs, cur =>
    if c = '\n' then String.mk (cur ++ ['\n']) :: splitLinesAux cs [] else splitLinesAux cs (cur ++ [c])

/-- **A results directory**: the text of each file present in it, by name. -/
abbrev FileSystem := String → Option String

/-- **`for line in f`** over a file with text `content`: its lines in order, each ending in `\n`
except possibly the last. -/
def readLines (content : String) : List String :=
  splitLinesAux (translateNewlines content.toList) []

/-! ## (3) The builtins -/

/-- **The library functions the scripts apply**, over floats `F`: the float arithmetic, and on file
text `float s` and `int s`, the builtins on a `str` (`none` is their `ValueError`; `float` also reads
`inf`, `nan` and literals past the float range), and `csvReader lines`, `csv.reader(f)` over the lines
of `f`: the rows it yields and the `csv.Error` it may raise after them. -/
structure Builtins (F : Type) extends FloatArith F where
  float : String → Option F
  int : String → Option ℤ
  csvReader : List String → PyIter (List String)

/-- **The exceptions of a failed conversion**: `TypeError` (a missing cell) or `ValueError`. -/
def IsConversionError (e : PyExc) : Prop := e = .typeError ∨ e = .valueError

namespace Builtins

variable {F : Type} (b : Builtins F)

/-- **`float(x)`** on a cell of a `csv.DictReader` row: `TypeError` on the `None` of a missing cell,
`ValueError` on text that is not a float. -/
def floatOf : Option String → PyResult F
  | none => .error .typeError
  | some s => match b.float s with
    | some q => .ok q
    | none => .error .valueError

/-- **`int(x)`** on a cell, as `floatOf`. -/
def intOf : Option String → PyResult ℤ
  | none => .error .typeError
  | some s => match b.int s with
    | some n => .ok n
    | none => .error .valueError

theorem floatOf_eq_ok {x : Option String} {q : F} :
    b.floatOf x = .ok q ↔ ∃ s, x = some s ∧ b.float s = some q := by
  rcases x with _ | s
  · simp [floatOf]
  · cases h : b.float s <;> simp [floatOf, h]

theorem intOf_eq_ok {x : Option String} {n : ℤ} :
    b.intOf x = .ok n ↔ ∃ s, x = some s ∧ b.int s = some n := by
  rcases x with _ | s
  · simp [intOf]
  · cases h : b.int s <;> simp [intOf, h]

theorem floatOf_raisesOnly (x : Option String) : RaisesOnly IsConversionError (b.floatOf x) := by
  intro e h
  rcases x with _ | s
  · cases h; exact .inl rfl
  · cases hs : b.float s <;> simp [floatOf, hs] at h; exact .inr h.symm

theorem intOf_raisesOnly (x : Option String) : RaisesOnly IsConversionError (b.intOf x) := by
  intro e h
  rcases x with _ | s
  · cases h; exact .inl rfl
  · cases hs : b.int s <;> simp [intOf, hs] at h; exact .inr h.symm

@[simp] theorem toOption_floatOf (x : Option String) : (b.floatOf x).toOption = x.bind b.float := by
  rcases x with _ | s
  · rfl
  · cases h : b.float s <;> simp [floatOf, h]

@[simp] theorem toOption_intOf (x : Option String) : (b.intOf x).toOption = x.bind b.int := by
  rcases x with _ | s
  · rfl
  · cases h : b.int s <;> simp [intOf, h]

end Builtins

/-! ## (4) A concrete choice of the builtins -/

/-- The value of a nonempty run of decimal digits. -/
def digitsValue (cs : List Char) : Option ℕ :=
  if !cs.isEmpty && cs.all Char.isDigit then some (cs.foldl (fun n c => 10 * n + (c.toNat - 48)) 0)
  else none

/-- An optional leading sign, and the characters after it. -/
def signed : List Char → ℤ × List Char
  | '-' :: cs => (-1, cs)
  | '+' :: cs => (1, cs)
  | cs => (1, cs)

/-- **Decimal `float`**: `[sign] digits [. [digits]]` or `[sign] . digits`, between whitespace. -/
def decimalFloat (s : String) : Option ℚ :=
  let (sg, cs) := signed (strip s).toList
  let whole := cs.takeWhile (· ≠ '.')
  match cs.dropWhile (· ≠ '.') with
  | [] => (digitsValue whole).map fun w => mkRat (sg * w) 1
  | _ :: frac =>
    if whole.isEmpty && frac.isEmpty then none
    else
      match (if whole.isEmpty then some 0 else digitsValue whole),
          (if frac.isEmpty then some 0 else digitsValue frac) with
      | some w, some f => some (mkRat (sg * (w * 10 ^ frac.length + f)) (10 ^ frac.length))
      | _, _ => none

example : decimalFloat " -0.50 " = some (mkRat (-1) 2) := by decide

/-- **Decimal `int`**: `[sign] digits`, between whitespace. -/
def decimalInt (s : String) : Option ℤ :=
  let (sg, cs) := signed (strip s).toList
  (digitsValue cs).map fun n => sg * n

example : decimalInt "2.5" = none := by decide

/-- The cells of a line cut at `,`; `cur` is the cell read so far. -/
def splitCommaAux : List Char → List Char → List String
  | [], cur => [String.mk cur]
  | c :: cs, cur => if c = ',' then String.mk cur :: splitCommaAux cs [] else splitCommaAux cs (cur ++ [c])

/-- One line as `csv.reader` reads quote-free text: its cells between commas, `[]` for an empty
line. -/
def csvRow (line : String) : List String :=
  match line.toList.filter (· ≠ '\n') with
  | [] => []
  | cs => splitCommaAux cs []

/-- **Decimal literals and quote-free CSV**, over exact rational arithmetic: the builtins on the plain
text the simulator writes. -/
def Builtins.decimal : Builtins ℚ where
  toFloatArith := FloatArith.exact
  float := decimalFloat
  int := decimalInt
  csvReader lines := ⟨lines.map csvRow, none⟩

end Ns3Results
