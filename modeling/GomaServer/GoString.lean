import Mathlib.Data.String.Basic
import Mathlib.Data.List.Sort
import Mathlib.Data.Finset.Basic
import GomaServer.GoQuote

/-!
# Go string and path functions

The functions of Go's `strings`, `path`, `sort` and `unicode` packages that the
servers call, on the characters of a string. Object names in a storage
bucket are valid UTF-8, and every separator searched for here is ASCII, so byte
offsets and character offsets pick out the same substrings.
-/

namespace GomaServer

/-! ## strings -/

/-- `strings.HasPrefix`. -/
def hasPrefix (s pre : String) : Bool := pre.data.isPrefixOf s.data

/-- `strings.HasSuffix`. -/
def hasSuffix (s suf : String) : Bool := suf.data.reverse.isPrefixOf s.data.reverse

theorem append_left_cancel_iff (p a b : String) : p ++ a = p ++ b ↔ a = b :=
  ⟨fun h => String.ext (List.append_cancel_left (congrArg String.data h)), fun h => h ▸ rfl⟩

theorem hasPrefix_iff (s pre : String) : hasPrefix s pre = true ↔ pre.data <+: s.data := by
  simp [hasPrefix]

theorem hasPrefix_iff_exists {s pre : String} : hasPrefix s pre = true ↔ ∃ rest, s = pre ++ rest := by
  rw [hasPrefix_iff]
  exact ⟨fun ⟨t, h⟩ => ⟨⟨t⟩, String.ext h.symm⟩, fun ⟨t, h⟩ => ⟨t.data, by rw [h]; rfl⟩⟩

/-- `strings.TrimPrefix`. -/
def trimPrefix (s pre : String) : String :=
  if hasPrefix s pre then ⟨s.data.drop pre.data.length⟩ else s

theorem trimPrefix_append (pre rest : String) : trimPrefix (pre ++ rest) pre = rest := by
  simp [trimPrefix, hasPrefix]

/-- `strings.TrimSuffix`. -/
def trimSuffix (s suf : String) : String :=
  if hasSuffix s suf then ⟨s.data.take (s.data.length - suf.data.length)⟩ else s

/-- `strings.Split` with a one-character separator: the pieces between the
separators, empty ones included, so that `""` splits into one empty piece. -/
def split (s : String) (sep : Char) : List String := (s.data.splitOn sep).map String.mk

/-- `unicode.IsSpace`: the Latin-1 spaces, then the other characters of Unicode's
White_Space property. -/
def isSpace (c : Char) : Bool :=
  match c.toNat with
  | 0x09 | 0x0A | 0x0B | 0x0C | 0x0D | 0x20 | 0x85 | 0xA0 => true
  | 0x1680 | 0x2028 | 0x2029 | 0x202F | 0x205F | 0x3000 => true
  | n => 0x2000 ≤ n && n ≤ 0x200A

/-- `strings.TrimSpace`: the string without its leading and trailing white space. -/
def trimSpace (s : String) : String :=
  ⟨((s.data.dropWhile isSpace).reverse.dropWhile isSpace).reverse⟩

/-- `strings.Index` on character lists: the first offset of `sub`, `none` for Go's `-1`. -/
def indexOf (sub : List Char) : List Char → Option Nat
  | [] => if sub.isEmpty then some 0 else none
  | c :: cs => if sub.isPrefixOf (c :: cs) then some 0 else (indexOf sub cs).map (· + 1)

/-- `strings.Index`. -/
def index (s sub : String) : Option Nat := indexOf sub.data s.data

/-- `s[:i]`. -/
def sliceTo (s : String) (i : Nat) : String := ⟨s.data.take i⟩

/-! ## path -/

/-- `path.Split` on characters: everything up to and including the last slash, and
the rest. -/
def splitLast (p : List Char) : List Char × List Char :=
  let (file, dir) := p.reverse.span (· ≠ '/')
  (dir.reverse, file.reverse)

/-- `path.Base`: the last element, with trailing slashes removed first. -/
def pathBase (p : String) : String :=
  if p.data = [] then "."
  else
    let stripped := p.data.reverse.dropWhile (· = '/')
    match stripped.takeWhile (· ≠ '/') with
    | [] => "/"
    | last => ⟨last.reverse⟩

/-- The path elements between slashes, empty ones included. -/
def splitSlash : List Char → List (List Char)
  | [] => [[]]
  | c :: cs =>
      match splitSlash cs with
      | [] => [[c]]
      | e :: es => if c = '/' then [] :: e :: es else (c :: e) :: es

/-- One element of `path.Clean`'s scan: empty and `.` elements vanish, `..` removes
the element before it, or is kept when there is none and the path is not rooted. -/
def cleanStep (rooted : Bool) (stack : List (List Char)) (e : List Char) :
    List (List Char) :=
  if e = [] ∨ e = ['.'] then stack
  else if e = ['.', '.'] then
    match stack with
    | top :: rest => if top = ['.', '.'] then e :: stack else rest
    | [] => if rooted then [] else [e]
  else e :: stack

/-- `path.Clean`, by path elements: the stack holds the kept elements, last first. -/
def pathClean (p : String) : String :=
  if p.data = [] then "."
  else
    let rooted := p.data.head? = some '/'
    let kept := ((splitSlash p.data).foldl (cleanStep rooted) []).reverse
    let body := List.intercalate ['/'] kept
    match (if rooted then '/' :: body else body) with
    | [] => "."
    | out => ⟨out⟩

/-- `path.Dir`: `path.Clean` of everything up to the last slash. -/
def pathDir (p : String) : String := pathClean ⟨(splitLast p.data).1⟩

/-- `path.Join`: `path.Clean` of the elements from the first non-empty one on,
joined by slashes, or `""` when every element is empty. -/
def pathJoin (elem : List String) : String :=
  match elem.dropWhile (· == "") with
  | [] => ""
  | rest => pathClean ("/".intercalate rest)

example : pathJoin ["clang", "seq"] = "clang/seq" ∧ pathJoin ["", "seq"] = "seq" ∧
    pathJoin ["a/", "seq"] = "a/seq" := by
  decide

/-! ## sort.Strings -/

/-- Go's `<` on strings: bytewise, which on UTF-8 is the order of code points. -/
def goLess (a b : String) : Bool := decide (a.data < b.data)

theorem goLess_iff (a b : String) : goLess a b = true ↔ a < b := by
  simp [goLess, String.lt_iff_toList_lt]

/-- The order `sort.Strings` sorts by. -/
def GoLE (a b : String) : Prop := goLess b a = false

instance : DecidableRel GoLE := fun a b => inferInstanceAs (Decidable (goLess b a = false))

theorem goLE_iff (a b : String) : GoLE a b ↔ a ≤ b := by
  rw [GoLE, ← Bool.not_eq_true, goLess_iff, not_lt]

instance : IsTotal String GoLE :=
  ⟨fun a b => (le_total a b).imp (goLE_iff a b).mpr (goLE_iff b a).mpr⟩

instance : IsTrans String GoLE :=
  ⟨fun a b c hab hbc => by rw [goLE_iff] at *; exact le_trans hab hbc⟩

instance : IsAntisymm String GoLE :=
  ⟨fun a b hab hba => by rw [goLE_iff] at *; exact le_antisymm hab hba⟩

/-- `sort.Strings` applied to the keys of a map, whatever order the range loop
collected them in. -/
def sortStrings (names : Finset String) : List String :=
  Quot.liftOn names.val (List.insertionSort GoLE) fun _ _ perm =>
    List.eq_of_perm_of_sorted
      (((List.perm_insertionSort GoLE _).trans perm).trans (List.perm_insertionSort GoLE _).symm)
      (List.sorted_insertionSort GoLE _) (List.sorted_insertionSort GoLE _)

theorem sortStrings_perm (names : Finset String) : (sortStrings names : Multiset String) = names.val := by
  rcases names with ⟨⟨l⟩, _⟩
  exact Quot.sound (List.perm_insertionSort GoLE l)

@[simp] theorem mem_sortStrings {names : Finset String} {n : String} :
    n ∈ sortStrings names ↔ n ∈ names := by
  rw [← Multiset.mem_coe, sortStrings_perm, Finset.mem_val]

theorem sortStrings_nodup (names : Finset String) : (sortStrings names).Nodup := by
  rw [← Multiset.coe_nodup, sortStrings_perm]
  exact names.nodup

theorem sortStrings_sorted (names : Finset String) : (sortStrings names).Sorted GoLE := by
  rcases names with ⟨⟨l⟩, _⟩
  exact List.sorted_insertionSort GoLE l

end GomaServer
