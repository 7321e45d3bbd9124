import SimsUtils.Python

/-!
# The numpy values the code handles

A numeric argument of `AstrometryUtils.py` is a float, a numpy array or a Python list.
`len` is defined on the last two; a ufunc maps elementwise and turns a list into an array;
a binary operation broadcasts, which for two arrays means equal lengths or one of length
one, and raises `ValueError` otherwise.

Elementwise results over `n` stars are rows `column n f`, whose `i`-th value is `f i`: a
ufunc or a binary operation on arrays of `n` values computes each value from the values of
the same star.

    binop f a b = .ok c → a.len = .ok n → b.len = .ok n → c.len = .ok n   (NumArg.len_binop)
    xs.length = n → ys.length = n →
      binop f (.ndarray xs) (.ndarray ys) = .ok (.ndarray (column n ...))  (NumArg.binop_ndarray)
-/

namespace SimsUtils

/-- A numeric argument: a float, a numpy array, or a Python list. -/
inductive NumArg
  | float (x : Float)
  | ndarray (xs : List Float)
  | list (xs : List Float)

namespace NumArg

/-- `len(x)`: a float has none (`TypeError`). -/
def len : NumArg → Except PyError Nat
  | .float _ => .error .typeError
  | .ndarray xs => .ok xs.length
  | .list xs => .ok xs.length

/-- `isinstance(x, list)`. -/
def isList : NumArg → Bool
  | .list _ => true
  | _ => false

/-- `isinstance(x, numpy.ndarray)`. -/
def isNdarray : NumArg → Bool
  | .ndarray _ => true
  | _ => false

/-- A numpy ufunc of one argument: elementwise; a list comes back as an array. -/
def map (f : Float → Float) : NumArg → NumArg
  | .float x => .float (f x)
  | .ndarray xs => .ndarray (xs.map f)
  | .list xs => .ndarray (xs.map f)

end NumArg

/-- Two arrays combined elementwise under broadcasting. -/
def zipBroadcast (f : Float → Float → Float) (xs ys : List Float) : Except PyError (List Float) :=
  if xs.length = ys.length then .ok (List.zipWith f xs ys)
  else
    match xs, ys with
    | [x], ys => .ok (ys.map (f x))
    | xs, [y] => .ok (xs.map (f · y))
    | _, _ => .error .valueError

namespace NumArg

/-- A numpy binary operation: two floats give a float, a float broadcasts over an array,
two arrays (or lists) broadcast against each other. -/
def binop (f : Float → Float → Float) : NumArg → NumArg → Except PyError NumArg
  | .float x, .float y => .ok (.float (f x y))
  | .float x, .ndarray ys | .float x, .list ys => .ok (.ndarray (ys.map (f x)))
  | .ndarray xs, .float y | .list xs, .float y => .ok (.ndarray (xs.map (f · y)))
  | .ndarray xs, .ndarray ys | .ndarray xs, .list ys | .list xs, .ndarray ys | .list xs, .list ys =>
    .ndarray <$> zipBroadcast f xs ys

end NumArg

/-- `numpy.zeros(n)`. -/
def zeros (n : Nat) : NumArg := .ndarray (List.replicate n 0)

/-- A value passed where palpy's Cython signature asks for a C `double`: a float, or a numpy
array of one element; anything else raises `TypeError`. -/
def NumArg.toDouble : NumArg → Except PyError Float
  | .float x => .ok x
  | .ndarray [x] => .ok x
  | _ => .error .typeError

/-- `numpy.radians` of a float: `x * (pi / 180)`. -/
def radians (x : Float) : Float := x * (3.141592653589793 / 180)

/-- `numpy.degrees` of a float: `x * (180 / pi)`. -/
def degrees (x : Float) : Float := x * (180 / 3.141592653589793)

/-- `arcsecFromRadians` (`lsst.sims.utils`, not under src/): `3600.0 * numpy.degrees(x)`. -/
def arcsecFromRadians (x : NumArg) : NumArg := x.map (3600 * degrees ·)

/-- `radiansFromArcsec` (`lsst.sims.utils`, not under src/): `numpy.radians(x / 3600.0)`; a
list has no `/` (`TypeError`). -/
def radiansFromArcsec : NumArg → Except PyError NumArg
  | .list _ => .error .typeError
  | x => .ok (x.map (radians <| · / 3600))

/-- A point in Cartesian coordinates. -/
abbrev Vec3 := Float × Float × Float

/-- A 3×3 matrix, by rows. -/
abbrev Mat3 := Vec3 × Vec3 × Vec3

/-- `numpy.dot(m, v)` of a 3×3 matrix and a vector. -/
def Mat3.dot (m : Mat3) (v : Vec3) : Vec3 :=
  let row (r : Vec3) := r.1 * v.1 + r.2.1 * v.2.1 + r.2.2 * v.2.2
  (row m.1, row m.2.1, row m.2.2)

/-- The row of `n` values whose `i`-th is `f i`: an elementwise result over `n` stars. -/
def column (n : Nat) (f : Nat → Float) : List Float := (List.range n).map f

/-! ## Lemmas -/

namespace NumArg

variable {f : Float → Float} {g : Float → Float → Float} {a b c : NumArg} {n : Nat}

/-- A ufunc keeps the length. -/
@[simp] theorem len_map : (a.map f).len = a.len := by
  cases a <;> simp [map, len]

theorem len_eq_ok : a.len = .ok n ↔ (∃ xs, a = .ndarray xs ∧ xs.length = n) ∨
    ∃ xs, a = .list xs ∧ xs.length = n := by
  cases a <;> simp [len]

/-- Broadcasting two operands of one length gives that length. -/
theorem len_binop (h : binop g a b = .ok c) (ha : a.len = .ok n) (hb : b.len = .ok n) :
    c.len = .ok n := by
  rcases len_eq_ok.1 ha with ⟨xs, rfl, rfl⟩ | ⟨xs, rfl, rfl⟩ <;>
  rcases len_eq_ok.1 hb with ⟨ys, rfl, hys⟩ | ⟨ys, rfl, hys⟩ <;>
  · simp only [binop, zipBroadcast, hys, if_true, Functor.map, Except.map, Except.ok.injEq] at h
    subst h
    simp [len, hys]

/-- An argument with a length that is not a list is an array. -/
theorem eq_ndarray_of_len (h : a.len = .ok n) (hl : a.isList = false) :
    ∃ xs, a = .ndarray xs ∧ xs.length = n := by
  rcases len_eq_ok.1 h with h | ⟨xs, rfl, _⟩
  · exact h
  · cases hl

/-- A binary operation never returns a list. -/
theorem isList_binop (h : binop g a b = .ok c) : c.isList = false := by
  unfold binop at h
  split at h <;> first
    | (cases h; rfl)
    | (simp only [Functor.map, Except.map] at h
       split at h <;> cases h
       rfl)

end NumArg

@[simp] theorem len_zeros (n : Nat) : (zeros n).len = .ok n := by
  simp [zeros, NumArg.len]

@[simp] theorem NumArg.isList_map (f : Float → Float) (a : NumArg) : (a.map f).isList = false := by
  cases a <;> rfl

/-! ## Rows of per-star values -/

section Column

variable {n i : Nat} {f g : Nat → Float} {xs ys : List Float}

@[simp] theorem length_column (n : Nat) (f : Nat → Float) : (column n f).length = n := by
  simp [column]

theorem getD_column (h : i < n) : (column n f).getD i 0 = f i := by
  simp [column, List.getD_eq_getElem?_getD, h]

theorem column_congr (h : ∀ i < n, f i = g i) : column n f = column n g :=
  List.map_congr_left fun i hi => h i (List.mem_range.1 hi)

theorem column_const (n : Nat) (c : Float) : column n (fun _ => c) = List.replicate n c := by
  simp [column, List.map_const']

/-- A ufunc computes each value from the same star's value. -/
theorem map_eq_column (f : Float → Float) (h : xs.length = n) :
    xs.map f = column n fun i => f (xs.getD i 0) := by
  subst h
  apply List.ext_getElem (by simp)
  intro i h1 _
  simp only [List.length_map] at h1
  simp [column, List.getD_eq_getElem?_getD, h1]

/-- Two arrays of `n` values combine star by star. -/
theorem zipWith_eq_column (f : Float → Float → Float) (hx : xs.length = n) (hy : ys.length = n) :
    List.zipWith f xs ys = column n fun i => f (xs.getD i 0) (ys.getD i 0) := by
  subst hx
  apply List.ext_getElem (by simp [hy])
  intro i _ h2
  simp only [length_column] at h2
  simp [column, List.getD_eq_getElem?_getD, h2, hy ▸ h2]

/-- A numpy binary operation on two arrays of `n` values. -/
theorem NumArg.binop_ndarray (f : Float → Float → Float) (hx : xs.length = n) (hy : ys.length = n) :
    NumArg.binop f (.ndarray xs) (.ndarray ys) = .ok (.ndarray (column n fun i => f (xs.getD i 0) (ys.getD i 0))) := by
  simp only [NumArg.binop, zipBroadcast, hx, hy, if_true, Functor.map, Except.map, zipWith_eq_column f hx hy]

end Column

end SimsUtils
