import SimsUtils.ModifiedJulianDate
import SimsUtils.Numpy

/-!
# `ObservationMetaData`: the object and its pure helpers

The attributes of an `ObservationMetaData` (`ObservationMetaData.py`), the values they
hold, and `_assignDictKeyedToBandpass`, which builds the `m5` and `seeing` dicts keyed to
the bandpass names.  The code runs under Python 2: a string has no `__iter__`, so a single
bandpass name is not a list.

    _assignDictKeyedToBandpass (some bp) (some v) n = .ok (some d) →
      (k ∈ d.keys ↔ k ∈ bp.names)                        (assignDictKeyedToBandpass_keys)
      d.lookup k = (bp.names.zip v.values).reverse.lookup k      (assignDictKeyedToBandpass_lookup)

The loop `for b, m in zip(...): d[b] = m` overwrites: a name given twice keeps the value
paired with its last occurrence.
-/

namespace SimsUtils

/-- The telescope site (`Site`, not under src/): the attributes the pipeline reads. -/
structure Site where
  longitude_rad : Float
  latitude_rad : Float
  height : Float
  temperature : Float
  temperature_kelvin : Float
  pressure : Float
  humidity : Float
  lapseRate : Float

/-- `boundLength`: a float, or a numpy array (half-widths of a box in RA and Dec). -/
inductive BoundLength
  | float (x : Float)
  | array (xs : List Float)

/-- `numpy.radians` on a bound length. -/
def BoundLength.radians : BoundLength → BoundLength
  | .float x => .float (SimsUtils.radians x)
  | .array xs => .array (xs.map SimsUtils.radians)

/-- `bandpassName`: one name (`'u'`) or a list of names (`['u', 'g', 'z']`). -/
inductive Bandpass
  | name (b : String)
  | list (bs : List String)

/-- The names a bandpass stands for: its elements, or itself. -/
def Bandpass.names : Bandpass → List String
  | .name b => [b]
  | .list bs => bs

/-- `m5` or `seeing` as passed in: one value or a list of values. -/
inductive BandpassValue
  | scalar (x : Float)
  | list (xs : List Float)

/-- The values of `m5` or `seeing`, in order: its elements, or itself. -/
def BandpassValue.values : BandpassValue → List Float
  | .scalar x => [x]
  | .list xs => xs

/-- A dict from bandpass names to values, in insertion order; `d[k]` is `d.lookup k`
(`KeyError` when it is `none`). -/
abbrev BandpassDict := List (String × Float)

/-- The keys of a dict. -/
def BandpassDict.keys (d : BandpassDict) : List String := d.map Prod.fst

/-- `d[k] = v`: overwrite the value of a present key, else append the pair. -/
def BandpassDict.setItem (d : BandpassDict) (k : String) (v : Float) : BandpassDict :=
  if k ∈ d.keys then d.map fun p => if p.1 = k then (k, v) else p else d ++ [(k, v)]

/-- A PhoSim metadata dict, by the keys the code reads.  A present key maps to a sequence
whose first element the code takes (`d[key][0]`). -/
structure PhoSimMetaData where
  Opsim_expmjd : Option (List Float) := none
  Opsim_rotskypos : Option (List Float) := none
  Opsim_filter : Option (List String) := none
  Opsim_rawseeing : Option (List Float) := none
  pointingRA : Option (List Float) := none
  pointingDec : Option (List Float) := none

/-- `d[key][0]` for an entry of a PhoSim dict. -/
def item0 {α : Type} : Option (List α) → Except PyError α
  | none => .error .keyError
  | some [] => .error .indexError
  | some (x :: _) => .ok x

/-- The attributes of an `ObservationMetaData`; `β` is the type of the `SpatialBounds`
objects that `SpatialBounds.getSpatialBounds` returns. -/
structure ObservationMetaData (β : Type) where
  _bounds : Option β
  _boundType : Option String
  _bandpass : Option Bandpass
  _skyBrightness : Option Float
  _site : Option Site
  _epoch : Float
  _mjd : Option ModifiedJulianDate
  _rotSkyPos : Option Float
  _pointingRA : Option Float
  _pointingDec : Option Float
  _boundLength : Option BoundLength
  _phoSimMetaData : Option PhoSimMetaData
  _m5 : Option BandpassDict
  _seeing : Option BandpassDict

/-! ## `_assignDictKeyedToBandpass` -/

/-- `_assignDictKeyedToBandpass(inputValue, inputName)` against `self._bandpass`.  The
match on the two kinds stands for the flags `bandpassIsList` and `inputIsList`; the
second length test repeats the first, as in the source. -/
def _assignDictKeyedToBandpass (_bandpass : Option Bandpass) (inputValue : Option BandpassValue)
    (inputName : String) : Except PyError (Option BandpassDict) :=
  match inputValue with
  | none => .ok none
  | some inputValue =>
    match _bandpass with
    | none => .error (.runtimeError ("You cannot set " ++ inputName ++ " if you have not set " ++
        "bandpass in ObservationMetaData"))
    | some bandpass =>
      match bandpass, inputValue with
      | .list _, .scalar _ => .error (.runtimeError ("You passed a list of bandpass names" ++
          "but did not pass a list of " ++ inputName ++ " to ObservationMetaData"))
      | .name _, .list _ => .error (.runtimeError ("You passed a list of " ++ inputName ++ " " ++
          "but did not pass a list of bandpass names to ObservationMetaData"))
      | .list bs, .list ms =>
        if ms.length ≠ bs.length then
          .error (.runtimeError ("The list of " ++ inputName ++ " you passed to ObservationMetaData " ++
            "has a different length than the list of bandpass names you passed"))
        else if ms.length ≠ bs.length then
          .error (.runtimeError ("In ObservationMetaData you tried to assign bandpass " ++
            "and " ++ inputName ++ " with lists of different length"))
        else .ok (some ((bs.zip ms).foldl (fun d p => d.setItem p.1 p.2) []))
      | .name b, .scalar m => .ok (some [(b, m)])

/-! ## Lemmas -/

@[simp] theorem BandpassDict.keys_nil : BandpassDict.keys [] = [] := rfl

theorem BandpassDict.mem_keys_setItem (d : BandpassDict) (k k' : String) (v : Float) :
    k' ∈ (d.setItem k v).keys ↔ k' = k ∨ k' ∈ d.keys := by
  unfold setItem
  split
  · rename_i hk
    have hkeys : keys (d.map fun p => if p.1 = k then (k, v) else p) = d.keys := by
      simp only [keys, List.map_map]
      congr 1
      funext p
      by_cases hp : p.1 = k <;> simp [hp]
    rw [hkeys]
    exact ⟨Or.inr, by rintro (rfl | h) <;> assumption⟩
  · simp [keys, or_comm]

/-- The keys of a dict built by `d[b] = m` over a list of pairs. -/
theorem BandpassDict.mem_keys_foldl_setItem (l : List (String × Float)) (d : BandpassDict)
    (k : String) :
    k ∈ (l.foldl (fun d p => d.setItem p.1 p.2) d).keys ↔ k ∈ d.keys ∨ k ∈ l.map Prod.fst := by
  induction l generalizing d with
  | nil => simp
  | cons p l ih =>
    rw [List.foldl_cons, ih, mem_keys_setItem]
    simp only [List.map_cons, List.mem_cons]
    tauto

/-- **The dict is keyed by the bandpass names**: a dict that `_assignDictKeyedToBandpass`
returns has exactly the names of `self._bandpass` as keys. -/
theorem assignDictKeyedToBandpass_keys {bp : Bandpass} {v : BandpassValue} {n : String}
    {d : BandpassDict} (h : _assignDictKeyedToBandpass (some bp) (some v) n = .ok (some d))
    (k : String) : k ∈ d.keys ↔ k ∈ bp.names := by
  cases bp <;> cases v <;> simp only [_assignDictKeyedToBandpass, reduceCtorEq] at h
  case name.scalar b m =>
    cases h
    simp [Bandpass.names, BandpassDict.keys]
  case list.list bs ms =>
    split at h
    · cases h
    · rename_i hlen
      simp only [ne_eq, hlen, not_false_eq_true, if_false, Except.ok.injEq, Option.some.injEq] at h
      subst h
      rw [BandpassDict.mem_keys_foldl_setItem, List.map_fst_zip _ _ (by omega)]
      simp [Bandpass.names]

/-- Overwriting the value of a present key keeps every other entry. -/
theorem BandpassDict.lookup_map_overwrite (d : BandpassDict) (k k' : String) (v : Float) :
    (d.map fun p => if p.1 = k then (k, v) else p).lookup k' =
      if k' = k ∧ k ∈ d.keys then some v else d.lookup k' := by
  induction d with
  | nil => simp
  | cons p d ih =>
    obtain ⟨a, b⟩ := p
    by_cases ha : a = k
    · subst ha
      by_cases hk' : k' = a
      · simp [List.lookup_cons, keys, hk']
      · simp [List.lookup_cons, keys, hk', ih, beq_false_of_ne hk']
    · by_cases hk' : k' = a
      · subst hk'
        simp [List.lookup_cons, keys, ha]
      · simp [List.lookup_cons, keys, hk', ha, ih, beq_false_of_ne hk']
        simp only [List.mem_cons, Ne.symm ha, false_or]

theorem BandpassDict.lookup_setItem (d : BandpassDict) (k k' : String) (v : Float) :
    (d.setItem k v).lookup k' = if k' = k then some v else d.lookup k' := by
  unfold setItem
  split
  · rename_i hk
    rw [lookup_map_overwrite]
    simp [hk]
  · rename_i hk
    rw [List.lookup_append]
    split_ifs with h
    · subst h
      have : d.lookup k' = none := by
        rw [List.lookup_eq_none_iff]
        rintro ⟨a, b⟩ hp
        simp only [bne_iff_ne, ne_eq]
        rintro rfl
        exact hk (List.mem_map_of_mem Prod.fst hp)
      simp [this]
    · simp [List.lookup_cons, beq_false_of_ne h]

/-- A dict built by `d[b] = m` over a list of pairs holds, for each key, the value of its last
pair. -/
theorem BandpassDict.lookup_foldl_setItem (l : List (String × Float)) (d : BandpassDict) (k : String) :
    (l.foldl (fun d p => d.setItem p.1 p.2) d).lookup k = (l.reverse.lookup k).or (d.lookup k) := by
  induction l generalizing d with
  | nil => simp
  | cons p l ih =>
    obtain ⟨a, b⟩ := p
    rw [List.foldl_cons, ih, lookup_setItem, List.reverse_cons, List.lookup_append, Option.or_assoc]
    by_cases h : k = a
    · simp [h]
    · simp [h, beq_false_of_ne h, List.lookup_cons]

/-- **The dict holds the last value given for each name**: in a dict that
`_assignDictKeyedToBandpass` returns, a bandpass name maps to the value paired with its last
occurrence in the bandpass, and any other name is absent (`d[k]` raises `KeyError`). -/
theorem assignDictKeyedToBandpass_lookup {bp : Bandpass} {v : BandpassValue} {n : String}
    {d : BandpassDict} (h : _assignDictKeyedToBandpass (some bp) (some v) n = .ok (some d))
    (k : String) : d.lookup k = (bp.names.zip v.values).reverse.lookup k := by
  cases bp <;> cases v <;> simp only [_assignDictKeyedToBandpass, reduceCtorEq] at h
  case name.scalar b m =>
    cases h
    rfl
  case list.list bs ms =>
    split at h
    · cases h
    · rename_i hlen
      simp only [ne_eq, hlen, not_false_eq_true, if_false, Except.ok.injEq, Option.some.injEq] at h
      subst h
      rw [BandpassDict.lookup_foldl_setItem]
      simp [Bandpass.names, BandpassValue.values]

/-- `bandpassName=['u', 'g', 'u'], m5=[24.0, 25.0, 26.0]`: `m5['u']` is `26.0`. -/
theorem assignDictKeyedToBandpass_lookup_repeated :
    _assignDictKeyedToBandpass (some (.list ["u", "g", "u"])) (some (.list [24, 25, 26])) "m5" =
      .ok (some [("u", 26), ("g", 25)]) ∧
    List.lookup "u" [("u", 26), ("g", 25)] =
      ((Bandpass.list ["u", "g", "u"]).names.zip (BandpassValue.list [24, 25, 26]).values).reverse.lookup "u" :=
  ⟨rfl, @assignDictKeyedToBandpass_lookup (.list ["u", "g", "u"]) (.list [24, 25, 26]) "m5" _ rfl "u"⟩

end SimsUtils
