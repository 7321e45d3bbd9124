import SimsUtils.Python

/-!
# `ModifiedJulianDate`

An instant, built from exactly one MJD reading in International Atomic Time or in
Coordinated Universal Time (`ModifiedJulianDate.py`).  The object wraps an astropy `Time`
(`_time`) and caches its readings in the other scales (`_tai`, `_utc`, `_tt`, `_tdb`,
`_ut1`, `_dut1`) on first access.  Astropy is not under src/: what it computes from a
`Time` is the parameter `A : Astropy`.

The cache is transparent: along any sequence of readings of an object the constructor
built, each reading is what astropy computes from the wrapped `Time`, as if nothing were
cached (provided astropy reads a `Time` back in its own scale).

    new TAI UTC = .ok m → A.ReadsBack → (readAll A rs m).1 = rs.map (direct A · m._time)
                                                                  (readAll_eq_direct)
-/

namespace SimsUtils

/-- The astropy `Time` the object wraps: the MJD reading it was built from, and its scale. -/
inductive Time
  | tai (mjd : Float)
  | utc (mjd : Float)

/-- astropy's `mjd` of a `Time`, in the scale it was built in. -/
def Time.mjd : Time → Float
  | .tai x | .utc x => x

/-- `ModifiedJulianDate`: the wrapped `Time` and the cached readings (`None` until read). -/
structure ModifiedJulianDate where
  _time : Time
  _tai : Option Float
  _utc : Option Float
  _tt : Option Float
  _tdb : Option Float
  _ut1 : Option Float
  _dut1 : Option Float

/-- What astropy computes from a `Time`: its MJD reading in each scale, and
`get_delta_ut1_utc()` in seconds.  The last two need the IERS table: outside it astropy
raises, here `none`. -/
structure Astropy where
  tai : Time → Float
  utc : Time → Float
  tt : Time → Float
  tdb : Time → Float
  ut1 : Time → Option Float
  deltaUt1Utc : Time → Option Float

namespace ModifiedJulianDate

/-- `ModifiedJulianDate(TAI=x)`. -/
def ofTAI (x : Float) : ModifiedJulianDate :=
  ⟨.tai x, some x, none, none, none, none, none⟩

/-- `ModifiedJulianDate(UTC=x)`. -/
def ofUTC (x : Float) : ModifiedJulianDate :=
  ⟨.utc x, none, some x, none, none, none, none⟩

/-- `ModifiedJulianDate.__init__(TAI, UTC)`: `TAI` wins when both are given. -/
def new (TAI UTC : Option Float) : Except PyError ModifiedJulianDate :=
  match TAI, UTC with
  | none, none => .error (.runtimeError
      ("You must specify either TAI or UTC to " ++ "instantiate ModifiedJulianDate"))
  | some x, _ => .ok (ofTAI x)
  | none, some x => .ok (ofUTC x)

/-! ## Readings -/

variable (A : Astropy)

/-- A property that caches its reading: `if self._x is None: self._x = compute`, then
`return self._x`. -/
def cachedReading (cache : ModifiedJulianDate → Option Float)
    (store : ModifiedJulianDate → Float → ModifiedJulianDate) (compute : ModifiedJulianDate → Float)
    (m : ModifiedJulianDate) : Float × ModifiedJulianDate :=
  match cache m with
  | some x => (x, m)
  | none => (compute m, store m (compute m))

/-- `TAI`: `self._time.tai.mjd`, cached. -/
def TAI (m : ModifiedJulianDate) : Float × ModifiedJulianDate :=
  cachedReading (·._tai) (fun m x => { m with _tai := some x }) (fun m => A.tai m._time) m

/-- `UTC`: `self._time.utc.mjd`, cached. -/
def UTC (m : ModifiedJulianDate) : Float × ModifiedJulianDate :=
  cachedReading (·._utc) (fun m x => { m with _utc := some x }) (fun m => A.utc m._time) m

/-- `TT`: `self._time.tt.mjd`, cached. -/
def TT (m : ModifiedJulianDate) : Float × ModifiedJulianDate :=
  cachedReading (·._tt) (fun m x => { m with _tt := some x }) (fun m => A.tt m._time) m

/-- `TDB`: `self._time.tdb.mjd`, cached. -/
def TDB (m : ModifiedJulianDate) : Float × ModifiedJulianDate :=
  cachedReading (·._tdb) (fun m x => { m with _tdb := some x }) (fun m => A.tdb m._time) m

/-- `UT1`: `self._time.ut1.mjd`, cached; outside the IERS table, a warning (which reads
`self.UTC`) and `UT1 = UTC`. -/
def UT1 (m : ModifiedJulianDate) : Float × ModifiedJulianDate :=
  match m._ut1 with
  | some x => (x, m)
  | none =>
    match A.ut1 m._time with
    | some x => (x, { m with _ut1 := some x })
    | none =>
      let (utc, m) := UTC A m
      (utc, { m with _ut1 := some utc })

/-- `dut1`: `self._time.get_delta_ut1_utc()` in seconds, cached; outside the IERS table, a
warning (which reads `self.UTC`) and `0.0`. -/
def dut1 (m : ModifiedJulianDate) : Float × ModifiedJulianDate :=
  match m._dut1 with
  | some x => (x, m)
  | none =>
    match A.deltaUt1Utc m._time with
    | some x => (x, { m with _dut1 := some x })
    | none =>
      let (_, m) := UTC A m
      (0.0, { m with _dut1 := some 0.0 })

/-- `ModifiedJulianDate(TAI=x).TAI` is the cached `x`, and changes nothing. -/
@[simp] theorem TAI_ofTAI (x : Float) : TAI A (ofTAI x) = (x, ofTAI x) := rfl

/-- Reading `TAI` fills the TAI cache with the value read, and writes nothing else. -/
theorem TAI_snd (m : ModifiedJulianDate) : (TAI A m).2 = { m with _tai := some (TAI A m).1 } := by
  unfold TAI cachedReading
  split
  · rename_i x hx
    cases m
    cases hx
    rfl
  · rfl

/-- The properties that read the object. -/
inductive Reading
  | TAI | UTC | UT1 | dut1 | TT | TDB

/-- Read one property. -/
def read : Reading → ModifiedJulianDate → Float × ModifiedJulianDate
  | .TAI => TAI A
  | .UTC => UTC A
  | .UT1 => UT1 A
  | .dut1 => dut1 A
  | .TT => TT A
  | .TDB => TDB A

/-- Read the properties in turn: the values read and the object left. -/
def readAll : List Reading → ModifiedJulianDate → List Float × ModifiedJulianDate
  | [], m => ([], m)
  | r :: rs, m =>
    let (x, m) := read A r m
    let (xs, m) := readAll rs m
    (x :: xs, m)

/-- What a reading would be with nothing cached. -/
def direct : Reading → Time → Float
  | .TAI, t => A.tai t
  | .UTC, t => A.utc t
  | .UT1, t => (A.ut1 t).getD (A.utc t)
  | .dut1, t => (A.deltaUt1Utc t).getD 0.0
  | .TT, t => A.tt t
  | .TDB, t => A.tdb t

/-- Every cached reading is what astropy computes from the wrapped `Time`. -/
structure CacheSound (m : ModifiedJulianDate) : Prop where
  tai : m._tai = none ∨ m._tai = some (A.tai m._time)
  utc : m._utc = none ∨ m._utc = some (A.utc m._time)
  tt : m._tt = none ∨ m._tt = some (A.tt m._time)
  tdb : m._tdb = none ∨ m._tdb = some (A.tdb m._time)
  ut1 : m._ut1 = none ∨ m._ut1 = some (direct A .UT1 m._time)
  dut1 : m._dut1 = none ∨ m._dut1 = some (direct A .dut1 m._time)

end ModifiedJulianDate

/-- Astropy reads a `Time` back in the scale it was built in. -/
structure Astropy.ReadsBack (A : Astropy) : Prop where
  tai : ∀ x, A.tai (.tai x) = x
  utc : ∀ x, A.utc (.utc x) = x

namespace ModifiedJulianDate

variable {A : Astropy}

/-! ## The cache is transparent -/

/-- A cached reading returns the computed value and keeps the object sound and its `Time`,
when the cache holds nothing else and the store writes only the cache. -/
theorem cachedReading_spec {cache : ModifiedJulianDate → Option Float}
    {store : ModifiedJulianDate → Float → ModifiedJulianDate} {compute : ModifiedJulianDate → Float}
    {m : ModifiedJulianDate} (hc : cache m = none ∨ cache m = some (compute m))
    (hs : CacheSound A m → CacheSound A (store m (compute m)))
    (ht : (store m (compute m))._time = m._time) (hm : CacheSound A m) :
    (cachedReading cache store compute m).1 = compute m ∧
      CacheSound A (cachedReading cache store compute m).2 ∧
      (cachedReading cache store compute m).2._time = m._time := by
  unfold cachedReading
  rcases hc with h | h <;> rw [h]
  · exact ⟨rfl, hs hm, ht⟩
  · exact ⟨rfl, hm, rfl⟩

theorem UTC_spec {m : ModifiedJulianDate} (hm : CacheSound A m) :
    (UTC A m).1 = A.utc m._time ∧ CacheSound A (UTC A m).2 ∧ (UTC A m).2._time = m._time :=
  cachedReading_spec hm.utc (fun h => { h with utc := .inr rfl }) rfl hm

/-- **Step lemma**: each reading is astropy's value, and keeps the cache sound and the
wrapped `Time`. -/
theorem read_spec (r : Reading) {m : ModifiedJulianDate} (hm : CacheSound A m) :
    (read A r m).1 = direct A r m._time ∧ CacheSound A (read A r m).2 ∧
      (read A r m).2._time = m._time := by
  cases r with
  | TAI => exact cachedReading_spec hm.tai (fun h => { h with tai := .inr rfl }) rfl hm
  | UTC => exact UTC_spec hm
  | TT => exact cachedReading_spec hm.tt (fun h => { h with tt := .inr rfl }) rfl hm
  | TDB => exact cachedReading_spec hm.tdb (fun h => { h with tdb := .inr rfl }) rfl hm
  | UT1 =>
    simp only [read, UT1]
    rcases hm.ut1 with h | h <;> rw [h]
    · rcases hx : A.ut1 m._time with _ | x
      · obtain ⟨h1, h2, h3⟩ := UTC_spec hm
        refine ⟨by simp [direct, hx, h1], { h2 with ut1 := .inr ?_ }, h3⟩
        simp [direct, hx, h1, h3]
      · exact ⟨by simp [direct, hx], { hm with ut1 := .inr (by simp [direct, hx]) }, rfl⟩
    · exact ⟨rfl, hm, rfl⟩
  | dut1 =>
    simp only [read, dut1]
    rcases hm.dut1 with h | h <;> rw [h]
    · rcases hx : A.deltaUt1Utc m._time with _ | x
      · obtain ⟨_, h2, h3⟩ := UTC_spec hm
        refine ⟨by simp [direct, hx], { h2 with dut1 := .inr ?_ }, h3⟩
        simp [direct, hx, h3]
      · exact ⟨by simp [direct, hx], { hm with dut1 := .inr (by simp [direct, hx]) }, rfl⟩
    · exact ⟨rfl, hm, rfl⟩

/-- **Run lemma**: along any sequence of readings of a sound object, each value is
astropy's. -/
theorem readAll_spec (rs : List Reading) {m : ModifiedJulianDate} (hm : CacheSound A m) :
    (readAll A rs m).1 = rs.map (direct A · m._time) ∧ CacheSound A (readAll A rs m).2 ∧
      (readAll A rs m).2._time = m._time := by
  induction rs generalizing m with
  | nil => exact ⟨rfl, hm, rfl⟩
  | cons r rs ih =>
    obtain ⟨h1, h2, h3⟩ := read_spec r hm
    obtain ⟨ih1, ih2, ih3⟩ := ih h2
    simp only [readAll, List.map_cons, h1, ih1, h3, ih2, ih3, and_self]

/-- The constructor builds a sound object, when astropy reads a `Time` back in its scale. -/
theorem new_cacheSound (hA : A.ReadsBack) {TAI UTC : Option Float} {m : ModifiedJulianDate}
    (h : new TAI UTC = .ok m) : CacheSound A m := by
  unfold new at h
  split at h <;> cases h
  · exact ⟨.inr (by simp [ofTAI, hA.tai]), .inl rfl, .inl rfl, .inl rfl, .inl rfl, .inl rfl⟩
  · exact ⟨.inl rfl, .inr (by simp [ofUTC, hA.utc]), .inl rfl, .inl rfl, .inl rfl, .inl rfl⟩

/-- **The cache is transparent**: whatever properties are read, in whatever order, from an
object the constructor built, each reading is what astropy computes from the wrapped
`Time`. -/
theorem readAll_eq_direct (hA : A.ReadsBack) {TAI UTC : Option Float} {m : ModifiedJulianDate}
    (h : new TAI UTC = .ok m) (rs : List Reading) :
    (readAll A rs m).1 = rs.map (direct A · m._time) :=
  (readAll_spec rs (new_cacheSound hA h)).1

/-- An astropy whose scales all read the MJD a `Time` was built from, with no IERS table. -/
def flatAstropy : Astropy :=
  ⟨Time.mjd, Time.mjd, Time.mjd, Time.mjd, fun _ => none, fun _ => none⟩

/-- `ModifiedJulianDate(TAI=5.0)` read as `UTC`, `dut1`, then `UTC` again (from the cache):
`5.0`, `0.0` (outside the IERS table), `5.0`. -/
theorem readAll_ofTAI_utc_dut1 :
    flatAstropy.ReadsBack ∧ new (some 5) none = .ok (ofTAI 5) ∧
      (readAll flatAstropy [.UTC, .dut1, .UTC] (ofTAI 5)).1 = [5, 0.0, 5] :=
  have hA : flatAstropy.ReadsBack := ⟨fun _ => rfl, fun _ => rfl⟩
  ⟨hA, rfl, @readAll_eq_direct _ hA (some 5) none _ rfl _⟩

end ModifiedJulianDate

end SimsUtils
