import SimsUtils.Astrometry.Pipeline

/-!
# The pipeline computes star by star

Given numpy arrays of `n` stars and what each function needs (an mjd, a site with which the
observatory parameters exist, an epoch), the entry points return, never raise (`Returns`),
and star `i` of what they return is what palpy's one-star routines give on the values of star
`i`: no star's value depends on another star, and none is dropped, repeated or moved.  This
holds for any palpy that computes star by star (`Palpy.StarByStar`); `_applyPrecession`,
which makes no vectorised call, rotates each star by the one matrix of `palpy.prenut` for any
palpy.  On one star given as floats, `_applyProperMotion` and `_applyPrecession` compute what
they compute for each star of an array.

    decs.length = ras.length → obs._mjd = some mjd →
      _calculateObservatoryParameters P A obs 0.5 r = .ok p →
      Returns (_icrsFromObserved P A (.ndarray ras) (.ndarray decs) (some obs) (some epoch) r)
        (· = stars ras.length fun i =>
          let app := P.oapqk "r" (ras.getD i 0) (decs.getD i 0) p
          P.ampqk app.1 app.2 (P.mappa epoch (mjd.TDB A).1))          (icrsFromObserved_stars)
-/

namespace SimsUtils

variable {Prms ObsPrms α β : Type}

/-- `x` returns, from any log, a value satisfying `R`: it never raises. -/
def Returns (x : Pipeline α) (R : α → Prop) : Prop :=
  ∀ log, wp x (fun out _ => R out) (fun _ _ => False) log

/-- Star `i` of an optional per-star array; `0.0` when it is not given (`numpy.zeros`). -/
def optStar (o : Option (List Float)) (i : Nat) : Float :=
  (o.getD []).getD i 0

/-! ## Lemmas -/

section Lemmas

variable {x : Pipeline α} {R : α → Prop} {n i : Nat}

theorem Returns.wp (h : Returns x R) {Q : α → List VectorCall → Prop}
    {E : PyError → List VectorCall → Prop} {log : List VectorCall} (hQ : ∀ out t, R out → Q out t) :
    SimsUtils.wp x Q E log :=
  wp_mono (h log) hQ fun _ _ h => h.elim

theorem stars_congr {f g : Nat → Float × Float} (h : ∀ i < n, f i = g i) : stars n f = stars n g := by
  simp only [stars, column_congr fun i hi => congrArg Prod.fst (h i hi),
    column_congr fun i hi => congrArg Prod.snd (h i hi)]

@[simp] theorem length_stars_fst (f : Nat → Float × Float) : (stars n f).1.length = n :=
  length_column n _

@[simp] theorem length_stars_snd (f : Nat → Float × Float) : (stars n f).2.length = n :=
  length_column n _

theorem NumArg.len_ndarray_of {xs : List Float} (h : xs.length = n) : (NumArg.ndarray xs).len = .ok n :=
  congrArg Except.ok h

/-- An optional array that is not given is `numpy.zeros(n)`. -/
theorem getD_map_ndarray (o : Option (List Float)) (n : Nat) :
    (o.map NumArg.ndarray).getD (zeros n) = .ndarray (o.getD (List.replicate n 0)) := by
  cases o <;> rfl

theorem length_getD_replicate {o : Option (List Float)} (h : ∀ xs ∈ o, xs.length = n) :
    (o.getD (List.replicate n 0)).length = n := by
  cases o with
  | none => simp
  | some xs => exact h xs rfl

theorem getD_getD_replicate {o : Option (List Float)} (h : ∀ xs ∈ o, xs.length = n) (hi : i < n) :
    (o.getD (List.replicate n 0)).getD i 0 = optStar o i := by
  cases o with
  | none => simp [optStar, List.getD_eq_getElem?_getD, hi]
  | some xs => rfl

/-- `pm_ra / numpy.cos(dec)` on arrays of one length, star by star. -/
theorem binop_div_cos {ras decs prs : List Float} (h : decs.length = ras.length)
    (hpr : prs.length = ras.length) :
    (NumArg.ndarray prs).binop (· / ·) ((NumArg.ndarray decs).map Float.cos) =
      .ok (.ndarray (column ras.length fun i => prs.getD i 0 / Float.cos (decs.getD i 0))) := by
  rw [NumArg.map, map_eq_column _ h, NumArg.binop_ndarray _ hpr (length_column _ _)]
  exact congrArg _ (congrArg _ (column_congr fun i hi => by rw [getD_column hi]))

end Lemmas

/-! ## Each entry point -/

section EntryPoints

variable {P : Palpy Prms ObsPrms} (hP : P.StarByStar) (A : Astropy) {ras decs : List Float}
  (h : decs.length = ras.length)
include hP h

theorem icrsFromAppGeo_stars (epoch : Float) (mjd : ModifiedJulianDate) :
    Returns (_icrsFromAppGeo P A (.ndarray ras) (.ndarray decs) epoch (some mjd))
      (· = stars ras.length fun i => P.ampqk (ras.getD i 0) (decs.getD i 0) (P.mappa epoch (mjd.TDB A).1)) := by
  intro log
  rw [icrsFromAppGeo_some, hP.wp_vectorCall (n := ras.length) ?_]
  · exact hP.ampqkVector _ _ _ _ rfl h
  · simp [h]

theorem appGeoFromObserved_stars {obs : ObservationMetaData β} {includeRefraction : Bool}
    {wavelength : Float} {p : ObsPrms}
    (hp : _calculateObservatoryParameters P A obs wavelength includeRefraction = .ok p) :
    Returns (_appGeoFromObserved P A (.ndarray ras) (.ndarray decs) includeRefraction wavelength (some obs))
      (· = stars ras.length fun i => P.oapqk "r" (ras.getD i 0) (decs.getD i 0) p) := by
  intro log
  rw [wp_appGeoFromObserved_passes hp (NumArg.len_ndarray_of rfl) (NumArg.len_ndarray_of h),
    hP.wp_vectorCall (n := ras.length) ?_]
  · exact hP.oapqkVector _ _ _ _ _ rfl h
  · simp [h]

theorem observedFromAppGeo_stars {obs : ObservationMetaData β} {site : Site}
    {includeRefraction altAzHr : Bool} {wavelength : Float} {p : ObsPrms} (hsite : obs._site = some site)
    (hp : _calculateObservatoryParameters P A obs wavelength includeRefraction = .ok p) :
    Returns (_observedFromAppGeo P A (.ndarray ras) (.ndarray decs) includeRefraction altAzHr wavelength
        (some obs))
      (· = ((stars ras.length fun i =>
          let o := P.aopqk (ras.getD i 0) (decs.getD i 0) p
          (o.2.2.2.2, o.2.2.2.1)),
        if altAzHr then some (stars ras.length fun i =>
          let o := P.aopqk (ras.getD i 0) (decs.getD i 0) p
          let azAlt := P.de2h o.2.2.1 o.2.2.2.1 site.latitude_rad
          (azAlt.2, azAlt.1))
        else none)) := by
  intro log
  rw [wp_observedFromAppGeo_passes hsite hp (NumArg.len_ndarray_of rfl) (NumArg.len_ndarray_of h), wp_bind,
    hP.wp_vectorCall (n := ras.length) ?_, hP.aopqkVector _ _ _ _ rfl h]
  · cases altAzHr
    · rfl
    · rw [observedOutputs, if_pos rfl, wp_bind, hP.wp_vectorCall (n := ras.length) ?_,
        hP.de2hVector ras.length _ _ _ ?_ ?_]
      · simp only [wp_pure, if_true, stars5]
        rw [stars_congr fun i hi => by rw [getD_column hi, getD_column hi]]
        rfl
      all_goals simp [stars5]
  · simp [h]

theorem icrsFromObserved_stars {obs : ObservationMetaData β} {mjd : ModifiedJulianDate} {epoch : Float}
    {includeRefraction : Bool} {p : ObsPrms} (hmjd : obs._mjd = some mjd)
    (hp : _calculateObservatoryParameters P A obs 0.5 includeRefraction = .ok p) :
    Returns (_icrsFromObserved P A (.ndarray ras) (.ndarray decs) (some obs) (some epoch) includeRefraction)
      (· = stars ras.length fun i =>
        let app := P.oapqk "r" (ras.getD i 0) (decs.getD i 0) p
        P.ampqk app.1 app.2 (P.mappa epoch (mjd.TDB A).1)) := by
  intro log
  rw [wp_icrsFromObserved_passes hmjd (NumArg.len_ndarray_of rfl) (NumArg.len_ndarray_of h)]
  refine (appGeoFromObserved_stars hP A h hp).wp fun app t happ => ?_
  subst happ
  refine (icrsFromAppGeo_stars hP A (by simp) epoch mjd).wp fun out _ hout => ?_
  rw [hout, length_stars_fst]
  exact stars_congr fun i hi => by simp only [stars, getD_column hi]

theorem appGeoFromICRS_stars {pm_ra pm_dec parallax v_rad : Option (List Float)}
    (hopt : ∀ o ∈ [pm_ra, pm_dec, parallax, v_rad], ∀ xs ∈ o, xs.length = ras.length) (epoch : Float)
    (mjd : ModifiedJulianDate) :
    Returns (_appGeoFromICRS P A (.ndarray ras) (.ndarray decs) (pm_ra.map .ndarray) (pm_dec.map .ndarray)
        (parallax.map .ndarray) (v_rad.map .ndarray) epoch (some mjd))
      (· = stars ras.length fun i =>
        P.mapqk (ras.getD i 0) (decs.getD i 0) (optStar pm_ra i / Float.cos (decs.getD i 0)) (optStar pm_dec i)
          (3600 * degrees (optStar parallax i)) (optStar v_rad i) (P.mappa epoch (mjd.TDB A).1)) := by
  simp only [List.forall_mem_cons, List.not_mem_nil, false_implies, implies_true, and_true] at hopt
  obtain ⟨hpr, hpd, hpx, hrv⟩ := hopt
  have hpmc := binop_div_cos h (length_getD_replicate hpr)
  rw [← getD_map_ndarray] at hpmc
  intro log
  rw [wp_appGeoFromICRS_passes (NumArg.len_ndarray_of rfl) (NumArg.len_ndarray_of h) hpmc]
  simp only [getD_map_ndarray, arcsecFromRadians, NumArg.map]
  rw [hP.wp_vectorCall (n := ras.length) ?_, hP.mapqkVector ras.length _ _ _ _ _ _ _ ?_]
  · refine stars_congr fun i hi => ?_
    rw [getD_column hi, getD_getD_replicate hpr hi, getD_getD_replicate hpd hi, getD_getD_replicate hrv hi,
      map_eq_column _ (length_getD_replicate hpx), getD_column hi, getD_getD_replicate hpx hi]
  all_goals simp [h, length_getD_replicate hpd, length_getD_replicate hpx, length_getD_replicate hrv]

theorem observedFromICRS_stars {pm_ra pm_dec parallax v_rad : Option (List Float)}
    (hopt : ∀ o ∈ [pm_ra, pm_dec, parallax, v_rad], ∀ xs ∈ o, xs.length = ras.length)
    {obs : ObservationMetaData β} {mjd : ModifiedJulianDate} {epoch : Float} {includeRefraction : Bool}
    {p : ObsPrms} (hmjd : obs._mjd = some mjd)
    (hp : _calculateObservatoryParameters P A obs 0.5 includeRefraction = .ok p) :
    Returns (_observedFromICRS P A (.ndarray ras) (.ndarray decs) (pm_ra.map .ndarray) (pm_dec.map .ndarray)
        (parallax.map .ndarray) (v_rad.map .ndarray) (some obs) (some epoch) includeRefraction)
      (· = stars ras.length fun i =>
        let app := P.mapqk (ras.getD i 0) (decs.getD i 0) (optStar pm_ra i / Float.cos (decs.getD i 0))
          (optStar pm_dec i) (3600 * degrees (optStar parallax i)) (optStar v_rad i)
          (P.mappa epoch (mjd.TDB A).1)
        let o := P.aopqk app.1 app.2 p
        (o.2.2.2.2, o.2.2.2.1)) := by
  obtain ⟨site, hsite⟩ := Option.isSome_iff_exists.1 (calculateObservatoryParameters_ok hp).2
  intro log
  rw [wp_observedFromICRS_passes hmjd (NumArg.len_ndarray_of rfl) (NumArg.len_ndarray_of h)]
  refine (appGeoFromICRS_stars hP A h hopt epoch mjd).wp fun app t happ => ?_
  subst happ
  refine (observedFromAppGeo_stars hP A (by simp) hsite hp).wp fun out _ hout => ?_
  simp only [hout, length_stars_fst]
  exact stars_congr fun i hi => by simp only [stars, getD_column hi]

theorem applyProperMotion_stars {pm_ras pm_decs pxs rvs : List Float}
    (hl : ∀ xs ∈ [pm_ras, pm_decs, pxs, rvs], xs.length = ras.length) (epoch : Float)
    (mjd : ModifiedJulianDate) :
    Returns (_applyProperMotion P A (.ndarray ras) (.ndarray decs) (.ndarray pm_ras) (.ndarray pm_decs)
        (.ndarray pxs) (.ndarray rvs) epoch (some mjd))
      (· = let out := stars ras.length fun i =>
          P.pm (ras.getD i 0) (decs.getD i 0) (pm_ras.getD i 0 / Float.cos (decs.getD i 0)) (pm_decs.getD i 0)
            (3600 * degrees (pxs.getD i 0)) (rvs.getD i 0) epoch (P.epj (mjd.TT A).1)
        (.ndarray out.1, .ndarray out.2)) := by
  simp only [List.forall_mem_cons, List.not_mem_nil, false_implies, implies_true, and_true] at hl
  obtain ⟨hpr, hpd, hpx, hrv⟩ := hl
  intro log
  rw [wp_applyProperMotion_passes (n := ras.length) ?_ ?_ (binop_div_cos h hpr) ?_]
  · simp only [arcsecFromRadians, NumArg.map]
    rw [hP.wp_vectorCall (n := ras.length) ?_, hP.pmVector ras.length _ _ _ _ _ _ _ _ ?_]
    · rw [stars_congr fun i hi => by rw [getD_column hi, map_eq_column _ hpx, getD_column hi]]
    all_goals simp [h, hpd, hpx, hrv]
  · rfl
  · simp [NumArg.isList]
  · simp [NumArg.len, arcsecFromRadians, NumArg.map, h, hpr, hpd, hpx, hrv]

omit h in
theorem applyRefraction_stars (zs : List Float) (tanzCoeff tan3zCoeff : Float) :
    Returns (applyRefraction P (.ndarray zs) tanzCoeff tan3zCoeff)
      (· = .ndarray (zs.map (P.refz · tanzCoeff tan3zCoeff))) := by
  intro log
  rw [applyRefraction, hP.wp_vectorCall (n := zs.length) ?_, hP.refzVector]
  simp

end EntryPoints

/-! ## One star as floats, and precession -/

section OneStar

variable {P : Palpy Prms ObsPrms} (A : Astropy)

theorem applyProperMotion_float (r d pr pd px rv epoch : Float) (mjd : ModifiedJulianDate) :
    Returns (_applyProperMotion P A (.float r) (.float d) (.float pr) (.float pd) (.float px) (.float rv) epoch
        (some mjd))
      (· = let out := P.pm r d (pr / Float.cos d) pd (3600 * degrees px) rv epoch (P.epj (mjd.TT A).1)
        (.float out.1, .float out.2)) :=
  fun _ => rfl

theorem applyRefraction_float (z tanzCoeff tan3zCoeff : Float) :
    Returns (applyRefraction P (.float z) tanzCoeff tan3zCoeff) (· = .float (P.refz z tanzCoeff tan3zCoeff)) :=
  fun _ => rfl

theorem applyPrecession_float (S : Spherical) (r d epoch : Float) (mjd : ModifiedJulianDate) :
    Returns (_applyPrecession P A S (.float r) (.float d) epoch (some mjd))
      (· = let out := S.sphericalFromCartesian ((P.prenut epoch (mjd.TT A).1).dot (S.cartesianFromSpherical r d))
        (.float out.1, .float out.2)) :=
  fun _ => rfl

/-- `_applyPrecession` rotates every star by the one matrix of `palpy.prenut`, for any palpy. -/
theorem applyPrecession_stars (S : Spherical) {ras decs : List Float} (h : decs.length = ras.length)
    (epoch : Float) (mjd : ModifiedJulianDate) :
    Returns (_applyPrecession P A S (.ndarray ras) (.ndarray decs) epoch (some mjd))
      (· = let out := stars ras.length fun i => S.sphericalFromCartesian ((P.prenut epoch (mjd.TT A).1).dot
          (S.cartesianFromSpherical (ras.getD i 0) (decs.getD i 0)))
        (.ndarray out.1, .ndarray out.2)) := by
  intro log
  rw [wp_applyPrecession_passes ?_ (NumArg.binop_ndarray _ rfl h) (NumArg.binop_ndarray _ rfl h)]
  · rfl
  · intro n hn
    rw [← hn]
    exact NumArg.len_ndarray_of h

end OneStar

/-! ## The pipeline -/

/-- `out` is two arrays of `n` values, and star `i` of them is what `one i` returns, as floats. -/
def PerStarOf (n : Nat) (one : Nat → Pipeline (NumArg × NumArg)) (out : NumArg × NumArg) : Prop :=
  ∃ raOut decOut : List Float, out = (.ndarray raOut, .ndarray decOut) ∧ raOut.length = n ∧
    decOut.length = n ∧ ∀ i < n, Returns (one i) (· = (.float (raOut.getD i 0), .float (decOut.getD i 0)))

section Pipeline

variable {P : Palpy Prms ObsPrms} (A : Astropy)

theorem perStarOf_stars {n : Nat} {f : Nat → Float × Float} {one : Nat → Pipeline (NumArg × NumArg)}
    (h : ∀ i < n, Returns (one i) (· = (.float (f i).1, .float (f i).2))) :
    PerStarOf n one (.ndarray (stars n f).1, .ndarray (stars n f).2) :=
  ⟨_, _, rfl, length_stars_fst f, length_stars_snd f, fun i hi => by
    simpa only [stars, getD_column hi] using h i hi⟩

/-- **The pipeline computes star by star.**  For a palpy that computes star by star and numpy
arrays `ras`, `decs` of one length: each coordinate function returns, given an mjd, an epoch
and an `obs_metadata` whose observatory parameters exist (and, for `_appGeoFromICRS` and
`_observedFromICRS`, any of the proper motions, parallax and radial velocity as arrays of that
length), and star `i` of what it returns is palpy's one-star routine on the values of star `i`:
`ampqk`, `oapqk`, `aopqk` (with `de2h` for altitude and azimuth), `oapqk` then `ampqk`,
`mapqk` (the proper motion in RA over `cos(dec)`, the parallax in arcsec, `0.0` for what is
not given), and `mapqk` then `aopqk`. -/
theorem entry_points_star_by_star (hP : P.StarByStar) (ras decs : List Float) (h : decs.length = ras.length) :
    (∀ epoch mjd, Returns (_icrsFromAppGeo P A (.ndarray ras) (.ndarray decs) epoch (some mjd))
      (· = stars ras.length fun i => P.ampqk (ras.getD i 0) (decs.getD i 0) (P.mappa epoch (mjd.TDB A).1))) ∧
    (∀ (obs : ObservationMetaData β) includeRefraction wavelength p,
      _calculateObservatoryParameters P A obs wavelength includeRefraction = .ok p →
      Returns (_appGeoFromObserved P A (.ndarray ras) (.ndarray decs) includeRefraction wavelength (some obs))
        (· = stars ras.length fun i => P.oapqk "r" (ras.getD i 0) (decs.getD i 0) p)) ∧
    (∀ (obs : ObservationMetaData β) site includeRefraction altAzHr wavelength p, obs._site = some site →
      _calculateObservatoryParameters P A obs wavelength includeRefraction = .ok p →
      Returns (_observedFromAppGeo P A (.ndarray ras) (.ndarray decs) includeRefraction altAzHr wavelength
          (some obs))
        (· = ((stars ras.length fun i =>
            let o := P.aopqk (ras.getD i 0) (decs.getD i 0) p
            (o.2.2.2.2, o.2.2.2.1)),
          if altAzHr then some (stars ras.length fun i =>
            let o := P.aopqk (ras.getD i 0) (decs.getD i 0) p
            let azAlt := P.de2h o.2.2.1 o.2.2.2.1 site.latitude_rad
            (azAlt.2, azAlt.1))
          else none))) ∧
    (∀ (obs : ObservationMetaData β) mjd epoch includeRefraction p, obs._mjd = some mjd →
      _calculateObservatoryParameters P A obs 0.5 includeRefraction = .ok p →
      Returns (_icrsFromObserved P A (.ndarray ras) (.ndarray decs) (some obs) (some epoch) includeRefraction)
        (· = stars ras.length fun i =>
          let app := P.oapqk "r" (ras.getD i 0) (decs.getD i 0) p
          P.ampqk app.1 app.2 (P.mappa epoch (mjd.TDB A).1))) ∧
    ∀ pm_ra pm_dec parallax v_rad : Option (List Float),
      (∀ o ∈ [pm_ra, pm_dec, parallax, v_rad], ∀ xs ∈ o, xs.length = ras.length) →
      (∀ epoch mjd, Returns (_appGeoFromICRS P A (.ndarray ras) (.ndarray decs) (pm_ra.map .ndarray)
          (pm_dec.map .ndarray) (parallax.map .ndarray) (v_rad.map .ndarray) epoch (some mjd))
        (· = stars ras.length fun i =>
          P.mapqk (ras.getD i 0) (decs.getD i 0) (optStar pm_ra i / Float.cos (decs.getD i 0)) (optStar pm_dec i)
            (3600 * degrees (optStar parallax i)) (optStar v_rad i) (P.mappa epoch (mjd.TDB A).1))) ∧
      ∀ (obs : ObservationMetaData β) mjd epoch includeRefraction p, obs._mjd = some mjd →
        _calculateObservatoryParameters P A obs 0.5 includeRefraction = .ok p →
        Returns (_observedFromICRS P A (.ndarray ras) (.ndarray decs) (pm_ra.map .ndarray) (pm_dec.map .ndarray)
            (parallax.map .ndarray) (v_rad.map .ndarray) (some obs) (some epoch) includeRefraction)
          (· = stars ras.length fun i =>
            let app := P.mapqk (ras.getD i 0) (decs.getD i 0) (optStar pm_ra i / Float.cos (decs.getD i 0))
              (optStar pm_dec i) (3600 * degrees (optStar parallax i)) (optStar v_rad i)
              (P.mappa epoch (mjd.TDB A).1)
            let o := P.aopqk app.1 app.2 p
            (o.2.2.2.2, o.2.2.2.1)) :=
  ⟨icrsFromAppGeo_stars hP A h, fun _ _ _ _ hp => appGeoFromObserved_stars hP A h hp,
    fun _ _ _ _ _ _ hs hp => observedFromAppGeo_stars hP A h hs hp,
    fun _ _ _ _ _ hm hp => icrsFromObserved_stars hP A h hm hp,
    fun _ _ _ _ ho => ⟨appGeoFromICRS_stars hP A h ho, fun _ _ _ _ _ hm hp => observedFromICRS_stars hP A h ho hm hp⟩⟩

/-- `_icrsFromObserved` on two stars, at a site on the equator, with the palpy that puts every
star at the origin. -/
theorem icrsFromObserved_originPalpy_stars :
    originPalpy.StarByStar ∧ [30, 40].length = [10, 20].length ∧
      Returns (_icrsFromObserved originPalpy ModifiedJulianDate.flatAstropy (.ndarray [10, 20])
          (.ndarray [30, 40])
          (some (⟨none, none, none, none, some ⟨0, 0, 2000, 10, 283.15, 750, 0.4, 0.0065⟩, 2000,
            some (.ofTAI 5), none, none, none, none, none, none, none⟩ : ObservationMetaData Unit))
          (some 2000) true)
        (· = stars 2 fun _ => (0, 0)) :=
  ⟨originPalpy_starByStar, rfl, (entry_points_star_by_star ModifiedJulianDate.flatAstropy
    originPalpy_starByStar [10, 20] [30, 40] rfl).2.2.2.1 _ _ 2000 true () rfl rfl⟩

end Pipeline

end SimsUtils
