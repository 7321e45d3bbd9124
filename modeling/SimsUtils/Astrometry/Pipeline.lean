import SimsUtils.Astrometry.Palpy
import SimsUtils.ObservationMetaData.Basic

/-!
# The coordinate pipeline of `AstrometryUtils.py`

The functions that hand per-star arrays to palpy's vectorised primitives, in radians
(`_appGeoFromICRS`, ...) and their degree wrappers (`appGeoFromICRS`, ...), and
`_applyPrecession`, which rotates each star by palpy's precession-nutation matrix.  palpy is
the parameter `P`, astropy's time scales the parameter `A`, the spherical-Cartesian
conversions of `lsst.sims.utils` the parameter `S`; `obs_metadata` is an
`ObservationMetaData`, of which the pipeline reads `site` and `mjd`.  Each function is a
`Pipeline` program: its log records every vectorised call with its per-star arguments.

For each entry point, `wp_…_of` says what it tests before it calls palpy: every test raises
in the state the call was made in, and the rest is the vectorised call on arrays that passed
them (and what follows it).

    (∀ e, E e log) → (∀ obs n p, ... → wp (vectorCall P "oapqkVector" [ra, dec] ...) Q E log) →
      wp (_appGeoFromObserved P A ra dec ...) Q E log           (wp_appGeoFromObserved_of)
-/

namespace SimsUtils

/-- `cartesianFromSpherical` and `sphericalFromCartesian` (`lsst.sims.utils`, not under
src/) on one star; numpy applies them to arrays star by star. -/
structure Spherical where
  cartesianFromSpherical : Float → Float → Vec3
  sphericalFromCartesian : Vec3 → Float × Float

variable {Prms ObsPrms β : Type} (P : Palpy Prms ObsPrms) (A : Astropy)

/-- `numpy.degrees` of the two rows of an output. -/
def degreesRows (rows : List Float × List Float) : List Float × List Float :=
  (rows.1.map degrees, rows.2.map degrees)

/-- The length test of the observed-place functions:
`if len(ra) != len(dec): raise RuntimeError("You passed %d RAs but %d Decs to <fn>")`. -/
def checkRaDecLengths (ra dec : NumArg) (fn : String) : Pipeline Unit := do
  let nRa ← liftExcept ra.len
  let nDec ← liftExcept dec.len
  raiseIf (nRa != nDec)
    (.runtimeError ("You passed " ++ toString nRa ++ " RAs but " ++ toString nDec ++ " Decs to " ++ fn))

/-! ## Refraction -/

/-- `refractionCoefficients`: `palpy.refco` at the site, to a precision of `1e-10`; the
latitude is the geodetic one. -/
def refractionCoefficients (wavelength : Float) (site : Option Site) : Except PyError (Float × Float) :=
  let precision := 1e-10
  match site with
  | none => .error (.runtimeError "Cannot call refractionCoefficients; no site information")
  | some site =>
    .ok (P.refco site.height site.temperature_kelvin site.pressure site.humidity wavelength
      site.latitude_rad site.lapseRate precision)

/-- `applyRefraction`: a list is refused, an array goes to `palpy.refzVector`, a float to
`palpy.refz`. -/
def applyRefraction (zenithDistance : NumArg) (tanzCoeff tan3zCoeff : Float) : Pipeline NumArg :=
  match zenithDistance with
  | .list _ => raise (.runtimeError ("You passed a list of zenithDistances to " ++
      "applyRefraction.  The method won't know how to " ++ "handle that.  Pass a numpy array."))
  | .ndarray zs => vectorCall P "refzVector" [.ndarray zs]
      (.ndarray (P.refzVector (.ndarray zs) tanzCoeff tan3zCoeff))
  | .float zd => pure (.float (P.refz zd tanzCoeff tan3zCoeff))

/-! ## Apparent geocentric and ICRS -/

/-- `_appGeoFromICRS`: only `ra` and `dec` are compared; a missing proper motion, parallax or
radial velocity becomes `numpy.zeros(len(ra))`. -/
def _appGeoFromICRS (ra dec : NumArg) (pm_ra pm_dec parallax v_rad : Option NumArg) (epoch : Float)
    (mjd : Option ModifiedJulianDate) : Pipeline (List Float × List Float) := do
  let some mjd := mjd | raise (.runtimeError "cannot call appGeoFromICRS; mjd is None")
  let nRa ← liftExcept ra.len
  let nDec ← liftExcept dec.len
  raiseIf (nRa != nDec)
    (.runtimeError ("appGeoFromICRS: len(ra) " ++ toString nRa ++ " len(dec) " ++ toString nDec ++ " "))
  let pm_ra := pm_ra.getD (zeros nRa)
  let pm_dec := pm_dec.getD (zeros nRa)
  let v_rad := v_rad.getD (zeros nRa)
  let parallax := parallax.getD (zeros nRa)
  let prms := P.mappa epoch (mjd.TDB A).1
  let pm_ra_corrected ← liftExcept (pm_ra.binop (· / ·) (dec.map Float.cos))
  vectorCall P "mapqkVector" [ra, dec, pm_ra_corrected, pm_dec, arcsecFromRadians parallax, v_rad]
    (P.mapqkVector ra dec pm_ra_corrected pm_dec (arcsecFromRadians parallax) v_rad prms)

/-- `radiansFromArcsec` of an optional argument, `None` passed on. -/
def optRadiansFromArcsec : Option NumArg → Except PyError (Option NumArg)
  | none => .ok none
  | some x => some <$> radiansFromArcsec x

/-- `appGeoFromICRS`: degrees and arcsec in, degrees out. -/
def appGeoFromICRS (ra dec : NumArg) (pm_ra pm_dec parallax v_rad : Option NumArg) (epoch : Float)
    (mjd : Option ModifiedJulianDate) : Pipeline (List Float × List Float) := do
  let pm_ra_in ← liftExcept (optRadiansFromArcsec pm_ra)
  let pm_dec_in ← liftExcept (optRadiansFromArcsec pm_dec)
  let px_in ← liftExcept (optRadiansFromArcsec parallax)
  let output ← _appGeoFromICRS P A (ra.map radians) (dec.map radians) pm_ra_in pm_dec_in px_in v_rad
    epoch mjd
  pure (degreesRows output)

/-- `_icrsFromAppGeo`: no test at all; `mjd.TDB` on `None` raises `AttributeError`. -/
def _icrsFromAppGeo (ra dec : NumArg) (epoch : Float) (mjd : Option ModifiedJulianDate) :
    Pipeline (List Float × List Float) := do
  let some mjd := mjd | raise .attributeError
  let params := P.mappa epoch (mjd.TDB A).1
  vectorCall P "ampqkVector" [ra, dec] (P.ampqkVector ra dec params)

/-- `icrsFromAppGeo`. -/
def icrsFromAppGeo (ra dec : NumArg) (epoch : Float) (mjd : Option ModifiedJulianDate) :
    Pipeline (List Float × List Float) := do
  let output ← _icrsFromAppGeo P A (ra.map radians) (dec.map radians) epoch mjd
  pure (degreesRows output)

/-! ## Observed place -/

/-- `_calculateObservatoryParameters`: the `palpy.aoppa` parameters of the site and date,
with or without the atmosphere; reading `mjd` or `site` of an object without them raises
`AttributeError`. -/
def _calculateObservatoryParameters (obs_metadata : ObservationMetaData β) (wavelength : Float)
    (includeRefraction : Bool) : Except PyError ObsPrms :=
  let xPolar := 0.0
  let yPolar := 0.0
  match obs_metadata._mjd, obs_metadata._site with
  | some mjd, some site =>
    if includeRefraction then
      .ok (P.aoppa (mjd.UTC A).1 (mjd.dut1 A).1 site.longitude_rad site.latitude_rad site.height
        xPolar yPolar site.temperature_kelvin site.pressure site.humidity wavelength site.lapseRate)
    else
      .ok (P.aoppa (mjd.UTC A).1 (mjd.dut1 A).1 site.longitude_rad site.latitude_rad site.height
        xPolar yPolar site.temperature 0.0 0.0 wavelength site.lapseRate)
  | _, _ => .error .attributeError

/-- The end of `_observedFromAppGeo`: with `altAzHr`, the hour angle and Dec go to
`palpy.de2hVector` for (altitude, azimuth). -/
def observedOutputs (site : Site) (altAzHr : Bool)
    (out : List Float × List Float × List Float × List Float × List Float) :
    Pipeline ((List Float × List Float) × Option (List Float × List Float)) :=
  let hourAngle := out.2.2.1
  let decOut := out.2.2.2.1
  let raOut := out.2.2.2.2
  if altAzHr then do
    let azAlt ← vectorCall P "de2hVector" [.ndarray hourAngle, .ndarray decOut]
      (P.de2hVector (.ndarray hourAngle) (.ndarray decOut) site.latitude_rad)
    pure ((raOut, decOut), some (azAlt.2, azAlt.1))
  else pure ((raOut, decOut), none)

/-- `_observedFromAppGeo`: (RA, Dec), and (altitude, azimuth) when `altAzHr`. -/
def _observedFromAppGeo (ra dec : NumArg) (includeRefraction altAzHr : Bool) (wavelength : Float)
    (obs_metadata : Option (ObservationMetaData β)) :
    Pipeline ((List Float × List Float) × Option (List Float × List Float)) := do
  let some obs := obs_metadata
    | raise (.runtimeError "Cannot call observedFromAppGeo without an obs_metadata")
  let some site := obs._site
    | raise (.runtimeError "Cannot call observedFromAppGeo: obs_metadata has no site info")
  raiseIf obs._mjd.isNone (.runtimeError "Cannot call observedFromAppGeo: obs_metadata has no mjd")
  checkRaDecLengths ra dec "observedFromAppGeo"
  let obsPrms ← liftExcept (_calculateObservatoryParameters P A obs wavelength includeRefraction)
  let out ← vectorCall P "aopqkVector" [ra, dec] (P.aopqkVector ra dec obsPrms)
  observedOutputs P site altAzHr out

/-- `observedFromAppGeo`. -/
def observedFromAppGeo (ra dec : NumArg) (includeRefraction altAzHr : Bool) (wavelength : Float)
    (obs_metadata : Option (ObservationMetaData β)) :
    Pipeline ((List Float × List Float) × Option (List Float × List Float)) := do
  let (raDec, altAz) ← _observedFromAppGeo P A (ra.map radians) (dec.map radians) includeRefraction
    altAzHr wavelength obs_metadata
  pure (degreesRows raDec, altAz.map degreesRows)

/-- `_appGeoFromObserved`. -/
def _appGeoFromObserved (ra dec : NumArg) (includeRefraction : Bool) (wavelength : Float)
    (obs_metadata : Option (ObservationMetaData β)) : Pipeline (List Float × List Float) := do
  let some obs := obs_metadata
    | raise (.runtimeError "Cannot call appGeoFromObserved without an obs_metadata")
  let some _ := obs._site
    | raise (.runtimeError "Cannot call appGeoFromObserved: obs_metadata has no site info")
  raiseIf obs._mjd.isNone (.runtimeError "Cannot call appGeoFromObserved: obs_metadata has no mjd")
  checkRaDecLengths ra dec "appGeoFromObserved"
  let obsPrms ← liftExcept (_calculateObservatoryParameters P A obs wavelength includeRefraction)
  vectorCall P "oapqkVector" [ra, dec] (P.oapqkVector "r" ra dec obsPrms)

/-- `appGeoFromObserved`. -/
def appGeoFromObserved (ra dec : NumArg) (includeRefraction : Bool) (wavelength : Float)
    (obs_metadata : Option (ObservationMetaData β)) : Pipeline (List Float × List Float) := do
  let output ← _appGeoFromObserved P A (ra.map radians) (dec.map radians) includeRefraction
    wavelength obs_metadata
  pure (degreesRows output)

/-! ## ICRS and observed place -/

/-- `_observedFromICRS`: `_appGeoFromICRS`, then `_observedFromAppGeo` on its output. -/
def _observedFromICRS (ra dec : NumArg) (pm_ra pm_dec parallax v_rad : Option NumArg)
    (obs_metadata : Option (ObservationMetaData β)) (epoch : Option Float)
    (includeRefraction : Bool) : Pipeline (List Float × List Float) := do
  let some obs := obs_metadata
    | raise (.runtimeError "cannot call observedFromICRS; obs_metadata is none")
  let some mjd := obs._mjd
    | raise (.runtimeError "cannot call observedFromICRS; obs_metadata.mjd is none")
  let some epoch := epoch
    | raise (.runtimeError "cannot call observedFromICRS; you have not specified an epoch")
  checkRaDecLengths ra dec "observedFromICRS"
  let apparent ← _appGeoFromICRS P A ra dec pm_ra pm_dec parallax v_rad epoch (some mjd)
  let ra_apparent := apparent.1
  let dec_apparent := apparent.2
  let observed ← _observedFromAppGeo P A (.ndarray ra_apparent) (.ndarray dec_apparent)
    includeRefraction false 0.5 (some obs)
  pure observed.1

/-- `observedFromICRS`. -/
def observedFromICRS (ra dec : NumArg) (pm_ra pm_dec parallax v_rad : Option NumArg)
    (obs_metadata : Option (ObservationMetaData β)) (epoch : Option Float)
    (includeRefraction : Bool) : Pipeline (List Float × List Float) := do
  let pm_ra_in ← liftExcept (optRadiansFromArcsec pm_ra)
  let pm_dec_in ← liftExcept (optRadiansFromArcsec pm_dec)
  let parallax_in ← liftExcept (optRadiansFromArcsec parallax)
  let output ← _observedFromICRS P A (ra.map radians) (dec.map radians) pm_ra_in pm_dec_in parallax_in
    v_rad obs_metadata epoch includeRefraction
  pure (degreesRows output)

/-- `_icrsFromObserved`: `_appGeoFromObserved`, then `_icrsFromAppGeo` on its output. -/
def _icrsFromObserved (ra dec : NumArg) (obs_metadata : Option (ObservationMetaData β))
    (epoch : Option Float) (includeRefraction : Bool) : Pipeline (List Float × List Float) := do
  let some obs := obs_metadata
    | raise (.runtimeError "cannot call icrsFromObserved; obs_metadata is None")
  let some mjd := obs._mjd
    | raise (.runtimeError "cannot call icrsFromObserved; obs_metadata.mjd is None")
  let some epoch := epoch
    | raise (.runtimeError "cannot call icrsFromObserved; you have not specified an epoch")
  checkRaDecLengths ra dec "icrsFromObserved"
  let app ← _appGeoFromObserved P A ra dec includeRefraction 0.5 (some obs)
  let ra_app := app.1
  let dec_app := app.2
  _icrsFromAppGeo P A (.ndarray ra_app) (.ndarray dec_app) epoch (some mjd)

/-- `icrsFromObserved`. -/
def icrsFromObserved (ra dec : NumArg) (obs_metadata : Option (ObservationMetaData β))
    (epoch : Option Float) (includeRefraction : Bool) : Pipeline (List Float × List Float) := do
  let output ← _icrsFromObserved P A (ra.map radians) (dec.map radians) obs_metadata epoch
    includeRefraction
  pure (degreesRows output)

/-! ## Proper motion -/

/-- `len(ra) != len(x1) or len(ra) != len(x2) or ...`, left to right, stopping at the first
difference. -/
def anyLenDiffers (nRa : Nat) : List NumArg → Except PyError Bool
  | [] => .ok false
  | x :: xs => do
    let n ← x.len
    if nRa ≠ n then .ok true else anyLenDiffers nRa xs

/-- The length test of `_applyProperMotion`; its message reads all six lengths. -/
def checkPmLengths (ra dec pm_ra pm_dec parallaxArcsec v_rad : NumArg) : Except PyError Unit := do
  let nRa ← ra.len
  if ← anyLenDiffers nRa [dec, pm_ra, pm_dec, parallaxArcsec, v_rad] then
    let nDec ← dec.len
    let nPmRa ← pm_ra.len
    let nPmDec ← pm_dec.len
    let nPx ← parallaxArcsec.len
    let nRv ← v_rad.len
    .error (.runtimeError ("You passed: " ++ toString nRa ++ " RAs, " ++ toString nDec ++ " Dec, " ++
      toString nPmRa ++ " pm_ras, " ++ toString nPmDec ++ " pm_decs, " ++ toString nPx ++
      " parallaxes, " ++ toString nRv ++ " v_rads " ++
      "to applyPm; those numbers need to be identical."))
  else .ok ()

/-- `palpy.pm(ra, dec, ...)` on one star: Cython converts each argument to a `double`, in
order. -/
def pmCall (ra dec pm_ra pm_dec parallax v_rad : NumArg) (ep0 ep1 : Float) :
    Except PyError (Float × Float) := do
  let r ← ra.toDouble
  let d ← dec.toDouble
  let pr ← pm_ra.toDouble
  let pd ← pm_dec.toDouble
  let px ← parallax.toDouble
  let rv ← v_rad.toDouble
  pure (P.pm r d pr pd px rv ep0 ep1)

/-- `_applyProperMotion`: lists are refused; an array `ra` goes to `palpy.pmVector` after the
length test, anything else to the one-star `palpy.pm`. -/
def _applyProperMotion (ra dec pm_ra pm_dec parallax v_rad : NumArg) (epoch : Float)
    (mjd : Option ModifiedJulianDate) : Pipeline (NumArg × NumArg) := do
  raiseIf (ra.isList || dec.isList || pm_ra.isList || pm_dec.isList || parallax.isList || v_rad.isList)
    (.runtimeError ("You tried to pass lists to applyPm. " ++
      "The method does not know how to handle lists. " ++ "Use numpy arrays."))
  let some mjd := mjd | raise (.runtimeError "cannot call applyProperMotion; mjd is None")
  let parallaxArcsec := arcsecFromRadians parallax
  let julianEpoch := P.epj (mjd.TT A).1
  let pm_ra_corrected ← liftExcept (pm_ra.binop (· / ·) (dec.map Float.cos))
  if ra.isNdarray then do
    liftExcept (checkPmLengths ra dec pm_ra pm_dec parallaxArcsec v_rad)
    let out ← vectorCall P "pmVector" [ra, dec, pm_ra_corrected, pm_dec, parallaxArcsec, v_rad]
      (P.pmVector ra dec pm_ra_corrected pm_dec parallaxArcsec v_rad epoch julianEpoch)
    pure (.ndarray out.1, .ndarray out.2)
  else do
    let out ← liftExcept (pmCall P ra dec pm_ra_corrected pm_dec parallaxArcsec v_rad epoch julianEpoch)
    pure (.float out.1, .float out.2)

/-- `applyProperMotion`. -/
def applyProperMotion (ra dec pm_ra pm_dec parallax v_rad : NumArg) (epoch : Float)
    (mjd : Option ModifiedJulianDate) : Pipeline (NumArg × NumArg) := do
  let pm_ra_in ← liftExcept (radiansFromArcsec pm_ra)
  let pm_dec_in ← liftExcept (radiansFromArcsec pm_dec)
  let parallax_in ← liftExcept (radiansFromArcsec parallax)
  let output ← _applyProperMotion P A (ra.map radians) (dec.map radians) pm_ra_in pm_dec_in parallax_in
    v_rad epoch mjd
  pure (output.1.map degrees, output.2.map degrees)

/-! ## Precession -/

/-- The length test of `_applyPrecession`, made only when `ra` has a length
(`hasattr(ra, '__len__')`). -/
def checkPrecessionLengths (ra dec : NumArg) : Pipeline Unit :=
  match ra.len with
  | .ok nRa => do
    let nDec ← liftExcept dec.len
    raiseIf (nRa != nDec)
      (.runtimeError ("You supplied " ++ toString nRa ++ " RAs but " ++ toString nDec ++
        " Decs to applyPrecession"))
  | .error _ => pure ()

/-- `_applyPrecession`: the length test only when `ra` has a length; then each star is turned
into Cartesian coordinates, rotated by `palpy.prenut` and turned back (numpy broadcasts a
float `ra` against an array `dec`). -/
def _applyPrecession (S : Spherical) (ra dec : NumArg) (epoch : Float)
    (mjd : Option ModifiedJulianDate) : Pipeline (NumArg × NumArg) := do
  checkPrecessionLengths ra dec
  let some mjd := mjd | raise (.runtimeError "You need to supply applyPrecession with an mjd")
  let rmat := P.prenut epoch (mjd.TT A).1
  let precess := fun r d => S.sphericalFromCartesian (rmat.dot (S.cartesianFromSpherical r d))
  let raOut ← liftExcept (ra.binop (fun r d => (precess r d).1) dec)
  let decOut ← liftExcept (ra.binop (fun r d => (precess r d).2) dec)
  pure (raOut, decOut)

/-- `applyPrecession`. -/
def applyPrecession (S : Spherical) (ra dec : NumArg) (epoch : Float)
    (mjd : Option ModifiedJulianDate) : Pipeline (NumArg × NumArg) := do
  let output ← _applyPrecession P A S (ra.map radians) (dec.map radians) epoch mjd
  pure (output.1.map degrees, output.2.map degrees)

/-! ## What each entry point tests

One lemma per entry point: to establish `wp` of a call, give `E` in the state it was called
in, where every test raises, and the postcondition on the path that passes every test. -/

section Tests

variable {P A} {α : Type} {Q : α → List VectorCall → Prop} {E : PyError → List VectorCall → Prop}
  {log : List VectorCall}

/-- The `ra`/`dec` test changes nothing, and passes only on two sequences of one length. -/
theorem checkRaDecLengths_seq {ra dec : NumArg} {fn : String} {f : Unit → Pipeline α}
    (hE : ∀ e, E e log) (hf : ∀ n, ra.len = .ok n → dec.len = .ok n → wp (f ()) Q E log) :
    wp (checkRaDecLengths ra dec fn >>= f) Q E log := by
  simp only [checkRaDecLengths, wp_bind, wp_liftExcept, wp_raiseIf]
  rcases hra : ra.len with e | nRa
  · exact hE e
  · rcases hdec : dec.len with e | nDec
    · exact hE e
    · simp only [onResult_ok]
      split
      · exact hE _
      · rename_i h
        have : nRa = nDec := by simpa using h
        exact hf nRa hra (this ▸ hdec)

/-- The `or` chain passes only when every operand has the length of `ra`. -/
theorem anyLenDiffers_false {nRa : Nat} {xs : List NumArg} (h : anyLenDiffers nRa xs = .ok false) :
    ∀ x ∈ xs, x.len = .ok nRa := by
  induction xs with
  | nil => exact fun _ hx => nomatch hx
  | cons x xs ih =>
    obtain ⟨n, hx, h⟩ := except_bind_eq_ok.1 h
    split at h
    · cases h
    · rename_i hn
      intro y hy
      rcases List.mem_cons.1 hy with rfl | hy
      · rw [hx, not_not.1 hn]
      · exact ih h y hy

/-- `_applyProperMotion`'s test passes only when the six arrays have one length. -/
theorem checkPmLengths_ok {ra dec pm_ra pm_dec px v_rad : NumArg}
    (h : checkPmLengths ra dec pm_ra pm_dec px v_rad = .ok ()) :
    ∃ n, ∀ x ∈ [ra, dec, pm_ra, pm_dec, px, v_rad], x.len = .ok n := by
  obtain ⟨nRa, hra, h⟩ := except_bind_eq_ok.1 h
  obtain ⟨b, hany, h⟩ := except_bind_eq_ok.1 h
  cases b
  · refine ⟨nRa, fun x hx => ?_⟩
    rcases List.mem_cons.1 hx with rfl | hx
    · exact hra
    · exact anyLenDiffers_false hany x hx
  · simp [except_bind_eq_ok] at h


/-- `_applyPrecession`'s test changes nothing, and passes only when `ra` has no length or
`dec` has the same. -/
theorem checkPrecessionLengths_seq {ra dec : NumArg} {f : Unit → Pipeline α} (hE : ∀ e, E e log)
    (hf : (∀ n, ra.len = .ok n → dec.len = .ok n) → wp (f ()) Q E log) :
    wp (checkPrecessionLengths ra dec >>= f) Q E log := by
  rw [wp_bind]
  unfold checkPrecessionLengths
  rcases hra : ra.len with e | nRa
  · exact hf fun n hn => nomatch hra.symm.trans hn
  · simp only [wp_bind, wp_liftExcept, wp_raiseIf]
    rcases hdec : dec.len with e | nDec
    · exact hE e
    · simp only [onResult_ok]
      split
      · exact hE _
      · rename_i hne
        obtain rfl : nRa = nDec := by simpa using hne
        exact hf fun n hn => Except.ok.inj (hra.symm.trans hn) ▸ hdec

/-- `_appGeoFromICRS` tests `ra` against `dec` and broadcasts the proper motion before it
calls `mapqkVector`. -/
theorem wp_appGeoFromICRS_of {ra dec : NumArg} {pm_ra pm_dec parallax v_rad : Option NumArg}
    {epoch : Float} {mjd : Option ModifiedJulianDate} {Q : List Float × List Float → List VectorCall → Prop}
    (hE : ∀ e, E e log)
    (h : ∀ mjd' n pmc, mjd = some mjd' → ra.len = .ok n → dec.len = .ok n →
      (pm_ra.getD (zeros n)).binop (· / ·) (dec.map Float.cos) = .ok pmc →
      wp (vectorCall P "mapqkVector" [ra, dec, pmc, pm_dec.getD (zeros n),
          arcsecFromRadians (parallax.getD (zeros n)), v_rad.getD (zeros n)]
        (P.mapqkVector ra dec pmc (pm_dec.getD (zeros n)) (arcsecFromRadians (parallax.getD (zeros n)))
          (v_rad.getD (zeros n)) (P.mappa epoch (mjd'.TDB A).1))) Q E log) :
    wp (_appGeoFromICRS P A ra dec pm_ra pm_dec parallax v_rad epoch mjd) Q E log := by
  cases mjd with
  | none => exact hE _
  | some mjd' =>
    simp only [_appGeoFromICRS, wp_bind, wp_liftExcept, wp_raiseIf]
    rcases hra : ra.len with e | n
    · exact hE e
    · rcases hdec : dec.len with e | nDec
      · exact hE e
      · simp only [onResult_ok]
        split
        · exact hE _
        · rename_i hne
          obtain rfl : n = nDec := by simpa using hne
          rcases hpmc : (pm_ra.getD (zeros n)).binop (· / ·) (dec.map Float.cos) with e | pmc
          · exact hE e
          · exact h mjd' n pmc rfl hra hdec hpmc

/-- `_icrsFromAppGeo` raises only without an mjd. -/
theorem wp_icrsFromAppGeo_of {ra dec : NumArg} {epoch : Float} {mjd : Option ModifiedJulianDate}
    {Q : List Float × List Float → List VectorCall → Prop} (hE : mjd = none → E .attributeError log)
    (h : ∀ mjd', mjd = some mjd' →
      wp (vectorCall P "ampqkVector" [ra, dec] (P.ampqkVector ra dec (P.mappa epoch (mjd'.TDB A).1)))
        Q E log) :
    wp (_icrsFromAppGeo P A ra dec epoch mjd) Q E log := by
  cases mjd with
  | none => exact hE rfl
  | some mjd' => exact h mjd' rfl

/-- `_observedFromAppGeo` tests its `obs_metadata`, its arrays and the observatory
parameters before it calls `aopqkVector`. -/
theorem wp_observedFromAppGeo_of {β : Type} {ra dec : NumArg} {includeRefraction altAzHr : Bool}
    {wavelength : Float} {obs_metadata : Option (ObservationMetaData β)}
    {Q : (List Float × List Float) × Option (List Float × List Float) → List VectorCall → Prop}
    (hE : ∀ e, E e log)
    (h : ∀ obs site n p, obs_metadata = some obs → obs._site = some site → ra.len = .ok n →
      dec.len = .ok n → _calculateObservatoryParameters P A obs wavelength includeRefraction = .ok p →
      wp (vectorCall P "aopqkVector" [ra, dec] (P.aopqkVector ra dec p) >>= observedOutputs P site altAzHr)
        Q E log) :
    wp (_observedFromAppGeo P A ra dec includeRefraction altAzHr wavelength obs_metadata) Q E log := by
  unfold _observedFromAppGeo
  split
  · split
    · refine wp_raiseIf_seq (hE _) fun _ => checkRaDecLengths_seq hE fun n hra hdec => ?_
      rw [wp_bind, wp_liftExcept]
      rcases hp : _calculateObservatoryParameters P A _ wavelength includeRefraction with e | p
      · exact hE e
      · exact h _ _ n p rfl ‹_› hra hdec hp
    · exact hE _
  · exact hE _

/-- `_appGeoFromObserved` tests its `obs_metadata`, its arrays and the observatory
parameters before it calls `oapqkVector`. -/
theorem wp_appGeoFromObserved_of {β : Type} {ra dec : NumArg} {includeRefraction : Bool}
    {wavelength : Float} {obs_metadata : Option (ObservationMetaData β)}
    {Q : List Float × List Float → List VectorCall → Prop} (hE : ∀ e, E e log)
    (h : ∀ obs n p, obs_metadata = some obs → ra.len = .ok n → dec.len = .ok n →
      _calculateObservatoryParameters P A obs wavelength includeRefraction = .ok p →
      wp (vectorCall P "oapqkVector" [ra, dec] (P.oapqkVector "r" ra dec p)) Q E log) :
    wp (_appGeoFromObserved P A ra dec includeRefraction wavelength obs_metadata) Q E log := by
  unfold _appGeoFromObserved
  split
  · split
    · refine wp_raiseIf_seq (hE _) fun _ => checkRaDecLengths_seq hE fun n hra hdec => ?_
      rw [wp_bind, wp_liftExcept]
      rcases hp : _calculateObservatoryParameters P A _ wavelength includeRefraction with e | p
      · exact hE e
      · exact h _ n p rfl hra hdec hp
    · exact hE _
  · exact hE _

/-- `_observedFromICRS` tests its `obs_metadata`, the epoch and its arrays, then runs
`_appGeoFromICRS` and `_observedFromAppGeo`; it never tests the site. -/
theorem wp_observedFromICRS_of {β : Type} {ra dec : NumArg} {pm_ra pm_dec parallax v_rad : Option NumArg}
    {obs_metadata : Option (ObservationMetaData β)} {epoch : Option Float} {includeRefraction : Bool}
    {Q : List Float × List Float → List VectorCall → Prop} (hE : ∀ e, E e log)
    (h : ∀ obs mjd epoch' n, obs_metadata = some obs → obs._mjd = some mjd → epoch = some epoch' →
      ra.len = .ok n → dec.len = .ok n →
      wp (_appGeoFromICRS P A ra dec pm_ra pm_dec parallax v_rad epoch' (some mjd))
        (fun apparent => wp (_observedFromAppGeo P A (.ndarray apparent.1) (.ndarray apparent.2)
          includeRefraction false 0.5 (some obs)) (fun observed => Q observed.1) E) E log) :
    wp (_observedFromICRS P A ra dec pm_ra pm_dec parallax v_rad obs_metadata epoch includeRefraction)
      Q E log := by
  unfold _observedFromICRS
  split
  · split
    · split
      · refine checkRaDecLengths_seq hE fun n hra hdec => ?_
        refine wp_seq (h _ _ _ n rfl ‹_› rfl hra hdec) fun _ _ hw => ?_
        simpa only [wp_bind, wp_pure] using hw
      · exact hE _
    · exact hE _
  · exact hE _

/-- `_icrsFromObserved` tests its `obs_metadata`, the epoch and its arrays, then runs
`_appGeoFromObserved` and `_icrsFromAppGeo`. -/
theorem wp_icrsFromObserved_of {β : Type} {ra dec : NumArg} {obs_metadata : Option (ObservationMetaData β)}
    {epoch : Option Float} {includeRefraction : Bool} {Q : List Float × List Float → List VectorCall → Prop}
    (hE : ∀ e, E e log)
    (h : ∀ obs mjd epoch' n, obs_metadata = some obs → obs._mjd = some mjd → epoch = some epoch' →
      ra.len = .ok n → dec.len = .ok n →
      wp (_appGeoFromObserved P A ra dec includeRefraction 0.5 (some obs))
        (fun app => wp (_icrsFromAppGeo P A (.ndarray app.1) (.ndarray app.2) epoch' (some mjd)) Q E)
        E log) :
    wp (_icrsFromObserved P A ra dec obs_metadata epoch includeRefraction) Q E log := by
  unfold _icrsFromObserved
  split
  · split
    · split
      · refine checkRaDecLengths_seq hE fun n hra hdec => ?_
        rw [wp_bind]
        exact h _ _ _ n rfl ‹_› rfl hra hdec
      · exact hE _
    · exact hE _
  · exact hE _

/-- `_applyProperMotion` tests before it calls `pmVector`; an array `ra` goes there with six
arrays of one length, anything else but a list to `palpy.pm`. -/
theorem wp_applyProperMotion_of {ra dec pm_ra pm_dec parallax v_rad : NumArg} {epoch : Float}
    {mjd : Option ModifiedJulianDate} {Q : NumArg × NumArg → List VectorCall → Prop}
    (hE : ∀ e, E e log)
    (hvec : ∀ mjd' n pmc, mjd = some mjd' → ra.isNdarray →
      (∀ x ∈ [ra, dec, pm_ra, pm_dec, parallax, v_rad], x.isList = false) →
      pm_ra.binop (· / ·) (dec.map Float.cos) = .ok pmc →
      (∀ x ∈ [ra, dec, pm_ra, pm_dec, arcsecFromRadians parallax, v_rad], x.len = .ok n) →
      wp (vectorCall P "pmVector" [ra, dec, pmc, pm_dec, arcsecFromRadians parallax, v_rad]
          (P.pmVector ra dec pmc pm_dec (arcsecFromRadians parallax) v_rad epoch (P.epj (mjd'.TT A).1)))
        (fun out => Q (.ndarray out.1, .ndarray out.2)) E log)
    (hone : ∀ mjd' pmc out, mjd = some mjd' → ra.isNdarray = false → ra.isList = false →
      pm_ra.binop (· / ·) (dec.map Float.cos) = .ok pmc →
      pmCall P ra dec pmc pm_dec (arcsecFromRadians parallax) v_rad epoch (P.epj (mjd'.TT A).1) = .ok out →
      Q (.float out.1, .float out.2) log) :
    wp (_applyProperMotion P A ra dec pm_ra pm_dec parallax v_rad epoch mjd) Q E log := by
  unfold _applyProperMotion
  refine wp_raiseIf_seq (hE _) fun hlist => ?_
  split
  · rw [wp_bind, wp_liftExcept]
    rcases hpmc : pm_ra.binop (· / ·) (dec.map Float.cos) with e | pmc
    · exact hE e
    · rw [onResult_ok]
      split
      · rw [wp_bind, wp_liftExcept]
        rcases hc : checkPmLengths ra dec pm_ra pm_dec (arcsecFromRadians parallax) v_rad with e | ⟨⟩
        · exact hE e
        · obtain ⟨n, hn⟩ := checkPmLengths_ok hc
          rw [onResult_ok, wp_bind]
          exact hvec _ n pmc rfl ‹_› (by simpa [and_assoc] using hlist) hpmc hn
      · rename_i hnd
        rw [wp_bind, wp_liftExcept]
        rcases hpm : pmCall P ra dec pmc pm_dec (arcsecFromRadians parallax) v_rad epoch _ with e | out
        · exact hE e
        · simp only [Bool.or_eq_true, not_or] at hlist
          exact hone _ pmc out rfl (Bool.eq_false_iff.2 hnd) (Bool.eq_false_iff.2 hlist.1.1.1.1.1) hpmc hpm
  · exact hE _

/-- `_applyPrecession` makes no vectorised call: it tests `ra` against `dec` when `ra` has a
length, and the mjd, then broadcasts the rotation over the stars. -/
theorem wp_applyPrecession_of {S : Spherical} {ra dec : NumArg} {epoch : Float}
    {mjd : Option ModifiedJulianDate} {Q : NumArg × NumArg → List VectorCall → Prop}
    (hE : ∀ e, E e log)
    (h : ∀ mjd' raOut decOut, mjd = some mjd' → (∀ n, ra.len = .ok n → dec.len = .ok n) →
      ra.binop (fun r d => (S.sphericalFromCartesian ((P.prenut epoch (mjd'.TT A).1).dot
        (S.cartesianFromSpherical r d))).1) dec = .ok raOut →
      ra.binop (fun r d => (S.sphericalFromCartesian ((P.prenut epoch (mjd'.TT A).1).dot
        (S.cartesianFromSpherical r d))).2) dec = .ok decOut →
      Q (raOut, decOut) log) :
    wp (_applyPrecession P A S ra dec epoch mjd) Q E log := by
  unfold _applyPrecession
  refine checkPrecessionLengths_seq hE fun hlen => ?_
  cases mjd with
  | none => exact hE _
  | some mjd' =>
    simp only [wp_bind, wp_liftExcept, wp_pure]
    rcases hra : ra.binop _ dec with e | raOut
    · exact hE e
    · rcases hdec : ra.binop _ dec with e | decOut
      · exact hE e
      · exact h mjd' raOut decOut rfl hlen hra hdec

end Tests

/-! ## The path that passes every test

When its tests pass, an entry point is the vectorised call it makes (for `_observedFromICRS`
and `_icrsFromObserved`, the two functions it runs), whatever `Q` and `E` are. -/

section Passes

variable {P A} {E : PyError → List VectorCall → Prop} {log : List VectorCall} {ra dec : NumArg}
  {n : Nat}

/-- The observatory parameters exist only for an object with an mjd and a site. -/
theorem calculateObservatoryParameters_ok {obs : ObservationMetaData β} {wavelength : Float}
    {includeRefraction : Bool} {p : ObsPrms}
    (hp : _calculateObservatoryParameters P A obs wavelength includeRefraction = .ok p) :
    obs._mjd.isSome ∧ obs._site.isSome := by
  unfold _calculateObservatoryParameters at hp
  split at hp
  · rename_i hm hs
    simp [hm, hs]
  · cases hp

theorem calculateObservatoryParameters_of_some {obs : ObservationMetaData β} {mjd : ModifiedJulianDate}
    {site : Site} (hmjd : obs._mjd = some mjd) (hsite : obs._site = some site) (wavelength : Float)
    (includeRefraction : Bool) : ∃ p, _calculateObservatoryParameters P A obs wavelength includeRefraction = .ok p := by
  simp only [_calculateObservatoryParameters, hmjd, hsite]
  cases includeRefraction <;> exact ⟨_, rfl⟩

theorem checkRaDecLengths_passes {α : Type} {Q : α → List VectorCall → Prop} {fn : String}
    {f : Unit → Pipeline α} (hra : ra.len = .ok n)
    (hdec : dec.len = .ok n) : wp (checkRaDecLengths ra dec fn >>= f) Q E log = wp (f ()) Q E log := by
  simp [checkRaDecLengths, hra, hdec]

theorem checkPrecessionLengths_passes {α : Type} {Q : α → List VectorCall → Prop}
    {f : Unit → Pipeline α} (hlen : ∀ n, ra.len = .ok n → dec.len = .ok n) :
    wp (checkPrecessionLengths ra dec >>= f) Q E log = wp (f ()) Q E log := by
  rw [wp_bind]
  unfold checkPrecessionLengths
  rcases hra : ra.len with e | nRa
  · rfl
  · simp [hlen nRa hra]

theorem wp_appGeoFromICRS_passes {pm_ra pm_dec parallax v_rad : Option NumArg} {epoch : Float}
    {mjd : ModifiedJulianDate} {pmc : NumArg} {Q : List Float × List Float → List VectorCall → Prop}
    (hra : ra.len = .ok n) (hdec : dec.len = .ok n)
    (hpmc : (pm_ra.getD (zeros n)).binop (· / ·) (dec.map Float.cos) = .ok pmc) :
    wp (_appGeoFromICRS P A ra dec pm_ra pm_dec parallax v_rad epoch (some mjd)) Q E log =
      wp (vectorCall P "mapqkVector" [ra, dec, pmc, pm_dec.getD (zeros n),
          arcsecFromRadians (parallax.getD (zeros n)), v_rad.getD (zeros n)]
        (P.mapqkVector ra dec pmc (pm_dec.getD (zeros n)) (arcsecFromRadians (parallax.getD (zeros n)))
          (v_rad.getD (zeros n)) (P.mappa epoch (mjd.TDB A).1))) Q E log := by
  simp [_appGeoFromICRS, hra, hdec, hpmc, -wp_vectorCall]

theorem wp_observedFromAppGeo_passes {includeRefraction altAzHr : Bool} {wavelength : Float}
    {obs : ObservationMetaData β} {site : Site} {p : ObsPrms}
    {Q : (List Float × List Float) × Option (List Float × List Float) → List VectorCall → Prop}
    (hsite : obs._site = some site)
    (hp : _calculateObservatoryParameters P A obs wavelength includeRefraction = .ok p)
    (hra : ra.len = .ok n) (hdec : dec.len = .ok n) :
    wp (_observedFromAppGeo P A ra dec includeRefraction altAzHr wavelength (some obs)) Q E log =
      wp (vectorCall P "aopqkVector" [ra, dec] (P.aopqkVector ra dec p) >>= observedOutputs P site altAzHr)
        Q E log := by
  have hmjd : obs._mjd.isNone = false := by simpa using (calculateObservatoryParameters_ok hp).1
  simp [_observedFromAppGeo, hsite, hmjd, hp, checkRaDecLengths_passes hra hdec, -wp_vectorCall]

theorem wp_appGeoFromObserved_passes {includeRefraction : Bool} {wavelength : Float}
    {obs : ObservationMetaData β} {p : ObsPrms} {Q : List Float × List Float → List VectorCall → Prop}
    (hp : _calculateObservatoryParameters P A obs wavelength includeRefraction = .ok p)
    (hra : ra.len = .ok n) (hdec : dec.len = .ok n) :
    wp (_appGeoFromObserved P A ra dec includeRefraction wavelength (some obs)) Q E log =
      wp (vectorCall P "oapqkVector" [ra, dec] (P.oapqkVector "r" ra dec p)) Q E log := by
  obtain ⟨hmjd, hsite⟩ := calculateObservatoryParameters_ok hp
  obtain ⟨site, hsite⟩ := Option.isSome_iff_exists.1 hsite
  have hmjd : obs._mjd.isNone = false := by simpa using hmjd
  simp [_appGeoFromObserved, hsite, hmjd, hp, checkRaDecLengths_passes hra hdec, -wp_vectorCall]

theorem icrsFromAppGeo_some {epoch : Float} {mjd : ModifiedJulianDate} :
    _icrsFromAppGeo P A ra dec epoch (some mjd) =
      vectorCall P "ampqkVector" [ra, dec] (P.ampqkVector ra dec (P.mappa epoch (mjd.TDB A).1)) :=
  rfl

theorem wp_observedFromICRS_passes {pm_ra pm_dec parallax v_rad : Option NumArg}
    {obs : ObservationMetaData β} {mjd : ModifiedJulianDate} {epoch : Float} {includeRefraction : Bool}
    {Q : List Float × List Float → List VectorCall → Prop} (hmjd : obs._mjd = some mjd)
    (hra : ra.len = .ok n) (hdec : dec.len = .ok n) :
    wp (_observedFromICRS P A ra dec pm_ra pm_dec parallax v_rad (some obs) (some epoch) includeRefraction)
        Q E log =
      wp (_appGeoFromICRS P A ra dec pm_ra pm_dec parallax v_rad epoch (some mjd))
        (fun apparent => wp (_observedFromAppGeo P A (.ndarray apparent.1) (.ndarray apparent.2)
          includeRefraction false 0.5 (some obs)) (fun observed => Q observed.1) E) E log := by
  simp [_observedFromICRS, hmjd, checkRaDecLengths_passes hra hdec, -wp_vectorCall]

theorem wp_icrsFromObserved_passes {obs : ObservationMetaData β} {mjd : ModifiedJulianDate}
    {epoch : Float} {includeRefraction : Bool} {Q : List Float × List Float → List VectorCall → Prop}
    (hmjd : obs._mjd = some mjd) (hra : ra.len = .ok n) (hdec : dec.len = .ok n) :
    wp (_icrsFromObserved P A ra dec (some obs) (some epoch) includeRefraction) Q E log =
      wp (_appGeoFromObserved P A ra dec includeRefraction 0.5 (some obs))
        (fun app => wp (_icrsFromAppGeo P A (.ndarray app.1) (.ndarray app.2) epoch (some mjd)) Q E)
        E log := by
  simp [_icrsFromObserved, hmjd, checkRaDecLengths_passes hra hdec, -wp_vectorCall, icrsFromAppGeo_some]

/-- The `or` chain passes when every operand has the length of `ra`. -/
theorem anyLenDiffers_of_len {nRa : Nat} {xs : List NumArg} (h : ∀ x ∈ xs, x.len = .ok nRa) :
    anyLenDiffers nRa xs = .ok false := by
  induction xs with
  | nil => rfl
  | cons x xs ih =>
    simp only [List.forall_mem_cons] at h
    simp [anyLenDiffers, h.1, ih h.2, bind, Except.bind]

theorem wp_applyProperMotion_passes {pm_ra pm_dec parallax v_rad pmc : NumArg} {epoch : Float}
    {mjd : ModifiedJulianDate} {Q : NumArg × NumArg → List VectorCall → Prop} (hnd : ra.isNdarray)
    (hlist : ∀ x ∈ [ra, dec, pm_ra, pm_dec, parallax, v_rad], x.isList = false)
    (hpmc : pm_ra.binop (· / ·) (dec.map Float.cos) = .ok pmc)
    (hn : ∀ x ∈ [ra, dec, pm_ra, pm_dec, arcsecFromRadians parallax, v_rad], x.len = .ok n) :
    wp (_applyProperMotion P A ra dec pm_ra pm_dec parallax v_rad epoch (some mjd)) Q E log =
      wp (vectorCall P "pmVector" [ra, dec, pmc, pm_dec, arcsecFromRadians parallax, v_rad]
          (P.pmVector ra dec pmc pm_dec (arcsecFromRadians parallax) v_rad epoch (P.epj (mjd.TT A).1)))
        (fun out => Q (.ndarray out.1, .ndarray out.2)) E log := by
  simp only [List.forall_mem_cons, List.not_mem_nil, false_implies, implies_true, and_true] at hlist hn
  have hc : checkPmLengths ra dec pm_ra pm_dec (arcsecFromRadians parallax) v_rad = .ok () := by
    simp [checkPmLengths, hn, anyLenDiffers_of_len, bind, Except.bind]
  simp [_applyProperMotion, hlist, hnd, hpmc, hc, -wp_vectorCall]

theorem wp_applyPrecession_passes {S : Spherical} {epoch : Float} {mjd : ModifiedJulianDate}
    {raOut decOut : NumArg} {Q : NumArg × NumArg → List VectorCall → Prop}
    (hlen : ∀ n, ra.len = .ok n → dec.len = .ok n)
    (hra : ra.binop (fun r d => (S.sphericalFromCartesian ((P.prenut epoch (mjd.TT A).1).dot
      (S.cartesianFromSpherical r d))).1) dec = .ok raOut)
    (hdec : ra.binop (fun r d => (S.sphericalFromCartesian ((P.prenut epoch (mjd.TT A).1).dot
      (S.cartesianFromSpherical r d))).2) dec = .ok decOut) :
    wp (_applyPrecession P A S ra dec epoch (some mjd)) Q E log = Q (raOut, decOut) log := by
  simp [_applyPrecession, checkPrecessionLengths_passes hlen, hra, hdec]

end Passes

end SimsUtils
