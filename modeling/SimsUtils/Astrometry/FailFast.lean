import SimsUtils.Astrometry.StarWise

/-!
# Errors come before palpy is called

An entry point tests what it was given (the `obs_metadata`, its site and mjd, the epoch, the
lengths, lists) before it hands palpy a star, and numpy's and `palpy.pm`'s errors come before
the first vectorised call as well; with a palpy that computes star by star, nothing raises
after it.  So a call that raises has logged nothing (`RaisesFirst`): read off `wp_…_of` for the
tests, and off the star-by-star lemmas for what passes them.  The functions that test their
arrays do so for every `ra` and `dec` but lists (their degree wrappers for every input);
`_appGeoFromICRS` and `_icrsFromAppGeo` only on arrays whose lengths they never test, and
`_observedFromICRS` only with a site.  Outside that, a palpy that refuses arrays of different
lengths raises after the call: on the batches of `mismatched_batches_reach_palpy`, and after
`mapqkVector` when `_observedFromICRS` has no site.
-/

namespace SimsUtils

variable {Prms ObsPrms α β : Type}

/-- When `x` raises, it has logged no call. -/
def RaisesFirst (x : Pipeline α) : Prop :=
  ∀ log, wp x (fun _ _ => True) (fun _ t => t = log) log

/-! ## Lemmas -/

theorem Returns.raisesFirst {x : Pipeline α} {R : α → Prop} (h : Returns x R) : RaisesFirst x :=
  fun _ => h.wp fun _ _ _ => trivial

/-- A degree wrapper raises where its radians function does. -/
theorem RaisesFirst.map {x : Pipeline β} (h : RaisesFirst x) (f : β → α) :
    RaisesFirst (x >>= fun b => pure (f b)) :=
  fun log => wp_seq (h log) fun _ _ _ => trivial

/-- A conversion before the first call raises with the log untouched. -/
theorem RaisesFirst.liftExcept_bind (r : Except PyError β) {f : β → Pipeline α}
    (h : ∀ b, RaisesFirst (f b)) : RaisesFirst (liftExcept r >>= f) := by
  intro log
  rw [wp_bind, wp_liftExcept]
  cases r with
  | error _ => rfl
  | ok b => exact h b log

/-- A call that raises, from the empty log, only once it has logged a call. -/
theorem not_raisesFirst {x : Pipeline α} (h : wp x (fun _ _ => False) (fun _ t => t ≠ []) []) :
    ¬ RaisesFirst x := fun hr =>
  (wp_iff_after x fun _ => False).1 (wp_mono (wp_and h (hr [])) (fun _ _ h => h.1) fun _ _ h => h.1 h.2)

/-- Arguments with one length, none of them a list, are numpy arrays of that length. -/
theorem arrays_of_len {args : List NumArg} {n : Nat} (h : ∀ a ∈ args, a.len = .ok n ∧ a.isList = false) :
    ∀ a ∈ args, ∃ xs, a = NumArg.ndarray xs ∧ xs.length = n :=
  fun a ha => NumArg.eq_ndarray_of_len (h a ha).1 (h a ha).2

section EntryPoints

variable {P : Palpy Prms ObsPrms} (hP : P.StarByStar) (A : Astropy)
include hP

theorem observedFromAppGeo_raisesFirst {ra dec : NumArg} (hra : ra.isList = false) (hdec : dec.isList = false)
    (includeRefraction altAzHr : Bool) (wavelength : Float) (obs_metadata : Option (ObservationMetaData β)) :
    RaisesFirst (_observedFromAppGeo P A ra dec includeRefraction altAzHr wavelength obs_metadata) :=
  fun _ => wp_observedFromAppGeo_of (fun _ => rfl) fun _ _ _ _ _ hsite hn hdn hp => by
    obtain ⟨ras, rfl, rfl⟩ := NumArg.eq_ndarray_of_len hn hra
    obtain ⟨decs, rfl, hd⟩ := NumArg.eq_ndarray_of_len hdn hdec
    rw [← wp_observedFromAppGeo_passes hsite hp hn hdn]
    exact (observedFromAppGeo_stars hP A hd hsite hp).raisesFirst _

theorem appGeoFromObserved_raisesFirst {ra dec : NumArg} (hra : ra.isList = false) (hdec : dec.isList = false)
    (includeRefraction : Bool) (wavelength : Float) (obs_metadata : Option (ObservationMetaData β)) :
    RaisesFirst (_appGeoFromObserved P A ra dec includeRefraction wavelength obs_metadata) :=
  fun _ => wp_appGeoFromObserved_of (fun _ => rfl) fun _ _ _ _ hn hdn hp => by
    obtain ⟨ras, rfl, rfl⟩ := NumArg.eq_ndarray_of_len hn hra
    obtain ⟨decs, rfl, hd⟩ := NumArg.eq_ndarray_of_len hdn hdec
    rw [← wp_appGeoFromObserved_passes hp hn hdn]
    exact (appGeoFromObserved_stars hP A hd hp).raisesFirst _

/-- `_icrsFromObserved`: without observatory parameters `_appGeoFromObserved` raises before
its call; with them, nothing raises. -/
theorem icrsFromObserved_raisesFirst {ra dec : NumArg} (hra : ra.isList = false) (hdec : dec.isList = false)
    (obs_metadata : Option (ObservationMetaData β)) (epoch : Option Float) (includeRefraction : Bool) :
    RaisesFirst (_icrsFromObserved P A ra dec obs_metadata epoch includeRefraction) :=
  fun log => wp_icrsFromObserved_of (fun _ => rfl) fun obs _ _ _ _ hmjd _ hn hdn => by
    obtain ⟨ras, rfl, rfl⟩ := NumArg.eq_ndarray_of_len hn hra
    obtain ⟨decs, rfl, hd⟩ := NumArg.eq_ndarray_of_len hdn hdec
    rcases hp : _calculateObservatoryParameters P A obs 0.5 includeRefraction with e | p
    · exact wp_appGeoFromObserved_of (fun _ => rfl) fun _ _ _ ho _ _ hp' => by
        cases ho
        rw [hp] at hp'
        cases hp'
    · rw [← wp_icrsFromObserved_passes hmjd hn hdn]
      exact (icrsFromObserved_stars hP A hd hmjd hp).raisesFirst log

theorem applyProperMotion_raisesFirst (ra dec pm_ra pm_dec parallax v_rad : NumArg) (epoch : Float)
    (mjd : Option ModifiedJulianDate) :
    RaisesFirst (_applyProperMotion P A ra dec pm_ra pm_dec parallax v_rad epoch mjd) := by
  refine fun _ => wp_applyProperMotion_of (fun _ => rfl) (fun _ n pmc _ _ hlist hpmc hn => ?_)
    fun _ _ _ _ _ _ _ _ => trivial
  simp only [List.forall_mem_cons, List.not_mem_nil, false_implies, implies_true, and_true] at hlist hn
  have hpmc' : pmc.len = .ok n := NumArg.len_binop hpmc hn.2.2.1 (by rw [NumArg.len_map]; exact hn.2.1)
  rw [hP.wp_vectorCall (n := n) (arrays_of_len ?_)]
  · trivial
  · have hpx : (arcsecFromRadians parallax).isList = false := NumArg.isList_map _ _
    simp [hn, hlist, hpmc', hpx, NumArg.isList_binop hpmc]

theorem applyRefraction_raisesFirst (zenithDistance : NumArg) (tanzCoeff tan3zCoeff : Float) :
    RaisesFirst (applyRefraction P zenithDistance tanzCoeff tan3zCoeff) := by
  cases zenithDistance with
  | list _ => exact fun _ => rfl
  | ndarray zs => exact (applyRefraction_stars hP zs tanzCoeff tan3zCoeff).raisesFirst
  | float z => exact (applyRefraction_float z tanzCoeff tan3zCoeff).raisesFirst

/-- `_icrsFromAppGeo`, which tests nothing, raises first on arrays of one length. -/
theorem icrsFromAppGeo_raisesFirst {ras decs : List Float} (h : decs.length = ras.length) (epoch : Float)
    (mjd : Option ModifiedJulianDate) :
    RaisesFirst (_icrsFromAppGeo P A (.ndarray ras) (.ndarray decs) epoch mjd) :=
  fun log => wp_icrsFromAppGeo_of (fun _ => rfl) fun mjd' hmjd => by
    subst hmjd
    rw [← icrsFromAppGeo_some]
    exact (icrsFromAppGeo_stars hP A h epoch mjd').raisesFirst log

/-- `_appGeoFromICRS` raises first when the optional arrays it is given have the length of
`ra`. -/
theorem appGeoFromICRS_raisesFirst {ras decs : List Float} {pm_ra pm_dec parallax v_rad : Option (List Float)}
    (hopt : ∀ o ∈ [pm_ra, pm_dec, parallax, v_rad], ∀ xs ∈ o, xs.length = ras.length) (epoch : Float)
    (mjd : Option ModifiedJulianDate) :
    RaisesFirst (_appGeoFromICRS P A (.ndarray ras) (.ndarray decs) (pm_ra.map .ndarray) (pm_dec.map .ndarray)
      (parallax.map .ndarray) (v_rad.map .ndarray) epoch mjd) :=
  fun log => wp_appGeoFromICRS_of (fun _ => rfl) fun mjd' _ _ hmjd hn hdn hpmc => by
    subst hmjd
    rw [← wp_appGeoFromICRS_passes hn hdn hpmc]
    exact (appGeoFromICRS_stars hP A ((Except.ok.inj hdn).trans (Except.ok.inj hn).symm) hopt epoch mjd').raisesFirst
      log

/-- `_observedFromICRS` raises first when its `obs_metadata` has a site (and the optional
arrays the length of `ra`). -/
theorem observedFromICRS_raisesFirst {ras decs : List Float} {pm_ra pm_dec parallax v_rad : Option (List Float)}
    (hopt : ∀ o ∈ [pm_ra, pm_dec, parallax, v_rad], ∀ xs ∈ o, xs.length = ras.length)
    {obs_metadata : Option (ObservationMetaData β)} (hsite : ∀ obs, obs_metadata = some obs → obs._site.isSome)
    (epoch : Option Float) (includeRefraction : Bool) :
    RaisesFirst (_observedFromICRS P A (.ndarray ras) (.ndarray decs) (pm_ra.map .ndarray) (pm_dec.map .ndarray)
      (parallax.map .ndarray) (v_rad.map .ndarray) obs_metadata epoch includeRefraction) :=
  fun log => wp_observedFromICRS_of (fun _ => rfl) fun obs _ _ _ hobs hmjd hep hn hdn => by
    subst hep
    obtain ⟨_, hs⟩ := Option.isSome_iff_exists.1 (hsite obs hobs)
    obtain ⟨_, hp⟩ := calculateObservatoryParameters_of_some hmjd hs 0.5 includeRefraction
    exact Eq.mp (wp_observedFromICRS_passes (Q := fun _ _ => True) hmjd hn hdn)
      ((observedFromICRS_stars hP A ((Except.ok.inj hdn).trans (Except.ok.inj hn).symm) hopt hmjd hp).raisesFirst
        log)

end EntryPoints

section Late

variable {P : Palpy Prms ObsPrms} (A : Astropy)

theorem applyPrecession_raisesFirst (S : Spherical) (ra dec : NumArg) (epoch : Float)
    (mjd : Option ModifiedJulianDate) : RaisesFirst (_applyPrecession P A S ra dec epoch mjd) :=
  fun _ => wp_applyPrecession_of (fun _ => rfl) fun _ _ _ _ _ _ _ => trivial

/-- With a palpy that refuses arrays of different lengths, the batches that reach palpy
unchecked raise after the call. -/
theorem mismatched_batches_raise_late (hR : P.Refuses) (mjd : ModifiedJulianDate) :
    ¬ RaisesFirst (_appGeoFromICRS P A (.ndarray [0]) (.ndarray [0]) none none (some (.ndarray [0, 0])) none 2000
      (some mjd)) ∧
    ¬ RaisesFirst (_icrsFromAppGeo P A (.ndarray [0]) (.ndarray [0, 0]) 2000 (some mjd)) := by
  constructor
  · refine not_raisesFirst (Eq.mpr (wp_appGeoFromICRS_passes rfl rfl rfl) ?_)
    exact hR.wp_vectorCall (VectorCall.not_commonLength (.head _)
      (.tail _ (.tail _ (.tail _ (.tail _ (.head _))))) (by simp [NumArg.len, arcsecFromRadians, NumArg.map]))
      fun _ => by simp
  · exact not_raisesFirst (hR.wp_vectorCall (VectorCall.not_commonLength (.head _) (.tail _ (.head _))
      (by simp [NumArg.len])) fun _ => by simp)

/-- `_observedFromICRS` with an `obs_metadata` that has an mjd but no site: `mapqkVector`
runs, then palpy or `_observedFromAppGeo` raises. -/
theorem observedFromICRS_raises_late (mjd : ModifiedJulianDate) (obs : ObservationMetaData β) :
    ¬ RaisesFirst (_observedFromICRS P A (.ndarray [0]) (.ndarray [0]) none none none none
      (some { obs with _mjd := some mjd, _site := none }) (some 2000) true) := by
  refine not_raisesFirst (Eq.mpr (wp_observedFromICRS_passes rfl rfl rfl)
    (Eq.mpr (wp_appGeoFromICRS_passes rfl rfl rfl) ?_))
  exact wp_vectorCall_of (fun _ => by simp) (by simp [_observedFromAppGeo])

end Late

/-! ## The pipeline -/

section Pipeline

variable {P : Palpy Prms ObsPrms} (A : Astropy)

end Pipeline

end SimsUtils
