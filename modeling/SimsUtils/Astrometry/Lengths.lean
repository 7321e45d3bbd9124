import SimsUtils.Astrometry.Pipeline

/-!
# What the pipeline hands to palpy

The entry points that test every per-star array they pass on never give a vectorised
primitive arrays of different lengths (`Keeps SafeCalls`), whatever they raise:
`_observedFromAppGeo`, `_appGeoFromObserved`, `_icrsFromObserved`, `_applyProperMotion`
and their degree wrappers.  `_appGeoFromICRS` compares only `ra` with `dec`, and
`_icrsFromAppGeo` nothing: both hand palpy a batch of mismatched arrays, whether palpy then
returns or refuses it, and `_observedFromICRS` inherits the first.
-/

namespace SimsUtils

variable {Prms ObsPrms β : Type} (P : Palpy Prms ObsPrms) (A : Astropy)

/-! ## The entry points that test their arrays -/

section Checked

variable {P}

/-- With `altAzHr`, `de2hVector` gets the hour angle and Dec rows of one `aopqkVector` call. -/
theorem observedOutputs_keeps (hP : P.PerStar) {ra dec : NumArg} {n : Nat} (hra : ra.len = .ok n)
    (hdec : dec.len = .ok n) (site : Site) (altAzHr : Bool) (p : ObsPrms) :
    Keeps SafeCalls (observedOutputs P site altAzHr (P.aopqkVector ra dec p)) := by
  obtain ⟨hha, hd⟩ := hP.aopqkVector ra dec p n hra hdec
  unfold observedOutputs
  cases altAzHr
  · exact keeps_pure _
  · refine keeps_vectorCall_bind ?_ (keeps_pure _)
    exact ⟨n, by simpa [NumArg.len] using ⟨hha, hd⟩⟩

/-- `_observedFromAppGeo` hands `aopqkVector` (and `de2hVector`) arrays of one length. -/
theorem observedFromAppGeo_keeps (hP : P.PerStar) (ra dec : NumArg) (includeRefraction altAzHr : Bool)
    (wavelength : Float) (obs_metadata : Option (ObservationMetaData β)) :
    Keeps SafeCalls (_observedFromAppGeo P A ra dec includeRefraction altAzHr wavelength obs_metadata) :=
  fun _ hlog => wp_observedFromAppGeo_of (fun _ => hlog) fun _ site n p _ _ hra hdec _ =>
    keeps_vectorCall_bind ⟨n, by simp [hra, hdec]⟩ (observedOutputs_keeps hP hra hdec site altAzHr p) _ hlog

/-- `_appGeoFromObserved` hands `oapqkVector` arrays of one length; when it returns, its two
rows have one length. -/
theorem appGeoFromObserved_spec (hP : P.PerStar) (ra dec : NumArg) (includeRefraction : Bool)
    (wavelength : Float) (obs_metadata : Option (ObservationMetaData β)) {log : List VectorCall}
    (hlog : SafeCalls log) :
    wp (_appGeoFromObserved P A ra dec includeRefraction wavelength obs_metadata)
      (fun out t => SafeCalls t ∧ out.1.length = out.2.length) (fun _ => SafeCalls) log :=
  wp_appGeoFromObserved_of (fun _ => hlog) fun _ n p _ hra hdec _ => by
    have h := hP.oapqkVector "r" ra dec p n hra hdec
    have hc : SafeCalls (log ++ [⟨"oapqkVector", [ra, dec]⟩]) := hlog.append ⟨n, by simp [hra, hdec]⟩
    exact wp_vectorCall_of (fun _ => hc) ⟨hc, h.1.trans h.2.symm⟩

theorem appGeoFromObserved_keeps (hP : P.PerStar) (ra dec : NumArg) (includeRefraction : Bool)
    (wavelength : Float) (obs_metadata : Option (ObservationMetaData β)) :
    Keeps SafeCalls (_appGeoFromObserved P A ra dec includeRefraction wavelength obs_metadata) :=
  fun _ hlog => wp_mono (appGeoFromObserved_spec A hP ra dec includeRefraction wavelength obs_metadata hlog)
    (fun _ _ h => h.1) fun _ _ h => h

/-- `_icrsFromObserved`: the rows `_appGeoFromObserved` returns have one length, so
`ampqkVector` gets arrays of one length although `_icrsFromAppGeo` tests nothing. -/
theorem icrsFromObserved_keeps (hP : P.PerStar) (ra dec : NumArg)
    (obs_metadata : Option (ObservationMetaData β)) (epoch : Option Float) (includeRefraction : Bool) :
    Keeps SafeCalls (_icrsFromObserved P A ra dec obs_metadata epoch includeRefraction) :=
  fun _ hlog => wp_icrsFromObserved_of (fun _ => hlog) fun _ _ _ _ _ _ _ _ _ =>
    wp_mono (appGeoFromObserved_spec A hP ra dec includeRefraction 0.5 _ hlog)
      (fun app _ h => wp_icrsFromAppGeo_of (fun _ => h.1) fun _ _ =>
        keeps_vectorCall ⟨app.1.length, by simp [NumArg.len, h.2]⟩ _ h.1) fun _ _ h => h

/-- `_applyProperMotion` hands `pmVector` six arrays of one length. -/
theorem applyProperMotion_keeps (ra dec pm_ra pm_dec parallax v_rad : NumArg) (epoch : Float)
    (mjd : Option ModifiedJulianDate) :
    Keeps SafeCalls (_applyProperMotion P A ra dec pm_ra pm_dec parallax v_rad epoch mjd) := by
  refine fun _ hlog => wp_applyProperMotion_of (fun _ => hlog) (fun _ n pmc _ _ _ hpmc hn => ?_)
    fun _ _ _ _ _ _ _ _ => hlog
  simp only [List.forall_mem_cons] at hn
  have hpmc' : pmc.len = .ok n :=
    NumArg.len_binop hpmc hn.2.2.1 (by rw [NumArg.len_map]; exact hn.2.1)
  exact keeps_vectorCall ⟨n, by simp [hn, hpmc']⟩ _ hlog

/-- `applyRefraction` hands `refzVector` one array. -/
theorem applyRefraction_keeps (zenithDistance : NumArg) (tanzCoeff tan3zCoeff : Float) :
    Keeps SafeCalls (applyRefraction P zenithDistance tanzCoeff tan3zCoeff) := by
  cases zenithDistance with
  | list _ => exact keeps_raise _
  | ndarray zs => exact keeps_vectorCall ⟨zs.length, by simp [NumArg.len]⟩
  | float _ => exact keeps_pure _

/-- **The entry points that test their arrays hand palpy arrays of one length**, whatever
they are given and however they end: `_observedFromAppGeo`, `_appGeoFromObserved`,
`_icrsFromObserved`, `_applyProperMotion`, their degree wrappers, and `applyRefraction`. -/
theorem checked_entry_points_safeCalls (hP : P.PerStar) :
    (∀ ra dec includeRefraction altAzHr wavelength (obs_metadata : Option (ObservationMetaData β)),
      Keeps SafeCalls (_observedFromAppGeo P A ra dec includeRefraction altAzHr wavelength obs_metadata) ∧
      Keeps SafeCalls (observedFromAppGeo P A ra dec includeRefraction altAzHr wavelength obs_metadata)) ∧
    (∀ ra dec includeRefraction wavelength (obs_metadata : Option (ObservationMetaData β)),
      Keeps SafeCalls (_appGeoFromObserved P A ra dec includeRefraction wavelength obs_metadata) ∧
      Keeps SafeCalls (appGeoFromObserved P A ra dec includeRefraction wavelength obs_metadata)) ∧
    (∀ ra dec (obs_metadata : Option (ObservationMetaData β)) epoch includeRefraction,
      Keeps SafeCalls (_icrsFromObserved P A ra dec obs_metadata epoch includeRefraction) ∧
      Keeps SafeCalls (icrsFromObserved P A ra dec obs_metadata epoch includeRefraction)) ∧
    (∀ ra dec pm_ra pm_dec parallax v_rad epoch mjd,
      Keeps SafeCalls (_applyProperMotion P A ra dec pm_ra pm_dec parallax v_rad epoch mjd) ∧
      Keeps SafeCalls (applyProperMotion P A ra dec pm_ra pm_dec parallax v_rad epoch mjd)) ∧
    ∀ zenithDistance tanzCoeff tan3zCoeff,
      Keeps SafeCalls (applyRefraction P zenithDistance tanzCoeff tan3zCoeff) :=
  ⟨fun _ _ _ _ _ _ => ⟨observedFromAppGeo_keeps A hP _ _ _ _ _ _,
      (observedFromAppGeo_keeps A hP _ _ _ _ _ _).bind fun _ => keeps_pure _⟩,
    fun _ _ _ _ _ => ⟨appGeoFromObserved_keeps A hP _ _ _ _ _,
      (appGeoFromObserved_keeps A hP _ _ _ _ _).bind fun _ => keeps_pure _⟩,
    fun _ _ _ _ _ => ⟨icrsFromObserved_keeps A hP _ _ _ _ _,
      (icrsFromObserved_keeps A hP _ _ _ _ _).bind fun _ => keeps_pure _⟩,
    fun _ _ _ _ _ _ _ _ => ⟨applyProperMotion_keeps A _ _ _ _ _ _ _ _,
      (keeps_liftExcept _).bind fun _ => (keeps_liftExcept _).bind fun _ => (keeps_liftExcept _).bind
        fun _ => (applyProperMotion_keeps A _ _ _ _ _ _ _ _).bind fun _ => keeps_pure _⟩,
    applyRefraction_keeps⟩

/-- `observedFromAppGeo([10.0, 20.0], [30.0, 40.0], altAzHr=True)` at a site on the equator,
with the palpy above: palpy gets arrays of one length. -/
theorem observedFromAppGeo_originPalpy :
    originPalpy.PerStar ∧
      Keeps SafeCalls (observedFromAppGeo originPalpy ModifiedJulianDate.flatAstropy
        (.ndarray [10, 20]) (.ndarray [30, 40]) true true 0.5
        (some (⟨none, none, none, none, some ⟨0, 0, 2000, 10, 283.15, 750, 0.4, 0.0065⟩, 2000, some (.ofTAI 5), none, none, none, none,
          none, none, none⟩ : ObservationMetaData Unit))) :=
  ⟨originPalpy_perStar,
    ((checked_entry_points_safeCalls ModifiedJulianDate.flatAstropy originPalpy_perStar).1 _ _ _ _ _ _).2⟩

end Checked

/-! ## The entry points that do not -/

section Unchecked

variable {α : Type}

/-- A run that returns, or raises something other than `RuntimeError`, with an unsafe log
breaks the law. -/
theorem not_lengthSafe_of_wp {x : Pipeline α}
    (h : wp x (fun _ t => ¬ SafeCalls t) (fun e t => (∀ msg, e ≠ .runtimeError msg) ∧ ¬ SafeCalls t) []) :
    ¬ LengthSafe (x []) := by
  unfold wp at h
  rintro (⟨msg, log, hx⟩ | hs)
  · rw [hx] at h
    exact h.1 msg rfl
  · split at h <;> rename_i hx <;> rw [hx] at hs
    · exact h hs
    · exact h.2 hs

variable (mjd : ModifiedJulianDate)

/-- **palpy gets arrays of different lengths.**  With `ra = dec = [0.0]` and
`parallax = [0.0, 0.0]`, `_appGeoFromICRS` tests nothing that stops it and hands `mapqkVector`
one RA and two parallaxes, so that it returns or raises palpy's refusal, never a `RuntimeError`; with `ra = [0.0]` and `dec = [0.0, 0.0]`, `_icrsFromAppGeo` hands
`ampqkVector` one RA and two Decs; `_observedFromICRS` on the first batch does what
`_appGeoFromICRS` does, for any palpy whose `mapqkVector` returns two rows of one length; and a
batch whose proper motions are too short is rejected by `_applyProperMotion` with a numpy
`ValueError`, not a `RuntimeError`. -/
theorem mismatched_batches_reach_palpy (obs : ObservationMetaData β) (site : Site) :
    ¬ LengthSafe (_appGeoFromICRS P A (.ndarray [0]) (.ndarray [0]) none none
      (some (.ndarray [0, 0])) none 2000 (some mjd) []) ∧
    ¬ LengthSafe (_icrsFromAppGeo P A (.ndarray [0]) (.ndarray [0, 0]) 2000 (some mjd) []) ∧
    ((∀ ra dec pmr pmd px rv p,
        (P.mapqkVector ra dec pmr pmd px rv p).1.length = (P.mapqkVector ra dec pmr pmd px rv p).2.length) →
      ¬ LengthSafe (_observedFromICRS P A (.ndarray [0]) (.ndarray [0]) none none (some (.ndarray [0, 0]))
        none (some { obs with _mjd := some mjd, _site := some site }) (some 2000) true [])) ∧
    _applyProperMotion P A (.ndarray [0, 0, 0]) (.ndarray [0, 0, 0]) (.ndarray [0, 0]) (.ndarray [0, 0, 0])
      (.ndarray [0, 0, 0]) (.ndarray [0, 0, 0]) 2000 (some mjd) [] = .error .valueError [] := by
  refine ⟨?_, ?_, fun hrows => ?_, rfl⟩
  · apply not_lengthSafe_of_wp
    refine Eq.mpr (wp_appGeoFromICRS_passes rfl rfl rfl) ?_
    exact wp_vectorCall_unsafe (not_safeCalls_of_call (VectorCall.not_commonLength (.head _)
      (.tail _ (.tail _ (.tail _ (.tail _ (.head _))))) (by simp [NumArg.len, arcsecFromRadians, NumArg.map])))
      fun _ h => h
  · apply not_lengthSafe_of_wp
    rw [icrsFromAppGeo_some]
    exact wp_vectorCall_unsafe (not_safeCalls_of_call (VectorCall.not_commonLength (.head _)
      (.tail _ (.head _)) (by simp [NumArg.len]))) fun _ h => h
  · apply not_lengthSafe_of_wp
    refine Eq.mpr (wp_observedFromICRS_passes rfl rfl rfl) (Eq.mpr (wp_appGeoFromICRS_passes rfl rfl rfl) ?_)
    refine wp_vectorCall_unsafe (not_safeCalls_of_call (VectorCall.not_commonLength (.head _)
      (.tail _ (.tail _ (.tail _ (.tail _ (.head _))))) (by simp [NumArg.len, arcsecFromRadians, NumArg.map])))
      fun t ht => ?_
    refine Eq.mpr (wp_observedFromAppGeo_passes rfl rfl rfl (by simp [NumArg.len, hrows])) ?_
    rw [wp_bind]
    exact wp_vectorCall_unsafe (not_safeCalls_append ht) fun _ h => by simpa [observedOutputs] using h

end Unchecked

end SimsUtils
