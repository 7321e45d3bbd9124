import SimsUtils.ObservationMetaData.Mutators

/-!
# The constructor against the setters

Without a PhoSim dict, `__init__` is a function of its arguments (`new_eq_built`): it
converts them (`mjdArg`, radians), builds `m5` and `seeing` against the bandpass, then the
bounds, and raises the first error met in that order.  `built` is that function.

A program can build the same object from `ObservationMetaData(site=site, epoch=epoch)`
through the setters (`setArgs`, in the order `__init__` assigns the attributes).  The
setters check what `__init__` checks and write what it writes; `_buildBounds` runs after
each input of the bounds is set, but returns early until the last one, `boundLength`.  So
the script returns exactly when `built` does, with the same object (`setArgs_built`).  The
one argument the two paths read differently is an int `mjd`: `__init__` reads it as TAI,
the `mjd` setter refuses it.

    a.phoSimMetaData = none → (∀ n, a.mjd ≠ some (.int n)) →
      (new gsb a).toOption = (bySetters gsb a).toOption          (new_agrees_with_setters)
-/

namespace SimsUtils

namespace ObservationMetaData

variable {β : Type} (getSpatialBounds : String → Float → Float → BoundLength → Except PyError β)

/-! ## The constructor as a function of its arguments -/

/-- The object `__init__` has built before its last line when there is no PhoSim dict: the
arguments converted, the dicts `m5` and `seeing`, no bounds yet. -/
def assigned (a : Args) (mjd : Option ModifiedJulianDate) (m5 seeing : Option BandpassDict) :
    ObservationMetaData β :=
  { _bounds := none, _boundType := a.boundType, _bandpass := a.bandpassName
    _skyBrightness := a.skyBrightness, _site := a.site, _epoch := a.epoch, _mjd := mjd
    _rotSkyPos := a.rotSkyPos.map radians, _pointingRA := a.pointingRA.map radians
    _pointingDec := a.pointingDec.map radians, _boundLength := a.boundLength.map BoundLength.radians
    _phoSimMetaData := none, _m5 := m5, _seeing := seeing }

/-- What `ObservationMetaData(**a)` builds when `a` has no PhoSim dict: the converted
arguments and the bounds `getSpatialBounds` returns for them, or the first error among the
`mjd`, the `m5` dict, the `seeing` dict and the bounds. -/
def built (a : Args) : Except PyError (ObservationMetaData β) := do
  let mjd ← mjdArg a.mjd
  let m5 ← _assignDictKeyedToBandpass a.bandpassName a.m5 "m5"
  let seeing ← _assignDictKeyedToBandpass a.bandpassName a.seeing "seeing"
  let s := assigned a mjd m5 seeing
  match boundsInputs s with
  | none => pure s
  | some (t, ra, dec, l) => do
    let b ← getSpatialBounds t ra dec l
    pure { s with _bounds := some b }

/-- The attributes of `a` other than `site` and `epoch`, given one by one through the setters
in the order `__init__` assigns them, stopping at the first exception.  An argument left
`None` is not set: the setters of `mjd`, of the angles and of `boundLength` refuse `None`. -/
def setArgs (a : Args) : Method β Unit := do
  setBoundType getSpatialBounds a.boundType
  setSkyBrightness a.skyBrightness
  a.mjd.forM setMjd
  a.rotSkyPos.forM setRotSkyPos
  a.pointingRA.forM (setPointingRA getSpatialBounds)
  a.pointingDec.forM (setPointingDec getSpatialBounds)
  a.boundLength.forM (setBoundLength getSpatialBounds)
  setBandpassM5andSeeing a.bandpassName a.m5 a.seeing

/-- `obs = ObservationMetaData(site=a.site, epoch=a.epoch)`, then `setArgs a` on it. -/
def bySetters (a : Args) : Except PyError (ObservationMetaData β) := do
  let obs ← new getSpatialBounds { site := a.site, epoch := a.epoch }
  match setArgs getSpatialBounds a obs with
  | .ok _ s => pure s
  | .error e _ => throw e

variable {getSpatialBounds}

theorem new_eq_of_wp {a : Args} {r : Except PyError (ObservationMetaData β)}
    (h : wp (init getSpatialBounds a) (fun _ t => r = .ok t) (fun e _ => r = .error e) blank) :
    new getSpatialBounds a = r := by
  unfold new
  unfold wp at h
  split <;> rename_i heq <;> rw [heq] at h <;> exact h.symm

/-- **`__init__` without a PhoSim dict is `built`**, its exception included. -/
theorem new_eq_built (a : Args) (hpho : a.phoSimMetaData = none) :
    new getSpatialBounds a = built getSpatialBounds a := by
  refine new_eq_of_wp ?_
  simp only [init, initPhoSimMetaData, hpho, wp_bind, wp_modify, wp_liftExcept, wp_get]
  rcases hm : mjdArg a.mjd with e | mjd
  · rw [built, hm]; rfl
  rcases h5 : _assignDictKeyedToBandpass a.bandpassName a.m5 "m5" with e | m5
  · simp only [built, hm, h5, bind, Except.bind, onResult_ok, onResult_error]
  rcases hs : _assignDictKeyedToBandpass a.bandpassName a.seeing "seeing" with e | se
  · simp only [built, hm, h5, hs, bind, Except.bind, onResult_ok, onResult_error]
  simp only [built, hm, h5, hs, bind, Except.bind, onResult_ok, Option.isNone_none, if_true]
  -- The object `__init__` has built by now is `assigned a mjd m5 se`.
  show wp (_buildBounds getSpatialBounds) _ _ (assigned a mjd m5 se)
  rw [wp_buildBounds]
  rcases boundsInputs (assigned (β := β) a mjd m5 se) with _ | ⟨t, ra, dec, l⟩
  · rfl
  · rcases hg : getSpatialBounds t ra dec l with e | b
    · simp only [hg, onResult_error]
    · simp only [hg, onResult_ok]
      rfl

/-! ## The setters, one by one

From an object with no PhoSim dict and the attribute still `None`, each step of `setArgs`
writes its attribute and raises only where `__init__` would.  Until `boundLength` is set,
`_buildBounds` returns early. -/

section Steps

variable {Q : Unit → ObservationMetaData β → Prop} {R : Prop} {s : ObservationMetaData β}
  (hd : s._phoSimMetaData = none)

theorem boundsInputs_of_boundLength (h : s._boundLength = none) : boundsInputs s = none := by
  unfold boundsInputs
  split
  · simp_all
  · rfl

theorem wp_buildBounds_of_boundLength {E : PyError → ObservationMetaData β → Prop}
    (h : s._boundLength = none) : wp (_buildBounds getSpatialBounds) Q E s = Q () s := by
  rw [wp_buildBounds, boundsInputs_of_boundLength h]

theorem wp_setBoundType (t : Option String) (h : s._boundLength = none) :
    wp (setBoundType getSpatialBounds t) Q (fun _ _ => R) s = Q () { s with _boundType := t } := by
  rw [setBoundType, wp_setBoundsInput, wp_buildBounds,
    boundsInputs_of_boundLength (s := { s with _boundType := t }) h]

include hd

theorem wp_forM_setMjd (o : Option MjdValue) (hint : ∀ n, o ≠ some (.int n)) (h : s._mjd = none) :
    wp (o.forM setMjd) Q (fun _ _ => R) s =
      onResult (mjdArg o) (fun m => Q () { s with _mjd := m }) (fun _ => R) := by
  have hg : phoSimHas s (·.Opsim_expmjd.isSome) = false := by simp [phoSimHas, hd]
  rcases o with _ | (x | n | m | _)
  · cases s; subst h; rfl
  case int => exact absurd rfl (hint n)
  all_goals simp only [Option.forM, setMjd, wp_bind, wp_phoSimGuard, hg, wp_modify, wp_raise, mjdArg,
    onResult_ok, onResult_error, Bool.false_eq_true, if_false]

theorem wp_forM_setRotSkyPos (o : Option Float) (h : s._rotSkyPos = none) :
    wp (o.forM setRotSkyPos) Q (fun _ _ => R) s = Q () { s with _rotSkyPos := o.map radians } := by
  rcases o with _ | x
  · cases s; subst h; rfl
  · simp [Option.forM, setRotSkyPos, phoSimHas, hd]

theorem wp_forM_setPointingRA (o : Option Float) (h : s._pointingRA = none) (hl : s._boundLength = none) :
    wp (o.forM (setPointingRA getSpatialBounds)) Q (fun _ _ => R) s =
      Q () { s with _pointingRA := o.map radians } := by
  rcases o with _ | x
  · cases s; subst h; rfl
  · simp only [Option.forM, setPointingRA, wp_bind, wp_phoSimGuard, phoSimHas, hd, wp_setBoundsInput,
      wp_buildBounds_of_boundLength, hl, Option.map_some', Bool.false_eq_true, if_false]

theorem wp_forM_setPointingDec (o : Option Float) (h : s._pointingDec = none) (hl : s._boundLength = none) :
    wp (o.forM (setPointingDec getSpatialBounds)) Q (fun _ _ => R) s =
      Q () { s with _pointingDec := o.map radians } := by
  rcases o with _ | x
  · cases s; subst h; rfl
  · simp only [Option.forM, setPointingDec, wp_bind, wp_phoSimGuard, phoSimHas, hd, wp_setBoundsInput,
      wp_buildBounds_of_boundLength, hl, Option.map_some', Bool.false_eq_true, if_false]

omit hd in
/-- The last input of the bounds: `_buildBounds` runs on the complete inputs. -/
theorem wp_forM_setBoundLength (o : Option BoundLength) (h : s._boundLength = none) :
    wp (o.forM (setBoundLength getSpatialBounds)) Q (fun _ _ => R) s =
      wp (_buildBounds getSpatialBounds) Q (fun _ _ => R) { s with _boundLength := o.map BoundLength.radians } := by
  rcases o with _ | l
  · rw [wp_buildBounds, boundsInputs_of_boundLength rfl]
    cases s; subst h; rfl
  · rfl

theorem wp_setBandpassM5andSeeing_of (b : Option Bandpass) (m5 seeing : Option BandpassValue) :
    wp (setBandpassM5andSeeing b m5 seeing) Q (fun _ _ => R) s =
      onResult (_assignDictKeyedToBandpass b m5 "m5") (fun m5 =>
        onResult (_assignDictKeyedToBandpass b seeing "seeing") (fun seeing =>
          Q () { s with _bandpass := b, _m5 := m5, _seeing := seeing }) fun _ => R) fun _ => R := by
  simp only [setBandpassM5andSeeing, wp_bind, wp_phoSimGuard, phoSimHas, hd, wp_modify, wp_get, wp_liftExcept]
  rcases _assignDictKeyedToBandpass b m5 "m5" with _ | m5 <;> rfl

end Steps

/-! ## The two paths agree -/

/-- **The setters build what `__init__` builds**: run on
`ObservationMetaData(site=a.site, epoch=a.epoch)`, `setArgs a` returns the object `built a`
returns, and raises where `built a` raises. -/
theorem setArgs_built (a : Args) (hint : ∀ n, a.mjd ≠ some (.int n)) :
    wp (setArgs getSpatialBounds a) (fun _ t => some t = (built getSpatialBounds a).toOption)
      (fun _ _ => none = (built getSpatialBounds a).toOption)
      (assigned { site := a.site, epoch := a.epoch } none none none) := by
  simp only [setArgs, wp_bind, setSkyBrightness, wp_modify, assigned, Option.map_none', wp_setBoundType,
    wp_forM_setMjd, hint, wp_forM_setRotSkyPos, wp_forM_setPointingRA, wp_forM_setPointingDec,
    wp_forM_setBoundLength, wp_buildBounds, wp_setBandpassM5andSeeing_of, ne_eq, not_false_eq_true,
    implies_true]
  -- The script now checks the mjd, the bounds, `m5` and `seeing`; `built` checks the bounds last.
  rcases hm : mjdArg a.mjd with e | mjd
  · rw [built, hm]; rfl
  rw [onResult_ok]
  rcases h5 : _assignDictKeyedToBandpass a.bandpassName a.m5 "m5" with e | m5
  · have hn : (built getSpatialBounds a).toOption = none := by rw [built, hm, h5]; rfl
    rw [hn]
    split <;> simp only [onResult_error, onResult_const]
  rcases hs : _assignDictKeyedToBandpass a.bandpassName a.seeing "seeing" with e | se
  · have hn : (built getSpatialBounds a).toOption = none := by rw [built, hm, h5, hs]; rfl
    rw [hn]
    split <;> simp only [onResult_ok, onResult_error, onResult_const]
  simp only [onResult_ok]
  rw [built, hm, h5, hs]
  split
  · rename_i hb
    have hb' : boundsInputs (assigned (β := β) a mjd m5 se) = none := hb
    simp only [bind, Except.bind, hb']
    rfl
  · rename_i t ra dec l hb
    have hb' : boundsInputs (assigned (β := β) a mjd m5 se) = some (t, ra, dec, l) := hb
    rcases hg : getSpatialBounds t ra dec l with e | b <;>
      simp only [bind, Except.bind, hb', hg, onResult_error, onResult_ok] <;> rfl

/-- **The constructor and the setters agree**: without a PhoSim dict and with an `mjd` that
is not an int, `ObservationMetaData(**a)` and the setters on
`ObservationMetaData(site=a.site, epoch=a.epoch)` build the same object, or both raise.  An
int `mjd` is read by the constructor (as TAI) and refused by the setter with a `RuntimeError`. -/
theorem new_agrees_with_setters :
    (∀ a : Args, a.phoSimMetaData = none → (∀ n, a.mjd ≠ some (.int n)) →
      (new getSpatialBounds a).toOption = (bySetters getSpatialBounds a).toOption) ∧
    ∀ (n : Int) (site : Option Site),
      (new getSpatialBounds { site := site, mjd := some (.int n) }).toOption.isSome ∧
        bySetters getSpatialBounds { site := site, mjd := some (.int n) } =
          .error (.runtimeError "You can only set mjd to either a float or a ModifiedJulianDate") := by
  refine ⟨fun a hpho hint => ?_, fun n site => ⟨rfl, rfl⟩⟩
  have h := @setArgs_built _ getSpatialBounds a hint
  rw [new_eq_built a hpho, bySetters, new_eq_built _ rfl]
  show _ = (match setArgs getSpatialBounds a (assigned { site := a.site, epoch := a.epoch } none none none) with
    | .ok _ s => Except.ok s
    | .error e _ => Except.error e).toOption
  unfold wp at h
  split <;> rename_i heq <;> rw [heq] at h <;> exact h.symm

/-- A circle of 1.75 degrees at (10, -30) with two bandpasses and a float `mjd`: both paths
build the same object. -/
theorem new_agrees_with_setters_circle :
    (new (β := Unit) (fun _ _ _ _ => .ok ())
        { boundType := some "circle", boundLength := some (.float 1.75), mjd := some (.float 59580)
          pointingRA := some 10, pointingDec := some (-30), bandpassName := some (.list ["u", "g"])
          m5 := some (.list [24, 25]), site := none }).toOption =
      (bySetters (fun _ _ _ _ => .ok ())
        { boundType := some "circle", boundLength := some (.float 1.75), mjd := some (.float 59580)
          pointingRA := some 10, pointingDec := some (-30), bandpassName := some (.list ["u", "g"])
          m5 := some (.list [24, 25]), site := none }).toOption :=
  new_agrees_with_setters.1 _ rfl fun _ h => MjdValue.noConfusion (Option.some.inj h)

end ObservationMetaData

end SimsUtils
