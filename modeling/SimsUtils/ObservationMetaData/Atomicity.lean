import SimsUtils.ObservationMetaData.Mutators

/-!
# What a raising mutator leaves behind

The setters assign before they finish checking: `pointingRA`, `pointingDec`, `boundLength`
and `boundType` write their attribute and then call `_buildBounds`, which may raise;
`setBandpassM5andSeeing` writes `_bandpass` (and `_m5`) before `_assignDictKeyedToBandpass`
can refuse the values; the `phoSimMetaData` setter clears the attributes its dict governs and
`_assignPhoSimMetaData` stores the dict first and checks it afterwards.  So a raising call is
not atomic (`raise_not_atomic`).  What does hold is a frame: a raising call changes at most
the attributes its mutator writes before its last check (`Mutator.RaiseFrame`), and never
`_bounds`.

    Mutator.call gsb m s = .error e t → m.RaiseFrame s t            (mutator_raise_frame)
-/

namespace SimsUtils

namespace ObservationMetaData

variable {β : Type} {getSpatialBounds : String → Float → Float → BoundLength → Except PyError β}

/-- `t` differs from `s` at most in the attributes a call of the mutator writes before a
check that can raise; the setters of `rotSkyPos`, `m5`, `seeing`, `site`, `mjd` and
`skyBrightness` check everything first. -/
def Mutator.RaiseFrame : Mutator → ObservationMetaData β → ObservationMetaData β → Prop
  | .pointingRA _, s, t => t = { s with _pointingRA := t._pointingRA }
  | .pointingDec _, s, t => t = { s with _pointingDec := t._pointingDec }
  | .boundLength _, s, t => t = { s with _boundLength := t._boundLength }
  | .boundType _, s, t => t = { s with _boundType := t._boundType }
  | .phoSimMetaData _, s, t => t = { s with
      _phoSimMetaData := t._phoSimMetaData, _pointingRA := t._pointingRA
      _pointingDec := t._pointingDec, _rotSkyPos := t._rotSkyPos, _mjd := t._mjd
      _bandpass := t._bandpass, _m5 := t._m5, _seeing := t._seeing }
  | .setBandpassM5andSeeing .., s, t => t = { s with _bandpass := t._bandpass, _m5 := t._m5 }
  | _, s, t => t = s

/-- A setter of an input of `_buildBounds` raises leaving `s` with only that input written. -/
theorem setBoundsInput_raise (write : ObservationMetaData β → ObservationMetaData β)
    (s : ObservationMetaData β) :
    wp (setBoundsInput getSpatialBounds write) (fun _ _ => True) (fun _ t => t = write s) s := by
  rw [wp_setBoundsInput]
  exact buildBounds_raise_unchanged _

/-- The attributes the `phoSimMetaData` setter may write before it raises. -/
def PhoSimFrame (s t : ObservationMetaData β) : Prop :=
  ∃ d pra pdec rot mjd bp m5 seeing, t = { s with
    _phoSimMetaData := d, _pointingRA := pra, _pointingDec := pdec, _rotSkyPos := rot
    _mjd := mjd, _bandpass := bp, _m5 := m5, _seeing := seeing }

theorem PhoSimFrame.pointingRA {s t : ObservationMetaData β} (h : PhoSimFrame s t) (x : Option Float) :
    PhoSimFrame s { t with _pointingRA := x } := by
  obtain ⟨_, _, _, _, _, _, _, _, rfl⟩ := h
  exact ⟨_, _, _, _, _, _, _, _, rfl⟩

theorem PhoSimFrame.pointingDec {s t : ObservationMetaData β} (h : PhoSimFrame s t) (x : Option Float) :
    PhoSimFrame s { t with _pointingDec := x } := by
  obtain ⟨_, _, _, _, _, _, _, _, rfl⟩ := h
  exact ⟨_, _, _, _, _, _, _, _, rfl⟩

/-- The `phoSimMetaData` setter writes only what `PhoSimFrame` allows before it can raise:
`_buildBounds`, the one step outside that frame, raises before writing. -/
theorem setPhoSimMetaData_raise (d : PhoSimMetaData) (s : ObservationMetaData β) :
    wp (setPhoSimMetaData getSpatialBounds (some d)) (fun _ _ => True) (fun _ => PhoSimFrame s) s := by
  simp only [setPhoSimMetaData, _assignPhoSimMetaData, wp_bind, wp_modify]
  have h0 : PhoSimFrame s { clearGoverned d s with _phoSimMetaData := some d } :=
    ⟨_, _, _, _, _, _, _, _, rfl⟩
  refine wp_mono (wp_copyPhoSimMetaData_of (Q := fun _ => PhoSimFrame s) ?_ ?_ ?_
    (fun t ht => keeps_copyPointing (fun x _ _ h => h.pointingRA (some x))
      (fun x _ _ h => h.pointingDec (some x)) t ht) h0)
    (fun _ t ht => wp_mono (buildBounds_raise_unchanged t) (fun _ _ _ => trivial)
      fun _ _ h => h ▸ ht) fun _ _ h => h
  all_goals
    rintro x _ _ _ ⟨_, _, _, _, _, _, _, _, rfl⟩
    exact ⟨_, _, _, _, _, _, _, _, rfl⟩

theorem mutator_wp_raiseFrame (m : Mutator) (s : ObservationMetaData β) :
    wp (Mutator.call getSpatialBounds m) (fun _ _ => True) (fun _ t => m.RaiseFrame s t) s := by
  cases m with
  | pointingRA v | pointingDec v =>
    simp only [Mutator.call, setPointingRA, setPointingDec, wp_bind, wp_phoSimGuard]
    split_ifs
    · rfl
    · exact wp_mono (setBoundsInput_raise _ s) (fun _ _ _ => trivial) fun _ _ h => h ▸ rfl
  | boundLength v | boundType v =>
    exact wp_mono (setBoundsInput_raise _ s) (fun _ _ _ => trivial) fun _ _ h => h ▸ rfl
  | rotSkyPos v =>
    simp only [Mutator.call, setRotSkyPos, wp_bind, wp_phoSimGuard, wp_modify]
    split <;> trivial
  | m5 v =>
    simp only [Mutator.call, setM5, wp_bind, wp_get, wp_liftExcept, wp_modify]
    cases _assignDictKeyedToBandpass s._bandpass v "m5" <;> trivial
  | seeing v =>
    simp only [Mutator.call, setSeeing, wp_bind, wp_phoSimGuard, wp_get, wp_liftExcept, wp_modify]
    split_ifs
    · rfl
    · cases _assignDictKeyedToBandpass s._bandpass v "seeing" <;> trivial
  | site v | skyBrightness v => trivial
  | mjd v =>
    simp only [Mutator.call, setMjd, wp_bind, wp_phoSimGuard]
    split_ifs
    · rfl
    · cases v <;> trivial
  | phoSimMetaData v =>
    cases v with
    | none => rfl
    | some d =>
      refine wp_mono (setPhoSimMetaData_raise d s) (fun _ _ _ => trivial) ?_
      rintro _ _ ⟨_, _, _, _, _, _, _, _, rfl⟩
      rfl
  | setBandpassM5andSeeing b m5 seeing =>
    simp only [Mutator.call, setBandpassM5andSeeing, wp_bind, wp_phoSimGuard, wp_modify, wp_get,
      wp_liftExcept]
    split_ifs
    · rfl
    · rfl
    · cases _assignDictKeyedToBandpass b m5 "m5"
      · rfl
      · cases _assignDictKeyedToBandpass b seeing "seeing" <;> trivial

/-- **A raising mutator changes only what it writes before its last check.**  In particular the
setters of `rotSkyPos`, `m5`, `seeing`, `site`, `mjd` and `skyBrightness` are atomic, and no
raising call changes `_bounds`. -/
theorem mutator_raise_frame (m : Mutator) (s t : ObservationMetaData β) (e : PyError)
    (h : Mutator.call getSpatialBounds m s = .error e t) : m.RaiseFrame s t := by
  have hw : wp (Mutator.call getSpatialBounds m) (fun _ _ => True) (fun _ t => m.RaiseFrame s t) s :=
    mutator_wp_raiseFrame m s
  unfold wp at hw
  rw [h] at hw
  exact hw

/-- `setBandpassM5andSeeing(['u', 'g'], m5=25.0)` on an object built with bandpass `'r'`
raises in `_assignDictKeyedToBandpass`, leaving the new `_bandpass`. -/
theorem setBandpassM5andSeeing_raise_frame_ug :
    Mutator.call (β := Unit) (fun _ _ _ _ => .ok ())
        (.setBandpassM5andSeeing (some (.list ["u", "g"])) (some (.scalar 25)) none)
        { blank with _epoch := 2000.0, _bandpass := some (.name "r") } =
      .error (.runtimeError ("You passed a list of bandpass names" ++ "but did not pass a list of " ++
        "m5" ++ " to ObservationMetaData"))
        { blank with _epoch := 2000.0, _bandpass := some (.list ["u", "g"]) } ∧
    Mutator.RaiseFrame (.setBandpassM5andSeeing (some (.list ["u", "g"])) (some (.scalar 25)) none)
      { blank with _epoch := 2000.0, _bandpass := some (.name "r") }
      { (blank : ObservationMetaData Unit) with _epoch := 2000.0, _bandpass := some (.list ["u", "g"]) } :=
  ⟨rfl, @mutator_raise_frame Unit (fun _ _ _ _ => .ok ()) _ _ _ _ rfl⟩

/-- **A raising call is not atomic**: in the object the constructor builds with bandpass
`'r'`, `setBandpassM5andSeeing(['u', 'g'], m5=25.0)` raises and leaves `_bandpass` changed. -/
theorem raise_not_atomic :
    ¬ ∀ (s : ObservationMetaData Unit) (m : Mutator) (e : PyError) (t : ObservationMetaData Unit),
      Reachable (fun _ _ _ _ => .ok ()) s →
        Mutator.call (fun _ _ _ _ => .ok ()) m s = .error e t → t = s := by
  intro h
  have := congrArg (·._bandpass) <| h _
    (.setBandpassM5andSeeing (some (.list ["u", "g"])) (some (.scalar 25)) none) _ _
    (.init { bandpassName := some (.name "r"), site := none } rfl) rfl
  simp at this

end ObservationMetaData

end SimsUtils
