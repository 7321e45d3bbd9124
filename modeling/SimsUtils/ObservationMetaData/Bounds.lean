import SimsUtils.ObservationMetaData.Mutators

/-!
# The query bounds are never stale

`BoundsFresh`: whenever the bound type, the bound length and the pointing are all set and
`getSpatialBounds` accepts them, `_bounds` is the bound it returns for them.  `_buildBounds`
makes it hold from any object, raising or not; every other write leaves its four inputs
alone, clears one of them, or is followed by `_buildBounds`.  A raise between a write and
the rebuild only happens while the pointing is incomplete (`copyPointing_fresh`).

    Reachable gsb s → BoundsFresh gsb s                           (reachable_boundsFresh)
-/

namespace SimsUtils

namespace ObservationMetaData

variable {β : Type} (getSpatialBounds : String → Float → Float → BoundLength → Except PyError β)

/-- The bounds agree with the current pointing and field of view. -/
def BoundsFresh (s : ObservationMetaData β) : Prop :=
  ∀ t l ra dec b, s._boundType = some t → s._boundLength = some l → s._pointingRA = some ra →
    s._pointingDec = some dec → getSpatialBounds t ra dec l = .ok b → s._bounds = some b

/-- Until its last line, `__init__` keeps `_bounds` unset or fresh. -/
def FreshOrUnset (s : ObservationMetaData β) : Prop :=
  s._bounds = none ∨ BoundsFresh getSpatialBounds s

variable {getSpatialBounds}

/-- `_buildBounds` makes the bounds fresh from any object, whether it returns or raises. -/
theorem buildBounds_fresh (s : ObservationMetaData β) :
    wp (_buildBounds getSpatialBounds) (fun _ => BoundsFresh getSpatialBounds)
      (fun _ => BoundsFresh getSpatialBounds) s := by
  rw [wp_buildBounds]
  split
  · rename_i hnone
    intro t l ra dec b h1 h2 h3 h4 _
    rw [(boundsInputs_eq_some.2 ⟨h1, h2, h3, h4⟩)] at hnone
    cases hnone
  · rename_i t ra dec l hin
    obtain ⟨g1, g2, g3, g4⟩ := boundsInputs_eq_some.1 hin
    rcases hg : getSpatialBounds t ra dec l with e | b
    all_goals
      intro t' l' ra' dec' b' h1 h2 h3 h4 hb'
      simp only [g1, g2, g3, g4, Option.some.injEq] at h1 h2 h3 h4
      subst h1 h2 h3 h4
      rw [hg] at hb'
    · cases hb'
    · cases hb'
      rfl

theorem setBoundsInput_fresh (write : ObservationMetaData β → ObservationMetaData β) :
    Keeps (BoundsFresh getSpatialBounds) (setBoundsInput getSpatialBounds write) :=
  fun s _ => by
    rw [wp_setBoundsInput]
    exact buildBounds_fresh _

/-- Clearing what a PhoSim dict governs can only clear a pointing coordinate. -/
theorem clearGoverned_fresh (d : PhoSimMetaData) {s : ObservationMetaData β}
    (hs : BoundsFresh getSpatialBounds s) : BoundsFresh getSpatialBounds (clearGoverned d s) := by
  intro t l ra dec b h1 h2 h3 h4 hb
  dsimp only [clearGoverned] at h3 h4
  split_ifs at h3 h4
  exact hs t l ra dec b h1 h2 h3 h4 hb

/-- The pointing block raises only while `_pointingDec` is still `None`. -/
theorem copyPointing_fresh (d : PhoSimMetaData) {s : ObservationMetaData β}
    (hs : BoundsFresh getSpatialBounds s) :
    wp (copyPointing d) (fun _ _ => True) (fun _ => BoundsFresh getSpatialBounds) s := by
  rw [wp_copyPointing]
  split_ifs with _ _ hdec
  · exact hs
  · exact hs
  · cases item0 d.pointingRA
    · exact hs
    · cases item0 d.pointingDec
      · intro t l ra dec b _ _ _ h4
        simp [show s._pointingDec = some dec from h4] at hdec
      · trivial

theorem copyPhoSimMetaData_fresh (md : Option PhoSimMetaData) {s : ObservationMetaData β}
    (hs : BoundsFresh getSpatialBounds s) :
    wp (copyPhoSimMetaData md) (fun _ _ => True) (fun _ => BoundsFresh getSpatialBounds) s := by
  cases md with
  | none => trivial
  | some d =>
    exact wp_copyPhoSimMetaData_of (fun _ _ _ _ h => h) (fun _ _ _ _ h => h) (fun _ _ _ _ h => h)
      (fun _ ht => copyPointing_fresh d ht) hs

theorem assignPhoSimMetaData_fresh (md : Option PhoSimMetaData) :
    Keeps (BoundsFresh getSpatialBounds) (_assignPhoSimMetaData getSpatialBounds md) := by
  intro s hs
  simp only [_assignPhoSimMetaData, wp_bind, wp_modify]
  exact wp_mono (copyPhoSimMetaData_fresh md hs) (fun _ t _ => buildBounds_fresh t) (fun _ _ h => h)

/-- **Every mutator keeps the bounds fresh**, whether it returns or raises. -/
theorem mutator_keeps_fresh (m : Mutator) :
    Keeps (BoundsFresh getSpatialBounds) (Mutator.call getSpatialBounds m) := by
  cases m with
  | pointingRA v => exact (keeps_phoSimGuard _ _).seq (setBoundsInput_fresh _)
  | pointingDec v => exact (keeps_phoSimGuard _ _).seq (setBoundsInput_fresh _)
  | boundLength v => exact setBoundsInput_fresh _
  | boundType v => exact setBoundsInput_fresh _
  | rotSkyPos v =>
    unfold Mutator.call setRotSkyPos
    exact (keeps_phoSimGuard _ _).seq (keeps_modify fun _ h => by exact h)
  | m5 v =>
    unfold Mutator.call setM5
    exact keeps_get.bind fun _ => (keeps_liftExcept _).bind fun _ => keeps_modify fun _ h => by exact h
  | seeing v =>
    unfold Mutator.call setSeeing
    exact (keeps_phoSimGuard _ _).seq
      (keeps_get.bind fun _ => (keeps_liftExcept _).bind fun _ => keeps_modify fun _ h => by exact h)
  | site v => exact keeps_modify fun _ h => by exact h
  | mjd v =>
    unfold Mutator.call setMjd
    refine (keeps_phoSimGuard _ _).seq ?_
    cases v <;> first | exact keeps_raise _ | exact keeps_modify fun _ h => by exact h
  | skyBrightness v => exact keeps_modify fun _ h => by exact h
  | phoSimMetaData v =>
    cases v with
    | none => exact keeps_raise _
    | some d =>
      exact (keeps_modify fun _ h => clearGoverned_fresh d h).seq (assignPhoSimMetaData_fresh _)
  | setBandpassM5andSeeing b m5 seeing =>
    unfold Mutator.call setBandpassM5andSeeing
    exact (keeps_phoSimGuard _ _).seq <| (keeps_phoSimGuard _ _).seq <|
      (keeps_modify fun _ h => by exact h).seq <|
      keeps_get.bind fun _ => (keeps_liftExcept _).bind fun _ => (keeps_modify fun _ h => by exact h).seq <|
      keeps_get.bind fun _ => (keeps_liftExcept _).bind fun _ => keeps_modify fun _ h => by exact h

/-- `_assignPhoSimMetaData` ends with `_buildBounds`: when it returns, the bounds are fresh. -/
theorem assignPhoSimMetaData_ok_fresh (md : Option PhoSimMetaData) (s : ObservationMetaData β) :
    wp (_assignPhoSimMetaData getSpatialBounds md) (fun _ => BoundsFresh getSpatialBounds)
      (fun _ _ => True) s := by
  simp only [_assignPhoSimMetaData, wp_bind, wp_modify]
  exact wp_mono (wp_true _ _)
    (fun _ t _ => wp_mono (buildBounds_fresh t) (fun _ _ h => h) (fun _ _ _ => trivial))
    (fun _ _ h => h)

theorem initPhoSimMetaData_freshOrUnset (md : Option PhoSimMetaData) {s : ObservationMetaData β}
    (hs : s._bounds = none) :
    wp (initPhoSimMetaData getSpatialBounds md) (fun _ => FreshOrUnset getSpatialBounds)
      (fun _ _ => True) s := by
  cases md with
  | some d => exact wp_mono (assignPhoSimMetaData_ok_fresh _ s) (fun _ _ h => .inr h) fun _ _ h => h
  | none => exact .inl hs

/-- **The constructor builds fresh bounds.** -/
theorem init_fresh (a : Args) :
    wp (init getSpatialBounds a) (fun _ => BoundsFresh getSpatialBounds) (fun _ _ => True) blank := by
  simp only [init, wp_bind, wp_modify, wp_liftExcept, wp_get]
  cases mjdArg a.mjd
  · trivial
  · refine wp_mono (initPhoSimMetaData_freshOrUnset _ rfl) (fun _ t ht => ?_) fun _ _ _ => trivial
    simp only [wp_bind, wp_get, wp_liftExcept, wp_modify, wp_ite, wp_pure]
    cases _assignDictKeyedToBandpass t._bandpass a.m5 "m5"
    · trivial
    · cases _assignDictKeyedToBandpass t._bandpass a.seeing "seeing"
      · trivial
      · split
        · exact wp_mono (buildBounds_fresh _) (fun _ _ h => h) fun _ _ _ => trivial
        · rename_i hb
          exact ht.resolve_left (by simpa using hb)

/-- **The query bounds are never stale**: in every object reachable from the constructor by
mutator calls, a call that raised and was caught included, the bounds are the ones
`getSpatialBounds` returns for the current type, length and pointing whenever it accepts
them. -/
theorem reachable_boundsFresh {s : ObservationMetaData β} (h : Reachable getSpatialBounds s) :
    BoundsFresh getSpatialBounds s :=
  ReachableBy.inv getSpatialBounds (fun _ _ hs => new_of_wp getSpatialBounds init_fresh hs)
    (fun _ m _ hs => (mutator_keeps_fresh m).after hs) h

/-- A circle of radius 1.75° around (10°, 20°), as the constructor builds it. -/
theorem boundsFresh_new_circle :
    BoundsFresh (β := String × Float × Float × BoundLength) (fun t ra dec l => .ok (t, ra, dec, l))
      ⟨some ("circle", radians 10, radians 20, .float (radians 1.75)), some "circle", none, none,
        none, 2000.0, none, none, some (radians 10), some (radians 20),
        some (.float (radians 1.75)), none, none, none⟩ :=
  reachable_boundsFresh (.init
    { boundType := some "circle", boundLength := some (.float 1.75)
      pointingRA := some 10, pointingDec := some 20, site := none } rfl)

end ObservationMetaData

end SimsUtils
