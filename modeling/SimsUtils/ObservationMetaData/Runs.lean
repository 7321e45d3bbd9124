import SimsUtils.ObservationMetaData.PhoSim

/-!
# Runs of mutator calls from any object

`runCalls gsb ms s` is the object a program leaves after the calls `ms` on `s`, each
exception caught by the caller.  A relation that each call establishes between the object
it starts from and the one it leaves, and that composes, relates the start of a run to its
end (`runCalls_induct`).

Two facts of the mutators hold over whole runs.  Between two assignments of
`phoSimMetaData` the dict and every attribute one of its keys governs are frozen, and so is
`seeing` while the dict holds `Opsim_rawseeing`: the `seeing` setter and
`setBandpassM5andSeeing` refuse to write it then.  And `_bounds` changes only when
`_buildBounds` succeeds on complete inputs, the last thing a call runs: it is never reset, and
`_buildBounds` returns early while an input is `None`, so setting `boundType` to `None`, or a
PhoSim dict clearing the pointing, leaves the bounds built for the old inputs.

    (∀ m ∈ ms, ∀ v, m ≠ .phoSimMetaData v) → Frozen s (runCalls gsb ms s)   (runCalls_frozen)
    BoundsKeptOrBuilt gsb s (after (m.call gsb s)) ∧
      (s._bounds.isSome → (runCalls gsb ms s)._bounds.isSome) ∧ ...   (runCalls_keeps_bounds)

A third keeps `seeing` unset while the dict holds `Opsim_rawseeing`, from any object the
constructor builds without both, along the runs whose `phoSimMetaData` assignments return
(`RunAllowed gsb (PhoSimReturns gsb)`):

    new gsb a = .ok s → RunAllowed gsb (PhoSimReturns gsb) ms s →
      SeeingInSync (runCalls gsb ms s)                             (new_runCalls_seeingInSync)
-/

namespace SimsUtils

namespace ObservationMetaData

variable {β : Type}

section Runs

variable (getSpatialBounds : String → Float → Float → BoundLength → Except PyError β)

/-- The object left by the calls `ms` on `s`, each exception caught by the caller. -/
def runCalls : List Mutator → ObservationMetaData β → ObservationMetaData β
  | [], s => s
  | m :: ms, s => runCalls ms (after (Mutator.call getSpatialBounds m s))

/-- Each call of the run `ms` from `s` is one that `ok` allows in the object it is made on. -/
def RunAllowed (ok : ObservationMetaData β → Mutator → Prop) : List Mutator → ObservationMetaData β → Prop
  | [], _ => True
  | m :: ms, s => ok s m ∧ RunAllowed ok ms (after (Mutator.call getSpatialBounds m s))

variable {getSpatialBounds}

/-- **Run lemma**: a relation that composes and that every call of the run establishes
relates the start of the run to its end. -/
theorem runCalls_induct {R : ObservationMetaData β → ObservationMetaData β → Prop}
    (refl : ∀ s, R s s) (trans : ∀ {s t u}, R s t → R t u → R s u) {ms : List Mutator}
    (step : ∀ m ∈ ms, ∀ s, R s (after (Mutator.call getSpatialBounds m s))) (s : ObservationMetaData β) :
    R s (runCalls getSpatialBounds ms s) := by
  induction ms generalizing s with
  | nil => exact refl s
  | cons m ms ih =>
    exact trans (step m (.head _) s) (ih (fun m' hm' => step m' (.tail _ hm')) _)

/-- **Run lemma** for the runs whose calls `ok` allows: an invariant that every allowed call
keeps holds at the end. -/
theorem RunAllowed.inv {ok : ObservationMetaData β → Mutator → Prop} {I : ObservationMetaData β → Prop}
    (step : ∀ s m, ok s m → I s → I (after (Mutator.call getSpatialBounds m s))) {ms : List Mutator}
    {s : ObservationMetaData β} (hms : RunAllowed getSpatialBounds ok ms s) (hs : I s) :
    I (runCalls getSpatialBounds ms s) := by
  induction ms generalizing s with
  | nil => exact hs
  | cons m ms ih => exact ih hms.2 (step s m hms.1 hs)

/-- What every run of `__init__` that returns establishes holds of the object `new a` builds. -/
theorem new_of_wp_at {I : ObservationMetaData β → Prop} {a : Args}
    (h : wp (init getSpatialBounds a) (fun _ => I) (fun _ _ => True) blank) {s : ObservationMetaData β}
    (hs : new getSpatialBounds a = .ok s) : I s := by
  unfold new at hs
  unfold wp at h
  split at hs <;> rename_i heq <;> simp only [heq, Except.ok.injEq, reduceCtorEq] at hs h
  exact hs ▸ h

end Runs

/-! ## What the PhoSim dict governs is frozen between its assignments -/

/-- `t` keeps the PhoSim dict of `s`, each attribute a key of it governs, and `seeing` while
the dict holds `Opsim_rawseeing`. -/
def Frozen (s t : ObservationMetaData β) : Prop :=
  KeepsGoverned s t ∧ (phoSimHas s (·.Opsim_rawseeing.isSome) → t._seeing = s._seeing)

section Frozen

variable {s t u : ObservationMetaData β}

theorem phoSimHas_congr (h : t._phoSimMetaData = s._phoSimMetaData) (has : PhoSimMetaData → Bool) :
    phoSimHas t has = phoSimHas s has := by
  unfold phoSimHas
  rw [h]

theorem KeepsGoverned.trans (h₁ : KeepsGoverned s t) (h₂ : KeepsGoverned t u) : KeepsGoverned s u := by
  obtain ⟨hp, h1, h2, h3, h4, h5⟩ := h₁
  obtain ⟨hp', g1, g2, g3, g4, g5⟩ := h₂
  have e := phoSimHas_congr hp
  exact ⟨hp'.trans hp, fun h => (g1 ((e _).trans h)).trans (h1 h),
    fun h => (g2 ((e _).trans h)).trans (h2 h), fun h => (g3 ((e _).trans h)).trans (h3 h),
    fun h => (g4 ((e _).trans h)).trans (h4 h), fun h => (g5 ((e _).trans h)).trans (h5 h)⟩

theorem Frozen.refl (s : ObservationMetaData β) : Frozen s s :=
  ⟨.refl s, fun _ => rfl⟩

theorem Frozen.trans (h₁ : Frozen s t) (h₂ : Frozen t u) : Frozen s u :=
  ⟨h₁.1.trans h₂.1, fun h => (h₂.2 ((phoSimHas_congr h₁.1.1 _).trans h)).trans (h₁.2 h)⟩

end Frozen

section Steps

variable {getSpatialBounds : String → Float → Float → BoundLength → Except PyError β}

/-- Every call but a `phoSimMetaData` assignment, returning or raising, leaves `seeing` as it
was while the PhoSim dict holds `Opsim_rawseeing`: the two writers of `_seeing` raise first. -/
theorem mutator_keeps_seeing (m : Mutator) (hm : ∀ v, m ≠ .phoSimMetaData v) (s : ObservationMetaData β)
    (hr : phoSimHas s (·.Opsim_rawseeing.isSome)) :
    (after (Mutator.call getSpatialBounds m s))._seeing = s._seeing := by
  refine (wp_iff_after _ (fun t : ObservationMetaData β => t._seeing = s._seeing)).1 ?_
  have kept {x : Method β Unit} (h : Keeps (fun t : ObservationMetaData β => t._seeing = s._seeing) x) :
      wp x (fun _ t => t._seeing = s._seeing) (fun _ t => t._seeing = s._seeing) s := h s rfl
  cases m with
  | seeing v => rw [Mutator.call, setSeeing, wp_bind, wp_phoSimGuard, if_pos hr]
  | setBandpassM5andSeeing b m5 seeing =>
    refine wp_raiseWhen_seq rfl fun _ => ?_
    rw [wp_bind, wp_phoSimGuard, if_pos hr]
  | phoSimMetaData v => exact absurd rfl (hm v)
  | pointingRA v | pointingDec v =>
    exact kept ((keeps_phoSimGuard _ _).seq fun _ h => keeps_buildBounds (fun _ _ h => h) _ h)
  | boundLength v | boundType v => exact kept fun _ h => keeps_buildBounds (fun _ _ h => h) _ h
  | rotSkyPos v => exact kept ((keeps_phoSimGuard _ _).seq (keeps_modify fun _ h => by exact h))
  | m5 v =>
    exact kept (keeps_get.bind fun _ => (keeps_liftExcept _).bind fun _ => keeps_modify fun _ h => by exact h)
  | site v | skyBrightness v => exact rfl
  | mjd v =>
    refine kept ((keeps_phoSimGuard _ _).seq ?_)
    cases v <;> first | exact keeps_raise _ | exact keeps_modify fun _ h => by exact h

/-- **Step lemma**: a call other than a `phoSimMetaData` assignment freezes what the dict
governs. -/
theorem mutator_frozen (m : Mutator) (hm : ∀ v, m ≠ .phoSimMetaData v) (s : ObservationMetaData β) :
    Frozen s (after (Mutator.call getSpatialBounds m s)) :=
  ⟨mutator_keepsGoverned m hm s, mutator_keeps_seeing m hm s⟩

/-- **What the PhoSim dict governs is frozen between its assignments**: along any run with no
`phoSimMetaData` assignment, its calls returning or raising, the dict stays, each attribute
one of its keys governs keeps its value, and so does `seeing` while the dict holds
`Opsim_rawseeing`. -/
theorem runCalls_frozen (ms : List Mutator) (hms : ∀ m ∈ ms, ∀ v, m ≠ .phoSimMetaData v)
    (s : ObservationMetaData β) : Frozen s (runCalls getSpatialBounds ms s) :=
  runCalls_induct Frozen.refl Frozen.trans (fun m hm s => mutator_frozen m (hms m hm) s) s

/-- `ObservationMetaData(bandpassName='r', seeing=0.7, phoSimMetaData={'Opsim_rawseeing': [0.7]})`,
then `seeing = 1.0` and `setBandpassM5andSeeing('g')`: both raise and `seeing` stays. -/
theorem runCalls_frozen_rawseeing :
    (∀ m ∈ [Mutator.seeing (some (.scalar 1)), .setBandpassM5andSeeing (some (.name "g")) none none],
      ∀ v, m ≠ .phoSimMetaData v) ∧
    Frozen
      { blank (β := Unit) with
        _epoch := 2000, _bandpass := some (.name "r"), _seeing := some [("r", 0.7)]
        _phoSimMetaData := some { Opsim_rawseeing := some [0.7] } }
      (runCalls (fun _ _ _ _ => .ok ())
        [.seeing (some (.scalar 1)), .setBandpassM5andSeeing (some (.name "g")) none none]
        { blank with
          _epoch := 2000, _bandpass := some (.name "r"), _seeing := some [("r", 0.7)]
          _phoSimMetaData := some { Opsim_rawseeing := some [0.7] } }) :=
  ⟨by simp, runCalls_frozen _ (by simp) _⟩

/-- `t` has the bounds of `s`, or bounds that `getSpatialBounds` returned for the complete inputs
`t` holds. -/
def BoundsKeptOrBuilt (getSpatialBounds : String → Float → Float → BoundLength → Except PyError β)
    (s t : ObservationMetaData β) : Prop :=
  t._bounds = s._bounds ∨ ∃ ty ra dec l b, boundsInputs t = some (ty, ra, dec, l) ∧
    getSpatialBounds ty ra dec l = .ok b ∧ t._bounds = some b

/-- `_buildBounds`, run where the bounds are still those of `s`, leaves them kept or built. -/
theorem buildBounds_keptOrBuilt {s t : ObservationMetaData β} (ht : t._bounds = s._bounds) :
    wp (_buildBounds getSpatialBounds) (fun _ => BoundsKeptOrBuilt getSpatialBounds s)
      (fun _ => BoundsKeptOrBuilt getSpatialBounds s) t := by
  rw [wp_buildBounds]
  split
  · exact .inl ht
  · rename_i ty ra dec l hin
    rcases hg : getSpatialBounds ty ra dec l with e | b
    · exact .inl ht
    · exact .inr ⟨ty, ra, dec, l, b, hin, hg, rfl⟩

/-- **Step lemma**: a call, returning or raising, leaves `_bounds` as it was or sets it to the
bound `getSpatialBounds` returned for the complete inputs it leaves: `_buildBounds` is the
only writer of `_bounds` and the last thing a call runs. -/
theorem mutator_bounds_keptOrBuilt (m : Mutator) (s : ObservationMetaData β) :
    BoundsKeptOrBuilt getSpatialBounds s (after (Mutator.call getSpatialBounds m s)) := by
  refine (wp_iff_after _ _).1 ?_
  have kept {x : Method β Unit} (h : Keeps (fun t : ObservationMetaData β => t._bounds = s._bounds) x) :
      wp x (fun _ => BoundsKeptOrBuilt getSpatialBounds s) (fun _ => BoundsKeptOrBuilt getSpatialBounds s) s :=
    wp_mono (h s rfl) (fun _ _ h => .inl h) fun _ _ h => .inl h
  cases m with
  | pointingRA v | pointingDec v =>
    simp only [Mutator.call, setPointingRA, setPointingDec, wp_bind, wp_phoSimGuard, wp_setBoundsInput]
    split_ifs
    · exact .inl rfl
    · exact buildBounds_keptOrBuilt rfl
  | boundLength v | boundType v => exact buildBounds_keptOrBuilt rfl
  | rotSkyPos v => exact kept ((keeps_phoSimGuard _ _).seq (keeps_modify fun _ h => by exact h))
  | m5 v =>
    exact kept (keeps_get.bind fun _ => (keeps_liftExcept _).bind fun _ => keeps_modify fun _ h => by exact h)
  | seeing v =>
    exact kept ((keeps_phoSimGuard _ _).seq
      (keeps_get.bind fun _ => (keeps_liftExcept _).bind fun _ => keeps_modify fun _ h => by exact h))
  | site v | skyBrightness v => exact .inl rfl
  | mjd v =>
    refine kept ((keeps_phoSimGuard _ _).seq ?_)
    cases v <;> first | exact keeps_raise _ | exact keeps_modify fun _ h => by exact h
  | phoSimMetaData v =>
    cases v with
    | none => exact .inl rfl
    | some d =>
      simp only [Mutator.call, setPhoSimMetaData, _assignPhoSimMetaData, wp_bind, wp_modify]
      refine wp_mono (?_ : wp (copyPhoSimMetaData (some d)) (fun _ t => t._bounds = s._bounds)
        (fun _ t => t._bounds = s._bounds) _) (fun _ _ h => buildBounds_keptOrBuilt h) fun _ _ h => .inl h
      exact wp_copyPhoSimMetaData_of (fun _ _ _ _ h => h) (fun _ _ _ _ h => h) (fun _ _ _ _ h => h)
        (keeps_copyPointing (fun _ _ _ h => h) fun _ _ _ h => h) rfl
  | setBandpassM5andSeeing b m5 seeing =>
    exact kept ((keeps_phoSimGuard _ _).seq <| (keeps_phoSimGuard _ _).seq <|
      (keeps_modify fun _ h => by exact h).seq <|
      keeps_get.bind fun _ => (keeps_liftExcept _).bind fun _ => (keeps_modify fun _ h => by exact h).seq <|
      keeps_get.bind fun _ => (keeps_liftExcept _).bind fun _ => keeps_modify fun _ h => by exact h)

/-- **`_bounds` changes only when `_buildBounds` succeeds on complete inputs**: every call,
returning or raising, keeps `_bounds` or sets it to the bound `getSpatialBounds` returned for
the complete inputs the call leaves.  So along any run an object that has bounds keeps some,
and a run none of whose calls leaves the four inputs complete (setting `boundType` to `None`,
or a `phoSimMetaData` assignment that clears the pointing, then anything) leaves `_bounds`
exactly as it was, describing inputs the object may no longer hold. -/
theorem runCalls_keeps_bounds :
    (∀ (m : Mutator) (s : ObservationMetaData β),
      BoundsKeptOrBuilt getSpatialBounds s (after (Mutator.call getSpatialBounds m s))) ∧
    (∀ (ms : List Mutator) (s : ObservationMetaData β), s._bounds.isSome →
      (runCalls getSpatialBounds ms s)._bounds.isSome) ∧
    ∀ (ms : List Mutator) (s : ObservationMetaData β),
      RunAllowed getSpatialBounds (fun t m => boundsInputs (after (Mutator.call getSpatialBounds m t)) = none) ms s →
      (runCalls getSpatialBounds ms s)._bounds = s._bounds := by
  refine ⟨mutator_bounds_keptOrBuilt, fun ms s h => ?_, fun ms s h => ?_⟩
  · refine runCalls_induct (R := fun s t : ObservationMetaData β => s._bounds.isSome → t._bounds.isSome)
      (fun _ h => h) (fun h₁ h₂ h => h₂ (h₁ h)) (fun m _ s hs => ?_) s h
    rcases (mutator_bounds_keptOrBuilt m s : BoundsKeptOrBuilt getSpatialBounds s _) with h | ⟨_, _, _, _, _, _, _, h⟩
    · exact h ▸ hs
    · exact h ▸ rfl
  · refine RunAllowed.inv (I := fun t : ObservationMetaData β => t._bounds = s._bounds)
      (fun t m hm ht => ?_) h rfl
    rcases (mutator_bounds_keptOrBuilt m t : BoundsKeptOrBuilt getSpatialBounds t _) with h | ⟨_, _, _, _, _, hin, _⟩
    · exact h.trans ht
    · exact absurd (hm.symm.trans hin) (by simp)

/-- An object with bounds for a circle at (10, -30), then `boundType = None` and
`pointingRA = 20`: the bounds stay those of the circle. -/
theorem runCalls_keeps_bounds_boundType_none :
    RunAllowed (fun _ _ _ _ => .ok ())
        (fun t m => boundsInputs (after (Mutator.call (fun _ _ _ _ => .ok ()) m t)) = none)
        [.boundType none, .pointingRA 20]
        { blank (β := Unit) with
          _bounds := some (), _boundType := some "circle", _boundLength := some (.float 1.75)
          _pointingRA := some 10, _pointingDec := some (-30) } ∧
      (runCalls (fun _ _ _ _ => .ok ()) [.boundType none, .pointingRA 20]
        { blank (β := Unit) with
          _bounds := some (), _boundType := some "circle", _boundLength := some (.float 1.75)
          _pointingRA := some 10, _pointingDec := some (-30) })._bounds = some () :=
  ⟨⟨rfl, rfl, trivial⟩, runCalls_keeps_bounds.2.2 _ _ ⟨rfl, rfl, trivial⟩⟩

end Steps

/-! ## `seeing` and `Opsim_rawseeing`

`__init__` assigns `seeing` after the PhoSim dict, and its comment asks that users not set
`seeing` afterwards, so that it stays in sync with the dict's `rawseeing`.  The setters keep
`seeing` unset while the dict holds `Opsim_rawseeing`: the two writers of `_seeing` refuse,
and a `phoSimMetaData` assignment that returns has cleared `seeing` or checked it unset. -/

/-- `seeing` is unset while the PhoSim dict holds `Opsim_rawseeing`. -/
def SeeingInSync (s : ObservationMetaData β) : Prop :=
  phoSimHas s (·.Opsim_rawseeing.isSome) → s._seeing = none

section Seeing

variable {getSpatialBounds : String → Float → Float → BoundLength → Except PyError β}

/-- The body of `_assignPhoSimMetaData` writes neither the dict nor `seeing`. -/
theorem copyPhoSimMetaData_keeps_seeing (d : PhoSimMetaData) (s : ObservationMetaData β) :
    wp (copyPhoSimMetaData (some d))
      (fun _ t => t._phoSimMetaData = s._phoSimMetaData ∧ t._seeing = s._seeing) (fun _ _ => True) s :=
  wp_mono (wp_copyPhoSimMetaData_of (fun _ _ _ _ h => h) (fun _ _ _ _ h => h) (fun _ _ _ _ h => h)
    (fun t ht => keeps_copyPointing (fun _ _ _ h => h) (fun _ _ _ h => h) t ht) ⟨rfl, rfl⟩)
    (fun _ _ h => h) fun _ _ _ => trivial

/-- The body of `_assignPhoSimMetaData` raises when the dict holds `Opsim_rawseeing` and
`seeing` is set. -/
theorem copyPhoSimMetaData_raises_on_seeing {d : PhoSimMetaData} {s : ObservationMetaData β}
    (hr : d.Opsim_rawseeing.isSome) (hs : s._seeing.isSome) :
    wp (copyPhoSimMetaData (some d)) (fun _ _ => False) (fun _ _ => True) s := by
  have h : wp (copyPhoSimMetaData (some d)) (fun _ _ => False) (fun _ t => t._seeing = s._seeing) s := by
    have keep := @keeps_overwriteFromPhoSim β (fun t => t._seeing = s._seeing)
    refine (keep fun _ _ _ _ h => by exact h).wp_bind (fun _ t₁ h₁ => ?_) rfl
    refine (keep fun _ _ _ _ h => by exact h).wp_bind (fun _ t₂ h₂ => ?_) h₁
    refine (keep fun _ _ _ _ h => by exact h).wp_bind (fun _ t₃ h₃ => ?_) h₂
    rw [wp_bind, wp_raiseWhen, if_pos (by rw [hr, h₃, hs]; rfl)]
    exact h₃
  exact wp_mono h (fun _ _ h => h) fun _ _ _ => trivial

/-- A `phoSimMetaData` assignment that returns leaves `seeing` in sync with the new dict. -/
theorem setPhoSimMetaData_seeingInSync (v : Option PhoSimMetaData) (s : ObservationMetaData β) :
    wp (setPhoSimMetaData getSpatialBounds v) (fun _ => SeeingInSync) (fun _ _ => True) s := by
  cases v with
  | none => trivial
  | some d =>
    simp only [setPhoSimMetaData, _assignPhoSimMetaData, wp_bind, wp_modify]
    by_cases hbad : d.Opsim_rawseeing.isSome ∧ (clearGoverned d s)._seeing.isSome
    · exact wp_mono (copyPhoSimMetaData_raises_on_seeing hbad.1 hbad.2) (fun _ _ h => h.elim)
        fun _ _ _ => trivial
    · refine wp_mono (copyPhoSimMetaData_keeps_seeing d _) (fun _ t ⟨hp, hse⟩ => ?_) fun _ _ _ => trivial
      refine wp_mono (keeps_buildBounds (I := fun u : ObservationMetaData β =>
          u._phoSimMetaData = some d ∧ u._seeing = t._seeing) (fun _ _ h => h) t ⟨hp, rfl⟩)
        (fun _ u ⟨hp', hse'⟩ hr => ?_) fun _ _ _ => trivial
      rw [phoSimHas_of_eq hp'] at hr
      rw [hse', hse]
      exact Option.not_isSome_iff_eq_none.1 fun h => hbad ⟨hr, h⟩

/-- **Step lemma**: a call keeps `seeing` in sync, unless it is a `phoSimMetaData` assignment
that raises. -/
theorem mutator_seeingInSync (m : Mutator) {s : ObservationMetaData β}
    (hm : PhoSimReturns getSpatialBounds s m) (hs : SeeingInSync s) :
    SeeingInSync (after (Mutator.call getSpatialBounds m s)) := by
  by_cases hp : ∃ v, m = .phoSimMetaData v
  · obtain ⟨v, rfl⟩ := hp
    exact wp_after_of_returned (setPhoSimMetaData_seeingInSync v s) hm
  · have hmp : ∀ v, m ≠ .phoSimMetaData v := fun v h => hp ⟨v, h⟩
    intro hr
    rw [phoSimHas_congr (mutator_keepsGoverned m hmp s).1] at hr
    rw [mutator_keeps_seeing m hmp s hr]
    exact hs hr

/-- `_assignPhoSimMetaData(d)`, when it returns, has stored `d`. -/
theorem initPhoSimMetaData_stores (md : Option PhoSimMetaData) (s : ObservationMetaData β) :
    wp (initPhoSimMetaData getSpatialBounds md) (fun _ t => t._phoSimMetaData = md) (fun _ _ => True) s := by
  cases md with
  | none => rfl
  | some d =>
    simp only [initPhoSimMetaData, _assignPhoSimMetaData, wp_bind, wp_modify]
    refine wp_mono (copyPhoSimMetaData_keeps_seeing d _) (fun _ t ⟨hp, _⟩ => ?_) fun _ _ _ => trivial
    exact wp_mono (keeps_buildBounds (I := fun u : ObservationMetaData β => u._phoSimMetaData = some d)
      (fun _ _ h => h) t hp) (fun _ _ h => h) fun _ _ _ => trivial

/-- The constructor builds `seeing` in sync unless it is given a `seeing` next to a dict that
holds `Opsim_rawseeing`. -/
theorem init_seeingInSync (a : Args)
    (ha : ∀ d, a.phoSimMetaData = some d → d.Opsim_rawseeing.isSome → a.seeing = none) :
    wp (init getSpatialBounds a) (fun _ => SeeingInSync) (fun _ _ => True) blank := by
  simp only [init, wp_bind, wp_modify, wp_liftExcept]
  cases mjdArg a.mjd
  · trivial
  · refine wp_mono (initPhoSimMetaData_stores _ _) (fun _ t hp => ?_) fun _ _ _ => trivial
    simp only [wp_bind, wp_get, wp_liftExcept, wp_modify, wp_ite, wp_pure]
    cases _assignDictKeyedToBandpass t._bandpass a.m5 "m5"
    · trivial
    · rcases hse : _assignDictKeyedToBandpass t._bandpass a.seeing "seeing" with _ | se
      · trivial
      · -- The object the constructor has built, before `_buildBounds`, is in sync.
        have hsync : ∀ u : ObservationMetaData β, u._phoSimMetaData = a.phoSimMetaData → u._seeing = se →
            SeeingInSync u := by
          intro u hu hu' hr
          rcases hd : a.phoSimMetaData with _ | d
          · simp [phoSimHas, hu, hd] at hr
          · rw [phoSimHas_of_eq (hu.trans hd)] at hr
            rw [ha d hd hr] at hse
            exact hu'.trans (Except.ok.inj hse).symm
        split
        · exact wp_mono (keeps_buildBounds (I := fun u : ObservationMetaData β =>
              u._phoSimMetaData = a.phoSimMetaData ∧ u._seeing = se) (fun _ _ h => h) _ ⟨hp, rfl⟩)
            (fun _ u ⟨h1, h2⟩ => hsync u h1 h2) fun _ _ _ => trivial
        · exact hsync _ hp rfl

/-- **`seeing` stays in sync with `Opsim_rawseeing`**: an object built without a `seeing`
next to a dict holding `Opsim_rawseeing`, then changed by any run whose `phoSimMetaData`
assignments return (the other calls returning or raising), has `seeing` unset whenever its
dict holds `Opsim_rawseeing`. -/
theorem new_runCalls_seeingInSync {a : Args} {s : ObservationMetaData β}
    (hnew : new getSpatialBounds a = .ok s)
    (ha : ∀ d, a.phoSimMetaData = some d → d.Opsim_rawseeing.isSome → a.seeing = none)
    {ms : List Mutator} (hms : RunAllowed getSpatialBounds (PhoSimReturns getSpatialBounds) ms s) :
    SeeingInSync (runCalls getSpatialBounds ms s) :=
  RunAllowed.inv (fun _ m hm hs => mutator_seeingInSync m hm hs) hms
    (new_of_wp_at (init_seeingInSync a ha) hnew)

/-- `ObservationMetaData(bandpassName='r', phoSimMetaData={'Opsim_rawseeing': [0.7]})`, then
`seeing = 1.0`, refused, and `phoSimMetaData = {'Opsim_rawseeing': [0.6]}`: `seeing` is
still unset. -/
theorem new_runCalls_seeingInSync_rawseeing :
    new (fun _ _ _ _ => .ok ())
        { bandpassName := some (.name "r"), phoSimMetaData := some { Opsim_rawseeing := some [0.7] }
          site := none } =
      .ok { blank (β := Unit) with
        _epoch := 2000.0, _bandpass := some (.name "r")
        _phoSimMetaData := some { Opsim_rawseeing := some [0.7] } } ∧
    RunAllowed (fun _ _ _ _ => .ok ()) (PhoSimReturns fun _ _ _ _ => .ok ())
      [.seeing (some (.scalar 1)), .phoSimMetaData (some { Opsim_rawseeing := some [0.6] })]
      { blank with
        _epoch := 2000.0, _bandpass := some (.name "r")
        _phoSimMetaData := some { Opsim_rawseeing := some [0.7] } } ∧
    SeeingInSync (runCalls (fun _ _ _ _ => .ok ())
      [.seeing (some (.scalar 1)), .phoSimMetaData (some { Opsim_rawseeing := some [0.6] })]
      { blank (β := Unit) with
        _epoch := 2000.0, _bandpass := some (.name "r")
        _phoSimMetaData := some { Opsim_rawseeing := some [0.7] } }) :=
  by
  refine ⟨?hnew, ⟨trivial, rfl, trivial⟩,
    new_runCalls_seeingInSync ?hnew (fun _ _ _ => rfl) ⟨trivial, rfl, trivial⟩⟩
  rfl

end Seeing

end ObservationMetaData

end SimsUtils
