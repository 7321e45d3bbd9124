import SimsUtils.ObservationMetaData.Mutators

/-!
# `m5` and `seeing` are keyed by the bandpass

`_assignDictKeyedToBandpass` builds a dict whose keys are the names of the current
bandpass (`assignDictKeyedToBandpass_keys`), and the `phoSimMetaData` setter clears `m5` and
`seeing` whenever it clears the bandpass.  But `setBandpassM5andSeeing` assigns
`_bandpass` before it builds the two dicts: when one of them is refused, the object keeps
the new bandpass with the old dicts (`bandpassKeyed_fails_after_raise`).  The dicts stay
keyed along runs whose `setBandpassM5andSeeing` calls, when they get past their PhoSim
checks, pass values that fit their bandpass:

    ReachableBy gsb FitsBandpass s → BandpassKeyed s              (reachableBy_bandpassKeyed)
-/

namespace SimsUtils

namespace ObservationMetaData

variable {β : Type}

/-- `dict` is `None`, or the bandpass is set and the dict's keys are its names. -/
def KeyedBy (bandpass : Option Bandpass) (dict : Option BandpassDict) : Prop :=
  ∀ d, dict = some d → ∃ b, bandpass = some b ∧ ∀ k, k ∈ d.keys ↔ k ∈ b.names

/-- `_m5` and `_seeing` are keyed by the names in `_bandpass`. -/
def BandpassKeyed (s : ObservationMetaData β) : Prop :=
  KeyedBy s._bandpass s._m5 ∧ KeyedBy s._bandpass s._seeing

/-- A `setBandpassM5andSeeing` call on `s` that gets past its PhoSim checks passes values that
fit its bandpass: `_assignDictKeyedToBandpass` accepts both.  A call the checks refuse writes
nothing. -/
def FitsBandpass (s : ObservationMetaData β) : Mutator → Prop
  | .setBandpassM5andSeeing b m5 seeing =>
    phoSimHas s (·.Opsim_filter.isSome) ∨ phoSimHas s (·.Opsim_rawseeing.isSome) ∨
      (∃ r, _assignDictKeyedToBandpass b m5 "m5" = .ok r) ∧
        ∃ r, _assignDictKeyedToBandpass b seeing "seeing" = .ok r
  | _ => True

/-! ## Lemmas -/

theorem keyedBy_none (bp : Option Bandpass) : KeyedBy bp none :=
  fun _ h => Option.noConfusion h

/-- A dict that `_assignDictKeyedToBandpass` returns is keyed by the bandpass it read. -/
theorem keyedBy_of_assign {bp : Option Bandpass} {v : Option BandpassValue} {n : String}
    {r : Option BandpassDict} (h : _assignDictKeyedToBandpass bp v n = .ok r) : KeyedBy bp r := by
  rintro d rfl
  cases bp with
  | some b =>
    cases v with
    | some v => exact ⟨b, rfl, assignDictKeyedToBandpass_keys h⟩
    | none => cases h
  | none => cases v <;> cases h

/-- With no bandpass, a keyed dict is `None`. -/
theorem KeyedBy.eq_none {dict : Option BandpassDict} (h : KeyedBy none dict) : dict = none := by
  cases dict with
  | none => rfl
  | some d =>
    obtain ⟨_, hb, _⟩ := h d rfl
    cases hb

theorem clearGoverned_keyed (d : PhoSimMetaData) {s : ObservationMetaData β} (hs : BandpassKeyed s) :
    BandpassKeyed (clearGoverned d s) := by
  by_cases hf : d.Opsim_filter.isSome
  · simp only [BandpassKeyed, clearGoverned, hf, if_true]
    exact ⟨keyedBy_none _, keyedBy_none _⟩
  · simpa only [BandpassKeyed, clearGoverned, hf, if_false] using hs

/-- The bandpass copied from a PhoSim dict is written only where none was set, so where
`m5` and `seeing` are `None`. -/
theorem bandpass_write_keyed {s : ObservationMetaData β} (x : String) (hb : ¬ s._bandpass.isSome)
    (hs : BandpassKeyed s) : BandpassKeyed { s with _bandpass := some (.name x) } := by
  rw [Option.not_isSome_iff_eq_none] at hb
  rw [BandpassKeyed, hb] at hs
  exact ⟨hs.1.eq_none ▸ keyedBy_none _, hs.2.eq_none ▸ keyedBy_none _⟩

section Keeps

variable {getSpatialBounds : String → Float → Float → BoundLength → Except PyError β}

theorem assignPhoSimMetaData_keyed (md : Option PhoSimMetaData) :
    Keeps BandpassKeyed (_assignPhoSimMetaData getSpatialBounds md) := by
  intro s hs
  simp only [_assignPhoSimMetaData, wp_bind, wp_modify]
  refine wp_mono (?_ : wp (copyPhoSimMetaData md) (fun _ => BandpassKeyed) (fun _ => BandpassKeyed) _)
    (fun _ t ht => keeps_buildBounds (fun _ _ h => h) t ht) fun _ _ h => h
  cases md with
  | none => exact hs
  | some d =>
    exact wp_copyPhoSimMetaData_of (fun _ _ _ _ h => h) (fun _ _ _ _ h => h)
      (fun x _ _ hb h => bandpass_write_keyed x hb h)
      (keeps_copyPointing (fun _ _ _ h => h) fun _ _ _ h => h) hs

theorem initPhoSimMetaData_keyed (md : Option PhoSimMetaData) :
    Keeps BandpassKeyed (initPhoSimMetaData getSpatialBounds md) := by
  cases md with
  | some d => exact assignPhoSimMetaData_keyed _
  | none => exact keeps_modify fun _ h => by exact h

/-- **Step lemma**: a call on `s` whose values fit its bandpass keeps `m5` and `seeing` keyed,
whether it returns or raises. -/
theorem mutator_keeps_keyed (m : Mutator) {s : ObservationMetaData β} (hm : FitsBandpass s m)
    (hs : BandpassKeyed s) :
    wp (Mutator.call getSpatialBounds m) (fun _ => BandpassKeyed) (fun _ => BandpassKeyed) s := by
  cases m
  case setBandpassM5andSeeing b m5 seeing =>
    simp only [Mutator.call, ObservationMetaData.setBandpassM5andSeeing, wp_bind, wp_phoSimGuard,
      wp_modify, wp_get, wp_liftExcept]
    split_ifs with hf hr
    · exact hs
    · exact hs
    · -- Past the two PhoSim checks, both values fit the new bandpass.
      obtain ⟨⟨r₁, h₁⟩, ⟨r₂, h₂⟩⟩ := (hm.resolve_left hf).resolve_left hr
      simp only [h₁, h₂, onResult_ok]
      exact ⟨keyedBy_of_assign h₁, keyedBy_of_assign h₂⟩
  -- Every other call keeps the dicts keyed from any object.
  all_goals refine (?_ : Keeps BandpassKeyed _) s hs
  case pointingRA v | pointingDec v =>
    exact (keeps_phoSimGuard _ _).seq (fun s hs => keeps_buildBounds (fun _ _ h => h) _ hs)
  case boundLength v | boundType v => exact fun s hs => keeps_buildBounds (fun _ _ h => h) _ hs
  case rotSkyPos v => exact (keeps_phoSimGuard _ _).seq (keeps_modify fun _ h => by exact h)
  case m5 v =>
    refine keeps_get_bind fun s hs => ?_
    rw [wp_bind, wp_liftExcept]
    rcases h : _assignDictKeyedToBandpass s._bandpass v "m5" with _ | r
    · exact hs
    · exact ⟨keyedBy_of_assign h, hs.2⟩
  case seeing v =>
    refine (keeps_phoSimGuard _ _).seq (keeps_get_bind fun s hs => ?_)
    rw [wp_bind, wp_liftExcept]
    rcases h : _assignDictKeyedToBandpass s._bandpass v "seeing" with _ | r
    · exact hs
    · exact ⟨hs.1, keyedBy_of_assign h⟩
  case site v | skyBrightness v => exact keeps_modify fun _ h => by exact h
  case mjd v =>
    refine (keeps_phoSimGuard _ _).seq ?_
    cases v <;> first | exact keeps_raise _ | exact keeps_modify fun _ h => by exact h
  case phoSimMetaData v =>
    cases v with
    | none => exact keeps_raise _
    | some d => exact (keeps_modify fun _ h => clearGoverned_keyed d h).seq (assignPhoSimMetaData_keyed _)

/-- **The constructor keys `m5` and `seeing` by the bandpass.** -/
theorem init_keyed (a : Args) :
    wp (init getSpatialBounds a) (fun _ => BandpassKeyed) (fun _ _ => True) blank := by
  simp only [init, wp_bind, wp_modify, wp_liftExcept]
  cases mjdArg a.mjd
  · trivial
  · refine wp_mono (initPhoSimMetaData_keyed _ _ ⟨keyedBy_none _, keyedBy_none _⟩)
      (fun _ t _ => ?_) fun _ _ _ => trivial
    simp only [wp_bind, wp_get, wp_liftExcept, wp_modify, wp_ite, wp_pure]
    rcases h₁ : _assignDictKeyedToBandpass t._bandpass a.m5 "m5" with _ | r₁
    · trivial
    · rcases h₂ : _assignDictKeyedToBandpass t._bandpass a.seeing "seeing" with _ | r₂
      · trivial
      · have hk : BandpassKeyed { t with _m5 := r₁, _seeing := r₂ } :=
          ⟨keyedBy_of_assign h₁, keyedBy_of_assign h₂⟩
        split
        · exact wp_mono (keeps_buildBounds (fun _ _ h => h) _ hk) (fun _ _ h => h) fun _ _ _ => trivial
        · exact hk

end Keeps

/-! ## Runs -/

section Runs

variable {getSpatialBounds : String → Float → Float → BoundLength → Except PyError β}

/-- **`m5` and `seeing` are keyed by the bandpass** in every object reached by runs whose
`setBandpassM5andSeeing` calls, when they get past their PhoSim checks, pass values that fit
their bandpass, other calls raising or not. -/
theorem reachableBy_bandpassKeyed {s : ObservationMetaData β}
    (h : ReachableBy getSpatialBounds FitsBandpass s) : BandpassKeyed s :=
  ReachableBy.inv getSpatialBounds (fun _ _ hs => new_of_wp getSpatialBounds init_keyed hs)
    (fun _ m hm hs => (wp_iff_after _ _).1 (mutator_keeps_keyed m hm hs)) h

/-- `ObservationMetaData(bandpassName=['u', 'g'], m5=[24.0, 25.0])`, then
`setBandpassM5andSeeing('r', m5=23.0, seeing=0.7)`: the dicts are keyed by `'r'`. -/
theorem bandpassKeyed_set_r :
    BandpassKeyed (β := Unit)
      { blank with
        _epoch := 2000.0, _bandpass := some (.name "r"), _m5 := some [("r", 23)]
        _seeing := some [("r", 0.7)] } :=
  @reachableBy_bandpassKeyed Unit (fun _ _ _ _ => .ok ()) _
    (.call (.setBandpassM5andSeeing (some (.name "r")) (some (.scalar 23)) (some (.scalar 0.7)))
      (.init { bandpassName := some (.list ["u", "g"]), m5 := some (.list [24, 25]), site := none } rfl)
      (.inr (.inr ⟨⟨_, rfl⟩, ⟨_, rfl⟩⟩)))

/-- **The dicts go stale when `setBandpassM5andSeeing` raises**: from
`ObservationMetaData(bandpassName='r', m5=25.0)`, `setBandpassM5andSeeing('g', m5=[1.0, 2.0])`
raises with `_bandpass = 'g'` and `_m5 = {'r': 25.0}`. -/
theorem bandpassKeyed_fails_after_raise :
    ¬ ∀ s : ObservationMetaData Unit, Reachable (fun _ _ _ _ => .ok ()) s → BandpassKeyed s := by
  intro h
  obtain ⟨b, hb, hk⟩ := (h _ (.call (.setBandpassM5andSeeing (some (.name "g")) (some (.list [1, 2])) none)
    (.init { bandpassName := some (.name "r"), m5 := some (.scalar 25), site := none } rfl)
    trivial)).1 _ rfl
  cases hb
  simp [BandpassDict.keys, Bandpass.names] at hk

end Runs

end ObservationMetaData

end SimsUtils
