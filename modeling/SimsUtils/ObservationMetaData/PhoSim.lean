import SimsUtils.ObservationMetaData.Mutators

/-!
# The attributes a PhoSim dict governs

`_assignPhoSimMetaData(d)` copies `d['pointingRA'][0]`, `d['pointingDec'][0]`,
`d['Opsim_rotskypos'][0]`, `ModifiedJulianDate(TAI=d['Opsim_expmjd'][0])` and
`d['Opsim_filter'][0]` into the attributes these keys govern, and every other setter of
such an attribute raises while its key is in the dict (`mutator_keepsGoverned`).

The `phoSimMetaData` setter clears the governed attributes, stores the dict, and only then
checks it: an empty entry, `pointingRA` without `pointingDec`, or a `seeing` already set makes
it raise with the dict stored and some governed attributes still `None`.  So agreement
holds in full only along runs in which no such assignment raised:

    Reachable gsb s → PhoSimAgrees true s                          (reachable_phoSimAgrees_or_unset)
    ReachableBy gsb (PhoSimReturns gsb) s → PhoSimAgrees false s   (reachableBy_phoSimAgrees)
    (∀ v, m ≠ .phoSimMetaData v) → KeepsGoverned s (after (m.call gsb s))
                                                                   (mutator_keepsGoverned)
-/

namespace SimsUtils

namespace ObservationMetaData

variable {β : Type}

/-- `key in d` implies `attr == conv(d[key][0])`; with `unsetOk`, `attr` may be `None`. -/
def HoldsEntry {α γ : Type} (unsetOk : Bool) (entry : Option (List α)) (conv : α → γ)
    (attr : Option γ) : Prop :=
  unsetOk ∧ attr = none ∨ (entry.isSome → ∃ x, item0 entry = .ok x ∧ attr = some (conv x))

/-- The attributes that the keys of `d` govern hold the keys' values. -/
structure Governs (unsetOk : Bool) (d : PhoSimMetaData) (s : ObservationMetaData β) : Prop where
  pointingRA : HoldsEntry unsetOk d.pointingRA id s._pointingRA
  pointingDec : HoldsEntry unsetOk d.pointingDec id s._pointingDec
  rotSkyPos : HoldsEntry unsetOk d.Opsim_rotskypos id s._rotSkyPos
  mjd : HoldsEntry unsetOk d.Opsim_expmjd ModifiedJulianDate.ofTAI s._mjd
  bandpass : HoldsEntry unsetOk d.Opsim_filter Bandpass.name s._bandpass

/-- The PhoSim dict, when there is one, governs its attributes. -/
def PhoSimAgrees (unsetOk : Bool) (s : ObservationMetaData β) : Prop :=
  ∀ d, s._phoSimMetaData = some d → Governs unsetOk d s

/-- `t` has the PhoSim dict of `s` and, for each key of it, the attribute the key governs. -/
def KeepsGoverned (s t : ObservationMetaData β) : Prop :=
  t._phoSimMetaData = s._phoSimMetaData ∧
    (phoSimHas s (·.pointingRA.isSome) → t._pointingRA = s._pointingRA) ∧
    (phoSimHas s (·.pointingDec.isSome) → t._pointingDec = s._pointingDec) ∧
    (phoSimHas s (·.Opsim_rotskypos.isSome) → t._rotSkyPos = s._rotSkyPos) ∧
    (phoSimHas s (·.Opsim_expmjd.isSome) → t._mjd = s._mjd) ∧
    (phoSimHas s (·.Opsim_filter.isSome) → t._bandpass = s._bandpass)

/-! ## Lemmas -/

section Lemmas

variable {α γ : Type} {u : Bool} {entry : Option (List α)} {conv : α → γ} {a b : Option γ}
  {d : PhoSimMetaData} {s t : ObservationMetaData β}

theorem holdsEntry_of_not_isSome (h : ¬ entry.isSome) : HoldsEntry u entry conv a :=
  .inr fun h' => absurd h' h

theorem holdsEntry_write {x : α} (hx : item0 entry = .ok x) : HoldsEntry u entry conv (some (conv x)) :=
  .inr fun _ => ⟨x, hx, rfl⟩

/-- What the `phoSimMetaData` setter leaves of an attribute before assigning the dict. -/
theorem holdsEntry_cleared : HoldsEntry true entry conv (if entry.isSome then none else a) := by
  by_cases h : entry.isSome
  · exact .inl ⟨rfl, if_pos h⟩
  · exact holdsEntry_of_not_isSome h

theorem HoldsEntry.weaken (h : HoldsEntry false entry conv a) : HoldsEntry u entry conv a :=
  h.elim (fun h => absurd h.1 Bool.false_ne_true) .inr

theorem HoldsEntry.congr (h : HoldsEntry u entry conv a) (he : entry.isSome → b = a) :
    HoldsEntry u entry conv b := by
  by_cases hk : entry.isSome
  · exact he hk ▸ h
  · exact holdsEntry_of_not_isSome hk

theorem Governs.weaken (h : Governs false d s) : Governs u d s :=
  ⟨h.1.weaken, h.2.weaken, h.3.weaken, h.4.weaken, h.5.weaken⟩

theorem PhoSimAgrees.weaken (h : PhoSimAgrees false s) : PhoSimAgrees u s :=
  fun d hd => (h d hd).weaken

theorem phoSimAgrees_of_governs (hd : s._phoSimMetaData = some d) (h : Governs u d s) :
    PhoSimAgrees u s := by
  intro d' hd'
  rw [hd, Option.some.injEq] at hd'
  exact hd' ▸ h

/-- The setter clears what `d` governs: afterwards each such attribute is unset. -/
theorem clearGoverned_governs (d : PhoSimMetaData) (s : ObservationMetaData β) :
    Governs true d (clearGoverned d s) :=
  ⟨holdsEntry_cleared, holdsEntry_cleared, holdsEntry_cleared, holdsEntry_cleared,
    holdsEntry_cleared⟩

theorem KeepsGoverned.refl (s : ObservationMetaData β) : KeepsGoverned s s :=
  ⟨rfl, fun _ => rfl, fun _ => rfl, fun _ => rfl, fun _ => rfl, fun _ => rfl⟩

theorem phoSimHas_of_eq (hd : s._phoSimMetaData = some d) (has : PhoSimMetaData → Bool) :
    phoSimHas s has = has d := by
  simp [phoSimHas, hd]

/-- Agreement survives any change that keeps the dict and what it governs. -/
theorem PhoSimAgrees.of_keepsGoverned (h : PhoSimAgrees u s) (k : KeepsGoverned s t) :
    PhoSimAgrees u t := by
  obtain ⟨hp, hra, hdec, hrot, hmjd, hbp⟩ := k
  intro d hd
  have hs : s._phoSimMetaData = some d := hp ▸ hd
  have g := h d hs
  have has := phoSimHas_of_eq hs
  exact ⟨g.1.congr fun hk => hra ((has _).trans hk), g.2.congr fun hk => hdec ((has _).trans hk),
    g.3.congr fun hk => hrot ((has _).trans hk), g.4.congr fun hk => hmjd ((has _).trans hk),
    g.5.congr fun hk => hbp ((has _).trans hk)⟩

end Lemmas

/-! ## The other mutators keep what the dict governs -/

section Others

variable {getSpatialBounds : String → Float → Float → BoundLength → Except PyError β}

theorem keeps_buildBounds_keepsGoverned (s : ObservationMetaData β) :
    Keeps (KeepsGoverned s) (_buildBounds getSpatialBounds) :=
  keeps_buildBounds fun _ _ h => h

/-- **No other mutator overwrites a value taken from the PhoSim metadata**: every call other
than a `phoSimMetaData` assignment, returning or raising, keeps the dict and each attribute
that a key of it governs. -/
theorem mutator_keepsGoverned (m : Mutator) (hm : ∀ v, m ≠ .phoSimMetaData v)
    (s : ObservationMetaData β) : KeepsGoverned s (after (Mutator.call getSpatialBounds m s)) := by
  refine (wp_iff_after _ (KeepsGoverned s)).1 ?_
  cases m with
  | pointingRA v =>
    refine wp_raiseWhen_seq (.refl s) fun hg => ?_
    exact keeps_buildBounds_keepsGoverned s _
      ⟨rfl, fun h => absurd h hg, fun _ => rfl, fun _ => rfl, fun _ => rfl, fun _ => rfl⟩
  | pointingDec v =>
    refine wp_raiseWhen_seq (.refl s) fun hg => ?_
    exact keeps_buildBounds_keepsGoverned s _
      ⟨rfl, fun _ => rfl, fun h => absurd h hg, fun _ => rfl, fun _ => rfl, fun _ => rfl⟩
  | boundLength v | boundType v => exact keeps_buildBounds_keepsGoverned s _ (.refl s)
  | rotSkyPos v =>
    refine wp_raiseWhen_seq (.refl s) fun hg => ?_
    exact ⟨rfl, fun _ => rfl, fun _ => rfl, fun h => absurd h hg, fun _ => rfl, fun _ => rfl⟩
  | m5 v =>
    exact (keeps_get.bind fun _ => (keeps_liftExcept _).bind fun _ =>
      keeps_modify fun _ h => by exact h) s (.refl s)
  | seeing v =>
    exact (keeps_phoSimGuard _ _).seq (keeps_get.bind fun _ => (keeps_liftExcept _).bind fun _ =>
      keeps_modify fun _ h => by exact h) s (.refl s)
  | site v | skyBrightness v => exact .refl s
  | mjd v =>
    refine wp_raiseWhen_seq (.refl s) fun hg => ?_
    cases v <;> first
      | exact .refl s
      | exact ⟨rfl, fun _ => rfl, fun _ => rfl, fun _ => rfl, fun h => absurd h hg, fun _ => rfl⟩
  | phoSimMetaData v => exact absurd rfl (hm v)
  | setBandpassM5andSeeing b m5 seeing =>
    refine wp_raiseWhen_seq (.refl s) fun hg => ?_
    exact ((keeps_phoSimGuard _ _).seq <|
      (keeps_modify fun _ ⟨h1, h2, h3, h4, h5, _⟩ => ⟨h1, h2, h3, h4, h5, fun h => absurd h hg⟩).seq <|
      keeps_get.bind fun _ => (keeps_liftExcept _).bind fun _ => (keeps_modify fun _ h => by exact h).seq <|
      keeps_get.bind fun _ => (keeps_liftExcept _).bind fun _ => keeps_modify fun _ h => by exact h)
      s (.refl s)

end Others

/-! ## `_assignPhoSimMetaData` -/

section Assign

variable {getSpatialBounds : String → Float → Float → BoundLength → Except PyError β}
  {d : PhoSimMetaData}

/-- A block `if key in d:` that returns leaves its attribute holding `d[key][0]`, and keeps
what its write keeps. -/
theorem overwriteFromPhoSim_holds {α γ : Type} {entry : Option (List α)}
    {isSet : ObservationMetaData β → Bool} {msg : String}
    {write : α → ObservationMetaData β → ObservationMetaData β} (P : ObservationMetaData β → Prop)
    (attr : ObservationMetaData β → Option γ) (conv : α → γ)
    (hattr : ∀ x t, attr (write x t) = some (conv x)) (hP : ∀ x t, P t → P (write x t))
    {s : ObservationMetaData β} (hs : P s) :
    wp (overwriteFromPhoSim entry isSet msg write)
      (fun _ t => P t ∧ HoldsEntry false entry conv (attr t)) (fun _ _ => True) s := by
  rw [wp_overwriteFromPhoSim]
  split_ifs with he
  · rcases hx : item0 entry with _ | x
    · trivial
    · exact ⟨hP x s hs, hattr x s ▸ holdsEntry_write hx⟩
  · exact ⟨hs, holdsEntry_of_not_isSome he⟩

/-- The pointing block, reached when the dict has both pointing keys or neither, leaves both
pointing attributes holding the dict's values when it returns. -/
theorem copyPointing_holds (P : ObservationMetaData β → Prop)
    (hP : ∀ ra dec t, P t → P { t with _pointingRA := some ra, _pointingDec := some dec })
    (hpair : d.pointingRA.isSome = d.pointingDec.isSome) {s : ObservationMetaData β} (hs : P s) :
    wp (copyPointing d) (fun _ t => P t ∧ HoldsEntry false d.pointingRA id t._pointingRA ∧
      HoldsEntry false d.pointingDec id t._pointingDec) (fun _ _ => True) s := by
  rw [wp_copyPointing]
  split_ifs with hboth
  · rcases hra : item0 d.pointingRA with _ | ra
    · trivial
    · rcases hdec : item0 d.pointingDec with _ | dec
      · trivial
      · exact ⟨hP ra dec s hs, holdsEntry_write hra, holdsEntry_write hdec⟩
  · have hra : ¬ d.pointingRA.isSome := fun h => hboth (by rw [Bool.and_eq_true, ← hpair]; exact ⟨h, h⟩)
    exact ⟨hs, holdsEntry_of_not_isSome hra, holdsEntry_of_not_isSome (hpair ▸ hra)⟩

/-- **The body of `_assignPhoSimMetaData` copies the dict**: when it returns, every attribute
that a key of `d` governs holds the key's value. -/
theorem copyPhoSimMetaData_governs (d : PhoSimMetaData) (s : ObservationMetaData β) :
    wp (copyPhoSimMetaData (some d))
      (fun _ t => t._phoSimMetaData = s._phoSimMetaData ∧ Governs false d t) (fun _ _ => True) s := by
  refine wp_seq (overwriteFromPhoSim_holds (fun t => t._phoSimMetaData = s._phoSimMetaData)
    (·._mjd) ModifiedJulianDate.ofTAI (fun _ _ => by rfl) (fun _ _ h => by exact h) rfl) fun _ t₁ h₁ => ?_
  refine wp_seq (overwriteFromPhoSim_holds (fun t => t._phoSimMetaData = s._phoSimMetaData ∧
      HoldsEntry false d.Opsim_expmjd ModifiedJulianDate.ofTAI t._mjd)
    (·._rotSkyPos) id (fun _ _ => by rfl) (fun _ _ h => by exact h) h₁) fun _ t₂ h₂ => ?_
  refine wp_seq (overwriteFromPhoSim_holds (fun t => (t._phoSimMetaData = s._phoSimMetaData ∧
      HoldsEntry false d.Opsim_expmjd ModifiedJulianDate.ofTAI t._mjd) ∧
      HoldsEntry false d.Opsim_rotskypos id t._rotSkyPos)
    (·._bandpass) Bandpass.name (fun _ _ => by rfl) (fun _ _ h => by exact h) h₂)
    fun _ t₃ h₃ => ?_
  refine wp_raiseWhen_seq trivial fun _ => wp_raiseWhen_seq trivial fun hdec =>
    wp_raiseWhen_seq trivial fun hra => ?_
  have hpair : d.pointingRA.isSome = d.pointingDec.isSome := by
    revert hdec hra
    cases d.pointingRA.isSome <;> cases d.pointingDec.isSome <;> simp
  obtain ⟨⟨⟨hp, hmjd⟩, hrot⟩, hbp⟩ := h₃
  refine wp_mono (copyPointing_holds (fun t => t._phoSimMetaData = s._phoSimMetaData ∧
      HoldsEntry false d.Opsim_expmjd ModifiedJulianDate.ofTAI t._mjd ∧
      HoldsEntry false d.Opsim_rotskypos id t._rotSkyPos ∧
      HoldsEntry false d.Opsim_filter Bandpass.name t._bandpass)
    (fun _ _ _ h => h) hpair ⟨hp, hmjd, hrot, hbp⟩) ?_ fun _ _ _ => trivial
  rintro _ t ⟨⟨hp, hmjd, hrot, hbp⟩, hra, hdec⟩
  exact ⟨hp, hra, hdec, hrot, hmjd, hbp⟩

/-- While the setter runs `_assignPhoSimMetaData(d)`: the dict is `d`, and each attribute it
governs is unset or holds its value. -/
def Assigning (d : PhoSimMetaData) (t : ObservationMetaData β) : Prop :=
  t._phoSimMetaData = some d ∧ Governs true d t

/-- The body of `_assignPhoSimMetaData`, from a state whose governed attributes are unset
or agree, raises only in such a state. -/
theorem copyPhoSimMetaData_assigning {s : ObservationMetaData β} (hs : Assigning d s) :
    wp (copyPhoSimMetaData (some d)) (fun _ _ => True) (fun _ => Assigning d) s :=
  wp_copyPhoSimMetaData_of
    (fun _ _ hx _ ⟨hp, g⟩ => ⟨hp, { g with mjd := holdsEntry_write hx }⟩)
    (fun _ _ hx _ ⟨hp, g⟩ => ⟨hp, { g with rotSkyPos := holdsEntry_write hx }⟩)
    (fun _ _ hx _ ⟨hp, g⟩ => ⟨hp, { g with bandpass := holdsEntry_write hx }⟩)
    (fun t ht => wp_mono (keeps_copyPointing
      (fun _ _ hx ⟨hp, g⟩ => ⟨hp, { g with pointingRA := holdsEntry_write hx }⟩)
      (fun _ _ hx ⟨hp, g⟩ => ⟨hp, { g with pointingDec := holdsEntry_write hx }⟩) t ht)
      (fun _ _ _ => trivial) fun _ _ h => h) hs

theorem keeps_buildBounds_phoSimAgrees {u : Bool} :
    Keeps (PhoSimAgrees u) (_buildBounds getSpatialBounds (β := β)) :=
  keeps_buildBounds fun t _ h => h.of_keepsGoverned (KeepsGoverned.refl t)

/-- `_assignPhoSimMetaData(d)` that returns leaves the dict `d` governing its attributes. -/
theorem assignPhoSimMetaData_agrees (d : PhoSimMetaData) (s : ObservationMetaData β) :
    wp (_assignPhoSimMetaData getSpatialBounds (some d)) (fun _ => PhoSimAgrees false)
      (fun _ _ => True) s := by
  simp only [_assignPhoSimMetaData, wp_bind, wp_modify]
  refine wp_mono (copyPhoSimMetaData_governs d _) (fun _ t ⟨hp, g⟩ => ?_) fun _ _ _ => trivial
  exact wp_mono (keeps_buildBounds_phoSimAgrees t (phoSimAgrees_of_governs hp g))
    (fun _ _ h => h) fun _ _ _ => trivial

/-- **The `phoSimMetaData` setter**: when it returns, the new dict governs its attributes;
when it raises, each of them holds the dict's value or is still unset. -/
theorem setPhoSimMetaData_agrees (d : PhoSimMetaData) (s : ObservationMetaData β) :
    wp (setPhoSimMetaData getSpatialBounds (some d)) (fun _ => PhoSimAgrees false)
      (fun _ => PhoSimAgrees true) s := by
  simp only [setPhoSimMetaData, _assignPhoSimMetaData, wp_bind, wp_modify]
  have g := clearGoverned_governs d s
  have h0 : Assigning d { clearGoverned d s with _phoSimMetaData := some d } :=
    ⟨rfl, g.1, g.2, g.3, g.4, g.5⟩
  refine wp_mono (wp_and (copyPhoSimMetaData_governs d _) (copyPhoSimMetaData_assigning h0))
    (fun _ t ⟨⟨hp, g⟩, _⟩ => ?_) fun _ _ ⟨_, hp, g⟩ => phoSimAgrees_of_governs hp g
  exact wp_mono (keeps_buildBounds_phoSimAgrees t (phoSimAgrees_of_governs hp g)) (fun _ _ h => h)
    fun _ _ h => h.weaken

end Assign

/-! ## Runs -/

section Runs

variable (getSpatialBounds : String → Float → Float → BoundLength → Except PyError β)

/-- The call is not a `phoSimMetaData` assignment that raises. -/
def PhoSimReturns (s : ObservationMetaData β) : Mutator → Prop
  | .phoSimMetaData v => raised (setPhoSimMetaData getSpatialBounds v s) = false
  | _ => True

variable {getSpatialBounds}

theorem initPhoSimMetaData_agrees (md : Option PhoSimMetaData) (s : ObservationMetaData β) :
    wp (initPhoSimMetaData getSpatialBounds md) (fun _ => PhoSimAgrees false) (fun _ _ => True) s := by
  cases md with
  | none => exact fun _ hd => Option.noConfusion hd
  | some d => exact assignPhoSimMetaData_agrees d s

/-- **The constructor builds an object whose PhoSim dict governs its attributes.** -/
theorem init_phoSimAgrees (a : Args) :
    wp (init getSpatialBounds a) (fun _ => PhoSimAgrees false) (fun _ _ => True) blank := by
  simp only [init, wp_bind, wp_modify, wp_liftExcept]
  cases mjdArg a.mjd
  · trivial
  · refine wp_mono (initPhoSimMetaData_agrees _ _) (fun _ t ht => ?_) fun _ _ _ => trivial
    simp only [wp_bind, wp_get, wp_liftExcept, wp_modify, wp_ite, wp_pure]
    cases _assignDictKeyedToBandpass t._bandpass a.m5 "m5"
    · trivial
    · cases _assignDictKeyedToBandpass t._bandpass a.seeing "seeing"
      · trivial
      · split
        · exact wp_mono (keeps_buildBounds_phoSimAgrees _ (ht.of_keepsGoverned (.refl t)))
            (fun _ _ h => h) fun _ _ _ => trivial
        · exact ht.of_keepsGoverned (.refl t)

/-- **Step lemma**: a call keeps the attributes agreeing with the dict; only a
`phoSimMetaData` assignment that raises can leave some of them unset. -/
theorem mutator_phoSimAgrees {u : Bool} (m : Mutator) {s : ObservationMetaData β}
    (hm : u = true ∨ PhoSimReturns getSpatialBounds s m) (hs : PhoSimAgrees u s) :
    PhoSimAgrees u (after (Mutator.call getSpatialBounds m s)) := by
  by_cases hp : ∃ v, m = .phoSimMetaData v
  · obtain ⟨_ | d, rfl⟩ := hp
    · exact hs
    · have h : wp (setPhoSimMetaData getSpatialBounds (some d)) _ _ s := setPhoSimMetaData_agrees d s
      rcases hm with rfl | hr
      · exact (wp_iff_after _ _).1 (wp_mono h (fun _ _ g => g.weaken) fun _ _ g => g)
      · exact (wp_after_of_returned h hr).weaken
  · exact hs.of_keepsGoverned (mutator_keepsGoverned m (fun v h => hp ⟨v, h⟩) s)

/-- In every reachable object, each attribute governed by the PhoSim dict holds the dict's
value or is `None`. -/
theorem reachable_phoSimAgrees_or_unset {s : ObservationMetaData β}
    (h : Reachable getSpatialBounds s) : PhoSimAgrees true s :=
  ReachableBy.inv getSpatialBounds (fun _ _ hs => (new_of_wp getSpatialBounds init_phoSimAgrees hs).weaken)
    (fun _ m _ hs => mutator_phoSimAgrees m (.inl rfl) hs) h

/-- Along runs in which no `phoSimMetaData` assignment raised, the attributes governed by the
PhoSim dict hold its values. -/
theorem reachableBy_phoSimAgrees {s : ObservationMetaData β}
    (h : ReachableBy getSpatialBounds (PhoSimReturns getSpatialBounds) s) : PhoSimAgrees false s :=
  ReachableBy.inv getSpatialBounds (fun _ _ hs => new_of_wp getSpatialBounds init_phoSimAgrees hs)
    (fun _ m hm hs => mutator_phoSimAgrees m (.inr hm) hs) h

/-- **What the PhoSim dict governs**: in every reachable object each governed attribute holds
the dict's value or is `None`, and it holds the value when no `phoSimMetaData` assignment of
the run raised; and from any object, every call other than a `phoSimMetaData` assignment,
returning or raising, keeps the dict and each attribute one of its keys governs. -/
theorem reachable_phoSimAgrees (s : ObservationMetaData β) :
    (Reachable getSpatialBounds s → PhoSimAgrees true s) ∧
      (ReachableBy getSpatialBounds (PhoSimReturns getSpatialBounds) s → PhoSimAgrees false s) ∧
      ∀ m : Mutator, (∀ v, m ≠ .phoSimMetaData v) →
        KeepsGoverned s (after (Mutator.call getSpatialBounds m s)) :=
  ⟨reachable_phoSimAgrees_or_unset, reachableBy_phoSimAgrees, fun m hm => mutator_keepsGoverned m hm s⟩

/-- After `phoSimMetaData = {'pointingRA': [10.0]}` raised on a fresh object, the dict is
stored and `pointingRA` is unset. -/
theorem phoSimAgrees_or_unset_pointingRA_only :
    PhoSimAgrees true (β := Unit)
      { blank with _epoch := 2000.0, _phoSimMetaData := some { pointingRA := some [10] } } :=
  (@reachable_phoSimAgrees Unit (fun _ _ _ _ => .ok ()) _).1
    (.call (.phoSimMetaData (some { pointingRA := some [10] })) (.init { site := none } rfl) trivial)

/-- **Agreement fails after a raising assignment**: `phoSimMetaData = {'pointingRA': [10.0]}`
on a fresh object raises with the dict stored and `_pointingRA` still `None`. -/
theorem phoSimAgrees_fails_after_raise :
    ¬ ∀ s : ObservationMetaData Unit, Reachable (fun _ _ _ _ => .ok ()) s → PhoSimAgrees false s := by
  intro h
  have g := h _ (.call (.phoSimMetaData (some { pointingRA := some [10] }))
    (.init { site := none } rfl) trivial) _ rfl
  rcases g.pointingRA with ⟨hf, _⟩ | hra
  · exact Bool.false_ne_true hf
  · obtain ⟨_, _, hx⟩ := hra rfl
    exact Option.noConfusion hx

end Runs

end ObservationMetaData

end SimsUtils
