import SimsUtils.ObservationMetaData.Basic

/-!
# `ObservationMetaData`: constructor and mutators

The methods that change an `ObservationMetaData`, as `PyM` programs over its attributes:
`_buildBounds`, `_assignPhoSimMetaData`, the property setters, `setBandpassM5andSeeing` and
`__init__`.  `SpatialBounds.getSpatialBounds` is not under src/: it is the parameter
`getSpatialBounds`, a function of the bound type, the pointing and the length that returns
a bound or raises.

The objects a program can hold are `ReachableBy gsb ok`: built by the constructor, then
changed by any sequence of mutator calls allowed by `ok`, where a call that raises still
leaves its partial writes (the caller caught the exception).  `Reachable` allows every call.
-/

namespace SimsUtils

namespace ObservationMetaData

variable {β : Type}

/-- A method of `ObservationMetaData`. -/
abbrev Method (β α : Type) := PyM (ObservationMetaData β) α

/-- The value given for `mjd`: a float (TAI), an int, a `ModifiedJulianDate`, or any other
value (for the setter, `None` among them). -/
inductive MjdValue
  | float (x : Float)
  | int (n : Int)
  | mjd (m : ModifiedJulianDate)
  | other

/-- The inputs of `_buildBounds`, when none of them is `None`. -/
def boundsInputs (s : ObservationMetaData β) : Option (String × Float × Float × BoundLength) :=
  match s._boundType, s._boundLength, s._pointingRA, s._pointingDec with
  | some t, some l, some ra, some dec => some (t, ra, dec, l)
  | _, _, _, _ => none

/-- Whether the PhoSim metadata is set and `has` holds of it. -/
def phoSimHas (s : ObservationMetaData β) (has : PhoSimMetaData → Bool) : Bool :=
  match s._phoSimMetaData with
  | some d => has d
  | none => false

theorem boundsInputs_eq_some {s : ObservationMetaData β} {t : String} {ra dec : Float}
    {l : BoundLength} : boundsInputs s = some (t, ra, dec, l) ↔
      s._boundType = some t ∧ s._boundLength = some l ∧ s._pointingRA = some ra ∧
        s._pointingDec = some dec := by
  unfold boundsInputs
  split <;> simp_all only [Option.some.injEq, Prod.mk.injEq, reduceCtorEq, false_iff]
  · tauto
  · rename_i h
    exact fun ⟨h1, h2, h3, h4⟩ => h _ _ _ _ h1 h2 h3 h4

section Methods

variable (getSpatialBounds : String → Float → Float → BoundLength → Except PyError β)

/-- `_buildBounds`: nothing happens while an input is `None`. -/
def _buildBounds : Method β Unit := do
  match boundsInputs (← get) with
  | none => pure ()
  | some (boundType, ra, dec, boundLength) =>
    let b ← liftExcept (getSpatialBounds boundType ra dec boundLength)
    modify fun s => { s with _bounds := some b }

/-- `if cond: raise RuntimeError(msg)`, with the condition read from the object. -/
def raiseWhen (cond : ObservationMetaData β → Bool) (msg : String) : Method β Unit := do
  if cond (← get) then raise (.runtimeError msg) else pure ()

/-- The guard that opens a setter: raise if the PhoSim metadata is set and holds the key. -/
def phoSimGuard (has : PhoSimMetaData → Bool) (msg : String) : Method β Unit :=
  raiseWhen (phoSimHas · has) msg

/-- One `if key in self._phoSimMetaData:` block of `_assignPhoSimMetaData`: refuse to
overwrite an attribute already set (`isSet`), else write `d[key][0]` into it. -/
def overwriteFromPhoSim {α : Type} (entry : Option (List α)) (isSet : ObservationMetaData β → Bool)
    (msg : String) (write : α → ObservationMetaData β → ObservationMetaData β) : Method β Unit :=
  if entry.isSome then do
    raiseWhen isSet msg
    let x ← liftExcept (item0 entry)
    modify (write x)
  else pure ()

/-- The `if 'pointingRA' in ... and 'pointingDec' in ...:` block of `_assignPhoSimMetaData`. -/
def copyPointing (d : PhoSimMetaData) : Method β Unit :=
  if d.pointingRA.isSome && d.pointingDec.isSome then do
    raiseWhen (·._pointingRA.isSome)
      ("WARNING in ObservationMetaData trying to overwrite pointingRA " ++ "with phoSimMetaData")
    raiseWhen (·._pointingDec.isSome)
      ("WARNING in ObservationMetaData trying to overwrite pointingDec " ++ "with phoSimMetaData")
    let ra ← liftExcept (item0 d.pointingRA)
    modify fun s => { s with _pointingRA := some ra }
    let dec ← liftExcept (item0 d.pointingDec)
    modify fun s => { s with _pointingDec := some dec }
  else pure ()

/-- The body of `if self._phoSimMetaData is not None:` in `_assignPhoSimMetaData`.  In the
constructor `_seeing` is not yet an attribute (`hasattr` is false); the object it runs on
there has `_seeing = None`. -/
def copyPhoSimMetaData : Option PhoSimMetaData → Method β Unit
  | none => pure ()
  | some d => do
    overwriteFromPhoSim d.Opsim_expmjd (·._mjd.isSome)
      "WARNING in ObservationMetaData trying to overwrite mjd with phoSimMetaData"
      fun x s => { s with _mjd := some (ModifiedJulianDate.ofTAI x) }
    overwriteFromPhoSim d.Opsim_rotskypos (·._rotSkyPos.isSome)
      ("WARNING in ObservationMetaData trying to overwrite rotSkyPos " ++ "with phoSimMetaData")
      fun x s => { s with _rotSkyPos := some x }
    overwriteFromPhoSim d.Opsim_filter (·._bandpass.isSome)
      ("WARNING in ObservationMetaData trying to overwrite bandpass " ++ "with phoSimMetaData")
      fun x s => { s with _bandpass := some (.name x) }
    raiseWhen (fun s => d.Opsim_rawseeing.isSome && s._seeing.isSome)
      ("WARNING in ObservationMetaDAta trying to overwrite seeing " ++ "with phoSimMetaData")
    raiseWhen (fun _ => d.pointingDec.isSome && !d.pointingRA.isSome)
      ("In ObservationMetaData, your phoSimMetaData specifies pointingDec, " ++ "but not pointingRA")
    raiseWhen (fun _ => d.pointingRA.isSome && !d.pointingDec.isSome)
      ("In ObservationMetaData, your phoSimMetaData specifies pointingRA, " ++ "but not pointingDec")
    copyPointing d

/-- `_assignPhoSimMetaData(metaData)`. -/
def _assignPhoSimMetaData (metaData : Option PhoSimMetaData) : Method β Unit := do
  modify fun s => { s with _phoSimMetaData := metaData }
  copyPhoSimMetaData metaData
  _buildBounds getSpatialBounds

/-- The body shared by the setters of the four inputs of `_buildBounds`: write, rebuild. -/
def setBoundsInput (write : ObservationMetaData β → ObservationMetaData β) : Method β Unit := do
  modify write
  _buildBounds getSpatialBounds

/-- `pointingRA.setter` (degrees in, radians stored). -/
def setPointingRA (value : Float) : Method β Unit := do
  phoSimGuard (·.pointingRA.isSome) ("WARNING overwriting pointingRA " ++ "which was set by phoSimMetaData")
  setBoundsInput getSpatialBounds fun s => { s with _pointingRA := some (radians value) }

/-- `pointingDec.setter` (degrees in, radians stored). -/
def setPointingDec (value : Float) : Method β Unit := do
  phoSimGuard (·.pointingDec.isSome) ("WARNING overwriting pointingDec " ++ "which was set by phoSimMetaData")
  setBoundsInput getSpatialBounds fun s => { s with _pointingDec := some (radians value) }

/-- `boundLength.setter` (degrees in, radians stored). -/
def setBoundLength (value : BoundLength) : Method β Unit :=
  setBoundsInput getSpatialBounds fun s => { s with _boundLength := some value.radians }

/-- `boundType.setter`. -/
def setBoundType (value : Option String) : Method β Unit :=
  setBoundsInput getSpatialBounds fun s => { s with _boundType := value }

/-- What `phoSimMetaData.setter` clears before assigning the dict `d`: the attributes its
keys govern (one `if key in value:` each; the writes touch distinct attributes). -/
def clearGoverned (d : PhoSimMetaData) (s : ObservationMetaData β) : ObservationMetaData β :=
  { s with
    _pointingRA := if d.pointingRA.isSome then none else s._pointingRA
    _pointingDec := if d.pointingDec.isSome then none else s._pointingDec
    _rotSkyPos := if d.Opsim_rotskypos.isSome then none else s._rotSkyPos
    _mjd := if d.Opsim_expmjd.isSome then none else s._mjd
    _bandpass := if d.Opsim_filter.isSome then none else s._bandpass
    _m5 := if d.Opsim_filter.isSome then none else s._m5
    _seeing := if d.Opsim_filter.isSome then none else s._seeing }

/-- `phoSimMetaData.setter`.  `'pointingRA' in value` raises `TypeError` when `value` is
`None`. -/
def setPhoSimMetaData (value : Option PhoSimMetaData) : Method β Unit :=
  match value with
  | none => raise .typeError
  | some d => do
    modify (clearGoverned d)
    _assignPhoSimMetaData getSpatialBounds (some d)

end Methods

/-- `rotSkyPos.setter` (degrees in, radians stored). -/
def setRotSkyPos (value : Float) : Method β Unit := do
  phoSimGuard (·.Opsim_rotskypos.isSome) ("WARNING overwriting rotSkyPos " ++ "which was set by phoSimMetaData")
  modify fun s => { s with _rotSkyPos := some (radians value) }

/-- `m5.setter`. -/
def setM5 (value : Option BandpassValue) : Method β Unit := do
  let m5 ← liftExcept (_assignDictKeyedToBandpass (← get)._bandpass value "m5")
  modify fun s => { s with _m5 := m5 }

/-- `seeing.setter`. -/
def setSeeing (value : Option BandpassValue) : Method β Unit := do
  phoSimGuard (·.Opsim_rawseeing.isSome) ("In ObservationMetaData trying to overwrite seeing " ++ "which was set by phoSimMetaData")
  let seeing ← liftExcept (_assignDictKeyedToBandpass (← get)._bandpass value "seeing")
  modify fun s => { s with _seeing := seeing }

/-- `site.setter`. -/
def setSite (value : Option Site) : Method β Unit :=
  modify fun s => { s with _site := value }

/-- `mjd.setter`: a float is read as TAI; an int is refused, unlike in the constructor. -/
def setMjd (value : MjdValue) : Method β Unit := do
  phoSimGuard (·.Opsim_expmjd.isSome) ("WARNING overwriting mjd " ++ "which was set by phoSimMetaData")
  match value with
  | .float x => modify fun s => { s with _mjd := some (ModifiedJulianDate.ofTAI x) }
  | .mjd m => modify fun s => { s with _mjd := some m }
  | _ => raise (.runtimeError "You can only set mjd to either a float or a ModifiedJulianDate")

/-- `skyBrightness.setter`. -/
def setSkyBrightness (value : Option Float) : Method β Unit :=
  modify fun s => { s with _skyBrightness := value }

/-- `setBandpassM5andSeeing(bandpassName, m5, seeing)`. -/
def setBandpassM5andSeeing (bandpassName : Option Bandpass) (m5 seeing : Option BandpassValue) :
    Method β Unit := do
  phoSimGuard (·.Opsim_filter.isSome) ("WARNING overwriting bandpass " ++ "which was set by phoSimMetaData")
  phoSimGuard (·.Opsim_rawseeing.isSome) ("WARNING overwriting seeing " ++ "which was set by phoSimMetaData")
  modify fun s => { s with _bandpass := bandpassName }
  let m5 ← liftExcept (_assignDictKeyedToBandpass (← get)._bandpass m5 "m5")
  modify fun s => { s with _m5 := m5 }
  let seeing ← liftExcept (_assignDictKeyedToBandpass (← get)._bandpass seeing "seeing")
  modify fun s => { s with _seeing := seeing }

/-! ## Spec lemmas -/

section Spec

variable {getSpatialBounds : String → Float → Float → BoundLength → Except PyError β}
  {Q : Unit → ObservationMetaData β → Prop} {E : PyError → ObservationMetaData β → Prop}
  {s : ObservationMetaData β}

@[simp] theorem wp_buildBounds :
    wp (_buildBounds getSpatialBounds) Q E s = match boundsInputs s with
      | none => Q () s
      | some (t, ra, dec, l) =>
        onResult (getSpatialBounds t ra dec l) (fun b => Q () { s with _bounds := some b }) (E · s) := by
  simp only [_buildBounds, wp_bind, wp_get]
  rcases boundsInputs s with _ | ⟨t, ra, dec, l⟩
  · rfl
  · simp only [wp_bind, wp_liftExcept, wp_modify]

@[simp] theorem wp_raiseWhen (cond : ObservationMetaData β → Bool) (msg : String) :
    wp (raiseWhen cond msg) Q E s = if cond s then E (.runtimeError msg) s else Q () s := by
  simp only [raiseWhen, wp_bind, wp_get, wp_ite, wp_raise, wp_pure]

/-- A check that passed: the rest of the method may assume its condition is false. -/
theorem wp_raiseWhen_seq {cond : ObservationMetaData β → Bool} {msg : String} {α : Type}
    {f : Unit → Method β α} {Q : α → ObservationMetaData β → Prop}
    (hE : E (.runtimeError msg) s) (hf : ¬ cond s → wp (f ()) Q E s) :
    wp (raiseWhen cond msg >>= f) Q E s := by
  rw [wp_bind, wp_raiseWhen]
  split_ifs with h
  · exact hE
  · exact hf h

@[simp] theorem wp_phoSimGuard (has : PhoSimMetaData → Bool) (msg : String) :
    wp (phoSimGuard has msg) Q E s = if phoSimHas s has then E (.runtimeError msg) s else Q () s :=
  wp_raiseWhen _ msg

@[simp] theorem wp_overwriteFromPhoSim {α : Type} (entry : Option (List α))
    (isSet : ObservationMetaData β → Bool) (msg : String)
    (write : α → ObservationMetaData β → ObservationMetaData β) :
    wp (overwriteFromPhoSim entry isSet msg write) Q E s =
      if entry.isSome then
        if isSet s then E (.runtimeError msg) s
        else onResult (item0 entry) (fun x => Q () (write x s)) (E · s)
      else Q () s := by
  simp only [overwriteFromPhoSim, wp_ite, wp_bind, wp_raiseWhen, wp_pure, wp_liftExcept, wp_modify]

theorem wp_copyPointing (d : PhoSimMetaData) :
    wp (copyPointing d) Q E s =
      if d.pointingRA.isSome && d.pointingDec.isSome then
        if s._pointingRA.isSome then
          E (.runtimeError ("WARNING in ObservationMetaData trying to overwrite pointingRA " ++
            "with phoSimMetaData")) s
        else if s._pointingDec.isSome then
          E (.runtimeError ("WARNING in ObservationMetaData trying to overwrite pointingDec " ++
            "with phoSimMetaData")) s
        else onResult (item0 d.pointingRA)
          (fun ra => onResult (item0 d.pointingDec)
            (fun dec => Q () { s with _pointingRA := some ra, _pointingDec := some dec })
            (E · { s with _pointingRA := some ra }))
          (E · s)
      else Q () s := by
  simp only [copyPointing, wp_ite, wp_bind, wp_raiseWhen, wp_pure, wp_liftExcept, wp_modify]

@[simp] theorem wp_setBoundsInput (write : ObservationMetaData β → ObservationMetaData β) :
    wp (setBoundsInput getSpatialBounds write) Q E s =
      wp (_buildBounds getSpatialBounds) Q E (write s) := by
  simp only [setBoundsInput, wp_bind, wp_modify]

/-! Invariants kept by the building blocks, given what their writes keep. -/

section Keeps

variable {I : ObservationMetaData β → Prop}

theorem keeps_raiseWhen (cond : ObservationMetaData β → Bool) (msg : String) :
    Keeps I (raiseWhen cond msg) := by
  intro s hs
  rw [wp_raiseWhen]
  split <;> exact hs

theorem keeps_phoSimGuard (has : PhoSimMetaData → Bool) (msg : String) :
    Keeps I (phoSimGuard has msg) :=
  keeps_raiseWhen _ msg

theorem keeps_overwriteFromPhoSim {α : Type} {entry : Option (List α)}
    {isSet : ObservationMetaData β → Bool} {msg : String}
    {write : α → ObservationMetaData β → ObservationMetaData β}
    (h : ∀ x s, item0 entry = .ok x → ¬ isSet s → I s → I (write x s)) :
    Keeps I (overwriteFromPhoSim entry isSet msg write) := by
  intro s hs
  rw [wp_overwriteFromPhoSim]
  split_ifs with _ hset
  · exact hs
  · rcases hx : item0 entry with _ | x
    · exact hs
    · exact h x s hx hset hs
  · exact hs

theorem keeps_buildBounds (h : ∀ s b, I s → I { s with _bounds := some b }) :
    Keeps I (_buildBounds getSpatialBounds) := by
  intro s hs
  rw [wp_buildBounds]
  split
  · exact hs
  · cases getSpatialBounds _ _ _ _
    · exact hs
    · exact h _ _ hs

theorem keeps_copyPointing {d : PhoSimMetaData}
    (hra : ∀ x s, item0 d.pointingRA = .ok x → I s → I { s with _pointingRA := some x })
    (hdec : ∀ x s, item0 d.pointingDec = .ok x → I s → I { s with _pointingDec := some x }) :
    Keeps I (copyPointing d) := by
  intro s hs
  rw [wp_copyPointing]
  split_ifs
  · exact hs
  · exact hs
  · rcases hra' : item0 d.pointingRA with _ | ra
    · exact hs
    · rcases hdec' : item0 d.pointingDec with _ | dec
      · exact hra ra s hra' hs
      · exact hdec dec _ hdec' (hra ra s hra' hs)
  · exact hs

/-- `_buildBounds` raises only where `getSpatialBounds` does, before writing anything. -/
theorem buildBounds_raise_unchanged {getSpatialBounds : String → Float → Float → BoundLength → Except PyError β}
    (s : ObservationMetaData β) :
    wp (_buildBounds getSpatialBounds) (fun _ _ => True) (fun _ t => t = s) s := by
  rw [wp_buildBounds]
  split
  · trivial
  · cases getSpatialBounds _ _ _ _ <;> trivial

/-- The body of `_assignPhoSimMetaData` keeps `I` up to its last block when the three
copies from the dict do; what the last block (`copyPointing`) guarantees then holds. -/
theorem wp_copyPhoSimMetaData_of {d : PhoSimMetaData} {s : ObservationMetaData β}
    {Q : Unit → ObservationMetaData β → Prop}
    (hmjd : ∀ x s, item0 d.Opsim_expmjd = .ok x → ¬ s._mjd.isSome → I s →
      I { s with _mjd := some (ModifiedJulianDate.ofTAI x) })
    (hrot : ∀ x s, item0 d.Opsim_rotskypos = .ok x → ¬ s._rotSkyPos.isSome → I s →
      I { s with _rotSkyPos := some x })
    (hband : ∀ x s, item0 d.Opsim_filter = .ok x → ¬ s._bandpass.isSome → I s →
      I { s with _bandpass := some (.name x) })
    (hlast : ∀ t, I t → wp (copyPointing d) Q (fun _ => I) t) (hs : I s) :
    wp (copyPhoSimMetaData (some d)) Q (fun _ => I) s := by
  refine (keeps_overwriteFromPhoSim hmjd).wp_bind (fun _ _ h1 => ?_) hs
  refine (keeps_overwriteFromPhoSim hrot).wp_bind (fun _ _ h2 => ?_) h1
  refine (keeps_overwriteFromPhoSim hband).wp_bind (fun _ _ h3 => ?_) h2
  refine (keeps_raiseWhen _ _).wp_bind (fun _ _ h4 => ?_) h3
  refine (keeps_raiseWhen _ _).wp_bind (fun _ _ h5 => ?_) h4
  exact (keeps_raiseWhen _ _).wp_bind (fun _ t h6 => hlast t h6) h5

end Keeps

end Spec

/-! ## The constructor -/

/-- The arguments of `ObservationMetaData(...)` with the source's defaults; `mjd = none` is
`None`.  The default `site`, `Site(name='LSST')`, is not under src/, so it has none here. -/
structure Args where
  boundType : Option String := none
  boundLength : Option BoundLength := none
  mjd : Option MjdValue := none
  pointingRA : Option Float := none
  pointingDec : Option Float := none
  rotSkyPos : Option Float := none
  bandpassName : Option Bandpass := none
  phoSimMetaData : Option PhoSimMetaData := none
  site : Option Site
  m5 : Option BandpassValue := none
  skyBrightness : Option Float := none
  seeing : Option BandpassValue := none
  epoch : Float := 2000.0

/-- The object before `__init__` has set anything: every attribute `None`. -/
def blank : ObservationMetaData β :=
  ⟨none, none, none, none, none, 0, none, none, none, none, none, none, none, none⟩

section Constructor

variable (getSpatialBounds : String → Float → Float → BoundLength → Except PyError β)

/-- The `mjd` argument of `__init__`: a float or an int is read as TAI. -/
def mjdArg : Option MjdValue → Except PyError (Option ModifiedJulianDate)
  | none => .ok none
  | some (.float x) => .ok (some (ModifiedJulianDate.ofTAI x))
  | some (.int n) => .ok (some (ModifiedJulianDate.ofTAI (Float.ofInt n)))
  | some (.mjd m) => .ok (some m)
  | some .other => .error (.runtimeError ("You must pass either a float or a ModifiedJulianDate " ++
      "as the kwarg mjd to ObservationMetaData"))

/-- The `phoSimMetaData` argument of `__init__`. -/
def initPhoSimMetaData (phoSimMetaData : Option PhoSimMetaData) : Method β Unit :=
  match phoSimMetaData with
  | some d => _assignPhoSimMetaData getSpatialBounds (some d)
  | none => modify fun s => { s with _phoSimMetaData := none }

/-- The body of `__init__`. -/
def init (a : Args) : Method β Unit := do
  modify fun s => { s with
    _bounds := none, _boundType := a.boundType, _bandpass := a.bandpassName
    _skyBrightness := a.skyBrightness, _site := a.site, _epoch := a.epoch }
  let mjd ← liftExcept (mjdArg a.mjd)
  modify fun s => { s with
    _mjd := mjd, _rotSkyPos := a.rotSkyPos.map radians
    _pointingRA := a.pointingRA.map radians, _pointingDec := a.pointingDec.map radians
    _boundLength := a.boundLength.map BoundLength.radians }
  initPhoSimMetaData getSpatialBounds a.phoSimMetaData
  let m5 ← liftExcept (_assignDictKeyedToBandpass (← get)._bandpass a.m5 "m5")
  modify fun s => { s with _m5 := m5 }
  let seeing ← liftExcept (_assignDictKeyedToBandpass (← get)._bandpass a.seeing "seeing")
  modify fun s => { s with _seeing := seeing }
  if (← get)._bounds.isNone then _buildBounds getSpatialBounds else pure ()

/-- `ObservationMetaData(...)`: the object, or the exception `__init__` raised (then there is
no object). -/
def new (a : Args) : Except PyError (ObservationMetaData β) :=
  match init getSpatialBounds a blank with
  | .ok _ s => .ok s
  | .error e _ => .error e

end Constructor

/-! ## Runs -/

/-- A call of a mutator: a property setter or `setBandpassM5andSeeing`. -/
inductive Mutator
  | pointingRA (value : Float)
  | pointingDec (value : Float)
  | boundLength (value : BoundLength)
  | boundType (value : Option String)
  | rotSkyPos (value : Float)
  | m5 (value : Option BandpassValue)
  | seeing (value : Option BandpassValue)
  | site (value : Option Site)
  | mjd (value : MjdValue)
  | skyBrightness (value : Option Float)
  | phoSimMetaData (value : Option PhoSimMetaData)
  | setBandpassM5andSeeing (bandpassName : Option Bandpass) (m5 seeing : Option BandpassValue)

section Runs

variable (getSpatialBounds : String → Float → Float → BoundLength → Except PyError β)

/-- The method a mutator call runs. -/
def Mutator.call : Mutator → Method β Unit
  | .pointingRA v => setPointingRA getSpatialBounds v
  | .pointingDec v => setPointingDec getSpatialBounds v
  | .boundLength v => setBoundLength getSpatialBounds v
  | .boundType v => setBoundType getSpatialBounds v
  | .rotSkyPos v => setRotSkyPos v
  | .m5 v => setM5 v
  | .seeing v => setSeeing v
  | .site v => setSite v
  | .mjd v => setMjd v
  | .skyBrightness v => setSkyBrightness v
  | .phoSimMetaData v => setPhoSimMetaData getSpatialBounds v
  | .setBandpassM5andSeeing b m s => ObservationMetaData.setBandpassM5andSeeing b m s

/-- The objects reachable from the constructor by the calls `ok` allows; a call that raises
leaves its partial writes behind. -/
inductive ReachableBy (ok : ObservationMetaData β → Mutator → Prop) : ObservationMetaData β → Prop
  | init {s : ObservationMetaData β} (a : Args) (h : new getSpatialBounds a = .ok s) :
      ReachableBy ok s
  | call {s : ObservationMetaData β} (m : Mutator) (hs : ReachableBy ok s) (hm : ok s m) :
      ReachableBy ok (after (Mutator.call getSpatialBounds m s))

/-- The objects reachable by any sequence of mutator calls. -/
def Reachable (s : ObservationMetaData β) : Prop := ReachableBy getSpatialBounds (fun _ _ => True) s

/-- **Run lemma**: what every constructed object satisfies and every allowed call keeps holds
of every reachable object. -/
theorem ReachableBy.inv {ok : ObservationMetaData β → Mutator → Prop}
    {I : ObservationMetaData β → Prop}
    (hnew : ∀ a s, new getSpatialBounds a = .ok s → I s)
    (hcall : ∀ s m, ok s m → I s → I (after (Mutator.call getSpatialBounds m s)))
    {s : ObservationMetaData β} (h : ReachableBy getSpatialBounds ok s) : I s := by
  induction h with
  | init a h => exact hnew a _ h
  | call m _ hm ih => exact hcall _ m hm ih

/-- A condition established by every run of `__init__` that returns holds of every object the
constructor builds. -/
theorem new_of_wp {I : ObservationMetaData β → Prop}
    (h : ∀ a, wp (init getSpatialBounds a) (fun _ => I) (fun _ _ => True) blank)
    {a : Args} {s : ObservationMetaData β} (hs : new getSpatialBounds a = .ok s) : I s := by
  have ha := h a
  unfold new at hs
  unfold wp at ha
  split at hs <;> rename_i heq <;> simp only [heq, Except.ok.injEq, reduceCtorEq] at hs ha
  exact hs ▸ ha

end Runs

end ObservationMetaData

end SimsUtils
