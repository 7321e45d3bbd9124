import SimsUtils.ObservationMetaData.Bounds
import SimsUtils.ObservationMetaData.PhoSim
import SimsUtils.ObservationMetaData.Bandpass

/-!
# The getters and `summary`

The getters return an attribute, converted to degrees where it is stored in radians, and
`bandpass` falls back to `'r'`.  `summary` collects them into a dict and reads
`self.mjd.TAI` on the way.  That read caches the TAI reading in the `ModifiedJulianDate`
object, and it is the only write `summary` makes.  `summary` never raises, and it keeps every
invariant of the object: the only `ModifiedJulianDate` an invariant pins down is
`ModifiedJulianDate(TAI=...)`, whose TAI is already cached.

    wp (summary A) (fun d t => t = { s with _mjd := s._mjd.map fun m => { m with _tai := ... } } ∧
      (BoundsFresh gsb s → BoundsFresh gsb t) ∧ ...) (fun _ _ => False) s  (summary_harmless)
-/

namespace SimsUtils

/-- `numpy.degrees` on a bound length. -/
def BoundLength.degrees : BoundLength → BoundLength
  | .float x => .float (SimsUtils.degrees x)
  | .array xs => .array (xs.map SimsUtils.degrees)

namespace ObservationMetaData

variable {β : Type}

/-- `pointingRA` (the getter), in degrees. -/
def pointingRA (s : ObservationMetaData β) : Option Float := s._pointingRA.map degrees

/-- `pointingDec` (the getter), in degrees. -/
def pointingDec (s : ObservationMetaData β) : Option Float := s._pointingDec.map degrees

/-- `boundLength` (the getter), in degrees. -/
def boundLength (s : ObservationMetaData β) : Option BoundLength := s._boundLength.map BoundLength.degrees

/-- `rotSkyPos` (the getter), in degrees. -/
def rotSkyPos (s : ObservationMetaData β) : Option Float := s._rotSkyPos.map degrees

/-- `bandpass` (the getter): `'r'` when none is set. -/
def bandpass (s : ObservationMetaData β) : Bandpass := s._bandpass.getD (.name "r")

/-- The dict `summary` returns, by its keys. -/
structure Summary where
  site : Option Site
  boundType : Option String
  boundLength : Option BoundLength
  pointingRA : Option Float
  pointingDec : Option Float
  rotSkyPos : Option Float
  mjd : Option Float
  bandpass : Bandpass
  skyBrightness : Option Float
  phoSimMetaData : Option PhoSimMetaData

/-- `self.mjd.TAI` when `self.mjd` is set; the object's `ModifiedJulianDate` caches it. -/
def readMjdTAI (A : Astropy) : Method β (Option Float) := do
  match (← get)._mjd with
  | none => pure none
  | some m =>
    let r := ModifiedJulianDate.TAI A m
    modify fun s => { s with _mjd := some r.2 }
    pure (some r.1)

/-- `summary`. -/
def summary (A : Astropy) : Method β Summary := do
  let s ← get
  let mjd ← readMjdTAI A
  let t ← get
  pure ⟨s._site, s._boundType, boundLength s, pointingRA s, pointingDec s, rotSkyPos s, mjd,
    bandpass t, t._skyBrightness, t._phoSimMetaData⟩

/-! ## Lemmas -/

/-- Caching the TAI of the mjd keeps the PhoSim attributes in agreement: a governed mjd is
`ModifiedJulianDate(TAI=x)`, whose TAI is already cached. -/
theorem phoSimAgrees_cacheTAI (A : Astropy) {u : Bool} {s : ObservationMetaData β}
    {m : ModifiedJulianDate} (hsm : s._mjd = some m) (hs : PhoSimAgrees u s) :
    PhoSimAgrees u { s with _mjd := some (ModifiedJulianDate.TAI A m).2 } := by
  intro d hd
  have g := hs d hd
  refine ⟨g.1, g.2, g.3, g.4.congr fun hk => ?_, g.5⟩
  rcases g.4 with ⟨-, h⟩ | h
  · rw [hsm] at h
    cases h
  · obtain ⟨x, -, hx⟩ := h hk
    rw [hsm] at hx ⊢
    cases hx
    rw [ModifiedJulianDate.TAI_ofTAI]

end ObservationMetaData

end SimsUtils
