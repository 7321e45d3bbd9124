import SimsUtils.Numpy

/-!
# palpy, as the astrometry pipeline sees it

palpy is not under src/: it is the interface `Palpy`, with the star-independent parameter
routines (`mappa`, `aoppa`, `epj`, `prenut`, `refco`), the one-star routines (`pm`, `mapqk`,
`ampqk`, `aopqk`, `oapqk`, `de2h`, `refz`) and the vectorised primitives that take per-star
arrays.  A vectorised primitive first checks the arrays it is handed and may refuse them
(`refuse`: palpy 1.8.4 raises `ValueError` on arrays of different lengths); otherwise it
returns one row per output.

A run of the pipeline is a `Pipeline` program whose state is the log of the vectorised calls
it made, each with its per-star arguments; what the pipeline hands to palpy is read off that
log, whether palpy then returns or raises.

Two contracts describe the palpy the theorems assume, each where it needs one:

* `StarByStar`: given numpy arrays of one length `n`, a vectorised primitive accepts them and
  returns, for each star, what its one-star routine returns on that star's values;
* `Refuses`: a vectorised primitive refuses per-star arguments that are not arrays of one
  length.
-/

namespace SimsUtils

/-- A call of a vectorised primitive: its name and its per-star arguments. -/
structure VectorCall where
  name : String
  perStar : List NumArg

/-- The per-star arguments of the call are arrays of one common length. -/
def VectorCall.CommonLength (c : VectorCall) : Prop :=
  ∃ n, ∀ a ∈ c.perStar, a.len = .ok n

/-- What a vectorised primitive of palpy raises when it refuses the arrays it is handed. -/
inductive PalpyError
  | valueError
  | typeError

/-- The Python exception of a refusal. -/
def PalpyError.toPyError : PalpyError → PyError
  | .valueError => .valueError
  | .typeError => .typeError

/-- palpy's routines as the pipeline calls them; `Prms` and `ObsPrms` are the parameter
arrays of `mappa` and `aoppa`.  A vectorised primitive returns one array per output row. -/
structure Palpy (Prms ObsPrms : Type) where
  /-- `mappa(eq, date)`: star-independent mean-to-apparent parameters. -/
  mappa : Float → Float → Prms
  /-- `aoppa(date, dut, elongm, phim, hm, xp, yp, tdk, pmb, rh, wl, tlr)`. -/
  aoppa : Float → Float → Float → Float → Float → Float → Float → Float → Float → Float →
    Float → Float → ObsPrms
  /-- `epj(date)`: the Julian epoch of a date. -/
  epj : Float → Float
  /-- `prenut(epoch, date)`: the precession-nutation matrix. -/
  prenut : Float → Float → Mat3
  /-- `refco(hm, tdk, pmb, rh, wl, phi, tlr, eps)`: the coefficients of `tan z` and
  `tan³ z` in the refraction. -/
  refco : Float → Float → Float → Float → Float → Float → Float → Float → Float × Float
  /-- `pm(r0, d0, pr, pd, px, rv, ep0, ep1)` on one star: (RA, Dec) at the new epoch. -/
  pm : Float → Float → Float → Float → Float → Float → Float → Float → Float × Float
  /-- `mapqk(rm, dm, pr, pd, px, rv, amprms)` on one star: apparent (RA, Dec). -/
  mapqk : Float → Float → Float → Float → Float → Float → Prms → Float × Float
  /-- `ampqk(ra, da, amprms)` on one star: mean (RA, Dec). -/
  ampqk : Float → Float → Prms → Float × Float
  /-- `aopqk(rap, dap, aoprms)` on one star: (azimuth, zenith distance, hour angle, Dec, RA). -/
  aopqk : Float → Float → ObsPrms → Float × Float × Float × Float × Float
  /-- `oapqk(type, ob1, ob2, aoprms)` on one star: apparent (RA, Dec). -/
  oapqk : String → Float → Float → ObsPrms → Float × Float
  /-- `de2h(ha, dec, phi)` on one star: (azimuth, altitude). -/
  de2h : Float → Float → Float → Float × Float
  /-- `refz(zu, refa, refb)`: one refracted zenith distance. -/
  refz : Float → Float → Float → Float
  /-- The exception the vectorised primitive `name` raises on the per-star arguments it is
  handed, before it computes anything; `none` when it accepts them. -/
  refuse : String → List NumArg → Option PalpyError
  /-- `mapqkVector(rm, dm, pr, pd, px, rv, amprms)`: apparent (RA, Dec). -/
  mapqkVector : NumArg → NumArg → NumArg → NumArg → NumArg → NumArg → Prms →
    List Float × List Float
  /-- `ampqkVector(ra, da, amprms)`: mean (RA, Dec). -/
  ampqkVector : NumArg → NumArg → Prms → List Float × List Float
  /-- `aopqkVector(rap, dap, aoprms)`: (azimuth, zenith distance, hour angle, Dec, RA). -/
  aopqkVector : NumArg → NumArg → ObsPrms →
    List Float × List Float × List Float × List Float × List Float
  /-- `oapqkVector(type, ob1, ob2, aoprms)`: apparent (RA, Dec). -/
  oapqkVector : String → NumArg → NumArg → ObsPrms → List Float × List Float
  /-- `de2hVector(ha, dec, phi)`: (azimuth, altitude). -/
  de2hVector : NumArg → NumArg → Float → List Float × List Float
  /-- `pmVector(r0, d0, pr, pd, px, rv, ep0, ep1)`: (RA, Dec) at the new epoch. -/
  pmVector : NumArg → NumArg → NumArg → NumArg → NumArg → NumArg → Float → Float →
    List Float × List Float
  /-- `refzVector(zu, refa, refb)`: refracted zenith distances. -/
  refzVector : NumArg → Float → Float → List Float

variable {Prms ObsPrms : Type}

/-- The vectorised primitives whose output the pipeline passes on return one value per star:
given per-star arrays of one length, each output row has that length. -/
structure Palpy.PerStar (P : Palpy Prms ObsPrms) : Prop where
  aopqkVector : ∀ ra dec p n, ra.len = .ok n → dec.len = .ok n →
    (P.aopqkVector ra dec p).2.2.1.length = n ∧ (P.aopqkVector ra dec p).2.2.2.1.length = n
  oapqkVector : ∀ t ra dec p n, ra.len = .ok n → dec.len = .ok n →
    (P.oapqkVector t ra dec p).1.length = n ∧ (P.oapqkVector t ra dec p).2.length = n

/-- The two rows of the per-star outputs `f i` of the stars `i < n`. -/
def stars (n : Nat) (f : Nat → Float × Float) : List Float × List Float :=
  (column n fun i => (f i).1, column n fun i => (f i).2)

/-- The five rows of the per-star outputs `f i` of the stars `i < n`. -/
def stars5 (n : Nat) (f : Nat → Float × Float × Float × Float × Float) :
    List Float × List Float × List Float × List Float × List Float :=
  (column n fun i => (f i).1, column n fun i => (f i).2.1, column n fun i => (f i).2.2.1,
    column n fun i => (f i).2.2.2.1, column n fun i => (f i).2.2.2.2)

/-- **palpy computes star by star**: given numpy arrays of one length `n`, a vectorised
primitive accepts them, and output row `k` holds, for each star `i < n`, component `k` of what
the one-star routine returns on the values of star `i`. -/
structure Palpy.StarByStar (P : Palpy Prms ObsPrms) : Prop where
  accepts : ∀ name n args, (∀ a ∈ args, ∃ xs, a = NumArg.ndarray xs ∧ xs.length = n) →
    P.refuse name args = none
  mapqkVector : ∀ n (ras decs prs pds pxs rvs : List Float) p,
    (∀ xs ∈ [ras, decs, prs, pds, pxs, rvs], xs.length = n) →
    P.mapqkVector (.ndarray ras) (.ndarray decs) (.ndarray prs) (.ndarray pds) (.ndarray pxs)
        (.ndarray rvs) p =
      stars n fun i => P.mapqk (ras.getD i 0) (decs.getD i 0) (prs.getD i 0) (pds.getD i 0)
        (pxs.getD i 0) (rvs.getD i 0) p
  ampqkVector : ∀ n (ras decs : List Float) p, ras.length = n → decs.length = n →
    P.ampqkVector (.ndarray ras) (.ndarray decs) p =
      stars n fun i => P.ampqk (ras.getD i 0) (decs.getD i 0) p
  aopqkVector : ∀ n (ras decs : List Float) p, ras.length = n → decs.length = n →
    P.aopqkVector (.ndarray ras) (.ndarray decs) p =
      stars5 n fun i => P.aopqk (ras.getD i 0) (decs.getD i 0) p
  oapqkVector : ∀ t n (ras decs : List Float) p, ras.length = n → decs.length = n →
    P.oapqkVector t (.ndarray ras) (.ndarray decs) p =
      stars n fun i => P.oapqk t (ras.getD i 0) (decs.getD i 0) p
  de2hVector : ∀ n (has decs : List Float) phi, has.length = n → decs.length = n →
    P.de2hVector (.ndarray has) (.ndarray decs) phi =
      stars n fun i => P.de2h (has.getD i 0) (decs.getD i 0) phi
  pmVector : ∀ n (ras decs prs pds pxs rvs : List Float) ep0 ep1,
    (∀ xs ∈ [ras, decs, prs, pds, pxs, rvs], xs.length = n) →
    P.pmVector (.ndarray ras) (.ndarray decs) (.ndarray prs) (.ndarray pds) (.ndarray pxs)
        (.ndarray rvs) ep0 ep1 =
      stars n fun i => P.pm (ras.getD i 0) (decs.getD i 0) (prs.getD i 0) (pds.getD i 0)
        (pxs.getD i 0) (rvs.getD i 0) ep0 ep1
  refzVector : ∀ (zs : List Float) refa refb,
    P.refzVector (.ndarray zs) refa refb = zs.map (P.refz · refa refb)

/-- palpy refuses per-star arguments that are not arrays of one length, as palpy 1.8.4 does
with `ValueError` on arrays of different lengths. -/
def Palpy.Refuses (P : Palpy Prms ObsPrms) : Prop :=
  ∀ c : VectorCall, ¬ c.CommonLength → (P.refuse c.name c.perStar).isSome

/-- A function of the pipeline: it returns or raises, and logs the vectorised calls it
makes. -/
abbrev Pipeline (α : Type) := PyM (List VectorCall) α

/-- Hand per-star arrays to the vectorised primitive `name` of `P`, which returns `result`
unless it refuses them: the call is made either way. -/
def vectorCall {α : Type} (P : Palpy Prms ObsPrms) (name : String) (perStar : List NumArg)
    (result : α) : Pipeline α := do
  modify (· ++ [⟨name, perStar⟩])
  match P.refuse name perStar with
  | some e => raise e.toPyError
  | none => pure result

/-- Every call in the log got per-star arrays of one common length. -/
def SafeCalls (log : List VectorCall) : Prop :=
  ∀ c ∈ log, c.CommonLength

/-- What a run from the empty log must do: raise `RuntimeError`, or hand every vectorised
primitive it calls per-star arrays of one common length. -/
def LengthSafe {α : Type} (r : EStateM.Result PyError (List VectorCall) α) : Prop :=
  (∃ msg log, r = .error (.runtimeError msg) log) ∨ SafeCalls (after r)

/-! ## Lemmas -/

section Lemmas

variable {α β : Type} {P : Palpy Prms ObsPrms} {Q : α → List VectorCall → Prop}
  {E : PyError → List VectorCall → Prop} {log : List VectorCall}

/-- A refusal is a `ValueError` or a `TypeError`, never a `RuntimeError`. -/
theorem PalpyError.toPyError_ne_runtimeError (e : PalpyError) (msg : String) :
    e.toPyError ≠ .runtimeError msg := by
  cases e <;> simp [toPyError]

@[simp] theorem wp_vectorCall (name : String) (perStar : List NumArg) (result : α) :
    wp (vectorCall P name perStar result) Q E log =
      match P.refuse name perStar with
      | some e => E e.toPyError (log ++ [⟨name, perStar⟩])
      | none => Q result (log ++ [⟨name, perStar⟩]) := by
  simp only [vectorCall, wp_bind, wp_modify]
  cases P.refuse name perStar <;> rfl

/-- The call is logged; then palpy refuses it or returns the result. -/
theorem wp_vectorCall_of {name : String} {perStar : List NumArg} {result : α}
    (hE : ∀ e : PalpyError, E e.toPyError (log ++ [⟨name, perStar⟩])) (hQ : Q result (log ++ [⟨name, perStar⟩])) :
    wp (vectorCall P name perStar result) Q E log := by
  rw [wp_vectorCall]
  split
  · exact hE _
  · exact hQ

/-- A call palpy accepts returns its result. -/
theorem wp_vectorCall_of_accepts {name : String} {perStar : List NumArg} (result : α)
    (h : P.refuse name perStar = none) :
    wp (vectorCall P name perStar result) Q E log = Q result (log ++ [⟨name, perStar⟩]) := by
  rw [wp_vectorCall, h]

/-- A palpy that computes star by star accepts numpy arrays of one length. -/
theorem Palpy.StarByStar.wp_vectorCall (hP : P.StarByStar) {name : String} {n : Nat}
    {perStar : List NumArg} (h : ∀ a ∈ perStar, ∃ xs, a = NumArg.ndarray xs ∧ xs.length = n)
    (result : α) :
    wp (vectorCall P name perStar result) Q E log = Q result (log ++ [⟨name, perStar⟩]) :=
  wp_vectorCall_of_accepts result (hP.accepts name n perStar h)

theorem SafeCalls.append {c : VectorCall} (h : SafeCalls log) (hc : c.CommonLength) :
    SafeCalls (log ++ [c]) := by
  intro c' hc'
  rcases List.mem_append.1 hc' with h' | h'
  · exact h c' h'
  · rw [List.mem_singleton.1 h']
    exact hc

/-- A vectorised call keeps the log safe when its arrays share a length, whether palpy then
returns or raises. -/
theorem keeps_vectorCall {name : String} {perStar : List NumArg} {result : α}
    (h : VectorCall.CommonLength ⟨name, perStar⟩) :
    Keeps SafeCalls (vectorCall P name perStar result) :=
  fun _ hs => wp_vectorCall_of (fun _ => hs.append h) (hs.append h)

/-- A vectorised call on arrays of one length, then `f` on its result. -/
theorem keeps_vectorCall_bind {name : String} {perStar : List NumArg} {result : β}
    {f : β → Pipeline α} (h : VectorCall.CommonLength ⟨name, perStar⟩)
    (hf : Keeps SafeCalls (f result)) : Keeps SafeCalls (vectorCall P name perStar result >>= f) := by
  intro _ hs
  rw [wp_bind]
  exact wp_vectorCall_of (fun _ => hs.append h) (hf _ (hs.append h))

theorem VectorCall.not_commonLength {c : VectorCall} {a b : NumArg} (ha : a ∈ c.perStar)
    (hb : b ∈ c.perStar) (hab : a.len ≠ b.len) : ¬ c.CommonLength := fun ⟨_, hn⟩ =>
  hab ((hn a ha).trans (hn b hb).symm)

/-- A log with an unsafe call stays unsafe. -/
theorem not_safeCalls_append {cs : List VectorCall} (h : ¬ SafeCalls log) : ¬ SafeCalls (log ++ cs) :=
  fun hs => h fun c hc => hs c (List.mem_append_left _ hc)

/-- A call on arrays that are not of one length makes the log unsafe. -/
theorem not_safeCalls_of_call {c : VectorCall} (h : ¬ c.CommonLength) : ¬ SafeCalls (log ++ [c]) :=
  fun hs => h (hs _ (List.mem_append_right _ (List.mem_singleton_self _)))

/-- A call that leaves an unsafe log leaves it so whether palpy returns or refuses, and a
refusal is no `RuntimeError`. -/
theorem wp_vectorCall_unsafe {name : String} {perStar : List NumArg} {result : α}
    (h : ¬ SafeCalls (log ++ [⟨name, perStar⟩])) (hQ : ∀ t, ¬ SafeCalls t → Q result t) :
    wp (vectorCall P name perStar result) Q
      (fun e t => (∀ msg, e ≠ .runtimeError msg) ∧ ¬ SafeCalls t) log :=
  wp_vectorCall_of (fun _ => ⟨PalpyError.toPyError_ne_runtimeError _, h⟩) (hQ _ h)

/-- A palpy that refuses arrays not of one length raises after the call is logged. -/
theorem Palpy.Refuses.wp_vectorCall (hR : P.Refuses) {name : String} {perStar : List NumArg}
    {result : α} (h : ¬ VectorCall.CommonLength ⟨name, perStar⟩)
    (hE : ∀ e, E e (log ++ [⟨name, perStar⟩])) : wp (vectorCall P name perStar result) Q E log := by
  obtain ⟨e, he⟩ := Option.isSome_iff_exists.1 (hR _ h)
  rw [SimsUtils.wp_vectorCall, he]
  exact hE _

end Lemmas

/-! ## A palpy that meets the contracts -/

/-- Numpy arrays, all of the length of the first. -/
def arraysOfOneLength : List NumArg → Bool
  | [] => true
  | .ndarray xs :: rest => rest.all fun
    | .ndarray ys => ys.length == xs.length
    | _ => false
  | _ :: _ => false

/-- One `0.0` per star of `ra`. -/
def originRow (ra : NumArg) : List Float :=
  match ra.len with
  | .ok n => List.replicate n 0
  | .error _ => []

/-- A palpy that puts every star it is given at the origin, and refuses with `ValueError`
anything but numpy arrays of one length. -/
def originPalpy : Palpy Unit Unit where
  mappa _ _ := ()
  aoppa _ _ _ _ _ _ _ _ _ _ _ _ := ()
  epj x := x
  prenut _ _ := ((1, 0, 0), (0, 1, 0), (0, 0, 1))
  refco _ _ _ _ _ _ _ _ := (0, 0)
  pm _ _ _ _ _ _ _ _ := (0, 0)
  mapqk _ _ _ _ _ _ _ := (0, 0)
  ampqk _ _ _ := (0, 0)
  aopqk _ _ _ := (0, 0, 0, 0, 0)
  oapqk _ _ _ _ := (0, 0)
  de2h _ _ _ := (0, 0)
  refz _ _ _ := 0
  refuse _ args := if arraysOfOneLength args then none else some .valueError
  mapqkVector ra _ _ _ _ _ _ := (originRow ra, originRow ra)
  ampqkVector ra _ _ := (originRow ra, originRow ra)
  aopqkVector ra _ _ := (originRow ra, originRow ra, originRow ra, originRow ra, originRow ra)
  oapqkVector _ ra _ _ := (originRow ra, originRow ra)
  de2hVector ha _ _ := (originRow ha, originRow ha)
  pmVector ra _ _ _ _ _ _ _ := (originRow ra, originRow ra)
  refzVector zu _ _ := originRow zu

section Origin

variable {args : List NumArg}

theorem arraysOfOneLength_of {n : Nat} (h : ∀ a ∈ args, ∃ xs, a = NumArg.ndarray xs ∧ xs.length = n) :
    arraysOfOneLength args = true := by
  match args, h with
  | [], _ => rfl
  | a :: rest, h =>
    obtain ⟨xs, rfl, hxs⟩ := h a (.head _)
    simp only [arraysOfOneLength, List.all_eq_true]
    intro b hb
    obtain ⟨ys, rfl, hys⟩ := h b (.tail _ hb)
    simp [hxs, hys]

theorem commonLength_of_arraysOfOneLength (h : arraysOfOneLength args = true) :
    ∃ n, ∀ a ∈ args, a.len = .ok n := by
  match args, h with
  | [], _ => exact ⟨0, fun _ h => nomatch h⟩
  | .ndarray xs :: rest, h =>
    simp only [arraysOfOneLength, List.all_eq_true] at h
    refine ⟨xs.length, fun a ha => ?_⟩
    rcases List.mem_cons.1 ha with rfl | ha
    · rfl
    · have := h a ha
      split at this <;> simp_all [NumArg.len]

theorem stars_zero (n : Nat) : stars n (fun _ => (0, 0)) = (List.replicate n 0, List.replicate n 0) := by
  simp [stars, column_const]

theorem originPalpy_perStar : originPalpy.PerStar :=
  ⟨fun _ _ _ _ h _ => by simp [originPalpy, originRow, h],
    fun _ _ _ _ _ h _ => by simp [originPalpy, originRow, h]⟩

theorem originRow_ndarray (xs : List Float) : originRow (.ndarray xs) = List.replicate xs.length 0 := rfl

theorem originPalpy_starByStar : originPalpy.StarByStar where
  accepts _ _ _ h := by simp [originPalpy, arraysOfOneLength_of h]
  mapqkVector n _ _ _ _ _ _ _ h := by
    simp only [List.forall_mem_cons] at h
    simp only [originPalpy, originRow_ndarray, h.1, stars_zero]
  ampqkVector n _ _ _ h _ := by simp only [originPalpy, originRow_ndarray, h, stars_zero]
  aopqkVector n _ _ _ h _ := by simp only [originPalpy, originRow_ndarray, h, stars5, column_const]
  oapqkVector _ n _ _ _ h _ := by simp only [originPalpy, originRow_ndarray, h, stars_zero]
  de2hVector n _ _ _ h _ := by simp only [originPalpy, originRow_ndarray, h, stars_zero]
  pmVector n _ _ _ _ _ _ _ _ h := by
    simp only [List.forall_mem_cons] at h
    simp only [originPalpy, originRow_ndarray, h.1, stars_zero]
  refzVector _ _ _ := by simp [originPalpy, originRow, NumArg.len, List.map_const']

theorem originPalpy_refuses : originPalpy.Refuses := by
  intro c hc
  by_cases h : arraysOfOneLength c.perStar
  · exact absurd (commonLength_of_arraysOfOneLength h) hc
  · simp [originPalpy, h]

end Origin

end SimsUtils
