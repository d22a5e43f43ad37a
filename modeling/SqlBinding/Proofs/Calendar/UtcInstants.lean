import SqlBinding.Proofs.Calendar.DayRange
import SqlBinding.Proofs.Calendar.HostValues
import SqlBinding.Proofs.Calendar.CivilParts

/-!
# Instants cut to the millisecond

An instant given by seconds and a fraction is cut down to the millisecond, and nothing else happens
to it. An instant of the calendar that becomes a host value is bound as the last full millisecond
before or at it, also before 1970; a leap second is refused. What was cut once stays as it is.
-/

namespace SqlBinding

open Calendar

namespace UtcInstant

variable {u : UtcInstant}

/-- The full thousandths of the fraction. -/
def millis (u : UtcInstant) : Int := ⌊u.fraction.toRat * 1000⌋

/-- A fraction of a second, not a whole one. -/
def IsFraction (u : UtcInstant) : Prop := 0 ≤ u.fraction.toRat ∧ u.fraction.toRat < 1

def InRange (u : UtcInstant) : Prop :=
  Instant.firstSecond ≤ u.seconds.toInt ∧ u.seconds.toInt ≤ Instant.lastSecond

/-- The instant is the seconds and the full thousandths of the fraction. -/
structure Names (u : UtcInstant) (i : Instant) : Prop where
  fraction : u.IsFraction
  seconds : i.seconds = u.seconds.toInt
  nano : (i.nano : Int) = u.millis * 1000000

/-- The fraction is looked at before the seconds. -/
inductive Refused (u : UtcInstant) : Refusal → Prop
  | fraction (h : ¬ u.IsFraction) : Refused u (.utcFraction u.fraction)
  | seconds (fraction : u.IsFraction) (h : ¬ u.InRange) : Refused u (.utcSeconds u.seconds)

/-- The thousandths of the fraction can be counted in a decimal. -/
def Fits (u : UtcInstant) : Prop := |u.fraction.toRat * 1000| < Decimal.mantissaBound

private theorem isFraction_iff_millis : u.IsFraction ↔ 0 ≤ u.millis ∧ u.millis < 1000 := by
  have hlow : 0 ≤ u.millis ↔ 0 ≤ u.fraction.toRat := by
    rw [millis, Int.le_floor]
    constructor <;> intro h <;> push_cast at * <;> linarith
  have hhigh : u.millis < 1000 ↔ u.fraction.toRat < 1 := by
    rw [millis, Int.floor_lt]
    constructor <;> intro h <;> push_cast at * <;> linarith
  rw [IsFraction, hlow, hhigh]

private theorem IsFraction.fits (h : u.IsFraction) : u.Fits := by
  obtain ⟨h0, h1⟩ := h
  have hbound : (1000 : ℚ) ≤ Decimal.mantissaBound := by norm_num
  rw [Fits, abs_of_nonneg (by linarith)]
  linarith

private theorem floor_of_product {p : Decimal} (hp : u.fraction.times? 1000 = some p) :
    p.floor = u.millis := by
  have hpower : tenPow 3 = 1000 := rfl
  rw [← hpower] at hp
  rw [Decimal.floor_eq, Decimal.toRat_of_times?_tenPow hp, hpower, millis]
  norm_num

private theorem Fits.exists_product (h : u.Fits) : ∃ p, u.fraction.times? 1000 = some p := by
  have hpower : tenPow 3 = 1000 := rfl
  rw [← hpower]
  refine Decimal.times?_tenPow_of_abs_lt ?_
  rw [hpower]
  exact_mod_cast h

private theorem resolve_of_product {p : Decimal} (hp : u.fraction.times? 1000 = some p) :
    u.resolve =
      if u.millis < 0 ∨ 1000 ≤ u.millis then .refuse (.utcFraction u.fraction)
      else .orRefuse (.utcSeconds u.seconds)
        (Instant.ofSeconds? u.seconds.toInt (u.millis.toNat * 1000000)) := by
  unfold resolve
  simp only [hp, floor_of_product hp, Bool.or_eq_true, decide_eq_true_eq]

private theorem resolve_of_fraction (h : u.IsFraction) :
    u.resolve = .orRefuse (.utcSeconds u.seconds)
      (Instant.ofSeconds? u.seconds.toInt (u.millis.toNat * 1000000)) := by
  obtain ⟨p, hp⟩ := h.fits.exists_product
  have hmillis := isFraction_iff_millis.mp h
  rw [resolve_of_product hp, if_neg (by omega)]

private theorem resolve_of_names {i : Instant} (h : u.Names i) : u.resolve = .ok i := by
  obtain ⟨hfraction, hseconds, hnano⟩ := h
  have hfound : Instant.ofSeconds? u.seconds.toInt (u.millis.toNat * 1000000) = some i :=
    Instant.ofSeconds?_eq_some_iff.mpr ⟨hseconds, by omega⟩
  rw [resolve_of_fraction hfraction, hfound]
  rfl

/-- Whatever resolves has a fraction of a second, since every other product is refused. -/
theorem names_of_resolve {i : Instant} (h : u.resolve = .ok i) : u.Names i := by
  cases hp : u.fraction.times? 1000 with
  | none =>
    unfold resolve at h
    rw [hp] at h
    cases h
  | some p =>
    rw [resolve_of_product hp] at h
    split at h
    · cases h
    · next hmillis =>
      have hfraction : u.IsFraction := isFraction_iff_millis.mpr (by omega)
      cases hfound : Instant.ofSeconds? u.seconds.toInt (u.millis.toNat * 1000000) with
      | none =>
        rw [hfound] at h
        cases h
      | some i' =>
        rw [hfound] at h
        cases h
        obtain ⟨hseconds, hnano⟩ := Instant.ofSeconds?_eq_some_iff.mp hfound
        exact ⟨hfraction, hseconds, by omega⟩

private theorem exists_names_iff : (∃ i, u.Names i) ↔ u.IsFraction ∧ u.InRange := by
  constructor
  · rintro ⟨i, hfraction, hseconds, hnano⟩
    have hmillis := isFraction_iff_millis.mp hfraction
    have hnano : i.nano < 1000000000 := by omega
    exact ⟨hfraction, (Instant.exists_seconds_iff hnano).mp ⟨i, hseconds, rfl⟩⟩
  · rintro ⟨hfraction, hrange⟩
    have hmillis := isFraction_iff_millis.mp hfraction
    have hlt : u.millis.toNat * 1000000 < 1000000000 := by omega
    obtain ⟨i, hseconds, hnano⟩ := (Instant.exists_seconds_iff hlt).mpr hrange
    exact ⟨i, hfraction, hseconds, by omega⟩

private theorem resolve_of_refused (hfits : u.Fits) {why : Refusal} (h : u.Refused why) :
    u.resolve = .refuse why := by
  cases h with
  | fraction h =>
    obtain ⟨p, hp⟩ := hfits.exists_product
    rw [isFraction_iff_millis] at h
    rw [resolve_of_product hp, if_pos (by omega)]
  | seconds hfraction h =>
    have hnone : Instant.ofSeconds? u.seconds.toInt (u.millis.toNat * 1000000) = none := by
      by_contra hsome
      obtain ⟨i, hi⟩ := Option.ne_none_iff_exists'.mp hsome
      have hok : u.resolve = .ok i := by
        rw [resolve_of_fraction hfraction, hi]
        rfl
      exact h (exists_names_iff.mp ⟨i, names_of_resolve hok⟩).2
    rw [resolve_of_fraction hfraction, hnone]
    rfl

private theorem resolve_settles (hfits : u.Fits) : u.resolve.Settles u.Names u.Refused False := by
  refine Outcome.settles (fun _ => resolve_of_names) (fun _ => resolve_of_refused hfits)
    False.elim ?_
  by_cases hfraction : u.IsFraction
  · by_cases hrange : u.InRange
    · exact .inl (exists_names_iff.mpr ⟨hfraction, hrange⟩)
    · exact .inr (.inl ⟨_, .seconds hfraction hrange⟩)
  · exact .inr (.inl ⟨_, .fraction hfraction⟩)

private theorem Names.nanos_eq {i : Instant} (h : u.Names i) :
    i.nano < 1000000000 ∧
      (i.utc.nanos : ℚ) / 1000000000 = u.seconds.toInt + (u.millis : ℚ) / 1000 := by
  obtain ⟨hfraction, hseconds, hnano⟩ := h
  have hmillis := isFraction_iff_millis.mp hfraction
  have hnanos : i.utc.nanos = u.seconds.toInt * 1000000000 + u.millis * 1000000 := by
    rw [← hseconds, ← hnano]
    rfl
  refine ⟨by omega, ?_⟩
  rw [hnanos]
  push_cast
  ring

end UtcInstant

namespace Calendar.Instant

/-- The last full millisecond at or before an instant. -/
def IsCut (i i' : Instant) : Prop :=
  i'.seconds = i.seconds ∧ i'.nano = i.nano / 1000000 * 1000000

variable {i i' : Instant}

private theorem exists_isCut (h : i.nano < 1000000000) : ∃ i', i.IsCut i' :=
  (exists_seconds_iff (by omega)).mpr ((exists_seconds_iff h).mp ⟨i, rfl, rfl⟩)

private theorem IsCut.nanos_eq (h : i.IsCut i') :
    i'.utc.nanos = i.utc.nanos / 1000000 * 1000000 := by
  obtain ⟨hseconds, hnano⟩ := h
  simp only [seconds, nano] at hseconds hnano
  simp only [DateTime.nanos, hseconds, hnano]
  omega

private theorem IsCut.nano_lt (h : i.IsCut i') (hnano : i.nano < 1000000000) :
    i'.nano < 1000000000 := by
  have hcut := h.2
  omega

private theorem IsCut.again (h : i.IsCut i') : i'.IsCut i' := by
  refine ⟨rfl, ?_⟩
  rw [h.2, Nat.mul_div_cancel _ (by decide)]

private theorem toRat_fraction_toUtc (i : Instant) :
    i.toUtc.fraction.toRat = (i.nano : ℚ) / 1000000000 := by
  have hpower : tenPow 9 = 1000000000 := rfl
  have hpositive : i.toUtc.fraction.negative = false := rfl
  have hmantissa : i.toUtc.fraction.mantissa = i.nano := rfl
  have hscale : i.toUtc.fraction.scale = 9 := rfl
  rw [Decimal.toRat_of_nonneg hpositive, hmantissa, hscale, hpower]
  norm_num

private theorem millis_toUtc (i : Instant) : i.toUtc.millis = (i.nano / 1000000 : Nat) := by
  have hquotient : (i.nano : ℚ) / 1000000000 * 1000 = (i.nano : ℚ) / (1000000 : Nat) := by
    push_cast
    ring
  rw [UtcInstant.millis, toRat_fraction_toUtc, hquotient, Rat.floor_natCast_div_natCast,
    Int.natCast_ediv]

private theorem toInt_seconds_toUtc (h : i.nano < 1000000000) :
    i.toUtc.seconds.toInt = i.seconds := by
  obtain ⟨hfirst, hlast⟩ := (exists_seconds_iff h).mp ⟨i, rfl, rfl⟩
  simp only [firstSecond, lastSecond] at hfirst hlast
  exact Int64.toInt_ofInt_of_le (by omega) (by omega)

private theorem IsCut.names (h : i.IsCut i') (hnano : i.nano < 1000000000) : i.toUtc.Names i' := by
  obtain ⟨hseconds, hcut⟩ := h
  have hmillis := i.millis_toUtc
  refine ⟨UtcInstant.isFraction_iff_millis.mpr (by omega), ?_, by omega⟩
  rw [hseconds, toInt_seconds_toUtc hnano]

private theorem refused_toUtc (h : 1000000000 ≤ i.nano) :
    i.toUtc.resolve = .refuse (.utcFraction i.toUtc.fraction) := by
  have hmillis := i.millis_toUtc
  have htime := i.utc.time.isTime
  simp only [IsTime] at htime
  have hlt : (i.nano : ℚ) < 2000000000 := by
    have hnano : i.nano < 2000000000 := by
      simp only [nano]
      omega
    exact_mod_cast hnano
  have hfits : i.toUtc.Fits := by
    have hbound : (2000 : ℚ) ≤ Decimal.mantissaBound := by norm_num
    rw [UtcInstant.Fits, toRat_fraction_toUtc, abs_of_nonneg (by positivity)]
    linarith
  refine UtcInstant.resolve_of_refused hfits (.fraction ?_)
  rw [UtcInstant.isFraction_iff_millis]
  omega

end Calendar.Instant

section

variable {arith : Arithmetic} {σ : Type} [Connection σ] {type : SqlType} {i i' : Instant}

private theorem bindsAlone_instant (htype : type.category? = some .timestamp)
    {x : Outcome Instant} (h : i.toUtc.resolve = x) :
    BindsAlone arith σ type (.ofInstant i) (.timestampUtc <$> x) := by
  refine bindsAlone_of_category htype (congrArg Step.ofOutcome ?_)
  rw [← h]
  rfl

private theorem bindsAlone_of_isCut (htype : type.category? = some .timestamp) (h : i.IsCut i')
    (hnano : i.nano < 1000000000) :
    BindsAlone arith σ type (.ofInstant i) (.ok (.timestampUtc i')) :=
  bindsAlone_instant htype (UtcInstant.resolve_of_names (h.names hnano))

end

/-- An instant whose thousandths can be counted resolves just if its fraction is one of a second and
its seconds are within range, then to its seconds and the full thousandths of its fraction. So an
instant of the calendar is bound as the last full millisecond, which is bound as it is, and a leap
second is refused by the application. -/
theorem instants_floor_to_millis (arith : Arithmetic) (σ : Type) [Connection σ] :
    (∀ u : UtcInstant, |u.fraction.toRat * 1000| < Decimal.mantissaBound →
      ((∃ i, u.resolve = .ok i) ↔ (0 ≤ u.fraction.toRat ∧ u.fraction.toRat < 1) ∧
        -8334601228800 ≤ u.seconds.toInt ∧ u.seconds.toInt ≤ 8210266876799) ∧
      (∀ i, u.resolve = .ok i → i.nano < 1000000000 ∧ (i.utc.nanos : ℚ) / 1000000000 =
        u.seconds.toInt + (⌊u.fraction.toRat * 1000⌋ : ℚ) / 1000) ∧
      u.resolve.Settles u.Names u.Refused False) ∧
    (∀ i : Instant, i.nano < 1000000000 → ∃ i' : Instant,
      i'.utc.nanos = i.utc.nanos / 1000000 * 1000000 ∧ i'.nano < 1000000000 ∧
      ∀ type : SqlType, type.category? = some .timestamp →
        BindsAlone arith σ type (.ofInstant i) (.ok (.timestampUtc i')) ∧
          BindsAlone arith σ type (.ofInstant i') (.ok (.timestampUtc i'))) ∧
    (∀ i : Instant, 1000000000 ≤ i.nano → ∃ e : Error, e.kind = .application ∧
      ∀ type : SqlType, type.category? = some .timestamp →
        BindsAlone arith σ type (.ofInstant i) (.fail e)) := by
  refine ⟨fun u hfits => ⟨?_, fun i h => (UtcInstant.names_of_resolve h).nanos_eq,
    UtcInstant.resolve_settles hfits⟩, fun i hnano => ?_, fun i hleap => ?_⟩
  · refine Iff.trans (exists_congr fun i => ?_) UtcInstant.exists_names_iff
    exact ⟨UtcInstant.names_of_resolve, UtcInstant.resolve_of_names⟩
  · obtain ⟨i', hcut⟩ := Instant.exists_isCut hnano
    exact ⟨i', hcut.nanos_eq, hcut.nano_lt hnano, fun type htype =>
      ⟨bindsAlone_of_isCut htype hcut hnano,
        bindsAlone_of_isCut htype hcut.again (hcut.nano_lt hnano)⟩⟩
  · exact ⟨_, rfl, fun type htype => bindsAlone_instant htype (Instant.refused_toUtc hleap)⟩

/-- A fraction of as many nines as there can be, the last nanosecond before 1970, and the leap
second after it. -/
theorem instants_floor_to_millis_epoch :
    let u : UtcInstant := ⟨-1, ⟨false, 9999999999999999999999999999, 28, by decide⟩⟩
    let last : Instant := ⟨⟨⟨1969, 12, 31, by decide⟩, ⟨23, 59, 59, 999999999, by decide⟩⟩⟩
    let leap : Instant := ⟨⟨⟨1969, 12, 31, by decide⟩, ⟨23, 59, 59, 1000000000, by decide⟩⟩⟩
    |u.fraction.toRat * 1000| < Decimal.mantissaBound ∧ (∃ i, u.resolve = .ok i) ∧
      last.nano < 1000000000 ∧ SqlType.timestamp.category? = some .timestamp ∧
      (∃ i' : Instant, i'.utc.nanos = -1000000 ∧
        BindsAlone .checked BufferedConnection .timestamp (.ofInstant last)
          (.ok (.timestampUtc i'))) ∧
      1000000000 ≤ leap.nano ∧ ∃ e : Error, e.kind = .application ∧
        BindsAlone .checked BufferedConnection .timestamp (.ofInstant leap) (.fail e) := by
  intro u last leap
  obtain ⟨hrecord, hcut, hleap⟩ := instants_floor_to_millis .checked BufferedConnection
  have hpower : tenPow 28 = 10000000000000000000000000000 := rfl
  have hvalue : u.fraction.toRat =
      9999999999999999999999999999 / 10000000000000000000000000000 := by
    have hfraction : u.fraction.toRat = u.fraction.mantissa / tenPow 28 :=
      Decimal.toRat_of_nonneg rfl
    rw [hfraction, hpower]
    norm_num [u]
  have hfits : |u.fraction.toRat * 1000| < Decimal.mantissaBound := by
    rw [hvalue]
    norm_num
  have hresolve : ∃ i, u.resolve = .ok i := by
    refine (hrecord u hfits).1.mpr ⟨?_, by decide, by decide⟩
    rw [hvalue]
    norm_num
  have hlast : last.nano < 1000000000 := by decide
  have hlong : 1000000000 ≤ leap.nano := by decide
  obtain ⟨i', hnanos, -, hbound⟩ := hcut last hlast
  obtain ⟨e, he, hrefused⟩ := hleap leap hlong
  have hbefore : last.utc.nanos / 1000000 * 1000000 = -1000000 := by decide
  exact ⟨hfits, hresolve, hlast, rfl, ⟨i', hnanos.trans hbefore, (hbound _ rfl).1⟩, hlong, e, he,
    hrefused _ rfl⟩

end SqlBinding
