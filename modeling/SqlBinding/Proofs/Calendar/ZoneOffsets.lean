import Mathlib.Logic.ExistsUnique
import SqlBinding.Proofs.Binding.TemporalContent
import SqlBinding.Proofs.Number.Rational

/-!
# Zone offsets by their parts

An offset record names the total of its hours, minutes and rounded seconds, if its parts have one
sign, its minutes and seconds stay below sixty, and the total is no more than eighteen hours. Every
offset of whole seconds within eighteen hours is the total of just one such triple.
-/

namespace SqlBinding

open Calendar Outcome

/-- Parts of one sign, with seconds in 32 bits. -/
structure PartsSigned (hours minutes seconds : Int) : Prop where
  fits : -2147483648 ≤ seconds ∧ seconds ≤ 2147483647
  one_sign : 0 ≤ hours ∧ 0 ≤ minutes ∧ 0 ≤ seconds ∨ hours ≤ 0 ∧ minutes ≤ 0 ∧ seconds ≤ 0

/-- Parts of one sign, with minutes and seconds below sixty. -/
structure PartsFit (hours minutes seconds : Int) : Prop extends
    PartsSigned hours minutes seconds where
  minutes_le : minutes.natAbs ≤ 59
  seconds_le : seconds.natAbs ≤ 59

/-- Parts that fit and make no more than eighteen hours. -/
structure IsOffset (hours minutes seconds : Int) : Prop extends PartsFit hours minutes seconds where
  total_le : (3600 * hours + 60 * minutes + seconds).natAbs ≤ 64800

section

variable {hours minutes seconds : Int}

private theorem IsOffset.neg (h : IsOffset hours minutes seconds) :
    IsOffset (-hours) (-minutes) (-seconds) := by
  obtain ⟨⟨⟨hfits, hsign⟩, hminutes, hseconds⟩, htotal⟩ := h
  refine ⟨⟨⟨?_, ?_⟩, ?_, ?_⟩, ?_⟩ <;> omega

private theorem isOffset_of_nonneg {east : Int} (h0 : 0 ≤ east) (h1 : east ≤ 64800) :
    IsOffset (east / 3600) (east % 3600 / 60) (east % 60) := by
  refine ⟨⟨⟨?_, ?_⟩, ?_, ?_⟩, ?_⟩ <;> omega

private theorem exists_isOffset {east : Int} (h : -64800 ≤ east ∧ east ≤ 64800) :
    ∃ hours minutes seconds, IsOffset hours minutes seconds ∧
      3600 * hours + 60 * minutes + seconds = east := by
  by_cases hsign : 0 ≤ east
  · exact ⟨_, _, _, isOffset_of_nonneg hsign h.2, by omega⟩
  · have h0 : 0 ≤ -east := by omega
    have h1 : -east ≤ 64800 := by omega
    have hneg := (isOffset_of_nonneg h0 h1).neg
    exact ⟨_, _, _, hneg, by omega⟩

/-- Parts of one sign are told by their total: a part of the other sign cannot make up for more. -/
private theorem parts_unique {hours' minutes' seconds' : Int} (h : IsOffset hours minutes seconds)
    (h' : IsOffset hours' minutes' seconds')
    (htotal : 3600 * hours + 60 * minutes + seconds = 3600 * hours' + 60 * minutes' + seconds') :
    hours = hours' ∧ minutes = minutes' ∧ seconds = seconds' := by
  obtain ⟨⟨⟨-, hsign⟩, hminutes, hseconds⟩, -⟩ := h
  obtain ⟨⟨⟨-, hsign'⟩, hminutes', hseconds'⟩, -⟩ := h'
  have hhours : hours = hours' := by omega
  have hminutes : minutes = minutes' := by omega
  exact ⟨hhours, hminutes, by omega⟩

end

namespace Arithmetic

variable {arith : Arithmetic}

private theorem orOverflow_int32? {n : Int} (h : -2147483648 ≤ n ∧ n ≤ 2147483647) :
    Outcome.orOverflow (arith.int32? n) = .ok (Int32.ofInt n) := by
  rw [int32?_eq_some h]
  rfl

private theorem orOverflow_checked {n : Int} (h : ¬ (-2147483648 ≤ n ∧ n ≤ 2147483647)) :
    Outcome.orOverflow (checked.int32? n) = .error .overflow := by
  rw [show checked.int32? n = none from int32?_eq_none_iff.mpr h]
  rfl

private theorem require_eq {i : Int32} (h : i.toInt ≠ -2147483648) (bound : Int) (why : Refusal) :
    arith.require bound why i = if bound < i.toInt.natAbs then .refuse why else .ok () := by
  have hi := int32_bounds i
  have hmagnitude : -2147483648 ≤ (i.toInt.natAbs : Int) ∧ (i.toInt.natAbs : Int) ≤ 2147483647 := by
    omega
  rw [require, orOverflow_int32? hmagnitude, Outcome.ok_bind, toInt_ofInt_of_bounds hmagnitude]
  rfl

private theorem require_checked_of_least {i : Int32} (h : i.toInt = -2147483648) (bound : Int)
    (why : Refusal) : checked.require bound why i = .error .overflow := by
  rw [require, h, orOverflow_checked (by decide), Outcome.overflow_bind]

variable {hours minutes seconds : Int32}

/-- Parts of one sign are added up exactly if 32 bits hold their total: no sum on the way is
larger. -/
private theorem total_eq (hsign : 0 ≤ hours.toInt ∧ 0 ≤ minutes.toInt ∧ 0 ≤ seconds.toInt ∨
      hours.toInt ≤ 0 ∧ minutes.toInt ≤ 0 ∧ seconds.toInt ≤ 0) {n : Int}
    (hn : 3600 * hours.toInt + 60 * minutes.toInt + seconds.toInt = n)
    (hbounds : -2147483648 ≤ n ∧ n ≤ 2147483647) :
    arith.total hours minutes seconds = .ok (Int32.ofInt n) := by
  have hh : -2147483648 ≤ hours.toInt * 3600 ∧ hours.toInt * 3600 ≤ 2147483647 := by omega
  have hm : -2147483648 ≤ minutes.toInt * 60 ∧ minutes.toInt * 60 ≤ 2147483647 := by omega
  have hhm : -2147483648 ≤ hours.toInt * 3600 + minutes.toInt * 60 ∧
      hours.toInt * 3600 + minutes.toInt * 60 ≤ 2147483647 := by omega
  have hsum : hours.toInt * 3600 + minutes.toInt * 60 + seconds.toInt = n := by omega
  rw [total, orOverflow_int32? hh, Outcome.ok_bind, orOverflow_int32? hm, Outcome.ok_bind,
    toInt_ofInt_of_bounds hh, toInt_ofInt_of_bounds hm, orOverflow_int32? hhm, Outcome.ok_bind,
    toInt_ofInt_of_bounds hhm, hsum, orOverflow_int32? hbounds]

private theorem total_checked
    (h : ¬ (-2147483648 ≤ 3600 * hours.toInt + 60 * minutes.toInt + seconds.toInt ∧
      3600 * hours.toInt + 60 * minutes.toInt + seconds.toInt ≤ 2147483647)) :
    checked.total hours minutes seconds = .error .overflow := by
  rw [total]
  by_cases hh : -2147483648 ≤ hours.toInt * 3600 ∧ hours.toInt * 3600 ≤ 2147483647
  · rw [orOverflow_int32? hh, Outcome.ok_bind, toInt_ofInt_of_bounds hh]
    by_cases hm : -2147483648 ≤ minutes.toInt * 60 ∧ minutes.toInt * 60 ≤ 2147483647
    · rw [orOverflow_int32? hm, Outcome.ok_bind, toInt_ofInt_of_bounds hm]
      by_cases hhm : -2147483648 ≤ hours.toInt * 3600 + minutes.toInt * 60 ∧
          hours.toInt * 3600 + minutes.toInt * 60 ≤ 2147483647
      · rw [orOverflow_int32? hhm, Outcome.ok_bind, toInt_ofInt_of_bounds hhm,
          orOverflow_checked (by omega)]
      · rw [orOverflow_checked hhm, Outcome.overflow_bind]
    · rw [orOverflow_checked hm, Outcome.overflow_bind]
  · rw [orOverflow_checked hh, Outcome.overflow_bind]

end Arithmetic

namespace ZoneOffset

variable {o o' : ZoneOffset} {arith : Arithmetic}

/-- The number of seconds that a record gives; absent ones are zero. -/
def secondsNumber (o : ZoneOffset) : ℚ :=
  match o.seconds with
  | none => 0
  | some s => s.toRat

def wholeSeconds (o : ZoneOffset) : Int := roundAway o.secondsNumber

def total (o : ZoneOffset) : Int := 3600 * o.hours.toInt + 60 * o.minutes.toInt + o.wholeSeconds

def Fits (o : ZoneOffset) : Prop := PartsFit o.hours.toInt o.minutes.toInt o.wholeSeconds

def IsValid (o : ZoneOffset) : Prop := IsOffset o.hours.toInt o.minutes.toInt o.wholeSeconds

/-- The arithmetic of a record with parts of one sign leaves 32 bits: a part is the least number,
which has no magnitude, or the total is beyond it. Parts are looked at before the total. -/
inductive Overflows (o : ZoneOffset) : Prop
  | minutes (sign : PartsSigned o.hours.toInt o.minutes.toInt o.wholeSeconds)
      (h : o.minutes.toInt = -2147483648)
  | seconds (sign : PartsSigned o.hours.toInt o.minutes.toInt o.wholeSeconds)
      (minutes_le : o.minutes.toInt.natAbs ≤ 59) (h : o.wholeSeconds = -2147483648)
  | total (fits : o.Fits) (h : 2147483648 ≤ o.total.natAbs)

/-- The offset is as many seconds east as the parts make. -/
structure Names (o : ZoneOffset) (offset : Offset) : Prop where
  valid : o.IsValid
  east : offset.east = o.total

/-- The parts are looked at before what they make. -/
inductive Refused (o : ZoneOffset) : Refusal → Prop
  | parts (h : ¬ o.Fits) (bounded : ¬ o.Overflows) : Refused o (.zoneOffset o)
  | total (fits : o.Fits) (h : 64800 < o.total.natAbs) (bounded : ¬ o.Overflows) :
      Refused o (.zoneOffsetRange o)

private theorem round_seconds (o : ZoneOffset) : (o.seconds.getD .zero).round = o.wholeSeconds := by
  unfold wholeSeconds secondsNumber
  cases o.seconds with
  | none =>
    change Decimal.zero.round = roundAway ((0 : Int) : ℚ)
    rw [roundAway_intCast]
    rfl
  | some s => exact s.round_eq_roundAway

/-- What is done with parts of one sign. -/
private def addUp (arith : Arithmetic) (o : ZoneOffset) : Outcome Offset := do
  arith.require 59 (.zoneOffset o) o.minutes
  arith.require 59 (.zoneOffset o) (Int32.ofInt o.wholeSeconds)
  let east ← arith.total o.hours o.minutes (Int32.ofInt o.wholeSeconds)
  arith.require 64800 (.zoneOffsetRange o) east
  .orRefuse (.zoneOffset o) (Offset.of? east.toInt)

private theorem resolve_of_signed
    (h : PartsSigned o.hours.toInt o.minutes.toInt o.wholeSeconds) :
    o.resolve arith = o.addUp arith := by
  have hseconds : int32? o.wholeSeconds = some (Int32.ofInt o.wholeSeconds) :=
    int32?_eq_some_iff.mpr (toInt_ofInt_of_bounds h.fits)
  have hsign := h.one_sign
  rw [resolve, round_seconds, hseconds, Outcome.orRefuse, Outcome.ok_bind]
  simp only [toInt_ofInt_of_bounds h.fits, List.any_cons, List.any_nil, Bool.or_false,
    Bool.and_eq_true, Bool.or_eq_true, decide_eq_true_eq]
  rw [if_neg (by omega)]
  rfl

private theorem resolve_of_not_signed
    (h : ¬ PartsSigned o.hours.toInt o.minutes.toInt o.wholeSeconds) :
    o.resolve arith = .refuse (.zoneOffset o) := by
  rw [resolve, round_seconds]
  by_cases hfits : -2147483648 ≤ o.wholeSeconds ∧ o.wholeSeconds ≤ 2147483647
  · have hseconds : int32? o.wholeSeconds = some (Int32.ofInt o.wholeSeconds) :=
      int32?_eq_some_iff.mpr (toInt_ofInt_of_bounds hfits)
    have hsign : ¬ (0 ≤ o.hours.toInt ∧ 0 ≤ o.minutes.toInt ∧ 0 ≤ o.wholeSeconds ∨
        o.hours.toInt ≤ 0 ∧ o.minutes.toInt ≤ 0 ∧ o.wholeSeconds ≤ 0) := fun hs => h ⟨hfits, hs⟩
    rw [hseconds, Outcome.orRefuse, Outcome.ok_bind]
    simp only [toInt_ofInt_of_bounds hfits, List.any_cons, List.any_nil, Bool.or_false,
      Bool.and_eq_true, Bool.or_eq_true, decide_eq_true_eq]
    rw [if_pos (by omega)]
    rfl
  · rw [int32?_eq_none_iff.mpr hfits]
    rfl

private theorem toInt_seconds (h : PartsSigned o.hours.toInt o.minutes.toInt o.wholeSeconds) :
    (Int32.ofInt o.wholeSeconds).toInt = o.wholeSeconds := toInt_ofInt_of_bounds h.fits

private theorem addUp_of_large_minutes (h : o.minutes.toInt ≠ -2147483648)
    (hminutes : ¬ o.minutes.toInt.natAbs ≤ 59) : o.addUp arith = .refuse (.zoneOffset o) := by
  rw [addUp, Arithmetic.require_eq h, if_pos (by omega), Outcome.refuse_bind]

private theorem addUp_of_minutes (hminutes : o.minutes.toInt.natAbs ≤ 59) :
    o.addUp arith = (do
      arith.require 59 (.zoneOffset o) (Int32.ofInt o.wholeSeconds)
      let east ← arith.total o.hours o.minutes (Int32.ofInt o.wholeSeconds)
      arith.require 64800 (.zoneOffsetRange o) east
      .orRefuse (.zoneOffset o) (Offset.of? east.toInt)) := by
  rw [addUp, Arithmetic.require_eq (by omega), if_neg (by omega), Outcome.ok_bind]

private theorem addUp_of_fits (h : o.Fits) :
    o.addUp arith = (do
      let east ← arith.total o.hours o.minutes (Int32.ofInt o.wholeSeconds)
      arith.require 64800 (.zoneOffsetRange o) east
      .orRefuse (.zoneOffset o) (Offset.of? east.toInt)) := by
  have hseconds := toInt_seconds h.toPartsSigned
  have hle := h.seconds_le
  rw [addUp_of_minutes h.minutes_le, Arithmetic.require_eq (by omega), if_neg (by omega),
    Outcome.ok_bind]

/-- The parts of a record are added up exactly as long as 32 bits hold their total. -/
private theorem total_eq (h : o.Fits) (htotal : o.total.natAbs < 2147483648) :
    arith.total o.hours o.minutes (Int32.ofInt o.wholeSeconds) = .ok (Int32.ofInt o.total) := by
  have hseconds := toInt_seconds h.toPartsSigned
  refine Arithmetic.total_eq ?_ (by rw [hseconds]; rfl) (by omega)
  rw [hseconds]
  exact h.one_sign

private theorem resolve_of_names {offset : Offset} (h : o.Names offset) :
    o.resolve arith = .ok offset := by
  obtain ⟨hvalid, heast⟩ := h
  have htotal : o.total.natAbs ≤ 64800 := hvalid.total_le
  have heq : (Int32.ofInt o.total).toInt = o.total := toInt_ofInt_of_bounds (by omega)
  have hfound : Offset.of? o.total = some offset := by
    rw [← heast, Offset.of?, dif_pos offset.bounded]
  rw [resolve_of_signed hvalid.toPartsSigned, addUp_of_fits hvalid.toPartsFit,
    total_eq hvalid.toPartsFit (by omega), Outcome.ok_bind, Arithmetic.require_eq (by omega),
    if_neg (by omega), Outcome.ok_bind, heq, hfound]
  rfl

private theorem resolve_of_refused {why : Refusal} (h : o.Refused why) :
    o.resolve arith = .refuse why := by
  cases h with
  | parts h bounded =>
    by_cases hsigned : PartsSigned o.hours.toInt o.minutes.toInt o.wholeSeconds
    · have hleast : o.minutes.toInt ≠ -2147483648 := fun hm => bounded (.minutes hsigned hm)
      rw [resolve_of_signed hsigned]
      by_cases hminutes : o.minutes.toInt.natAbs ≤ 59
      · have hseconds := toInt_seconds hsigned
        have hleast : o.wholeSeconds ≠ -2147483648 := fun hs =>
          bounded (.seconds hsigned hminutes hs)
        have hlarge : ¬ o.wholeSeconds.natAbs ≤ 59 := fun hs => h ⟨hsigned, hminutes, hs⟩
        rw [addUp_of_minutes hminutes, Arithmetic.require_eq (by omega), if_pos (by omega),
          Outcome.refuse_bind]
      · exact addUp_of_large_minutes hleast hminutes
    · exact resolve_of_not_signed hsigned
  | total fits h bounded =>
    have htotal : o.total.natAbs < 2147483648 := by
      by_contra hlarge
      exact bounded (.total fits (by omega))
    have heq : (Int32.ofInt o.total).toInt = o.total := toInt_ofInt_of_bounds (by omega)
    rw [resolve_of_signed fits.toPartsSigned, addUp_of_fits fits, total_eq fits htotal,
      Outcome.ok_bind, Arithmetic.require_eq (by omega), if_pos (by omega), Outcome.refuse_bind]

private theorem resolve_checked_of_overflows (h : o.Overflows) :
    o.resolve .checked = .error .overflow := by
  cases h with
  | minutes sign h =>
    rw [resolve_of_signed sign, addUp, Arithmetic.require_checked_of_least h,
      Outcome.overflow_bind]
  | seconds sign minutes_le h =>
    have hseconds := toInt_seconds sign
    rw [resolve_of_signed sign, addUp_of_minutes minutes_le,
      Arithmetic.require_checked_of_least (hseconds.trans h), Outcome.overflow_bind]
  | total fits h =>
    rw [resolve_of_signed fits.toPartsSigned, addUp_of_fits fits]
    by_cases hleast : o.total = -2147483648
    · -- The total itself fits, and has no magnitude.
      have hseconds := toInt_seconds fits.toPartsSigned
      have htotal : Arithmetic.checked.total o.hours o.minutes (Int32.ofInt o.wholeSeconds) =
          .ok (Int32.ofInt o.total) := by
        refine Arithmetic.total_eq ?_ (by rw [hseconds]; rfl) (by omega)
        rw [hseconds]
        exact fits.one_sign
      have heq : (Int32.ofInt o.total).toInt = -2147483648 := by
        rw [toInt_ofInt_of_bounds (by omega), hleast]
      rw [htotal, Outcome.ok_bind, Arithmetic.require_checked_of_least heq, Outcome.overflow_bind]
    · have hseconds := toInt_seconds fits.toPartsSigned
      rw [Arithmetic.total_checked, Outcome.overflow_bind]
      rw [hseconds]
      change ¬ (-2147483648 ≤ o.total ∧ o.total ≤ 2147483647)
      omega

private theorem exists_names_of_isValid (h : o.IsValid) : ∃ offset, o.Names offset := by
  have hbounded := h.total_le
  exact ⟨⟨o.total, by unfold total; omega⟩, h, rfl⟩

private theorem IsValid.not_overflows (h : o.IsValid) : ¬ o.Overflows := by
  have hminutes := h.minutes_le
  have hseconds := h.seconds_le
  have htotal : o.total.natAbs ≤ 64800 := h.total_le
  rintro (⟨-, hleast⟩ | ⟨-, -, hleast⟩ | ⟨-, hlarge⟩) <;> omega

private theorem named_refused_or_overflows (o : ZoneOffset) :
    (∃ offset, o.Names offset) ∨ (∃ why, o.Refused why) ∨ o.Overflows := by
  by_cases hoverflows : o.Overflows
  · exact .inr (.inr hoverflows)
  · by_cases hfits : o.Fits
    · by_cases htotal : o.total.natAbs ≤ 64800
      · exact .inl (exists_names_of_isValid ⟨hfits, htotal⟩)
      · exact .inr (.inl ⟨_, .total hfits (by omega) hoverflows⟩)
    · exact .inr (.inl ⟨_, .parts hfits hoverflows⟩)

theorem resolve_checked_settles (o : ZoneOffset) :
    (o.resolve .checked).Settles o.Names o.Refused o.Overflows :=
  Outcome.settles (fun _ => resolve_of_names) (fun _ => resolve_of_refused)
    resolve_checked_of_overflows o.named_refused_or_overflows

/-- Both arithmetics come to the same as long as 32 bits suffice. -/
theorem resolve_eq_checked (h : arith = .wrapping → ¬ o.Overflows) :
    o.resolve arith = o.resolve .checked := by
  cases arith with
  | checked => rfl
  | wrapping =>
    rcases o.named_refused_or_overflows with ⟨offset, hnames⟩ | ⟨why, hrefused⟩ | hoverflows
    · rw [resolve_of_names hnames, resolve_of_names hnames]
    · rw [resolve_of_refused hrefused, resolve_of_refused hrefused]
    · exact absurd hoverflows (h rfl)

private theorem require_wrapping_fails {why : Refusal} (h : why.ofContent = true) (bound : Int)
    (i : Int32) : (Arithmetic.wrapping.require bound why i).FailsOnly (BadContent False) := by
  rw [Arithmetic.require]
  refine FailsOnly.bind (.ok _) fun magnitude => ?_
  split
  · exact .error (.refused h)
  · exact .ok ()

private theorem resolve_wrapping_fails (o : ZoneOffset) :
    (o.resolve .wrapping).FailsOnly (BadContent False) := by
  by_cases hsigned : PartsSigned o.hours.toInt o.minutes.toInt o.wholeSeconds
  · rw [resolve_of_signed hsigned, addUp]
    refine (require_wrapping_fails rfl _ _).bind fun _ => ?_
    refine (require_wrapping_fails rfl _ _).bind fun _ => ?_
    refine FailsOnly.bind (.ok _) fun east => ?_
    exact (require_wrapping_fails rfl _ _).bind fun _ => .orRefuse (.refused rfl) _
  · rw [resolve_of_not_signed hsigned]
    exact .error (.refused rfl)

private theorem Refused.ofContent {why : Refusal} (h : o.Refused why) : why.ofContent = true := by
  cases h <;> rfl

theorem resolve_fails (arith : Arithmetic) (o : ZoneOffset) :
    (o.resolve arith).FailsOnly (BadContent (arith = .checked ∧ o.Overflows)) := by
  cases arith with
  | checked =>
    refine (o.resolve_checked_settles.failsOnly fun _ => Refused.ofContent).mono fun _ h => ?_
    exact h.mono fun hoverflows => ⟨rfl, hoverflows⟩
  | wrapping => exact o.resolve_wrapping_fails.mono fun _ h => h.mono False.elim

theorem ofContent_of_refused {why : Refusal} (h : o.resolve arith = .refuse why) :
    why.ofContent = true := by
  cases failsOnly_iff.mp (o.resolve_fails arith) _ h with
  | refused hwhy => exact hwhy

theorem resolve_overflow_iff :
    o.resolve arith = .error .overflow ↔ arith = .checked ∧ o.Overflows := by
  constructor
  · intro h
    cases failsOnly_iff.mp (o.resolve_fails arith) .overflow h with
    | overflow hoverflows => exact hoverflows
  · rintro ⟨rfl, h⟩
    exact resolve_checked_of_overflows h

private theorem exists_resolve_checked_iff :
    (∃ offset, o.resolve .checked = .ok offset) ↔ o.IsValid := by
  constructor
  · rintro ⟨offset, h⟩
    exact ((o.resolve_checked_settles.1 offset).mp h).valid
  · intro h
    obtain ⟨offset, hnames⟩ := exists_names_of_isValid h
    exact ⟨offset, resolve_of_names hnames⟩

/-- Every part of the one record is the opposite of that of the other. -/
structure Opposes (o o' : ZoneOffset) : Prop where
  hours : o'.hours.toInt = -o.hours.toInt
  minutes : o'.minutes.toInt = -o.minutes.toInt
  seconds : o'.secondsNumber = -o.secondsNumber

private theorem Opposes.wholeSeconds (h : o.Opposes o') : o'.wholeSeconds = -o.wholeSeconds := by
  unfold ZoneOffset.wholeSeconds
  rw [h.seconds, roundAway_neg]

private theorem Opposes.names {offset : Offset} (h : o.Opposes o') (hnames : o.Names offset) :
    ∃ offset', o'.Names offset' ∧ offset'.east = -offset.east := by
  obtain ⟨hvalid, heast⟩ := hnames
  have hneg : o'.IsValid := by
    rw [IsValid, h.hours, h.minutes, h.wholeSeconds]
    exact hvalid.neg
  obtain ⟨offset', hnames'⟩ := exists_names_of_isValid hneg
  refine ⟨offset', hnames', ?_⟩
  rw [hnames'.east, heast, ZoneOffset.total, ZoneOffset.total, h.hours, h.minutes, h.wholeSeconds]
  omega

private theorem exists_parts {hours minutes seconds : Int} (h : IsOffset hours minutes seconds) :
    ∃ o : ZoneOffset, o.hours.toInt = hours ∧ o.minutes.toInt = minutes ∧
      o.wholeSeconds = seconds := by
  obtain ⟨⟨⟨hfits, hsign⟩, hminutes, hseconds⟩, htotal⟩ := h
  have hbound : seconds.natAbs < Decimal.mantissaBound :=
    Nat.lt_of_le_of_lt hseconds (by decide)
  refine ⟨⟨Int32.ofInt hours, Int32.ofInt minutes,
    some ⟨decide (seconds < 0), seconds.natAbs, 0, hbound⟩⟩,
    toInt_ofInt_of_bounds (by omega), toInt_ofInt_of_bounds (by omega), ?_⟩
  have hvalue : Decimal.toRat ⟨decide (seconds < 0), seconds.natAbs, 0, hbound⟩ = seconds := by
    have hsigned : Decimal.signed ⟨decide (seconds < 0), seconds.natAbs, 0, hbound⟩ = seconds := by
      simp only [Decimal.signed, decide_eq_true_eq]
      split <;> omega
    rw [Decimal.toRat, hsigned]
    simp
  change roundAway (Decimal.toRat ⟨decide (seconds < 0), seconds.natAbs, 0, hbound⟩) = seconds
  rw [hvalue, roundAway_intCast]

/-- A triple of parts is resolved to an offset if some record with these parts is, without leaving
32 bits. -/
def Produces (arith : Arithmetic) (parts : Int × Int × Int) (east : Int) : Prop :=
  ∃ (o : ZoneOffset) (offset : Offset), ¬ o.Overflows ∧
    (o.hours.toInt, o.minutes.toInt, o.wholeSeconds) = parts ∧
    o.resolve arith = .ok offset ∧ offset.east = east

private theorem produces_iff {hours minutes seconds east : Int} :
    Produces arith (hours, minutes, seconds) east ↔
      IsOffset hours minutes seconds ∧ 3600 * hours + 60 * minutes + seconds = east := by
  constructor
  · rintro ⟨o, offset, hbounded, hparts, hresolve, rfl⟩
    rw [resolve_eq_checked fun _ => hbounded] at hresolve
    obtain ⟨hvalid, heast⟩ := (o.resolve_checked_settles.1 offset).mp hresolve
    cases hparts
    exact ⟨hvalid, heast.symm⟩
  · rintro ⟨hoffset, rfl⟩
    obtain ⟨o, rfl, rfl, rfl⟩ := exists_parts hoffset
    obtain ⟨offset, hnames⟩ := exists_names_of_isValid hoffset
    exact ⟨o, offset, hnames.valid.not_overflows, rfl, resolve_of_names hnames, hnames.east⟩

private theorem existsUnique_produces {east : Int} (h : -64800 ≤ east ∧ east ≤ 64800) :
    ∃! parts, Produces arith parts east := by
  obtain ⟨hours, minutes, seconds, hoffset, htotal⟩ := exists_isOffset h
  refine ⟨(hours, minutes, seconds), produces_iff.mpr ⟨hoffset, htotal⟩, ?_⟩
  rintro ⟨hours', minutes', seconds'⟩ hproduces
  obtain ⟨hoffset', htotal'⟩ := produces_iff.mp hproduces
  obtain ⟨rfl, rfl, rfl⟩ := parts_unique hoffset' hoffset (htotal'.trans htotal.symm)
  rfl

end ZoneOffset

/-- By checked arithmetic, and by any as long as 32 bits suffice, an offset record resolves just if
its rounded seconds have 32 bits, its parts have one sign and make no more than eighteen hours, and
its minutes and seconds stay below sixty. Then it is what its parts make, and otherwise it is
refused, or checked arithmetic overflows. Opposite parts make the opposite offset, and every offset
of whole seconds within eighteen hours is made by exactly one triple of parts. -/
theorem zone_offset_is_total_of_parts (arith : Arithmetic) (o : ZoneOffset)
    (h : arith = .wrapping → ¬ o.Overflows) :
    ((∃ offset, o.resolve arith = .ok offset) ↔
      IsOffset o.hours.toInt o.minutes.toInt o.wholeSeconds) ∧
      (∀ offset, o.resolve arith = .ok offset →
        offset.east = 3600 * o.hours.toInt + 60 * o.minutes.toInt + o.wholeSeconds) ∧
      (o.resolve arith).Settles o.Names o.Refused o.Overflows ∧
      (∀ o' offset, o.Opposes o' → o.resolve arith = .ok offset →
        ∃ offset', o'.resolve arith = .ok offset' ∧ offset'.east = -offset.east) ∧
      ∀ east : Int, -64800 ≤ east ∧ east ≤ 64800 →
        ∃! parts, ZoneOffset.Produces arith parts east := by
  have hsettles := o.resolve_checked_settles
  rw [ZoneOffset.resolve_eq_checked h]
  refine ⟨ZoneOffset.exists_resolve_checked_iff, fun offset h => ((hsettles.1 offset).mp h).east,
    hsettles, fun o' offset hopposes h => ?_, fun east h => ZoneOffset.existsUnique_produces h⟩
  obtain ⟨offset', hnames', heast⟩ := hopposes.names ((hsettles.1 offset).mp h)
  exact ⟨offset', ZoneOffset.resolve_of_names hnames', heast⟩

/-- Half a second is rounded away from zero on either side. -/
theorem zone_offset_is_total_of_parts_half :
    let o : ZoneOffset := ⟨1, 0, some ⟨false, 295, 1, by decide⟩⟩
    let opposite : ZoneOffset := ⟨-1, 0, some ⟨true, 295, 1, by decide⟩⟩
    ¬ o.Overflows ∧ o.Opposes opposite ∧ o.resolve .wrapping = .ok ⟨3630, by decide⟩ ∧
      (∃ offset, opposite.resolve .wrapping = .ok offset ∧ offset.east = -3630) ∧
      ∃! parts, ZoneOffset.Produces .wrapping parts 3630 := by
  intro o opposite
  have hresolve : ∀ arith, o.resolve arith = .ok ⟨3630, by decide⟩ := by
    intro arith
    dsimp only [o]
    cases arith <;> rfl
  have hbounded : ¬ o.Overflows := by
    rw [← o.resolve_checked_settles.overflow_iff, hresolve]
    nofun
  have hopposes : o.Opposes opposite := by
    refine ⟨rfl, rfl, ?_⟩
    simp [ZoneOffset.secondsNumber, Decimal.toRat_eq, o, opposite]
  obtain ⟨-, -, -, hopposite, hunique⟩ :=
    zone_offset_is_total_of_parts .wrapping o fun _ => hbounded
  exact ⟨hbounded, hopposes, hresolve _, hopposite opposite _ hopposes (hresolve _),
    hunique 3630 (by decide)⟩

/-- Rounding comes first: four tenths to the west are nothing, and 59.5 seconds are a minute. -/
example :
    ZoneOffset.resolve .checked ⟨1, 0, some ⟨true, 4, 1, by decide⟩⟩ = .ok ⟨3600, by decide⟩ ∧
      let o : ZoneOffset := ⟨1, 0, some ⟨false, 595, 1, by decide⟩⟩
      o.resolve .checked = .refuse (.zoneOffset o) :=
  ⟨rfl, rfl⟩

/-- More hours than 32 bits count in seconds: the low bits of the product name another offset. -/
example :
    let o : ZoneOffset := ⟨1193047, 0, none⟩
    o.resolve .checked = .error .overflow ∧ o.resolve .wrapping = .ok ⟨1904, by decide⟩ :=
  ⟨rfl, rfl⟩

end SqlBinding
