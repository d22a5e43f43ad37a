import Mathlib.Data.List.Basic
import SqlBinding.Proofs.Array.ScalarLift
import SqlBinding.Proofs.Calendar.DayNumbers
import SqlBinding.Proofs.Calendar.ExactSeconds
import SqlBinding.Proofs.Calendar.ZoneOffsets

/-!
# Civil date-times by their parts

A civil date-time names just what its parts say, or is refused for the first part that names
nothing: its date, its time, its offset. Whether it has an offset decides alone if the result has
one, and then the result stands for the instant that lies so much earlier in UTC. A time of day is
resolved by the same rules without a date, and a date is bound without a look at the rest.
-/

namespace SqlBinding

open Calendar Outcome

/-- The number of seconds that a record gives; an absent value is zero. -/
def secondsGiven (second : Option Decimal) : Decimal := second.getD .zero

/-- Seconds without a minus sign that lie in a minute and do not fill up a second by rounding. -/
def SecondSplits (second : Option Decimal) : Prop :=
  (secondsGiven second).negative = false ∧ SplitsInMinute (secondsGiven second).toRat

private theorem splitSeconds_getD (second : Option Decimal) :
    splitSeconds second = splitSeconds (some (secondsGiven second)) := by
  cases second <;> rfl

private theorem splitSeconds_of_secondSplits {second : Option Decimal} (h : SecondSplits second) :
    splitSeconds second = .ok (⌊(secondsGiven second).toRat⌋.toNat,
      (billionths (secondsGiven second).toRat).toNat) := by
  rw [splitSeconds_getD]
  exact splitSeconds_of_splits (fun _ => h.1) h.2

private theorem splitSeconds_of_not_secondSplits {second : Option Decimal}
    (h : ¬ SecondSplits second) :
    splitSeconds second = .refuse (.second (secondsGiven second)) := by
  rw [splitSeconds_getD]
  cases hnegative : (secondsGiven second).negative with
  | true => exact splitSeconds_of_negative hnegative
  | false => exact splitSeconds_of_not_splits fun hsplits => h ⟨hnegative, hsplits⟩

structure IsClock (hour minute : UInt32) (second : Option Decimal) : Prop where
  hour_lt : hour.toNat < 24
  minute_lt : minute.toNat < 60
  splits : SecondSplits second

/-- A time of day with a given hour and minute, the floor of the seconds, and their fraction in
nanoseconds. -/
structure ShowsClock (t : Time) (hour minute : UInt32) (second : Option Decimal) : Prop where
  hour_eq : t.hour = hour.toNat
  minute_eq : t.minute = minute.toNat
  second_eq : (t.second : Int) = ⌊(secondsGiven second).toRat⌋
  nano_eq : (t.nano : Int) = billionths (secondsGiven second).toRat

/-- Seconds are looked at before hour and minute. -/
inductive ClockRefused (hour minute : UInt32) (second : Option Decimal) : Refusal → Prop
  | second (h : ¬ SecondSplits second) :
      ClockRefused hour minute second (.second (secondsGiven second))
  | clock {whole nano : Nat} (splits : SecondSplits second)
      (hwhole : (whole : Int) = ⌊(secondsGiven second).toRat⌋)
      (hnano : (nano : Int) = billionths (secondsGiven second).toRat)
      (h : ¬ (hour.toNat < 24 ∧ minute.toNat < 60)) :
      ClockRefused hour minute second (.time hour minute whole nano)

section

variable {hour minute : UInt32} {second : Option Decimal}

private theorem SecondSplits.parts (h : SecondSplits second) :
    (⌊(secondsGiven second).toRat⌋.toNat : Int) = ⌊(secondsGiven second).toRat⌋ ∧
      ((billionths (secondsGiven second).toRat).toNat : Int) =
        billionths (secondsGiven second).toRat ∧
      ⌊(secondsGiven second).toRat⌋.toNat < 60 ∧
      (billionths (secondsGiven second).toRat).toNat < 1000000000 := by
  obtain ⟨hwhole, hnano, -⟩ := h.2.parts
  have hminute : ⌊(secondsGiven second).toRat⌋ < 60 := Int.floor_lt.mpr h.2.2.1
  have hnonneg := billionths_nonneg (secondsGiven second).toRat
  refine ⟨hwhole, Int.toNat_of_nonneg hnonneg, by omega, hnano⟩

private theorem IsClock.exists_shows (h : IsClock hour minute second) :
    ∃ t, ShowsClock t hour minute second := by
  obtain ⟨hwhole, hnano, hwhole_lt, hnano_lt⟩ := h.splits.parts
  exact ⟨⟨hour.toNat, minute.toNat, _, _, h.hour_lt, h.minute_lt, hwhole_lt, .inl hnano_lt⟩,
    rfl, rfl, hwhole, hnano⟩

private theorem resolveClock_of_shows (hclock : IsClock hour minute second) {t : Time}
    (h : ShowsClock t hour minute second) : resolveClock hour minute second = .ok t := by
  obtain ⟨hwhole, hnano, -⟩ := hclock.splits.parts
  have hsecond := h.second_eq
  have hfraction := h.nano_eq
  have htime : Time.of? hour.toNat minute.toNat ⌊(secondsGiven second).toRat⌋.toNat
      (billionths (secondsGiven second).toRat).toNat = some t :=
    Time.of?_eq_some_iff.mpr ⟨h.hour_eq, h.minute_eq, by omega, by omega⟩
  rw [resolveClock, splitSeconds_of_secondSplits hclock.splits, Outcome.ok_bind]
  dsimp only
  rw [htime]
  rfl

private theorem resolveClock_of_refused {why : Refusal} (h : ClockRefused hour minute second why) :
    resolveClock hour minute second = .refuse why := by
  cases h with
  | second h =>
    rw [resolveClock, splitSeconds_of_not_secondSplits h, Outcome.refuse_bind]
  | @clock whole nano splits hwhole hnano h =>
    have hparts := splits.parts
    have hwhole' : ⌊(secondsGiven second).toRat⌋.toNat = whole := by omega
    have hnano' : (billionths (secondsGiven second).toRat).toNat = nano := by omega
    have hnone : Time.of? hour.toNat minute.toNat whole nano = none := by
      rw [Time.of?, dif_neg]
      exact fun htime => h ⟨htime.1, htime.2.1⟩
    rw [resolveClock, splitSeconds_of_secondSplits splits, Outcome.ok_bind]
    dsimp only
    rw [hwhole', hnano', hnone]
    rfl

private theorem ClockRefused.ofContent {why : Refusal} (h : ClockRefused hour minute second why) :
    why.ofContent = true := by
  cases h <;> rfl

private theorem isClock_or_refused (hour minute : UInt32) (second : Option Decimal) :
    IsClock hour minute second ∨ ∃ why, ClockRefused hour minute second why := by
  by_cases hsplits : SecondSplits second
  · by_cases hclock : hour.toNat < 24 ∧ minute.toNat < 60
    · exact .inl ⟨hclock.1, hclock.2, hsplits⟩
    · obtain ⟨hwhole, hnano, -⟩ := hsplits.parts
      exact .inr ⟨_, .clock hsplits hwhole hnano hclock⟩
  · exact .inr ⟨_, .second hsplits⟩

end

namespace TimeOfDay

/-- The time that a record names: with its offset, or without one if it has none. -/
inductive Names (arith : Arithmetic) (t : TimeOfDay) : TimeValue → Prop
  | naive {time : Time} (h : t.offset = none) (clock : IsClock t.hour t.minute t.second)
      (shows : ShowsClock time t.hour t.minute t.second) : Names arith t (.naive time)
  | zoned {o : ZoneOffset} {time : OffsetTime} (h : t.offset = some o)
      (clock : IsClock t.hour t.minute t.second)
      (shows : ShowsClock time.time t.hour t.minute t.second)
      (offset : o.resolve arith = .ok time.offset) : Names arith t (.withOffset time)

/-- The offset is looked at after the clock. -/
inductive Refused (arith : Arithmetic) (t : TimeOfDay) : Refusal → Prop
  | clock {why : Refusal} (refused : ClockRefused t.hour t.minute t.second why) :
      Refused arith t why
  | offset {o : ZoneOffset} {why : Refusal} (clock : IsClock t.hour t.minute t.second)
      (h : t.offset = some o) (refused : o.resolve arith = .refuse why) : Refused arith t why

/-- A clock with an offset whose arithmetic overflows. -/
inductive Overflows (arith : Arithmetic) (t : TimeOfDay) : Prop
  | offset {o : ZoneOffset} (clock : IsClock t.hour t.minute t.second) (h : t.offset = some o)
      (checked : arith = .checked) (overflows : o.Overflows)

structure IsValid (arith : Arithmetic) (t : TimeOfDay) : Prop where
  hour_lt : t.hour.toNat < 24
  minute_lt : t.minute.toNat < 60
  splits : SecondSplits t.second
  offset : ∀ o, t.offset = some o → ∃ offset, o.resolve arith = .ok offset

variable {arith : Arithmetic} {t : TimeOfDay}

private theorem resolve_of_clock (clock : IsClock t.hour t.minute t.second) {time : Time}
    (shows : ShowsClock time t.hour t.minute t.second) :
    t.resolve arith = match t.offset with
      | none => .ok (.naive time)
      | some o => do return .withOffset ⟨time, ← o.resolve arith⟩ := by
  rw [resolve, resolveClock_of_shows clock shows, Outcome.ok_bind]
  rfl

theorem resolve_of_names {v : TimeValue} (h : t.Names arith v) : t.resolve arith = .ok v := by
  cases h with
  | naive h clock shows => rw [resolve_of_clock clock shows, h]
  | zoned h clock shows offset =>
    rw [resolve_of_clock clock shows, h]
    dsimp only
    rw [offset, Outcome.ok_bind]
    rfl

private theorem resolve_of_refused {why : Refusal} (h : t.Refused arith why) :
    t.resolve arith = .refuse why := by
  cases h with
  | clock refused => rw [resolve, resolveClock_of_refused refused, Outcome.refuse_bind]
  | offset clock h refused =>
    obtain ⟨time, shows⟩ := clock.exists_shows
    rw [resolve_of_clock clock shows, h]
    dsimp only
    rw [refused, Outcome.refuse_bind]

theorem resolve_of_overflows (h : t.Overflows arith) : t.resolve arith = .error .overflow := by
  obtain ⟨clock, h, checked, overflows⟩ := h
  obtain ⟨time, shows⟩ := clock.exists_shows
  rw [resolve_of_clock clock shows, h]
  dsimp only
  rw [ZoneOffset.resolve_overflow_iff.mpr ⟨checked, overflows⟩, Outcome.overflow_bind]

private theorem named_refused_or_overflows (arith : Arithmetic) (t : TimeOfDay) :
    (∃ v, t.Names arith v) ∨ (∃ why, t.Refused arith why) ∨ t.Overflows arith := by
  rcases isClock_or_refused t.hour t.minute t.second with clock | ⟨why, refused⟩
  · obtain ⟨time, shows⟩ := clock.exists_shows
    cases h : t.offset with
    | none => exact .inl ⟨_, .naive h clock shows⟩
    | some o =>
      rcases resolved_or_fails (o.resolve_fails arith) with
        ⟨offset, hoffset⟩ | ⟨why, refused⟩ | hoverflow
      · exact .inl ⟨.withOffset ⟨time, offset⟩, .zoned h clock shows hoffset⟩
      · exact .inr (.inl ⟨why, .offset clock h refused⟩)
      · obtain ⟨checked, overflows⟩ := ZoneOffset.resolve_overflow_iff.mp hoverflow
        exact .inr (.inr (.offset clock h checked overflows))
  · exact .inr (.inl ⟨why, .clock refused⟩)

theorem resolve_settles (arith : Arithmetic) (t : TimeOfDay) :
    (t.resolve arith).Settles (t.Names arith) (t.Refused arith) (t.Overflows arith) :=
  Outcome.settles (fun _ => resolve_of_names) (fun _ => resolve_of_refused) resolve_of_overflows
    (t.named_refused_or_overflows arith)

private theorem Refused.ofContent {why : Refusal} (h : t.Refused arith why) :
    why.ofContent = true := by
  cases h with
  | clock refused => exact refused.ofContent
  | offset clock h refused => exact ZoneOffset.ofContent_of_refused refused

theorem resolve_fails (arith : Arithmetic) (t : TimeOfDay) :
    (t.resolve arith).FailsOnly (BadContent (t.Overflows arith)) :=
  (t.resolve_settles arith).failsOnly fun _ => Refused.ofContent

private theorem exists_names_iff : (∃ v, t.Names arith v) ↔ t.IsValid arith := by
  constructor
  · rintro ⟨v, h⟩
    cases h with
    | naive h clock shows =>
      exact ⟨clock.hour_lt, clock.minute_lt, clock.splits, by simp [h]⟩
    | zoned h clock shows offset =>
      refine ⟨clock.hour_lt, clock.minute_lt, clock.splits, fun o ho => ?_⟩
      rw [h] at ho
      cases ho
      exact ⟨_, offset⟩
  · intro h
    have clock : IsClock t.hour t.minute t.second := ⟨h.hour_lt, h.minute_lt, h.splits⟩
    obtain ⟨time, shows⟩ := clock.exists_shows
    cases ho : t.offset with
    | none => exact ⟨_, .naive ho clock shows⟩
    | some o =>
      obtain ⟨offset, hoffset⟩ := h.offset o ho
      exact ⟨.withOffset ⟨time, offset⟩, .zoned ho clock shows hoffset⟩

end TimeOfDay

namespace CivilDateTime

def IsDay (c : CivilDateTime) : Prop := IsDate c.year.toInt c.month.toNat c.day.toNat

instance : DecidablePred IsDay := fun c =>
  inferInstanceAs (Decidable (IsDate c.year.toInt c.month.toNat c.day.toNat))

/-- A local date-time with the date and the clock of a record. -/
structure Shows (c : CivilDateTime) (wall : DateTime) : Prop where
  year : wall.date.year = c.year.toInt
  month : wall.date.month = c.month.toNat
  day : wall.date.day = c.day.toNat
  clock : ShowsClock wall.time c.hour c.minute c.second

/-- A date and a clock. -/
structure IsWall (c : CivilDateTime) : Prop where
  date : c.IsDay
  clock : IsClock c.hour c.minute c.second

/-- The date-time that a record names: with its offset, and then the instant that lies so much
earlier in UTC, or without one if it has none. -/
inductive Names (arith : Arithmetic) (c : CivilDateTime) : TimestampValue → Prop
  | naive {wall : DateTime} (h : c.offset = none) (isWall : c.IsWall) (shows : c.Shows wall) :
      Names arith c (.naive wall)
  | zoned {o : ZoneOffset} {time : OffsetDateTime} (h : c.offset = some o) (isWall : c.IsWall)
      (shows : c.Shows time.wall) (offset : o.resolve arith = .ok time.offset)
      (instant : time.instant.utc.nanos = time.wall.nanos - time.offset.east * 1000000000) :
      Names arith c (.withOffset time)

/-- The date is looked at first, then the clock, then the offset, and at last whether the range of
years has the instant. -/
inductive Refused (arith : Arithmetic) (c : CivilDateTime) : Refusal → Prop
  | date (h : ¬ c.IsDay) : Refused arith c (.date c.date)
  | clock {why : Refusal} (date : c.IsDay)
      (refused : ClockRefused c.hour c.minute c.second why) : Refused arith c why
  | offset {o : ZoneOffset} {why : Refusal} (isWall : c.IsWall) (h : c.offset = some o)
      (refused : o.resolve arith = .refuse why) : Refused arith c why
  | shift {o : ZoneOffset} {offset : Offset} {wall : DateTime} (isWall : c.IsWall)
      (h : c.offset = some o) (hoffset : o.resolve arith = .ok offset) (shows : c.Shows wall)
      (beyond : ∀ utc, ¬ wall.Shifts offset utc) : Refused arith c (.civil c)

/-- A date and a clock with an offset whose arithmetic overflows. -/
inductive Overflows (arith : Arithmetic) (c : CivilDateTime) : Prop
  | offset {o : ZoneOffset} (isWall : c.IsWall) (h : c.offset = some o)
      (checked : arith = .checked) (overflows : o.Overflows)

structure IsValid (arith : Arithmetic) (c : CivilDateTime) : Prop where
  date : c.IsDay
  hour_lt : c.hour.toNat < 24
  minute_lt : c.minute.toNat < 60
  splits : SecondSplits c.second
  offset : ∀ o, c.offset = some o → ∃ offset, o.resolve arith = .ok offset ∧
    ∃ wall utc, c.Shows wall ∧ wall.Shifts offset utc

variable {arith : Arithmetic} {c : CivilDateTime} {wall : DateTime}

private theorem IsWall.exists_shows (h : c.IsWall) : ∃ wall, c.Shows wall := by
  obtain ⟨time, shows⟩ := h.clock.exists_shows
  exact ⟨⟨⟨c.year.toInt, c.month.toNat, c.day.toNat, h.date⟩, time⟩, rfl, rfl, rfl, shows⟩

private theorem Shows.resolve_date (h : c.Shows wall) : c.date.resolve = .ok wall.date := by
  have hdate : Date.of? c.year.toInt c.month.toNat c.day.toNat = some wall.date :=
    Date.of?_eq_some_iff.mpr ⟨h.year, h.month, h.day⟩
  rw [CivilDate.resolve]
  simp only [date, hdate]
  rfl

private theorem resolve_date_of_isDay (h : c.IsDay) :
    c.date.resolve = .ok ⟨c.year.toInt, c.month.toNat, c.day.toNat, h⟩ := by
  have hdate : Date.of? c.year.toInt c.month.toNat c.day.toNat =
      some ⟨c.year.toInt, c.month.toNat, c.day.toNat, h⟩ := dif_pos h
  rw [CivilDate.resolve]
  simp only [date, hdate]
  rfl

private theorem resolve_date_of_not_isDay (h : ¬ c.IsDay) :
    c.date.resolve = .refuse (.date c.date) := by
  have hnone : Date.of? c.year.toInt c.month.toNat c.day.toNat = none := dif_neg h
  rw [CivilDate.resolve]
  simp only [date, hnone]
  rfl

private theorem resolve_of_shows (hwall : c.IsWall) (h : c.Shows wall) :
    c.resolve arith = match c.offset with
      | none => .ok (.naive wall)
      | some o => do
        let offset ← o.resolve arith
        return .withOffset (← .orRefuse (.civil c) (OffsetDateTime.of? wall offset)) := by
  rw [resolve, h.resolve_date, Outcome.ok_bind, resolveClock_of_shows hwall.clock h.clock,
    Outcome.ok_bind]
  rfl

theorem resolve_of_names {v : TimestampValue} (h : c.Names arith v) : c.resolve arith = .ok v := by
  cases h with
  | naive h isWall shows => rw [resolve_of_shows isWall shows, h]
  | @zoned o time h isWall shows offset _ =>
    have hfound : OffsetDateTime.of? time.wall time.offset = some time :=
      OffsetDateTime.of?_eq_some_iff.mpr ⟨rfl, rfl⟩
    rw [resolve_of_shows isWall shows, h]
    dsimp only
    rw [offset, Outcome.ok_bind, hfound]
    rfl

private theorem resolve_of_refused {why : Refusal} (h : c.Refused arith why) :
    c.resolve arith = .refuse why := by
  cases h with
  | date h => rw [resolve, resolve_date_of_not_isDay h, Outcome.refuse_bind]
  | clock date refused =>
    rw [resolve, resolve_date_of_isDay date, Outcome.ok_bind, resolveClock_of_refused refused,
      Outcome.refuse_bind]
  | offset isWall h refused =>
    obtain ⟨wall, shows⟩ := isWall.exists_shows
    rw [resolve_of_shows isWall shows, h]
    dsimp only
    rw [refused, Outcome.refuse_bind]
  | @shift o offset wall isWall h hoffset shows beyond =>
    have hnone : OffsetDateTime.of? wall offset = none := by
      by_contra hsome
      obtain ⟨utc, hshift⟩ := OffsetDateTime.of?_ne_none_iff.mp hsome
      exact beyond utc hshift
    rw [resolve_of_shows isWall shows, h]
    dsimp only
    rw [hoffset, Outcome.ok_bind, hnone]
    rfl

theorem resolve_of_overflows (h : c.Overflows arith) : c.resolve arith = .error .overflow := by
  obtain ⟨isWall, h, checked, overflows⟩ := h
  obtain ⟨wall, shows⟩ := isWall.exists_shows
  rw [resolve_of_shows isWall shows, h]
  dsimp only
  rw [ZoneOffset.resolve_overflow_iff.mpr ⟨checked, overflows⟩, Outcome.overflow_bind]

private theorem named_refused_or_overflows (arith : Arithmetic) (c : CivilDateTime) :
    (∃ v, c.Names arith v) ∨ (∃ why, c.Refused arith why) ∨ c.Overflows arith := by
  by_cases hdate : c.IsDay
  · rcases isClock_or_refused c.hour c.minute c.second with clock | ⟨why, refused⟩
    · have isWall : c.IsWall := ⟨hdate, clock⟩
      obtain ⟨wall, shows⟩ := isWall.exists_shows
      cases h : c.offset with
      | none => exact .inl ⟨_, .naive h isWall shows⟩
      | some o =>
        rcases resolved_or_fails (o.resolve_fails arith) with
          ⟨offset, hoffset⟩ | ⟨why, refused⟩ | hoverflow
        · cases hfound : OffsetDateTime.of? wall offset with
          | some time =>
            obtain ⟨rfl, rfl⟩ := OffsetDateTime.of?_eq_some_iff.mp hfound
            exact .inl ⟨_, .zoned h isWall shows hoffset time.nanos_instant⟩
          | none =>
            refine .inr (.inl ⟨_, .shift isWall h hoffset shows fun utc hshift => ?_⟩)
            exact OffsetDateTime.of?_ne_none_iff.mpr ⟨utc, hshift⟩ hfound
        · exact .inr (.inl ⟨why, .offset isWall h refused⟩)
        · obtain ⟨checked, overflows⟩ := ZoneOffset.resolve_overflow_iff.mp hoverflow
          exact .inr (.inr (.offset isWall h checked overflows))
    · exact .inr (.inl ⟨why, .clock hdate refused⟩)
  · exact .inr (.inl ⟨_, .date hdate⟩)

theorem resolve_settles (arith : Arithmetic) (c : CivilDateTime) :
    (c.resolve arith).Settles (c.Names arith) (c.Refused arith) (c.Overflows arith) :=
  Outcome.settles (fun _ => resolve_of_names) (fun _ => resolve_of_refused) resolve_of_overflows
    (c.named_refused_or_overflows arith)

private theorem Refused.ofContent {why : Refusal} (h : c.Refused arith why) :
    why.ofContent = true := by
  cases h with
  | date => rfl
  | clock date refused => exact refused.ofContent
  | offset isWall h refused => exact ZoneOffset.ofContent_of_refused refused
  | shift => rfl

theorem resolve_fails (arith : Arithmetic) (c : CivilDateTime) :
    (c.resolve arith).FailsOnly (BadContent (c.Overflows arith)) :=
  (c.resolve_settles arith).failsOnly fun _ => Refused.ofContent

private theorem exists_names_iff : (∃ v, c.Names arith v) ↔ c.IsValid arith := by
  constructor
  · rintro ⟨v, h⟩
    cases h with
    | naive h isWall shows =>
      obtain ⟨date, clock⟩ := isWall
      exact ⟨date, clock.hour_lt, clock.minute_lt, clock.splits, by simp [h]⟩
    | @zoned o time h isWall shows offset instant =>
      obtain ⟨date, clock⟩ := isWall
      refine ⟨date, clock.hour_lt, clock.minute_lt, clock.splits, fun o' ho => ?_⟩
      rw [h] at ho
      cases ho
      exact ⟨_, offset, _, _, shows, time.consistent⟩
  · intro h
    have isWall : c.IsWall := ⟨h.date, h.hour_lt, h.minute_lt, h.splits⟩
    cases ho : c.offset with
    | none =>
      obtain ⟨wall, shows⟩ := isWall.exists_shows
      exact ⟨_, .naive ho isWall shows⟩
    | some o =>
      obtain ⟨offset, hoffset, wall, utc, shows, hshift⟩ := h.offset o ho
      have hfound := OffsetDateTime.of?_ne_none_iff.mpr ⟨utc, hshift⟩
      obtain ⟨time, htime⟩ := Option.ne_none_iff_exists'.mp hfound
      obtain ⟨rfl, rfl⟩ := OffsetDateTime.of?_eq_some_iff.mp htime
      exact ⟨_, .zoned ho isWall shows hoffset time.nanos_instant⟩

end CivilDateTime

/-- The first half hour of a year in the east is still in the year before in UTC. -/
example :
    CivilDateTime.resolve .checked ⟨2022, 1, 1, 0, 30, none, some ⟨1, 0, none⟩⟩ =
      .ok (.withOffset ⟨⟨⟨2022, 1, 1, by decide⟩, ⟨0, 30, 0, 0, by decide⟩⟩, ⟨3600, by decide⟩,
        ⟨⟨2021, 12, 31, by decide⟩, ⟨23, 30, 0, 0, by decide⟩⟩, by decide⟩) := by
  with_unfolding_all rfl

/-- The first half hour of all years has no instant in UTC with an offset to the east. -/
example :
    let c : CivilDateTime := ⟨.ofInt minYear, 1, 1, 0, 30, none, some ⟨1, 0, none⟩⟩
    c.resolve .checked = .refuse (.civil c) := by
  with_unfolding_all rfl

end SqlBinding
