import Mathlib.Algebra.Order.Floor.Ring
import Mathlib.Tactic.FieldSimp
import SqlBinding.Proofs.Array.ScalarLift
import SqlBinding.Proofs.Calendar.CivilParts
import SqlBinding.Proofs.Calendar.HostValues
import SqlBinding.Proofs.Calendar.IsoTexts

/-!
# Texts and records of one content

A date, a time of day or a timestamp can stand in an array as its ISO text or as the record of its
parts. Both forms come to the same element, a short fraction and a left out second included, and so
two arrays whose elements have the same content in whatever forms are one array.
-/

namespace SqlBinding

open Calendar (ClockReading Date IsDate isoDateTimeText)
open Text (Amid)

namespace Calendar.ClockReading

variable {r : ClockReading} {second : Option Decimal}

/-- The seconds of a clock with their fraction. -/
def seconds (r : ClockReading) : ℚ := r.second + r.fraction / tenPow r.places

private theorem floor_seconds (r : ClockReading) : ⌊r.seconds⌋ = r.second := by
  have hpower : (0 : ℚ) < tenPow r.places := Nat.cast_pos.mpr (tenPow_pos _)
  have hnonneg : (0 : ℚ) ≤ r.fraction / tenPow r.places :=
    div_nonneg (Nat.cast_nonneg _) hpower.le
  have hlt : (r.fraction : ℚ) / tenPow r.places < 1 := by
    rw [div_lt_one hpower]
    exact Nat.cast_lt.mpr r.fraction_lt
  rw [Int.floor_eq_iff, seconds, Int.cast_natCast]
  constructor
  · linarith
  · linarith

private theorem fract_seconds (r : ClockReading) :
    Int.fract r.seconds = r.fraction / tenPow r.places := by
  rw [Int.fract, floor_seconds, seconds, Int.cast_natCast, add_sub_cancel_left]

private theorem billionths_seconds (r : ClockReading) : billionths r.seconds = r.time.nano := by
  have hpower : (0 : ℚ) < tenPow r.places := Nat.cast_pos.mpr (tenPow_pos _)
  have hbillion : (tenPow r.places : ℚ) * tenPow (9 - r.places) = 1000000000 := by
    exact_mod_cast r.tenPow_places_mul
  have hscaled : (r.fraction : ℚ) / tenPow r.places * 1000000000 = (r.time.nano : Int) := by
    rw [← hbillion, time]
    push_cast
    field_simp
  rw [billionths, fract_seconds, hscaled, Int.floor_eq_iff]
  constructor <;> linarith

/-- A decimal without a minus sign that is the seconds of a clock; its scale is free, and an absent
one is zero. -/
structure GivenBy (r : ClockReading) (second : Option Decimal) : Prop where
  negative : (secondsGiven second).negative = false
  value : (secondsGiven second).toRat = r.seconds

/-- The clock as a record without an offset. -/
def record (r : ClockReading) (second : Option Decimal) : TimeOfDay :=
  ⟨.ofNat r.hour, .ofNat r.minute, second, none⟩

private theorem GivenBy.isClock (h : r.GivenBy second) :
    IsClock (r.record second).hour (r.record second).minute second := by
  obtain ⟨hhour, hminute⟩ := r.time.toTimeOfDay_parts
  refine ⟨lt_of_eq_of_lt hhour r.hour_lt, lt_of_eq_of_lt hminute r.minute_lt, h.negative, ?_⟩
  rw [h.value]
  refine ⟨?_, ?_, ?_⟩
  · rw [← Int.floor_nonneg, floor_seconds]
    exact Int.natCast_nonneg _
  · have hminute : ⌊r.seconds⌋ < 60 := by
      rw [floor_seconds]
      exact Int.ofNat_lt.mpr r.second_lt
    exact Int.floor_lt.mp hminute
  · rw [billionths_seconds]
    exact Int.ofNat_lt.mpr r.nano_lt

private theorem GivenBy.shows (h : r.GivenBy second) :
    ShowsClock r.time (r.record second).hour (r.record second).minute second := by
  obtain ⟨hhour, hminute⟩ := r.time.toTimeOfDay_parts
  refine ⟨hhour.symm, hminute.symm, ?_, ?_⟩
  · rw [h.value, floor_seconds]
    rfl
  · rw [h.value, billionths_seconds]

/-- The seconds as a decimal with the places of the fraction. -/
def decimal (r : ClockReading) : Decimal where
  negative := false
  mantissa := r.second * tenPow r.places + r.fraction
  scale := r.places
  mantissa_lt := by
    have hfraction := r.fraction_lt
    have hsecond : r.second * tenPow r.places ≤ 59 * tenPow r.places :=
      Nat.mul_le_mul_right _ (Nat.le_of_lt_succ r.second_lt)
    have hpower : tenPow r.places ≤ tenPow 9 := tenPow_le_tenPow r.places_le
    have hbillion : tenPow 9 = 1000000000 := rfl
    simp only [Decimal.mantissaBound]
    omega

private theorem givenBy_decimal (r : ClockReading) : r.GivenBy (some r.decimal) := by
  have hpower : (tenPow r.places : ℚ) ≠ 0 := Nat.cast_ne_zero.mpr (tenPow_pos _).ne'
  refine ⟨rfl, ?_⟩
  change r.decimal.toRat = r.seconds
  rw [Decimal.toRat_of_nonneg rfl, decimal, seconds]
  push_cast
  field_simp

end Calendar.ClockReading

/-- A date as its text, if its year has at most four digits, or as its record. -/
inductive DateForm (d : Date) : Value → Prop
  | text {s : String} (year : d.HasShortYear) (h : Amid d.isoText s) : DateForm d (.text s)
  | record : DateForm d (.date d.toCivil)

/-- A clock reading as its text, which on the full minute may go without seconds, or as its record
without an offset. -/
inductive TimeForm (r : ClockReading) : Value → Prop
  | text {s : String} (h : Amid r.isoText s) : TimeForm r (.text s)
  | minute {s : String} (second : r.second = 0) (fraction : r.fraction = 0)
      (h : Amid r.minuteText s) : TimeForm r (.text s)
  | record {second : Option Decimal} (h : r.GivenBy second) :
      TimeForm r (.timeOfDay (r.record second))

/-- A date with a reading of whole seconds as its text or as its record without an offset. -/
inductive TimestampForm : Date × ClockReading → Value → Prop
  | text {d : Date} {r : ClockReading} {s : String} (year : d.HasShortYear)
      (whole : r.places = 0) (h : Amid (isoDateTimeText d r) s) : TimestampForm (d, r) (.text s)
  | record {d : Date} {r : ClockReading} {second : Option Decimal} (whole : r.places = 0)
      (h : r.GivenBy second) :
      TimestampForm (d, r) (.civil (.of d.toCivil (r.record second)))

private theorem toDate_of_form {d : Date} {v : Value} (h : DateForm d v) (type : SqlType) :
    v.toDate type = .ok d := by
  cases h with
  | text year h => exact Calendar.Date.resolve_isoText year h
  | record => exact d.resolve_toCivil

private theorem elementTime_of_form (arith : Arithmetic) {r : ClockReading} {v : Value}
    (h : TimeForm r v) (type : SqlType) :
    ArrayValue.elementTime arith type v = .ok (.naive r.time) := by
  cases h with
  | text h =>
    rw [ArrayValue.elementTime, Calendar.ClockReading.resolve_isoText h]
    rfl
  | minute second fraction h =>
    rw [ArrayValue.elementTime, Calendar.ClockReading.resolve_minuteText second fraction h]
    rfl
  | record h =>
    have hnames : (r.record _).Names arith _ := .naive rfl h.isClock h.shows
    exact TimeOfDay.resolve_of_names hnames

private theorem elementTimestamp_of_form (arith : Arithmetic) {x : Date × ClockReading} {v : Value}
    (h : TimestampForm x v) (type : SqlType) :
    ArrayValue.elementTimestamp arith type v = .ok (.naive ⟨x.1, x.2.time⟩) := by
  cases h with
  | text year whole h =>
    rw [ArrayValue.elementTimestamp, Calendar.resolve_isoDateTimeText year whole h]
    rfl
  | @record d r second whole h =>
    obtain ⟨hyear, hmonth, hday⟩ := d.toCivil_parts
    have hwall : (CivilDateTime.of d.toCivil (r.record second)).IsWall := by
      refine ⟨?_, h.isClock⟩
      change IsDate d.toCivil.year.toInt d.toCivil.month.toNat d.toCivil.day.toNat
      rw [hyear, hmonth, hday]
      exact d.isDate
    have hnames : (CivilDateTime.of d.toCivil (r.record second)).Names arith
        (.naive ⟨d, r.time⟩) := .naive rfl hwall ⟨hyear.symm, hmonth.symm, hday.symm, h.shows⟩
    exact CivilDateTime.resolve_of_names hnames

/-- Two nulls, one value twice, or two forms of one content. -/
inductive SameContent {δ : Type} (Form : δ → Value → Prop) : TypedValue → TypedValue → Prop
  | null {tag tag' : SqlType} : SameContent Form ⟨tag, none⟩ ⟨tag', none⟩
  | same {tag tag' : SqlType} {v : Value} : SameContent Form ⟨tag, some v⟩ ⟨tag', some v⟩
  | forms {tag tag' : SqlType} {x : δ} {v v' : Value} (h : Form x v) (h' : Form x v') :
      SameContent Form ⟨tag, some v⟩ ⟨tag', some v'⟩

private theorem collectPure_of_sameContent {δ α : Type} {Form : δ → Value → Prop}
    {convert : Value → Outcome α} {content : δ → α} {elements others : List TypedValue}
    (h : List.Forall₂ (SameContent Form) elements others)
    (hform : ∀ x v, Form x v → convert v = .ok (content x)) :
    ArrayValue.collectPure convert elements = ArrayValue.collectPure convert others := by
  induction h with
  | nil => rfl
  | cons first _ ih =>
    simp only [ArrayValue.collectPure] at ih ⊢
    cases first with
    | null => simp only [ArrayValue.collect, ih]
    | same => simp only [ArrayValue.collect, ih]
    | forms h h' => simp only [ArrayValue.collect, ih, hform _ _ h, hform _ _ h']

/-- What the forms of a content come to as elements of some types: the content, and one array. -/
structure FormLaw {δ α : Type} (arith : Arithmetic) (Form : δ → Value → Prop)
    (convert : SqlType → Value → Outcome α) (content : δ → α) (types : List SqlType) : Prop where
  element : ∀ x v, Form x v → ∀ type, convert type v = .ok (content x)
  array : ∀ type ∈ types, ∀ elements others, List.Forall₂ (SameContent Form) elements others →
    ∀ custom : CustomArrays,
      (ArrayValue.typed type elements).build arith custom =
        (ArrayValue.typed type others).build arith custom

private theorem date_formLaw (arith : Arithmetic) :
    FormLaw arith DateForm (fun type v => v.toDate type) id [.date] where
  element _ _ h type := toDate_of_form h type
  array type htype elements others h custom := by
    obtain rfl := List.mem_singleton.mp htype
    have hcollect := collectPure_of_sameContent h fun _ _ hform => toDate_of_form hform .date
    simp only [ArrayValue.build, ArrayValue.bindTyped, hcollect]

private theorem time_formLaw (arith : Arithmetic) :
    FormLaw arith TimeForm (ArrayValue.elementTime arith) (fun r => .naive r.time)
      [.time, .timeWithTimezone] where
  element _ _ h type := elementTime_of_form _ h type
  array type htype elements others h custom := by
    have hcollect := collectPure_of_sameContent h fun _ _ hform =>
      elementTime_of_form arith hform type
    have hbuild : ArrayValue.bindTimes arith type elements =
        ArrayValue.bindTimes arith type others := by
      rw [ArrayValue.bindTimes, hcollect, ArrayValue.bindTimes]
    simp only [List.mem_cons, List.not_mem_nil, or_false] at htype
    rcases htype with rfl | rfl <;> exact hbuild

private theorem timestamp_formLaw (arith : Arithmetic) :
    FormLaw arith TimestampForm (ArrayValue.elementTimestamp arith)
      (fun x => .naive ⟨x.1, x.2.time⟩) [.timestamp, .datetime, .timestampWithTimezone] where
  element _ _ h type := elementTimestamp_of_form _ h type
  array type htype elements others h custom := by
    have hcollect := collectPure_of_sameContent h fun _ _ hform =>
      elementTimestamp_of_form arith hform type
    have hbuild : ArrayValue.bindTimestamps arith type elements =
        ArrayValue.bindTimestamps arith type others := by
      rw [ArrayValue.bindTimestamps, hcollect, ArrayValue.bindTimestamps]
    simp only [List.mem_cons, List.not_mem_nil, or_false] at htype
    rcases htype with rfl | rfl | rfl <;> exact hbuild

/-- An ISO text and the record of the same parts are one element of a temporal array, and a date is
bound alone like that too. Blanks around a text are never looked at, whatever the text. -/
theorem iso_texts_denote_records (arith : Arithmetic) (σ : Type) [Connection σ] :
    FormLaw arith DateForm (fun type v => v.toDate type) id [.date] ∧
      (∀ d v, DateForm d v → BindsAlone arith σ .date v (.ok (.date d))) ∧
      FormLaw arith TimeForm (ArrayValue.elementTime arith) (fun r => .naive r.time)
        [.time, .timeWithTimezone] ∧
      FormLaw arith TimestampForm (ArrayValue.elementTimestamp arith)
        (fun x => .naive ⟨x.1, x.2.time⟩) [.timestamp, .datetime, .timestampWithTimezone] ∧
      (∀ r, TimeForm r (.text r.isoText) ∧
        TimeForm r (.timeOfDay (r.record (some r.decimal)))) ∧
      ∀ inner text, Amid inner text →
        (resolveDateText text).toOption = (resolveDateText inner).toOption ∧
        resolveTimeText text = resolveTimeText inner ∧
        (resolveTimestampText text).toOption = (resolveTimestampText inner).toOption := by
  refine ⟨date_formLaw arith, fun d v h => ?_, time_formLaw arith,
    timestamp_formLaw arith,
    fun r => ⟨.text (.refl _), .record r.givenBy_decimal⟩, fun _ _ => toOption_resolve_amid⟩
  refine bindsAlone_of_category rfl (congrArg Step.ofOutcome ?_)
  rw [bindDate, toDate_of_form h]
  rfl

/-- A text without seconds amid blanks and one with a short fraction, next to their records. -/
example (arith : Arithmetic) (custom : CustomArrays) :
    ((ArrayValue.typed .time [⟨.time, some (.text " 09:05 ")⟩, ⟨.time, none⟩,
      ⟨.time, some (.text "23:59:58.25")⟩]).build arith custom).run .exhausted =
    ((ArrayValue.typed .time [⟨.time, some (.timeOfDay ⟨9, 5, none, none⟩)⟩, ⟨.time, none⟩,
      ⟨.time, some (.timeOfDay ⟨23, 59, some ⟨false, 58250, 3, by decide⟩, none⟩)⟩]).build
        arith custom).run .exhausted := by
  with_unfolding_all rfl

end SqlBinding
