import Mathlib.Data.List.Basic
import Mathlib.Data.List.TakeWhile
import SqlBinding.Binding.Temporal
import SqlBinding.Proofs.Calendar.DayRange
import SqlBinding.Proofs.Calendar.PrintedTimes

/-!
# ISO texts of dates and times

The ISO text of a date of a four-digit year is read as the date, and that of a clock reading as the
reading, with seconds and a fraction of up to nine digits or, on the full minute, without them.
Blanks around a text have no part in what it is read as.
-/

namespace SqlBinding

namespace Text

variable {cs before after : List Char}

private theorem dropBlanks_of_blanks_before (h : ∀ c ∈ before, isBlank c = true) (cs : List Char) :
    dropBlanks (before ++ cs) = dropBlanks cs :=
  List.dropWhile_append_of_pos h

private theorem trim_of_blanks_before (h : ∀ c ∈ before, isBlank c = true) (cs : List Char) :
    trim (before ++ cs) = trim cs := by
  rw [trim, dropBlanks_of_blanks_before h, trim]

private theorem trim_of_blanks_after (h : ∀ c ∈ after, isBlank c = true) (cs : List Char) :
    trim (cs ++ after) = trim cs := by
  have hnone : dropBlanks after = [] := List.dropWhile_eq_nil_iff.mpr h
  have hdropped : dropBlanks (cs ++ after) =
      if (dropBlanks cs).isEmpty then dropBlanks after else dropBlanks cs ++ after :=
    List.dropWhile_append
  rw [trim, hdropped, trim]
  split
  · next hempty =>
    rw [hnone, List.isEmpty_iff.mp hempty]
  · have hreverse : dropBlanks (after.reverse ++ (dropBlanks cs).reverse) =
        dropBlanks (dropBlanks cs).reverse :=
      dropBlanks_of_blanks_before (fun c hc => h c (List.mem_reverse.mp hc)) _
    rw [List.reverse_append, hreverse]

/-- A text with blanks in front of it and behind it. -/
def Amid (inner text : String) : Prop :=
  ∃ before after : List Char, (∀ c ∈ before, isBlank c = true) ∧ (∀ c ∈ after, isBlank c = true) ∧
    text.toList = before ++ inner.toList ++ after

theorem Amid.refl (s : String) : Amid s s := ⟨[], [], nofun, nofun, by simp⟩

private theorem Amid.trim_eq {inner text : String} (h : Amid inner text) :
    trim text.toList = trim inner.toList := by
  obtain ⟨before, after, hbefore, hafter, htext⟩ := h
  rw [htext, trim_of_blanks_after hafter, trim_of_blanks_before hbefore]

/-- Characters with no blank at either end. -/
structure Compact (cs : List Char) : Prop where
  nonempty : cs ≠ []
  head : ∀ c ∈ cs.head?, isBlank c = false
  last : ∀ c ∈ cs.getLast?, isBlank c = false

private theorem dropBlanks_of_head (h : ∀ c ∈ cs.head?, isBlank c = false) :
    dropBlanks cs = cs := by
  cases cs with
  | nil => rfl
  | cons c cs => exact List.dropWhile_cons_of_neg (by simp [h c rfl])

private theorem Compact.trim_eq (h : Compact cs) : trim cs = cs := by
  have hlast : ∀ c ∈ cs.reverse.head?, isBlank c = false := by
    rw [List.head?_reverse]
    exact h.last
  rw [trim, dropBlanks_of_head h.head, dropBlanks_of_head hlast, List.reverse_reverse]

private theorem Compact.join {xs ys : List Char} (hx : Compact xs) (hy : Compact ys)
    (zs : List Char) :
    Compact (xs ++ (zs ++ ys)) := by
  refine ⟨?_, ?_, ?_⟩
  · exact List.append_ne_nil_of_left_ne_nil hx.nonempty _
  · rw [List.head?_append_of_ne_nil _ hx.nonempty]
    exact hx.head
  · rw [← List.append_assoc, List.getLast?_append_of_ne_nil _ hy.nonempty]
    exact hy.last

private theorem compact_zeroPadded (width n : Nat) : Compact (zeroPadded width n).toList := by
  have hblank : ∀ c ∈ (zeroPadded width n).toList, isBlank c = false := fun c hc =>
    not_isBlank_of_isDigit (isDigit_of_mem_zeroPadded hc)
  refine ⟨?_, ?_, ?_⟩
  · rw [toList_zeroPadded]
    exact List.append_ne_nil_of_right_ne_nil _ Nat.toDigits_ne_nil
  · intro c hc
    exact hblank c (List.mem_of_mem_head? hc)
  · intro c hc
    exact hblank c (List.mem_of_mem_getLast? hc)

end Text

/-- Blanks around a text decide neither whether it is read nor what it is read as. -/
theorem toOption_resolve_amid {inner text : String} (h : Text.Amid inner text) :
    (resolveDateText text).toOption = (resolveDateText inner).toOption ∧
      resolveTimeText text = resolveTimeText inner ∧
      (resolveTimestampText text).toOption = (resolveTimestampText inner).toOption := by
  refine ⟨?_, ?_, ?_⟩
  · rw [resolveDateText, resolveDateText, h.trim_eq]
    cases Calendar.Parser.readDate? (Text.trim inner.toList) <;> rfl
  · rw [resolveTimeText, resolveTimeText, h.trim_eq]
  · rw [resolveTimestampText, resolveTimestampText, h.trim_eq]
    cases Calendar.Parser.readDateTime? (Text.trim inner.toList) <;> rfl

namespace Calendar

open Text (zeroPadded Amid Compact)
open Calendar.Parser

namespace Date

variable {d : Date} {rest : List Char}

/-- A date as year, month and day, with four digits of the year. -/
def isoText (d : Date) : String :=
  zeroPadded 4 d.year.toNat ++ "-" ++ zeroPadded 2 d.month ++ "-" ++ zeroPadded 2 d.day

/-- The years that have at most four digits. -/
def HasShortYear (d : Date) : Prop := 0 ≤ d.year ∧ d.year ≤ 9999

private theorem toList_isoText (d : Date) : d.isoText.toList =
    (zeroPadded 4 d.year.toNat).toList ++ '-' :: ((zeroPadded 2 d.month).toList ++
      '-' :: (zeroPadded 2 d.day).toList) := by
  have hdash : ("-" : String).toList = ['-'] := rfl
  simp only [isoText, String.toList_append, hdash, List.append_assoc, List.cons_append,
    List.nil_append]

private theorem compact_isoText (d : Date) : Compact d.isoText.toList := by
  have hjoin := (Text.compact_zeroPadded 4 d.year.toNat).join (Text.compact_zeroPadded 2 d.day)
    ('-' :: ((zeroPadded 2 d.month).toList ++ ['-']))
  rw [toList_isoText]
  simpa using hjoin

private theorem month_day_lt (d : Date) : d.month < 13 ∧ d.day < 32 := by
  obtain ⟨-, -, hday, hlast⟩ := d.isDate
  have hmonth := daysInMonth_pos_iff.mp (Nat.lt_of_lt_of_le hday hlast)
  have hdays := daysInMonth_le d.year d.month
  omega

end Date

namespace Parser

variable {rest : List Char}

private theorem noDigit_nil : NoDigit [] := nofun

private theorem noDigit_dash (rest : List Char) : NoDigit ('-' :: rest) := by
  intro c hc
  cases hc
  rfl

private theorem year?_zeroPadded {n : Nat} (h : n ≤ 9999) (hrest : NoDigit rest) :
    year? ((zeroPadded 4 n).toList ++ rest) = some ((n : Int), rest) := by
  have hnumber := number?_zeroPadded (by decide : 0 < 4) (Nat.lt_succ_of_le h) hrest
  have hsign : ∀ c cs, c.isDigit = false → (zeroPadded 4 n).toList ++ rest ≠ c :: cs := by
    intro c cs hc heq
    have hempty := isEmpty_zeroPadded 4 n
    cases hdigits : (zeroPadded 4 n).toList with
    | nil =>
      rw [hdigits] at hempty
      cases hempty
    | cons digit digits =>
      have hdigit : digit.isDigit = true :=
        Text.isDigit_of_mem_zeroPadded (hdigits ▸ List.mem_cons_self)
      rw [hdigits, List.cons_append] at heq
      rw [(List.cons.inj heq).1, hc] at hdigit
      cases hdigit
  rw [year?, dropBlanks_zeroPadded]
  split
  · next heq => exact absurd heq (hsign '-' _ rfl)
  · next heq => exact absurd heq (hsign '+' _ rfl)
  · rw [hnumber]
    rfl

private theorem date?_isoText {d : Date} (hyear : d.HasShortYear) (hrest : NoDigit rest) :
    date? (d.isoText.toList ++ rest) = some (d, rest) := by
  obtain ⟨hmonth, hday⟩ := d.month_day_lt
  have hnat : ((d.year.toNat : Nat) : Int) = d.year := Int.toNat_of_nonneg hyear.1
  have hfirst := year?_zeroPadded (by have := hyear.2; omega : d.year.toNat ≤ 9999)
    (noDigit_dash ((zeroPadded 2 d.month).toList ++ '-' :: ((zeroPadded 2 d.day).toList ++ rest)))
  have hsecond := field?_zeroPadded hmonth (by omega)
    (noDigit_dash ((zeroPadded 2 d.day).toList ++ rest))
  have hthird := field?_zeroPadded hday (by omega) hrest
  have hdate : Date.of? d.year d.month d.day = some d :=
    Date.of?_eq_some_iff.mpr ⟨rfl, rfl, rfl⟩
  rw [Date.toList_isoText]
  simp only [List.append_assoc, List.cons_append, date?, hfirst, hsecond, hthird, after?_self,
    hnat, hdate, Option.bind_eq_bind, Option.bind_some, Option.pure_def]

end Parser

theorem Date.resolve_isoText {d : Date} (hyear : d.HasShortYear) {text : String}
    (h : Amid d.isoText text) : resolveDateText text = .ok d := by
  have hread : readDate? d.isoText.toList = some d := by
    have hdate := date?_isoText hyear noDigit_nil
    rw [List.append_nil] at hdate
    simp only [readDate?, hdate, whole, Option.bind_eq_bind, Option.bind_some]
  rw [resolveDateText, h.trim_eq, d.compact_isoText.trim_eq, hread]
  rfl

/-- A clock reading with a fraction of a second of up to nine digits. -/
structure ClockReading where
  hour : Nat
  minute : Nat
  second : Nat
  places : Nat
  fraction : Nat
  hour_lt : hour < 24
  minute_lt : minute < 60
  second_lt : second < 60
  places_le : places ≤ 9
  fraction_lt : fraction < tenPow places

namespace ClockReading

theorem tenPow_places_mul (r : ClockReading) :
    tenPow r.places * tenPow (9 - r.places) = 1000000000 := by
  rw [← tenPow_add, Nat.add_sub_cancel' r.places_le]
  rfl

theorem nano_lt (r : ClockReading) : r.fraction * tenPow (9 - r.places) < 1000000000 := by
  rw [← r.tenPow_places_mul]
  exact Nat.mul_lt_mul_of_pos_right r.fraction_lt (tenPow_pos _)

/-- The time of day that a clock shows. -/
def time (r : ClockReading) : Time where
  hour := r.hour
  minute := r.minute
  second := r.second
  nano := r.fraction * tenPow (9 - r.places)
  isTime := ⟨r.hour_lt, r.minute_lt, r.second_lt, .inl r.nano_lt⟩

def minuteText (r : ClockReading) : String := zeroPadded 2 r.hour ++ ":" ++ zeroPadded 2 r.minute

/-- A point and the digits behind it, if there are any. -/
def fractionText (r : ClockReading) : String :=
  if r.places = 0 then "" else "." ++ zeroPadded r.places r.fraction

def isoText (r : ClockReading) : String :=
  r.minuteText ++ ":" ++ zeroPadded 2 r.second ++ r.fractionText

variable {r : ClockReading} {rest : List Char}

private theorem toList_minuteText (r : ClockReading) : r.minuteText.toList =
    (zeroPadded 2 r.hour).toList ++ ':' :: (zeroPadded 2 r.minute).toList := by
  have hcolon : (":" : String).toList = [':'] := rfl
  simp only [minuteText, String.toList_append, hcolon, List.append_assoc, List.cons_append,
    List.nil_append]

private theorem toList_isoText (r : ClockReading) : r.isoText.toList =
    (zeroPadded 2 r.hour).toList ++ ':' :: ((zeroPadded 2 r.minute).toList ++
      ':' :: ((zeroPadded 2 r.second).toList ++ r.fractionText.toList)) := by
  have hcolon : (":" : String).toList = [':'] := rfl
  simp only [isoText, String.toList_append, toList_minuteText, hcolon, List.append_assoc,
    List.cons_append, List.nil_append]

private theorem toList_fractionText (r : ClockReading) (h : r.places ≠ 0) :
    r.fractionText.toList = '.' :: (zeroPadded r.places r.fraction).toList := by
  rw [fractionText, if_neg h, String.toList_append]
  rfl

private theorem noDigit_fractionText (r : ClockReading) : NoDigit r.fractionText.toList := by
  by_cases h : r.places = 0
  · rw [fractionText, if_pos h]
    exact nofun
  · rw [r.toList_fractionText h]
    intro c hc
    cases hc
    rfl

private theorem compact_minuteText (r : ClockReading) : Compact r.minuteText.toList := by
  have hjoin := (Text.compact_zeroPadded 2 r.hour).join (Text.compact_zeroPadded 2 r.minute) [':']
  rw [toList_minuteText]
  exact hjoin

private theorem compact_isoText (r : ClockReading) : Compact r.isoText.toList := by
  rw [toList_isoText]
  by_cases h : r.places = 0
  · have hjoin := r.compact_minuteText.join (Text.compact_zeroPadded 2 r.second) [':']
    rw [fractionText, if_pos h]
    simpa [toList_minuteText] using hjoin
  · have hjoin := r.compact_minuteText.join (Text.compact_zeroPadded r.places r.fraction)
      (':' :: ((zeroPadded 2 r.second).toList ++ ['.']))
    rw [r.toList_fractionText h]
    simpa [toList_minuteText] using hjoin

private theorem clock?_isoText (r : ClockReading) : clock? r.isoText.toList =
    some ((r.hour, r.minute, r.second), r.fractionText.toList) := by
  have hsecond_lt := r.second_lt
  have hfirst := hourMinute?_zeroPadded r.hour_lt r.minute_lt (noDigit_colon
    ((zeroPadded 2 r.second).toList ++ r.fractionText.toList))
  have hsecond := field?_zeroPadded (by omega : r.second < 61) (by omega) r.noDigit_fractionText
  rw [toList_isoText]
  simp only [clock?, hfirst, hsecond, after?_self, Option.bind_eq_bind, Option.bind_some,
    Option.pure_def]

private theorem fraction?_fractionText (r : ClockReading) :
    fraction? r.fractionText.toList = some (r.fraction * tenPow (9 - r.places), []) := by
  have hfraction := r.fraction_lt
  by_cases h : r.places = 0
  · have hzero : r.fraction = 0 := by
      rw [h, tenPow_zero] at hfraction
      omega
    rw [fractionText, if_pos h, hzero, Nat.zero_mul]
    rfl
  · have hread := fraction?_zeroPadded (Nat.pos_iff_ne_zero.mpr h) r.places_le hfraction
      noDigit_nil
    rw [List.append_nil] at hread
    rw [r.toList_fractionText h]
    exact hread

private theorem time?_parts (r : ClockReading) :
    time? r.hour r.minute r.second (r.fraction * tenPow (9 - r.places)) = some r.time := by
  have hsecond : r.second ≠ 60 := Nat.ne_of_lt r.second_lt
  rw [time?, if_neg hsecond]
  exact Time.of?_eq_some_iff.mpr ⟨rfl, rfl, rfl, rfl⟩

private theorem readTime?_isoText (r : ClockReading) :
    readTime? r.isoText.toList = some r.time := by
  have hread : readClock? r.isoText.toList = some r.time := by
    simp only [readClock?, r.clock?_isoText, r.fraction?_fractionText, whole, Option.bind_eq_bind,
      Option.bind_some, r.time?_parts]
  rw [readTime?, hread]
  rfl

/-- Without seconds the text is no clock with seconds, and so it is read as hour and minute. -/
private theorem readTime?_minuteText (hsecond : r.second = 0) (hfraction : r.fraction = 0) :
    readTime? r.minuteText.toList = some r.time := by
  have hclock := hourMinute?_zeroPadded r.hour_lt r.minute_lt noDigit_nil
  have htime := r.time?_parts
  rw [List.append_nil] at hclock
  rw [hsecond, hfraction, Nat.zero_mul] at htime
  rw [toList_minuteText]
  have hwith : readClock? ((zeroPadded 2 r.hour).toList ++ ':' :: (zeroPadded 2 r.minute).toList) =
      none := by
    simp only [readClock?, clock?, hclock, after?, Option.bind_eq_bind, Option.bind_some,
      Option.bind_none]
  have hwithout : readHourMinute?
      ((zeroPadded 2 r.hour).toList ++ ':' :: (zeroPadded 2 r.minute).toList) = some r.time := by
    simp only [readHourMinute?, hclock, whole, Option.bind_eq_bind, Option.bind_some, htime]
  rw [readTime?, hwith, hwithout]
  rfl

theorem resolve_isoText {text : String} (h : Amid r.isoText text) :
    resolveTimeText text = .ok r.time := by
  rw [resolveTimeText]
  simp only [h.trim_eq, r.compact_isoText.trim_eq, r.readTime?_isoText]
  rfl

theorem resolve_minuteText {text : String} (hsecond : r.second = 0) (hfraction : r.fraction = 0)
    (h : Amid r.minuteText text) : resolveTimeText text = .ok r.time := by
  rw [resolveTimeText]
  simp only [h.trim_eq, r.compact_minuteText.trim_eq, readTime?_minuteText hsecond hfraction]
  rfl

end ClockReading

/-- A date and a clock reading with a blank between them. -/
def isoDateTimeText (d : Date) (r : ClockReading) : String := d.isoText ++ " " ++ r.isoText

private theorem toList_isoDateTimeText (d : Date) (r : ClockReading) :
    (isoDateTimeText d r).toList = d.isoText.toList ++ ([' '] ++ r.isoText.toList) := by
  have hblank : (" " : String).toList = [' '] := rfl
  simp only [isoDateTimeText, String.toList_append, hblank, List.append_assoc]

private theorem readDateTime?_isoText {d : Date} {r : ClockReading} (hyear : d.HasShortYear)
    (hplaces : r.places = 0) :
    readDateTime? (isoDateTimeText d r).toList = some ⟨d, r.time⟩ := by
  have hfraction : r.fraction = 0 := by
    have hlt := r.fraction_lt
    rw [hplaces, tenPow_zero] at hlt
    omega
  have hblank : NoDigit ([' '] ++ r.isoText.toList) := by
    intro c hc
    cases hc
    rfl
  have hdate := date?_isoText hyear hblank
  have hdropped : Text.dropBlanks ([' '] ++ r.isoText.toList) = r.isoText.toList := by
    have hspace : ∀ c ∈ [' '], Text.isBlank c = true := by
      intro c hc
      rw [List.mem_singleton.mp hc]
      rfl
    rw [Text.dropBlanks_of_blanks_before hspace]
    exact Text.dropBlanks_of_head r.compact_isoText.head
  have hclock := r.clock?_isoText
  have htime := r.time?_parts
  rw [ClockReading.fractionText, if_pos hplaces] at hclock
  rw [hfraction, Nat.zero_mul] at htime
  rw [toList_isoDateTimeText]
  simp only [readDateTime?, hdate, hdropped, hclock, htime, whole, String.toList_empty,
    Option.bind_eq_bind, Option.bind_some, Option.pure_def]

theorem resolve_isoDateTimeText {d : Date} {r : ClockReading} (hyear : d.HasShortYear)
    (hplaces : r.places = 0) {text : String} (h : Amid (isoDateTimeText d r) text) :
    resolveTimestampText text = .ok ⟨d, r.time⟩ := by
  have hcompact : Compact (isoDateTimeText d r).toList := by
    rw [toList_isoDateTimeText]
    exact d.compact_isoText.join r.compact_isoText [' ']
  rw [resolveTimestampText, h.trim_eq, hcompact.trim_eq, readDateTime?_isoText hyear hplaces]
  rfl

end Calendar

end SqlBinding
