import SqlBinding.Calendar.Parser
import SqlBinding.Calendar.Printer

/-!
# Printed times are read back

A time of day that is printed is read back as the same time, also when an offset follows it. So the
text of a time tells the time to the nanosecond, whether there is an offset, and which one.
-/

namespace SqlBinding

namespace Text

variable {width n : Nat}

theorem toList_zeroPadded (width n : Nat) : (zeroPadded width n).toList =
    List.replicate (width - (Nat.toDigits 10 n).length) '0' ++ Nat.toDigits 10 n := by
  have hdigits : (toString n).toList = Nat.toDigits 10 n := by
    rw [Nat.toString_eq_ofList_toDigits, String.toList_ofList]
  rw [zeroPadded]
  simp only [String.toList_append, String.toList_ofList, hdigits, ← String.length_toList]

private theorem length_zeroPadded (hwidth : 0 < width) (h : n < tenPow width) :
    (zeroPadded width n).toList.length = width := by
  have hdigits : (Nat.toDigits 10 n).length ≤ width :=
    (Nat.length_toDigits_le_iff (by decide) hwidth).mpr h
  rw [toList_zeroPadded, List.length_append, List.length_replicate]
  omega

private theorem digitsValue_zeroPadded (width n : Nat) :
    digitsValue (zeroPadded width n).toList = n := by
  have hvalue : ∀ cs, digitsValue cs = Nat.ofDigitChars 10 cs 0 :=
    fun cs => Nat.ofDigitChars_eq_foldl.symm
  rw [hvalue, toList_zeroPadded, Nat.ofDigitChars_append, Nat.ofDigitChars_replicate_zero,
    Nat.mul_zero, Nat.ofDigitChars_toDigits (by decide) (by decide)]

theorem isDigit_of_mem_zeroPadded {c : Char} (h : c ∈ (zeroPadded width n).toList) :
    c.isDigit = true := by
  rw [toList_zeroPadded, List.mem_append] at h
  rcases h with h | h
  · rw [List.eq_of_mem_replicate h]
    rfl
  · exact Nat.isDigit_of_mem_toDigits (by decide) (by decide) h

theorem not_isBlank_of_isDigit {c : Char} (h : c.isDigit = true) : isBlank c = false := by
  have hrange : 48 ≤ c.toNat ∧ c.toNat ≤ 57 := by
    simpa [Char.isDigit, UInt32.le_iff_toNat_le] using h
  simp only [isBlank, List.contains_eq_mem, List.mem_cons, List.not_mem_nil, or_false,
    Bool.or_eq_false_iff, Bool.and_eq_false_iff, decide_eq_false_iff_not]
  omega

end Text

namespace Calendar

open Text (zeroPadded digitsValue)

namespace Parser

variable {n : Nat} {rest : List Char}

/-- Digits do not go on. -/
def NoDigit (rest : List Char) : Prop := ∀ c ∈ rest.head?, c.isDigit = false

private theorem takeWhile_zeroPadded (width n : Nat) (hrest : NoDigit rest) :
    ((zeroPadded width n).toList ++ rest).takeWhile Char.isDigit = (zeroPadded width n).toList := by
  have hdigits : ∀ c ∈ (zeroPadded width n).toList, c.isDigit = true :=
    fun c hc => Text.isDigit_of_mem_zeroPadded hc
  have hnone : rest.takeWhile Char.isDigit = [] := by
    cases rest with
    | nil => rfl
    | cons c rest => exact List.takeWhile_cons_of_neg (by simp [hrest c rfl])
  rw [List.takeWhile_append_of_pos hdigits, hnone, List.append_nil]

theorem isEmpty_zeroPadded (width n : Nat) : (zeroPadded width n).toList.isEmpty = false := by
  rw [Text.toList_zeroPadded, List.isEmpty_eq_false_iff]
  exact List.append_ne_nil_of_right_ne_nil _ Nat.toDigits_ne_nil

theorem number?_zeroPadded {most : Nat} (hmost : 0 < most) (h : n < tenPow most)
    (hrest : NoDigit rest) :
    number? most ((zeroPadded most n).toList ++ rest) = some (n, rest) := by
  have hlength := Text.length_zeroPadded hmost h
  have htake : (zeroPadded most n).toList.take most = (zeroPadded most n).toList :=
    List.take_of_length_le (Nat.le_of_eq hlength)
  simp only [number?, takeWhile_zeroPadded most n hrest, htake, isEmpty_zeroPadded,
    Text.digitsValue_zeroPadded, List.drop_left]
  rfl

theorem dropBlanks_zeroPadded (width : Nat) (rest : List Char) :
    Text.dropBlanks ((zeroPadded width n).toList ++ rest) =
      (zeroPadded width n).toList ++ rest := by
  have hnonempty := isEmpty_zeroPadded width n
  cases hdigits : (zeroPadded width n).toList with
  | nil =>
    rw [hdigits] at hnonempty
    cases hnonempty
  | cons c cs =>
    have hc : Text.isBlank c = false :=
      Text.not_isBlank_of_isDigit (Text.isDigit_of_mem_zeroPadded (hdigits ▸ List.mem_cons_self))
    rw [Text.dropBlanks, List.cons_append, List.dropWhile_cons_of_neg (by simp [hc])]

theorem field?_zeroPadded {bound : Nat} (hbound : n < bound) (h : n < 100)
    (hrest : NoDigit rest) : field? bound ((zeroPadded 2 n).toList ++ rest) = some (n, rest) := by
  have hnumber := number?_zeroPadded (by decide : 0 < 2) h hrest
  rw [field?, dropBlanks_zeroPadded, hnumber]
  exact if_pos hbound

theorem noDigit_colon (rest : List Char) : NoDigit (':' :: rest) := by
  intro c hc
  cases hc
  rfl

theorem after?_self (c : Char) (rest : List Char) : after? c (c :: rest) = some rest := if_pos rfl

theorem hourMinute?_zeroPadded {hour minute : Nat} (hhour : hour < 24) (hminute : minute < 60)
    (hrest : NoDigit rest) :
    hourMinute? ((zeroPadded 2 hour).toList ++ ':' :: ((zeroPadded 2 minute).toList ++ rest)) =
      some ((hour, minute), rest) := by
  have hfirst := field?_zeroPadded hhour (by omega)
    (noDigit_colon ((zeroPadded 2 minute).toList ++ rest))
  have hsecond := field?_zeroPadded hminute (by omega) hrest
  simp only [hourMinute?, hfirst, hsecond, after?_self, Option.bind_eq_bind, Option.bind_some,
    Option.pure_def]

end Parser

/-- A time goes on neither with a digit nor with a fraction. -/
def Ended (rest : List Char) : Prop := ∀ c ∈ rest.head?, c.isDigit = false ∧ c ≠ '.'

private theorem Ended.noDigit {rest : List Char} (h : Ended rest) : Parser.NoDigit rest :=
  fun c hc => (h c hc).1

namespace Parser

theorem fraction?_zeroPadded {width : Nat} (hwidth : 0 < width) (h9 : width ≤ 9)
    (h : n < tenPow width) (hrest : NoDigit rest) :
    fraction? ('.' :: ((zeroPadded width n).toList ++ rest)) =
      some (n * tenPow (9 - width), rest) := by
  have hlength := Text.length_zeroPadded hwidth h
  have htake : (zeroPadded width n).toList.take 9 = (zeroPadded width n).toList :=
    List.take_of_length_le (by omega)
  have hdrop : ((zeroPadded width n).toList ++ rest).drop width = rest := List.drop_left' hlength
  simp only [fraction?, takeWhile_zeroPadded width n hrest, htake, isEmpty_zeroPadded,
    Text.digitsValue_zeroPadded, hlength, hdrop]
  rfl

private theorem fraction?_of_ended (hrest : Ended rest) : fraction? rest = some (0, rest) := by
  unfold fraction?
  split
  · next cs => exact absurd rfl (hrest '.' rfl).2
  · rfl

private theorem fraction?_text {nano : Nat} (h : nano < 1000000000) (hrest : Ended rest) :
    fraction? ((fractionText nano).toList ++ rest) = some (nano, rest) := by
  have hpoint : ∀ s : String, ("." ++ s).toList ++ rest = '.' :: (s.toList ++ rest) := by
    intro s
    rw [String.toList_append, List.append_assoc]
    rfl
  unfold fractionText
  split
  · next hzero =>
    rw [hzero]
    exact fraction?_of_ended hrest
  · split
    · next hmillis =>
      have hlt : nano / 1000000 < 1000 := by omega
      rw [hpoint, fraction?_zeroPadded (by decide) (by decide) hlt hrest.noDigit]
      have hnano : nano / 1000000 * 1000000 = nano := by omega
      exact congrArg (fun n => some (n, rest)) hnano
    · split
      · next hmicros =>
        have hlt : nano / 1000 < 1000000 := by omega
        rw [hpoint, fraction?_zeroPadded (by decide) (by decide) hlt hrest.noDigit]
        have hnano : nano / 1000 * 1000 = nano := by omega
        exact congrArg (fun n => some (n, rest)) hnano
      · rw [hpoint, fraction?_zeroPadded (by decide) (by decide) h hrest.noDigit]
        exact congrArg (fun n => some (n, rest)) (Nat.mul_one nano)

end Parser

namespace Time

open Calendar.Parser

variable {t t' : Time} {rest rest' : List Char}

/-- The second and the nanoseconds that are printed: those of a leap second count from the 60th. -/
def shown (t : Time) : Nat × Nat :=
  if t.nano < 1000000000 then (t.second, t.nano) else (t.second + 1, t.nano - 1000000000)

private theorem shown_lt (t : Time) : t.shown.1 < 61 ∧ t.shown.2 < 1000000000 := by
  have htime := t.isTime
  unfold IsTime at htime
  unfold shown
  split
  · exact ⟨by dsimp only; omega, by dsimp only; omega⟩
  · exact ⟨by dsimp only; omega, by dsimp only; omega⟩

private theorem time?_shown (t : Time) : time? t.hour t.minute t.shown.1 t.shown.2 = some t := by
  have htime := t.isTime
  unfold IsTime at htime
  unfold shown time?
  split
  · next hnano =>
    have hsecond : t.second ≠ 60 := by omega
    rw [if_neg hsecond]
    exact of?_eq_some_iff.mpr ⟨rfl, rfl, rfl, rfl⟩
  · next hnano =>
    have hsecond : t.second + 1 = 60 := by omega
    rw [if_pos hsecond]
    exact of?_eq_some_iff.mpr ⟨rfl, rfl, by omega, by dsimp only; omega⟩

private theorem toList_text (t : Time) : t.text.toList =
    (zeroPadded 2 t.hour).toList ++ ':' :: ((zeroPadded 2 t.minute).toList ++
      ':' :: ((zeroPadded 2 t.shown.1).toList ++ (fractionText t.shown.2).toList)) := by
  have htext : t.text = zeroPadded 2 t.hour ++ ":" ++ zeroPadded 2 t.minute ++ ":" ++
      zeroPadded 2 t.shown.1 ++ fractionText t.shown.2 := rfl
  have hcolon : (":" : String).toList = [':'] := rfl
  simp only [htext, String.toList_append, hcolon, List.append_assoc, List.cons_append,
    List.nil_append]

private theorem noDigit_fraction (nano : Nat) (hrest : Ended rest) :
    NoDigit ((fractionText nano).toList ++ rest) := by
  have hpoint : ∀ s : String, NoDigit (("." ++ s).toList ++ rest) := by
    intro s c hc
    rw [String.toList_append] at hc
    cases hc
    rfl
  unfold fractionText
  split
  · exact hrest.noDigit
  · split
    · exact hpoint _
    · split
      · exact hpoint _
      · exact hpoint _

private theorem clock?_text (t : Time) (hrest : Ended rest) : clock? (t.text.toList ++ rest) =
    some ((t.hour, t.minute, t.shown.1), (fractionText t.shown.2).toList ++ rest) := by
  have htime := t.isTime
  unfold IsTime at htime
  have hfirst := hourMinute?_zeroPadded htime.1 htime.2.1 (noDigit_colon
    ((zeroPadded 2 t.shown.1).toList ++ ((fractionText t.shown.2).toList ++ rest)))
  have hsecond := field?_zeroPadded t.shown_lt.1 (by have := t.shown_lt; omega)
    (noDigit_fraction t.shown.2 hrest)
  rw [toList_text]
  simp only [List.append_assoc, List.cons_append, clock?, hfirst, hsecond, after?_self,
    Option.bind_eq_bind, Option.bind_some, Option.pure_def]

theorem readTime?_text (t : Time) : readTime? t.text.toList = some t := by
  have hended : Ended [] := nofun
  have hclock := t.clock?_text hended
  have hfraction := fraction?_text t.shown_lt.2 hended
  rw [List.append_nil] at hclock
  have hread : readClock? t.text.toList = some t := by
    simp only [readClock?, hclock, hfraction, whole, Option.bind_eq_bind, Option.bind_some,
      time?_shown]
  rw [readTime?, hread]
  rfl

/-- Texts of times with something behind them are the same only if the times are. -/
private theorem text_append_inj (hrest : Ended rest) (hrest' : Ended rest')
    (h : t.text.toList ++ rest = t'.text.toList ++ rest') : t = t' ∧ rest = rest' := by
  have hclock : some ((t'.hour, t'.minute, t'.shown.1), (fractionText t'.shown.2).toList ++ rest') =
      some ((t.hour, t.minute, t.shown.1), (fractionText t.shown.2).toList ++ rest) := by
    rw [← t.clock?_text hrest, h, t'.clock?_text hrest']
  simp only [Option.some.injEq, Prod.mk.injEq] at hclock
  obtain ⟨⟨hhour, hminute, hsecond⟩, hremainder⟩ := hclock
  have hfraction : some (t'.shown.2, rest') = some (t.shown.2, rest) := by
    rw [← fraction?_text t.shown_lt.2 hrest, ← hremainder, fraction?_text t'.shown_lt.2 hrest']
  simp only [Option.some.injEq, Prod.mk.injEq] at hfraction
  obtain ⟨hnano, hrests⟩ := hfraction
  have htime := t'.time?_shown
  rw [hhour, hminute, hsecond, hnano, t.time?_shown] at htime
  exact ⟨Option.some.inj htime, hrests.symm⟩

end Time

namespace Offset

open Calendar.Parser

variable {o o' : Offset}

/-- The seconds of an offset, which are left out when there are none. -/
def secondsText (n : Nat) : String := if n % 60 = 0 then "" else ":" ++ zeroPadded 2 (n % 60)

def signText (o : Offset) : String := if o.east < 0 then "-" else "+"

private theorem toList_text (o : Offset) : o.text.toList = o.signText.toList ++
    ((zeroPadded 2 (o.east.natAbs / 3600)).toList ++
      ':' :: ((zeroPadded 2 (o.east.natAbs / 60 % 60)).toList ++
        (secondsText o.east.natAbs).toList)) := by
  have htext : o.text = o.signText ++ zeroPadded 2 (o.east.natAbs / 3600) ++ ":" ++
      zeroPadded 2 (o.east.natAbs / 60 % 60) ++ secondsText o.east.natAbs := rfl
  have hcolon : (":" : String).toList = [':'] := rfl
  simp only [htext, String.toList_append, hcolon, List.append_assoc, List.cons_append,
    List.nil_append]

private theorem ended_text (o : Offset) : Ended o.text.toList := by
  rw [toList_text]
  unfold signText
  intro c hc
  split at hc
  · cases hc
    decide
  · cases hc
    decide

private theorem noDigit_secondsText (n : Nat) : NoDigit (secondsText n).toList := by
  unfold secondsText
  split
  · exact nofun
  · rw [String.toList_append]
    exact noDigit_colon _

private theorem secondsText_inj {n m : Nat} (h : (secondsText n).toList = (secondsText m).toList) :
    n % 60 = m % 60 := by
  have hcolon : ∀ s : String, (":" ++ s).toList = ':' :: s.toList := fun s => String.toList_append
  unfold secondsText at h
  split at h
  · next hn =>
    split at h
    · next hm => rw [hn, hm]
    · rw [hcolon] at h
      cases h
  · split at h
    · rw [hcolon] at h
      cases h
    · rw [hcolon, hcolon] at h
      have hvalue := congrArg digitsValue (List.cons.inj h).2
      rwa [Text.digitsValue_zeroPadded, Text.digitsValue_zeroPadded] at hvalue

private theorem negative_of_signText (h : o.signText = o'.signText) : o.east < 0 ↔ o'.east < 0 := by
  have hne : ("-" : String) ≠ "+" := by decide
  unfold signText at h
  by_cases hneg : o.east < 0
  · rw [if_pos hneg] at h
    by_cases hneg' : o'.east < 0
    · exact iff_of_true hneg hneg'
    · rw [if_neg hneg'] at h
      exact absurd h hne
  · rw [if_neg hneg] at h
    by_cases hneg' : o'.east < 0
    · rw [if_pos hneg'] at h
      exact absurd h.symm hne
    · exact iff_of_false hneg hneg'

private theorem length_signText (o : Offset) : o.signText.toList.length = 1 := by
  unfold signText
  split
  · rfl
  · rfl

private theorem text_inj (h : o.text.toList = o'.text.toList) : o = o' := by
  rw [toList_text, toList_text] at h
  obtain ⟨hsign, hparts⟩ :=
    List.append_inj h (o.length_signText.trans o'.length_signText.symm)
  have hneg := negative_of_signText (String.toList_inj.mp hsign)
  have hbounded := o.bounded
  have hbounded' := o'.bounded
  have hread := hourMinute?_zeroPadded (by omega : o.east.natAbs / 3600 < 24)
    (by omega : o.east.natAbs / 60 % 60 < 60) (noDigit_secondsText o.east.natAbs)
  have hread' := hourMinute?_zeroPadded (by omega : o'.east.natAbs / 3600 < 24)
    (by omega : o'.east.natAbs / 60 % 60 < 60) (noDigit_secondsText o'.east.natAbs)
  rw [hparts, hread'] at hread
  simp only [Option.some.injEq, Prod.mk.injEq] at hread
  obtain ⟨⟨hhours, hminutes⟩, hrest⟩ := hread
  have hseconds := secondsText_inj hrest
  have heast : o.east = o'.east := by omega
  cases o
  cases o'
  cases heast
  rfl

end Offset

/-- The text of an offset, or nothing if there is none. -/
def offsetText : Option Offset → String
  | none => ""
  | some o => o.text

private theorem ended_offsetText (o : Option Offset) : Ended (offsetText o).toList := by
  cases o with
  | none => exact nofun
  | some o => exact o.ended_text

private theorem offsetText_inj {o o' : Option Offset}
    (h : (offsetText o).toList = (offsetText o').toList) : o = o' := by
  have hne : ∀ o : Offset, o.text.toList ≠ [] := by
    intro o hempty
    rw [o.toList_text, List.append_eq_nil_iff] at hempty
    have hlength := o.length_signText
    rw [hempty.1] at hlength
    cases hlength
  cases o with
  | none =>
    cases o' with
    | none => rfl
    | some o' => exact absurd h.symm (hne o')
  | some o =>
    cases o' with
    | none => exact absurd h (hne o)
    | some o' => rw [Offset.text_inj h]

/-- A text of a time and perhaps an offset tells the time, whether there is an offset, and which. -/
theorem text_offsetText_inj {t t' : Time} {o o' : Option Offset}
    (h : t.text ++ offsetText o = t'.text ++ offsetText o') : t = t' ∧ o = o' := by
  have hlists := String.toList_inj.mpr h
  rw [String.toList_append, String.toList_append] at hlists
  obtain ⟨htime, hoffset⟩ :=
    Time.text_append_inj (ended_offsetText o) (ended_offsetText o') hlists
  exact ⟨htime, offsetText_inj hoffset⟩

end Calendar

end SqlBinding
