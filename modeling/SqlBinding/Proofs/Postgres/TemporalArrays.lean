import Mathlib.Data.List.Forall2
import SqlBinding.Binding.Converter
import SqlBinding.Driver.Buffered
import SqlBinding.Postgres.Argument
import SqlBinding.Proofs.Array.TemporalTag
import SqlBinding.Proofs.Calendar.PrintedTimes
import SqlBinding.Proofs.Calendar.UtcInstants
import SqlBinding.Proofs.Calendar.ZoneOffsets

/-!
# Temporal arrays of a query

The builder of an array names it with a time zone or without one. The query goes by that name for
timestamps and by the elements for times, and both rules fit the builder: timestamps are sent as the
instants that were given, times as they are or, if any has an offset, as texts that tell the offset.
-/

namespace SqlBinding

open Calendar ArrayValue

private theorem forall₂_map_self {α β : Type} {R : α → β → Prop} {f : α → β} (hR : ∀ a, R a (f a))
    (as : List (Option α)) : List.Forall₂ (Option.Rel R) as (as.map (·.map f)) := by
  induction as with
  | nil => exact .nil
  | cons a as ih =>
    cases a with
    | none => exact .cons .none ih
    | some a => exact .cons (.some (hR a)) ih

/-- The offset that a record resolves to; its parts name it as long as 32 bits hold what they
make. -/
structure ZoneOffset.Denotes (arith : Arithmetic) (o : ZoneOffset) (offset : Offset) : Prop where
  resolved : o.resolve arith = .ok offset
  names : ¬ o.Overflows → o.Names offset

private theorem ZoneOffset.denotes_of_resolve {arith : Arithmetic} {o : ZoneOffset}
    {offset : Offset}
    (h : o.resolve arith = .ok offset) : o.Denotes arith offset where
  resolved := h
  names hbounded := by
    rw [o.resolve_eq_checked fun _ => hbounded] at h
    exact (o.resolve_checked_settles.1 offset).mp h

/-- The instant of a timestamp; one without an offset is taken to be in UTC. -/
inductive TimestampValue.LiesAt : TimestampValue → Instant → Prop
  | naive (i : Instant) : LiesAt (.naive i.utc) i
  | withOffset {t : OffsetDateTime} {i : Instant} (h : t.wall.Shifts t.offset i.utc) :
      LiesAt (.withOffset t) i
  | utc (i : Instant) : LiesAt (.utc i) i

/-- The instant that is given by a text, by the parts of a civil date-time, or in seconds and full
milliseconds; without an offset it is taken to be in UTC. -/
inductive Value.LiesAt (arith : Arithmetic) : Value → Instant → Prop
  | text {s : String} {i : Instant} (h : resolveTimestampText s = .ok i.utc) :
      LiesAt arith (.text s) i
  | naive {c : CivilDateTime} {i : Instant} (h : c.offset = none) (shows : c.Shows i.utc) :
      LiesAt arith (.civil c) i
  | zoned {c : CivilDateTime} {o : ZoneOffset} {offset : Offset} {wall : DateTime} {i : Instant}
      (h : c.offset = some o) (denotes : o.Denotes arith offset) (shows : c.Shows wall)
      (shifts : wall.Shifts offset i.utc) : LiesAt arith (.civil c) i
  | utc {u : UtcInstant} {i : Instant} (names : u.Names i) : LiesAt arith (.utc u) i

private theorem TimestampValue.liesAt_instant (x : TimestampValue) : x.LiesAt x.instant := by
  cases x with
  | naive t => exact .naive ⟨t⟩
  | withOffset t => exact .withOffset t.consistent
  | utc i => exact .utc i

private theorem liesAt_of_elementTimestamp {arith : Arithmetic} {type : SqlType} {v : Value}
    {x : TimestampValue} (h : elementTimestamp arith type v = .ok x) :
    v.LiesAt arith x.instant := by
  cases v
  case text s =>
    rw [elementTimestamp] at h
    obtain ⟨t, htext, rfl⟩ := Outcome.of_map_ok h
    exact .text htext
  case civil c =>
    have hnames : c.Names arith x := ((c.resolve_settles arith).1 x).mp h
    cases hnames with
    | naive hoffset _ shows => exact .naive hoffset shows
    | @zoned o time hoffset _ shows offset _ =>
      exact .zoned hoffset (ZoneOffset.denotes_of_resolve offset) shows time.consistent
  case utc u =>
    rw [elementTimestamp] at h
    obtain ⟨i, hinstant, rfl⟩ := Outcome.of_map_ok h
    exact .utc (UtcInstant.names_of_resolve hinstant)
  all_goals cases h

/-- The time of day that a text or the parts of a record give, and its offset if there is one. -/
inductive Value.ShowsTime (arith : Arithmetic) : Value → Time → Option Offset → Prop
  | text {s : String} {time : Time} (h : resolveTimeText s = .ok time) :
      ShowsTime arith (.text s) time none
  | naive {t : TimeOfDay} {time : Time} (h : t.offset = none)
      (shows : ShowsClock time t.hour t.minute t.second) : ShowsTime arith (.timeOfDay t) time none
  | zoned {t : TimeOfDay} {o : ZoneOffset} {time : Time} {offset : Offset} (h : t.offset = some o)
      (denotes : o.Denotes arith offset) (shows : ShowsClock time t.hour t.minute t.second) :
      ShowsTime arith (.timeOfDay t) time (some offset)

def TimeValue.offset? : TimeValue → Option Offset
  | .naive _ => none
  | .withOffset t => some t.offset

private theorem TimeValue.text_eq (x : TimeValue) :
    x.text = x.wall.text ++ offsetText x.offset? := by
  cases x with
  | naive t => exact (String.append_empty).symm
  | withOffset t => rfl

private theorem TimeValue.eq_naive_of_hasOffset {x : TimeValue} (h : x.hasOffset = false) :
    x = .naive x.wall ∧ x.offset? = none := by
  cases x with
  | naive t => exact ⟨rfl, rfl⟩
  | withOffset t => cases h

private theorem showsTime_of_elementTime {arith : Arithmetic} {type : SqlType} {v : Value}
    {x : TimeValue} (h : elementTime arith type v = .ok x) :
    v.ShowsTime arith x.wall x.offset? := by
  cases v
  case text s =>
    rw [elementTime] at h
    obtain ⟨t, htext, rfl⟩ := Outcome.of_map_ok h
    exact .text htext
  case timeOfDay t =>
    have hnames : t.Names arith x := ((t.resolve_settles arith).1 x).mp h
    cases hnames with
    | naive hoffset _ shows => exact .naive hoffset shows
    | @zoned o time hoffset _ shows offset =>
      exact .zoned hoffset (ZoneOffset.denotes_of_resolve offset) shows
  all_goals cases h

/-- A text that is printed for one time of day and one offset, or none, and for no other. -/
structure Tells (s : String) (time : Time) (offset : Option Offset) : Prop where
  printed : s = time.text ++ offsetText offset
  only : ∀ time' offset', s = time'.text ++ offsetText offset' → time' = time ∧ offset' = offset

private theorem tells_text (x : TimeValue) : Tells x.text x.wall x.offset? where
  printed := x.text_eq
  only time' offset' h := by
    rw [x.text_eq] at h
    obtain ⟨htime, hoffset⟩ := text_offsetText_inj h
    exact ⟨htime.symm, hoffset.symm⟩

namespace Postgres

/-- Timestamps are sent one for one at the instants that were built and given: as instants if the
name of the array ends with a time zone, and else, no offset being given, as date-times in UTC. -/
inductive TimestampsSent (arith : Arithmetic) (elements : List TypedValue) (a : NativeArray) : Prop
  | instants {vs : List (Option TimestampValue)} {sent : List (Option Instant)}
      (built : a.data = .timestamp vs) (tag : "WITH TIMEZONE".toList <:+ a.elementType.toList)
      (sends : Argument.ofArray a = .ok (.array .timestamptz sent))
      (same : List.Forall₂ (Option.Rel TimestampValue.LiesAt) vs sent)
      (given : List.Forall₂ (fun t i => Option.Rel (Value.LiesAt arith) t.value i) elements sent)
  | dateTimes {vs : List (Option TimestampValue)} {sent : List (Option DateTime)}
      (built : a.data = .timestamp vs) (tag : ¬ "WITH TIMEZONE".toList <:+ a.elementType.toList)
      (noOffset : ∀ v ∈ present elements, v.carriesOffset = false)
      (sends : Argument.ofArray a = .ok (.array .timestamp sent))
      (same : List.Forall₂ (Option.Rel fun x t => x.LiesAt ⟨t⟩) vs sent)
      (given : List.Forall₂ (fun u t => Option.Rel (fun v t => v.LiesAt arith ⟨t⟩) u.value t)
        elements sent)

/-- Times are sent one for one: all as texts if an offset was given, each with its own; and else as
times without offsets, as they were built. -/
inductive TimesSent (arith : Arithmetic) (elements : List TypedValue) (a : NativeArray) : Prop
  | texts {sent : List (Option String)} (offset : ∃ v ∈ present elements, v.carriesOffset = true)
      (sends : Argument.ofArray a = .ok (.array .text sent))
      (given : List.Forall₂ (fun t s => Option.Rel
        (fun v s => ∃ time offset, v.ShowsTime arith time offset ∧ Tells s time offset) t.value s)
        elements sent)
  | times {sent : List (Option Time)} (noOffset : ∀ v ∈ present elements, v.carriesOffset = false)
      (built : a.data = .time (sent.map (·.map .naive)))
      (sends : Argument.ofArray a = .ok (.array .time sent))
      (given : List.Forall₂ (fun u t => Option.Rel (fun v t => v.ShowsTime arith t none) u.value t)
        elements sent)

private theorem isZoned_iff {elementType : String} :
    isZoned elementType = true ↔ "WITH TIMEZONE".toList <:+ elementType.toList :=
  List.isSuffixOf_iff_suffix

private theorem ofArray_times {elementType : String} {vs : List (Option TimeValue)} :
    Argument.ofArray ⟨elementType, .time vs⟩ =
      if vs.any (·.any TimeValue.hasOffset) then
        .ok (.array .text (vs.map (·.map TimeValue.text)))
      else .ok (.array .time (vs.map (·.map TimeValue.wall))) := rfl

private theorem ofArray_timestamps {elementType : String} {vs : List (Option TimestampValue)} :
    Argument.ofArray ⟨elementType, .timestamp vs⟩ =
      if isZoned elementType then .ok (.array .timestamptz (vs.map (·.map TimestampValue.instant)))
      else .ok (.array .timestamp (vs.map (·.map fun t => t.instant.utc))) := rfl

private theorem timestampsSent {arith : Arithmetic} {custom : CustomArrays} {type : SqlType}
    (htype : type = .timestamp ∨ type = .datetime ∨ type = .timestampWithTimezone)
    {elements : List TypedValue} {a : NativeArray} {cs cs' : Channels}
    (h : ((ArrayValue.typed type elements).build arith custom).run cs = (.ok a, cs')) :
    TimestampsSent arith elements a := by
  have hbuilder := timestampBuilder arith custom htype
  obtain ⟨vs, hall, rfl⟩ := hbuilder.collected_of_run h
  have hbuilds := hbuilder.builds_of_collected hall
  cases hzoned : TemporalBuilder.zonedOf type .timestampWithTimezone elements with
  | true =>
    have htag : isZoned (TemporalFamily.timestamp.elementName true) = true := by decide
    refine .instants rfl (isZoned_iff.mp htag) (ofArray_timestamps.trans (if_pos htag)) ?_ ?_
    · exact forall₂_map_self (fun x => x.liesAt_instant) vs
    · exact hall.forall₂_map fun v _ x hx => liesAt_of_elementTimestamp hx
  | false =>
    have htag : ¬ isZoned (TemporalFamily.timestamp.elementName false) = true := by decide
    have hplain := (hbuilder.tagLaw.no_offset hbuilds (by rw [hzoned])).1
    refine .dateTimes rfl (mt isZoned_iff.mpr htag) hplain
      (ofArray_timestamps.trans (if_neg htag)) ?_ ?_
    · exact forall₂_map_self (fun x => x.liesAt_instant) vs
    · exact hall.forall₂_map fun v _ x hx => liesAt_of_elementTimestamp hx

private theorem map_naive_wall {vs : List (Option TimeValue)}
    (h : vs.any (·.any TimeValue.hasOffset) = false) :
    (vs.map (·.map TimeValue.wall)).map (·.map TimeValue.naive) = vs := by
  induction vs with
  | nil => rfl
  | cons v vs ih =>
    rw [List.any_cons, Bool.or_eq_false_iff] at h
    rw [List.map_cons, List.map_cons, ih h.2]
    cases v with
    | none => rfl
    | some x =>
      have hx := (TimeValue.eq_naive_of_hasOffset h.1).1
      rw [Option.map_some, Option.map_some, ← hx]

private theorem timesSent {arith : Arithmetic} {custom : CustomArrays} {type : SqlType}
    (htype : type = .time ∨ type = .timeWithTimezone)
    {elements : List TypedValue} {a : NativeArray} {cs cs' : Channels}
    (h : ((ArrayValue.typed type elements).build arith custom).run cs = (.ok a, cs')) :
    TimesSent arith elements a := by
  have hbuilder := timeBuilder arith custom htype
  obtain ⟨vs, hall, rfl⟩ := hbuilder.collected_of_run h
  have hany := hbuilder.any_hasOffset hall
  have hyes_iff : vs.any (·.any TimeValue.hasOffset) = true ↔
      ∃ v ∈ present elements, v.carriesOffset = true := by
    rw [hany, List.any_eq_true]
  by_cases hoffset : ∃ v ∈ present elements, v.carriesOffset = true
  · have hyes := hyes_iff.mpr hoffset
    refine .texts hoffset (ofArray_times.trans (if_pos hyes)) (hall.forall₂_map fun v _ x hx => ?_)
    exact ⟨x.wall, x.offset?, showsTime_of_elementTime hx, tells_text x⟩
  · have hno := mt hyes_iff.mp hoffset
    have hbuilt := map_naive_wall (Bool.eq_false_iff.mpr hno)
    have hplain : ∀ v ∈ present elements, v.carriesOffset = false := by
      intro v hv
      apply Bool.eq_false_iff.mpr
      intro hcarries
      exact hoffset ⟨v, hv, hcarries⟩
    refine .times hplain (congrArg ArrayData.time hbuilt.symm) (ofArray_times.trans (if_neg hno))
      (hall.forall₂_map fun v hv x hx => ?_)
    have hnaive : x.hasOffset = false := (hasOffset_elementTime hx).trans (hplain v hv)
    have hshows := showsTime_of_elementTime hx
    rwa [(TimeValue.eq_naive_of_hasOffset hnaive).2] at hshows

/-- A query sends the elements of a temporal array that was built one for one, nulls in their
places, and keeps every offset. -/
theorem temporal_arrays_keep_offsets (arith : Arithmetic) (custom : CustomArrays)
    (type : SqlType) (elements : List TypedValue) {a : NativeArray} {cs cs' : Channels}
    (h : ((ArrayValue.typed type elements).build arith custom).run cs = (.ok a, cs')) :
    (type = .timestamp ∨ type = .datetime ∨ type = .timestampWithTimezone →
      TimestampsSent arith elements a) ∧
    (type = .time ∨ type = .timeWithTimezone → TimesSent arith elements a) :=
  ⟨fun htype => timestampsSent htype h, fun htype => timesSent htype h⟩

/-- Half past midnight in the east is sent as an instant of the year before, next to a null and a
date-time without an offset; noon in the east is sent with its offset, next to a text and a null. -/
theorem temporal_arrays_keep_offsets_mixed :
    let custom : CustomArrays :=
      (Converter.standard .checked : Converter BufferedConnection).customArray
    let timestamps : List TypedValue := [⟨.timestamp, none⟩,
      ⟨.timestamp, some (.civil ⟨2022, 1, 1, 0, 30, none, none⟩)⟩,
      ⟨.timestamp, some (.civil ⟨2022, 1, 1, 0, 30, none, some ⟨1, 0, none⟩⟩)⟩]
    let instants : List (Option Instant) := [none,
      some ⟨⟨2022, 1, 1, by decide⟩, ⟨0, 30, 0, 0, by decide⟩⟩,
      some ⟨⟨2021, 12, 31, by decide⟩, ⟨23, 30, 0, 0, by decide⟩⟩]
    let times : List TypedValue := [⟨.time, some (.text "10:00")⟩, ⟨.time, none⟩,
      ⟨.time, some (.timeOfDay ⟨12, 0, none, some ⟨1, 0, none⟩⟩)⟩]
    (∃ a, ((ArrayValue.typed .timestamp timestamps).build .checked custom).run .exhausted =
        (.ok a, .exhausted) ∧ TimestampsSent .checked timestamps a ∧
      Argument.ofArray a = .ok (.array .timestamptz instants)) ∧
    ∃ a, ((ArrayValue.typed .time times).build .checked custom).run .exhausted =
        (.ok a, .exhausted) ∧
      TimesSent .checked times a ∧
      Argument.ofArray a =
        .ok (.array .text [some "10:00:00", none, some "12:00:00+01:00"]) := by
  intro custom timestamps instants times
  have htimestamps :
      ((ArrayValue.typed .timestamp timestamps).build .checked custom).run .exhausted =
      (.ok ⟨"TIMESTAMP WITH TIMEZONE", .timestamp [none,
        some (.naive ⟨⟨2022, 1, 1, by decide⟩, ⟨0, 30, 0, 0, by decide⟩⟩),
        some (.withOffset ⟨⟨⟨2022, 1, 1, by decide⟩, ⟨0, 30, 0, 0, by decide⟩⟩, ⟨3600, by decide⟩,
          ⟨⟨2021, 12, 31, by decide⟩, ⟨23, 30, 0, 0, by decide⟩⟩, by decide⟩)]⟩, .exhausted) := by
    with_unfolding_all rfl
  have htimes : ((ArrayValue.typed .time times).build .checked custom).run .exhausted =
      (.ok ⟨"TIME WITH TIMEZONE", .time [some (.naive ⟨10, 0, 0, 0, by decide⟩), none,
        some (.withOffset ⟨⟨12, 0, 0, 0, by decide⟩, ⟨3600, by decide⟩⟩)]⟩, .exhausted) := by
    with_unfolding_all rfl
  refine ⟨⟨_, htimestamps, ?_, rfl⟩, ⟨_, htimes, ?_, rfl⟩⟩
  · exact (temporal_arrays_keep_offsets .checked custom .timestamp timestamps htimestamps).1
      (.inl rfl)
  · exact (temporal_arrays_keep_offsets .checked custom .time times htimes).2 (.inl rfl)

end Postgres

end SqlBinding
