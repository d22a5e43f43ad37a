import Mathlib.Data.List.Forall2
import SqlBinding.Postgres.Parameters
import SqlBinding.Proofs.Binding.ParameterList
import SqlBinding.Proofs.Binding.StepLaws
import SqlBinding.Proofs.Binding.StandardConverter

/-!
# Sending what was collected

The parameters of a query are collected without a gap, one value for each. The factory of the server
makes no structs and the standard converter no arrays of other values, so every value can be sent:
all that can fail then is the reading of a stream that was handed over as a parameter.
-/

namespace SqlBinding

def ArrayData.isOther : ArrayData → Bool
  | .other _ => true
  | _ => false

/-- A value that is neither made of other values nor a stream. -/
def NativeValue.isPlain : NativeValue → Bool
  | .binaryStream _ | .characterStream _ | .array _ | .struct _ => false
  | _ => true

namespace Postgres

open Outcome

/-- A value that the server has an argument for, and that is a stream only if its parameter is. -/
inductive Sendable (p : Parameter) : NativeValue → Prop
  | plain {v : NativeValue} (h : v.isPlain = true) : Sendable p v
  | array {a : NativeArray} (h : a.data.isOther = false) : Sendable p (.array a)
  | byteStream {type : SqlType} {c : ByteChannel} (hp : p = .typed ⟨type, some (.byteStream c)⟩) :
      Sendable p (.binaryStream c)
  | charStream {type : SqlType} {c : CharChannel} (hp : p = .typed ⟨type, some (.charStream c)⟩) :
      Sendable p (.characterStream c)

section

variable {p : Parameter}

private theorem isPlain_ofTime (t : TimeValue) : (NativeValue.ofTime t).isPlain = true := by
  cases t <;> rfl

private theorem isPlain_ofTimestamp (t : TimestampValue) :
    (NativeValue.ofTimestamp t).isPlain = true := by
  cases t <;> rfl

variable (p) (arith : Arithmetic) (type : SqlType) (v : Value)

private theorem bindInteger_yields : Yields (Sendable p) (bindInteger type v) := by
  refine .bind .trivial fun i _ => ?_
  split <;> exact .ok (.plain rfl)

private theorem bindFloat_yields : Yields (Sendable p) (bindFloat type v) := by
  refine .bind .trivial fun x _ => ?_
  split <;> exact .ok (.plain rfl)

private theorem bindText_yields : Yields (Sendable p) (bindText type v) := by
  unfold bindText
  split
  case h_4 => exact .error _
  all_goals exact .ok (.plain rfl)

private theorem bindTime_yields : Yields (Sendable p) (bindTime arith type v) := by
  unfold bindTime
  split
  · exact .ok (.plain rfl)
  · exact .map .trivial fun t _ => .plain (isPlain_ofTime t)
  · exact .error _

private theorem bindTimestamp_yields : Yields (Sendable p) (bindTimestamp arith type v) := by
  unfold bindTimestamp
  split
  · exact .ok (.plain rfl)
  · exact .map .trivial fun _ _ => .plain rfl
  · exact .map .trivial fun t _ => .plain (isPlain_ofTimestamp t)
  · exact .error _

private theorem bindRow_yields : Yields (Sendable p) (bindRow type v) := by
  unfold bindRow
  split
  · exact .ok (.plain rfl)
  · exact .error _

private theorem bindBinary_yields :
    Yields (Sendable (.typed ⟨type, some v⟩)) (bindBinary type v) := by
  unfold bindBinary
  split
  · exact .ok (.plain rfl)
  · exact .ok (.byteStream rfl)
  · exact .error _

private theorem bindClob_yields {σ : Type} [Connection σ] :
    Step.Yields (Sendable (.typed ⟨type, some v⟩)) (bindClob type v : Binding σ NativeValue) := by
  unfold bindClob
  split
  · exact Step.Yields.trivial.bind fun clob _ => .pure (.plain rfl)
  · exact .pure (.charStream rfl)
  · exact .ofOutcome (.error _)

variable {type} {v}

private theorem build_yields (a : ArrayValue) :
    Step.Yields (fun n => n.data.isOther = false)
      (a.build arith (Converter.standard arith : Converter ObjectFactory).customArray) := by
  cases a
  case typed type elements =>
    cases type
    case text | nchar | blob | clob | nclob | array | ref | struct | row | custom =>
      exact .ofOutcome (.error _)
    case time | timeWithTimezone | timestamp | datetime | timestampWithTimezone =>
      exact Step.Yields.trivial.bind fun _ _ => .pure rfl
    all_goals exact .map .trivial fun _ _ => rfl
  case nested => exact .ofOutcome (.error _)
  all_goals exact .ofOutcome (.ok rfl)

private theorem create_yields {n : NativeArray} (h : n.data.isOther = false) :
    Step.Yields (Sendable p) (n.create : Binding ObjectFactory NativeValue) := by
  intro w v hv
  rw [NativeArray.create, Step.run_map, Binding.run_ask] at hv
  cases hv
  exact .array h

private theorem bindArray_yields (type : SqlType) (v : Value) :
    Step.Yields (Sendable p)
      (bindArray arith (Converter.standard arith : Converter ObjectFactory).customArray type v :
        Binding ObjectFactory NativeValue) := by
  cases v
  case array a =>
    have hlift : Step.Yields (fun n => n.data.isOther = false)
        ((a.build arith (Converter.standard arith : Converter ObjectFactory).customArray).lift :
          Binding ObjectFactory NativeArray) := fun w => build_yields arith a w.channels
    exact hlift.bind fun n hn => create_yields p hn
  all_goals exact .ofOutcome (.error _)

/-- The factory makes no struct, so no record is ever bound. -/
private theorem bindStruct_yields (type : SqlType) (v : Value) :
    Step.Yields (Sendable p) (bindStruct type v : Binding ObjectFactory NativeValue) := by
  cases v
  case record r =>
    have hbuild : Step.Yields (fun _ => False) (r.build : Binding ObjectFactory NativeStruct) := by
      refine Step.Yields.trivial.bind fun a _ => ?_
      intro w s hs
      cases hs
    rw [bindStruct, map_eq_pure_bind]
    exact hbuild.bind fun _ hnone => hnone.elim
  all_goals exact .ofOutcome (.error _)

private theorem category_yields (category : Category) (type : SqlType) (v : Value) :
    Step.Yields (Sendable (.typed ⟨type, some v⟩))
      (category.bind arith (Converter.standard arith : Converter ObjectFactory).customArray type v :
        Binding ObjectFactory NativeValue) := by
  cases category with
  | integer => exact .ofOutcome (bindInteger_yields _ type v)
  | float => exact .ofOutcome (bindFloat_yields _ type v)
  | decimal => exact .ofOutcome (.map .trivial fun _ _ => .plain rfl)
  | boolean => exact .ofOutcome (.map .trivial fun _ _ => .plain rfl)
  | text => exact .ofOutcome (bindText_yields _ type v)
  | binary => exact .ofOutcome (bindBinary_yields type v)
  | clob => exact bindClob_yields type v
  | date => exact .ofOutcome (.map .trivial fun _ _ => .plain rfl)
  | time => exact .ofOutcome (bindTime_yields _ arith type v)
  | timestamp => exact .ofOutcome (bindTimestamp_yields _ arith type v)
  | row => exact .ofOutcome (bindRow_yields _ type v)
  | array => exact bindArray_yields _ arith type v
  | struct => exact bindStruct_yields _ type v

private theorem bindBare_yields (v : Value) : Yields (fun r => Sendable p r.2) v.bindBare := by
  unfold Value.bindBare
  split
  case h_10 => exact .error _
  all_goals exact .ok (.plain rfl)

/-- Every value that the standard converter makes of a parameter for the server can be sent. -/
private theorem convert_yields (p : Parameter) :
    Step.Yields (fun r => Sendable p r.2)
      ((Converter.standard arith : Converter ObjectFactory).convert p) := by
  cases p with
  | null => exact .pure (.plain rfl)
  | raw v => exact .ofOutcome (bindBare_yields _ v)
  | typed t =>
    obtain ⟨type, value⟩ := t
    cases hcategory : type.category? with
    | none =>
      cases type
      case custom name => exact Step.Yields.bind (P := fun _ => False) (.ofOutcome (.error _)) nofun
      all_goals cases hcategory
    | some category =>
      cases value with
      | none =>
        obtain ⟨native, hnative⟩ := SqlType.native?_of_category hcategory none
        rw [Converter.convert_typed_null _ hnative]
        exact .pure (.plain rfl)
      | some v =>
        obtain ⟨native, -, hconvert⟩ :=
          Converter.standard_convert_typed arith ObjectFactory hcategory v
        rw [hconvert, map_eq_pure_bind]
        exact (category_yields arith category type v).bind fun n hn => .pure hn

end

namespace Parameters

variable {arith : Arithmetic} {ps : List Parameter} {collected : Parameters}
  {natives : List NativeValue} {channels channels' : Channels}

private theorem put_length (vs : List (Option NativeValue)) (v : NativeValue) :
    put vs.length v vs = vs ++ [some v] := by
  induction vs with
  | nil => rfl
  | cons u vs ih => exact congrArg (u :: ·) ih

private theorem values_of_takes {n : Nat} {s s' : Parameters} (h : Takes n natives s s')
    (hn : n = s.values.length + 1) : s'.values = s.values ++ natives.map some := by
  induction h with
  | nil => simp
  | @cons n v vs s s₁ s₂ hset _ ih =>
    subst hn
    have hput : s₁.values = s.values ++ [some v] := by
      rw [← put_length]
      cases hset
      rfl
    have hlen : s.values.length + 1 + 1 = s₁.values.length + 1 := by simp [hput]
    rw [ih hlen, hput, List.map_cons, List.append_assoc]
    rfl

private theorem argumentsFrom_map_some (index : Nat) (natives : List NativeValue) :
    argumentsFrom index (natives.map some) = natives.mapM Argument.ofNative := by
  induction natives generalizing index with
  | nil => rfl
  | cons v vs ih => rw [List.map_cons, argumentsFrom, ih, List.mapM_cons]

private theorem collect_ok (h : (collect arith ps).run channels = (.ok collected, channels')) :
    ∃ rs w', (ps.mapM (Converter.standard arith : Converter ObjectFactory).convert).run
        ⟨channels, ⟨⟩⟩ = (.ok rs, w') ∧ rs.length = ps.length ∧
      collected.values = (rs.map (·.2)).map some := by
  simp only [Step.run, collect, Converter.bindAll] at h
  rcases (Converter.standard arith).bindFrom_run ps 1 ⟨channels, ObjectFactory.mk⟩ (mk []) with
    ⟨rs, w', s', hmap, hlen, htakes, hrun⟩ | ⟨_, _, after, _, _, _, _, _, rfl, -, -, -, -, hfails⟩
  · rw [Step.run] at hrun
    rw [hrun] at h
    cases h
    exact ⟨rs, w', hmap, hlen, values_of_takes htakes rfl⟩
  · have hrun := hfails after
    rw [Step.run] at hrun
    rw [hrun] at h
    cases h

end Parameters

/-- The stream that is a parameter cannot be read. -/
inductive ReadRefused (channels : Channels) : Parameter → Error → Prop
  | byteStream {type : SqlType} {c : ByteChannel} {message : String}
      (h : (channels.readBytes c).1 = .error message) :
      ReadRefused channels (.typed ⟨type, some (.byteStream c)⟩) (.io .binaryParameter message)
  | charStream {type : SqlType} {c : CharChannel} {message : String}
      (h : (channels.readChars c).1 = .error message) :
      ReadRefused channels (.typed ⟨type, some (.charStream c)⟩) (.io .characterParameter message)

section

variable {p : Parameter} {v : NativeValue}

private theorem ofArray_ok {a : NativeArray} (h : a.data.isOther = false) :
    ∃ argument, Argument.ofArray a = .ok argument := by
  unfold Argument.ofArray
  split
  case h_10 | h_11 => split <;> exact ⟨_, rfl⟩
  case h_12 hother =>
    rw [hother] at h
    cases h
  all_goals exact ⟨_, rfl⟩

private theorem Sendable.run_ofNative (h : Sendable p v) (channels : Channels) :
    (∃ argument channels', (Argument.ofNative v).run channels = (.ok argument, channels')) ∨
      ∃ e channels', (Argument.ofNative v).run channels = (.error (.error e), channels') ∧
        ReadRefused channels p e := by
  cases h with
  | plain h =>
    cases v
    case binaryStream | characterStream | array | struct => cases h
    all_goals exact .inl ⟨_, channels, rfl⟩
  | @array a h =>
    obtain ⟨argument, hargument⟩ := ofArray_ok h
    refine .inl ⟨argument, channels, ?_⟩
    rw [Argument.ofNative, hargument]
    rfl
  | @byteStream type c hp =>
    subst hp
    rw [Argument.ofNative, Step.run_map, Reading.run_bytes]
    cases hread : (channels.readBytes c).1 with
    | ok bytes => exact .inl ⟨_, _, rfl⟩
    | error message => exact .inr ⟨_, _, rfl, .byteStream hread⟩
  | @charStream type c hp =>
    subst hp
    rw [Argument.ofNative, Step.run_map, Reading.run_chars]
    cases hread : (channels.readChars c).1 with
    | ok text => exact .inl ⟨_, _, rfl⟩
    | error message => exact .inr ⟨_, _, rfl, .charStream hread⟩

/-- Values are sent one after the other, up to the first stream that cannot be read. -/
private theorem run_mapM_ofNative {ps : List Parameter} {natives : List NativeValue}
    (h : List.Forall₂ Sendable ps natives) (channels : Channels) :
    (∃ arguments channels', (natives.mapM Argument.ofNative).run channels =
        (.ok arguments, channels') ∧ arguments.length = ps.length) ∨
      ∃ before p after sent channels₁ e channels', ps = before ++ p :: after ∧
        ((natives.take before.length).mapM Argument.ofNative).run channels = (.ok sent, channels₁) ∧
        ReadRefused channels₁ p e ∧
        (natives.mapM Argument.ofNative).run channels = (.error (.error e), channels') := by
  induction h generalizing channels with
  | nil => exact .inl ⟨[], channels, rfl, rfl⟩
  | @cons p v ps natives hfirst _ ih =>
    rcases hfirst.run_ofNative channels with ⟨a, channels₁, hrun⟩ | ⟨e, channels₁, hrun, hread⟩
    · rcases ih channels₁ with ⟨arguments, channels', hrest, hlen⟩ |
        ⟨before, q, after, sent, channels₂, e, channels', rfl, hsent, hread, hrest⟩
      · refine .inl ⟨a :: arguments, channels', Step.run_mapM_cons_ok hrun hrest, ?_⟩
        rw [List.length_cons, List.length_cons, hlen]
      · refine .inr ⟨p :: before, q, after, a :: sent, channels₂, e, channels', rfl, ?_, hread, ?_⟩
        · exact Step.run_mapM_cons_ok hrun hsent
        · rw [List.mapM_cons, Step.run_bind_ok hrun, Step.run_bind_error hrest]
    · refine .inr ⟨[], p, ps, [], channels, e, channels₁, rfl, rfl, hread, ?_⟩
      rw [List.mapM_cons, Step.run_bind_error hrun]

end

/-- Parameters that were collected are sent as one argument each, in their order, unless one of them
is a stream that cannot be read. No other error is possible. -/
theorem collected_parameters_are_sent {arith : Arithmetic} {ps : List Parameter}
    {collected : Parameters} {channels channels' : Channels}
    (h : (Parameters.collect arith ps).run channels = (.ok collected, channels')) :
    ∃ natives : List NativeValue, collected.values = natives.map some ∧
      natives.length = ps.length ∧
      (∃ rs w', (ps.mapM (Converter.standard arith : Converter ObjectFactory).convert).run
        ⟨channels, ⟨⟩⟩ = (.ok rs, w') ∧ rs.map (·.2) = natives) ∧
      ∀ cs, (∃ arguments cs', collected.arguments.run cs = (.ok arguments, cs') ∧
          (natives.mapM Argument.ofNative).run cs = (.ok arguments, cs') ∧
          arguments.length = ps.length) ∨
        ∃ before p after sent cs₁ e cs', ps = before ++ p :: after ∧
          ((natives.take before.length).mapM Argument.ofNative).run cs = (.ok sent, cs₁) ∧
          ReadRefused cs₁ p e ∧ collected.arguments.run cs = (.error (.error e), cs') := by
  obtain ⟨rs, w', hmap, hlen, hvalues⟩ := Parameters.collect_ok h
  have hsendable : List.Forall₂ Sendable ps (rs.map (·.2)) := by
    rw [List.forall₂_map_right_iff]
    exact Step.forall₂_of_mapM (convert_yields arith) ps ⟨channels, ⟨⟩⟩ rs (by rw [hmap])
  have harguments : collected.arguments = (rs.map (·.2)).mapM Argument.ofNative := by
    rw [Parameters.arguments, hvalues, Parameters.argumentsFrom_map_some]
  refine ⟨rs.map (·.2), hvalues, by simpa using hlen, ⟨rs, w', hmap, rfl⟩, fun cs => ?_⟩
  rw [harguments]
  rcases run_mapM_ofNative hsendable cs with ⟨arguments, cs', hrun, hcount⟩ | hfails
  · exact .inl ⟨arguments, cs', hrun, hrun, hcount⟩
  · exact .inr hfails

/-- A stream that fails after an array and a null were collected. -/
theorem collected_parameters_are_sent_stream :
    let ps : List Parameter := [.typed ⟨.array, some (.array (.typed .nvarchar
      [⟨.char, some (.text "a")⟩, ⟨.date, none⟩]))⟩, .null, .typed ⟨.blob, some (.byteStream ⟨0⟩)⟩]
    let channels : Channels := ⟨fun _ => ⟨[], some "gone"⟩, fun _ => ⟨[], none⟩⟩
    let collected : Parameters := ⟨[some (.array ⟨"NVARCHAR", .text [some "a", none]⟩),
      some (.null .null), some (.binaryStream ⟨0⟩)]⟩
    (Parameters.collect .wrapping ps).run channels = (.ok collected, channels) ∧
      collected.values.length = ps.length ∧
      ∃ cs', collected.arguments.run channels =
        (.error (.error (.io .binaryParameter "gone")), cs') := by
  intro ps channels collected
  have h : (Parameters.collect .wrapping ps).run channels = (.ok collected, channels) := rfl
  obtain ⟨natives, hvalues, hlen, -⟩ := collected_parameters_are_sent h
  exact ⟨h, by rw [hvalues, List.length_map, hlen], _, rfl⟩

end Postgres

end SqlBinding
