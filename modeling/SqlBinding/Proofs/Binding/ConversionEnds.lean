import Mathlib.Data.List.Basic
import SqlBinding.Proofs.Binding.CoercionMatrix
import SqlBinding.Proofs.Struct.CreationOrder

/-!
# How a conversion ends

A conversion checks first and asks afterwards. Either it is refused for what it is given, or a
stream among the elements of a binary array cannot be read, and no call is made; or it makes its
calls, which are granted up to one that is reported.
-/

namespace SqlBinding

open Outcome Call

/-- The failures of the application's own checks. A decimal that overflows is no error at all. -/
def Failure.OfApplication : Failure → Prop
  | .error e => e.kind = .application
  | .overflow => True

private theorem BadContent.ofApplication {overflows : Prop} {f : Failure}
    (h : BadContent overflows f) :
    f.OfApplication := by
  cases h with
  | refused => rfl
  | overflow => trivial

private theorem ScalarFailure.ofApplication {arith : Arithmetic} {type : SqlType} {v : Value}
    {f : Failure}
    (h : ScalarFailure arith type v f) : f.OfApplication := by
  cases h with
  | noDecimal => rfl
  | notBit => rfl
  | content _ hcontent => exact hcontent.ofApplication

private theorem Coerces.ofApplication {α : Type} {arith : Arithmetic} {kinds : List ValueKind}
    {type : SqlType} {v : Value} {x : Outcome α} (hx : Coerces arith kinds type v x) :
    FailsOnly Failure.OfApplication x := by
  by_cases hin : v.valueKind ∈ kinds
  · exact (hx.inside hin).mono fun _ h => h.ofApplication
  · rw [hx.outside hin]
    exact .error rfl

private theorem elementTime_coerces (arith : Arithmetic) {type : SqlType}
    (htype : type.isTime = true)
    (v : Value) :
    Coerces arith [.text, .timeOfDay] type v (ArrayValue.elementTime arith type v) := by
  have htemporal := SqlType.isTemporal_of_isTime htype
  cases v
  case text s =>
    exact .accepted (by simp)
      (scalarFailure_of_content htemporal (resolveTimeText_fails s) nofun).map
  case timeOfDay t =>
    exact .accepted (by simp)
      (scalarFailure_of_content htemporal (t.resolve_fails arith) (.time htype))
  all_goals exact .invalid (by simp)

private theorem elementTimestamp_coerces (arith : Arithmetic) {type : SqlType}
    (htype : type.isTimestamp = true) (v : Value) :
    Coerces arith [.text, .utc, .civil] type v (ArrayValue.elementTimestamp arith type v) := by
  have htemporal := SqlType.isTemporal_of_isTimestamp htype
  cases v
  case text s =>
    exact .accepted (by simp)
      (scalarFailure_of_content htemporal (resolveTimestampText_fails s) nofun).map
  case utc u =>
    exact .accepted (by simp)
      (scalarFailure_of_content htemporal u.resolve_fails (.instant htype)).map
  case civil c =>
    exact .accepted (by simp)
      (scalarFailure_of_content htemporal (c.resolve_fails arith) (.civil htype))
  all_goals exact .invalid (by simp)

/-- The elements before a stream of a binary array are converted, and the stream cannot be read. -/
inductive ReadFails (arith : Arithmetic) (cs : Channels) : Parameter → String → Prop
  | intro {type tag : SqlType} {before after : List TypedValue} {c : ByteChannel}
      {cells : List (Option NativeValue)} {cs₁ : Channels} {message : String}
      (htype : type = .binary ∨ type = .varbinary)
      (hbefore : ArrayValue.Collected (type.element arith) cs before cells cs₁)
      (hread : (cs₁.readBytes c).1 = .error message) :
      ReadFails arith cs (.typed ⟨.array, some (.array (.typed type
        (before ++ ⟨tag, some (.byteStream c)⟩ :: after)))⟩) message

section

variable {arith : Arithmetic} {type : SqlType} {v : Value} {f : Failure} {cs cs' : Channels}

theorem element_coerces (arith : Arithmetic) (h : type.isElement = true)
    (hbytes : ¬ (type = .binary ∨ type = .varbinary)) (v : Value) :
    ∃ kinds x, type.element arith v = .ofOutcome x ∧ Coerces arith kinds type v x := by
  cases type
  case smallint | integer => exact ⟨_, _, rfl, ((toInt64_coerces _ _ v).map _).map _⟩
  case bigint => exact ⟨_, _, rfl, (toInt64_coerces _ _ v).map _⟩
  case decimal | numeric => exact ⟨_, _, rfl, (toDecimal_coerces v (by simp)).map _⟩
  case real | double | float => exact ⟨_, _, rfl, (toFloat_coerces _ _ v).map _⟩
  case char | varchar | nvarchar => exact ⟨_, _, rfl, (toText_coerces _ _ v).map _⟩
  case boolean | bit => exact ⟨_, _, rfl, (toBool_coerces (by simp)).map _⟩
  case date => exact ⟨_, _, rfl, (toDate_coerces _ v rfl).map _⟩
  case time | timeWithTimezone => exact ⟨_, _, rfl, (elementTime_coerces _ rfl v).map _⟩
  case timestamp | datetime | timestampWithTimezone =>
    exact ⟨_, _, rfl, (elementTimestamp_coerces _ rfl v).map _⟩
  case binary | varbinary => exact absurd (by simp) hbytes
  all_goals cases h

theorem element_pure (arith : Arithmetic) (h : type.isElement = true)
    (hbytes : ¬ (type = .binary ∨ type = .varbinary)) (v : Value) :
    ∃ x, type.element arith v = .ofOutcome x ∧ FailsOnly Failure.OfApplication x := by
  obtain ⟨kinds, x, hx, hcoerces⟩ := element_coerces arith h hbytes v
  exact ⟨x, hx, hcoerces.ofApplication⟩

private theorem element_fails (h : type.isElement = true)
    (hv : (type.element arith v).run cs = (.error f, cs')) :
    f.OfApplication ∨ ∃ c message, (type = .binary ∨ type = .varbinary) ∧ v = .byteStream c ∧
      (cs.readBytes c).1 = .error message ∧ f = .error (.io .arrayElement message) := by
  by_cases hbytes : type = .binary ∨ type = .varbinary
  · cases v
    case byteStream c =>
      rw [run_element_byteStream hbytes] at hv
      cases hread : (cs.readBytes c).1 with
      | ok bytes =>
        rw [hread] at hv
        cases hv
      | error message =>
        rw [hread] at hv
        cases hv
        exact .inr ⟨c, message, hbytes, rfl, hread, rfl⟩
    case bytes => rcases hbytes with rfl | rfl <;> cases hv
    all_goals
      rcases hbytes with rfl | rfl
      all_goals
        cases hv
        exact .inl rfl
  · obtain ⟨x, hx, hfails⟩ := element_pure arith h hbytes v
    rw [hx, Step.run_ofOutcome] at hv
    cases hv
    exact .inl (failsOnly_iff.mp hfails f rfl)

end

section

variable {arith : Arithmetic} {σ : Type} [Connection σ] {a : ArrayValue} {f : Failure}
  {cs cs' : Channels}

private theorem build_fails
    (h : (a.build arith (Converter.standard arith : Converter σ).customArray).run cs =
      (.error f, cs')) :
    f.OfApplication ∨ ∃ message, ReadFails arith cs (.typed ⟨.array, some (.array a)⟩) message ∧
      f = .error (.io .arrayElement message) := by
  cases a
  case typed type elements =>
    by_cases htype : type.isElement = true
    · rcases ArrayValue.collected_or_fails (type.element arith) elements cs with
        ⟨cells, cs₁, hcells⟩ | ⟨before, tag, v, after, cells, cs₁, e, cs₂, rfl, hcells, hv⟩
      · obtain ⟨n, hrun, -⟩ := ArrayValue.run_bindTyped_of_collected
          (Converter.standard arith : Converter σ).customArray htype hcells
        rw [ArrayValue.build, hrun] at h
        cases h
      · rw [ArrayValue.build, ArrayValue.run_bindTyped_error _ htype hcells hv after] at h
        cases h
        rcases element_fails htype hv with happ | ⟨c, message, hbytes, rfl, hread, rfl⟩
        · exact .inl happ
        · exact .inr ⟨message, .intro hbytes hcells hread, rfl⟩
    · cases type
      case text | nchar | blob | clob | nclob | array | ref | struct | row | custom =>
        cases h
        exact .inl rfl
      all_goals exact absurd rfl htype
  case nested =>
    cases h
    exact .inl rfl
  all_goals cases h

theorem run_convert_of_readFails {p : Parameter} {message : String} {w : World σ}
    (h : ReadFails arith w.channels p message) :
    ∃ w', ((Converter.standard arith : Converter σ).convert p).run w =
      (.error (.error (.io .arrayElement message)), w') := by
  cases h with
  | @intro type tag before after c cells cs₁ _ htype hbefore hread =>
    have helement : type.isElement = true := by rcases htype with rfl | rfl <;> rfl
    have hv : (type.element arith (.byteStream c)).run cs₁ =
        (.error (.error (.io .arrayElement message)), (cs₁.readBytes c).2) := by
      rw [run_element_byteStream htype, hread]
      rfl
    have hbuild : ((ArrayValue.typed type (before ++ ⟨tag, some (.byteStream c)⟩ :: after)).build
        arith (Converter.standard arith : Converter σ).customArray).run w.channels =
          (.error (.error (.io .arrayElement message)), (cs₁.readBytes c).2) :=
      ArrayValue.run_bindTyped_error _ helement hbefore hv after
    have hcategory : SqlType.array.category? = some .array := rfl
    obtain ⟨native, -, hconvert⟩ := Converter.standard_convert_typed arith σ hcategory
      (.array (.typed type (before ++ ⟨tag, some (.byteStream c)⟩ :: after)))
    refine ⟨⟨(cs₁.readBytes c).2, w.connection⟩, ?_⟩
    rw [hconvert, Category.bind, Step.run_map, run_bindArray_error .array hbuild]
    rfl

end

/-- How a conversion ends with the calls that it made. -/
inductive Ends {α : Type} (arith : Arithmetic) (cs : Channels) (p : Parameter) :
    List Call → Outcome α → Prop
  | made {calls : List Call} {x : Outcome α} (h : GrantedOrRefused (fun _ _ => True) calls x) :
      Ends arith cs p calls x
  | rejected {f : Failure} (h : f.OfApplication) : Ends arith cs p [] (.error f)
  | unread {message : String} (h : ReadFails arith cs p message) :
      Ends arith cs p [] (.error (.error (.io .arrayElement message)))

section

variable {arith : Arithmetic} {σ α β : Type} [Connection σ] {p : Parameter}

def ConvertEnds (arith : Arithmetic) (p : Parameter) (x : Binding σ α) : Prop :=
  x.Obeys fun w y w' => ∃ calls, Trace Answered w.connection calls w'.connection ∧
    Ends arith w.channels p calls y

private theorem Ends.of_outcome {cs : Channels} {x : Outcome α}
    (hx : FailsOnly Failure.OfApplication x) :
    Ends arith cs p [] x := by
  cases x with
  | ok a => exact .made (.granted granted_nil trivial)
  | error f => exact .rejected (failsOnly_iff.mp hx f rfl)

private theorem convertEnds_of_outcome {x : Outcome α} {y : Binding σ α}
    (hy : ∀ w, y.run w = (x, w))
    (hx : FailsOnly Failure.OfApplication x) : ConvertEnds arith p y := by
  intro w
  rw [hy w]
  exact ⟨[], .nil, .of_outcome hx⟩

private theorem convertEnds_of_creates {what : List Creation} {P : List Call → α → Prop}
    {x : Binding σ α}
    (hx : Creates what P x) : ConvertEnds arith p x :=
  Step.Obeys.mono hx fun ⟨calls, htrace, _, _, hends⟩ =>
    ⟨calls, htrace, .made (hends.mono fun _ _ _ => trivial)⟩

private theorem Ends.map {cs : Channels} {calls : List Call} {a : α} (f : α → β)
    (h : Ends arith cs p calls (.ok a)) : Ends arith cs p calls (.ok (f a)) := by
  cases h with
  | made h =>
    cases h with
    | granted hgranted => exact .made (.granted hgranted trivial)

private theorem Ends.of_error {cs : Channels} {calls : List Call} {e : Failure}
    (h : Ends arith cs p calls (.error e : Outcome α)) :
    Ends arith cs p calls (.error e : Outcome β) := by
  cases h with
  | rejected h => exact .rejected h
  | unread h => exact .unread h
  | made h =>
    cases h with
    | refused hgranted hlast => exact .made (.refused hgranted hlast)

private theorem ConvertEnds.map {x : Binding σ α} (f : α → β) (hx : ConvertEnds arith p x) :
    ConvertEnds arith p (f <$> x) :=
  Step.Obeys.map hx (fun ⟨calls, htrace, hends⟩ => ⟨calls, htrace, hends.of_error⟩)
    fun ⟨calls, htrace, hends⟩ => ⟨calls, htrace, hends.map f⟩

private theorem convertEnds_clob {type : SqlType} (htype : type = .clob ∨ type = .nclob)
    (v : Value) :
    ConvertEnds arith p (bindClob type v : Binding σ NativeValue) := by
  cases v
  case text s =>
    have hnational : type = if (type == .nclob) = true then .nclob else .clob := by
      rcases htype with rfl | rfl <;> rfl
    have hwrite : ∀ clob : Clob, Creates [] (fun _ _ => True)
        (pure (.clob (clob.write 1 s)) : Binding σ NativeValue) := fun _ => .pure trivial
    have hclob : Creates ([.clob (type == .nclob)] ++ []) (fun _ _ => True)
        (bindClob type (.text s) : Binding σ NativeValue) :=
      (Creates.clob hnational).bind fun _ clob _ => hwrite clob
    exact convertEnds_of_creates hclob
  case charStream c => exact convertEnds_of_outcome (fun _ => rfl) (.ok _)
  all_goals exact convertEnds_of_outcome (fun _ => rfl) (.error rfl)

private theorem convertEnds_array (v : Value) :
    ConvertEnds arith (.typed ⟨.array, some v⟩)
      (bindArray arith (Converter.standard arith : Converter σ).customArray .array v :
        Binding σ NativeValue) := by
  cases v
  case array a =>
    intro w
    rcases hbuild : (a.build arith (Converter.standard arith : Converter σ).customArray).run
      w.channels with ⟨f | n, cs⟩
    · rw [run_bindArray_error .array hbuild]
      rcases build_fails hbuild with happ | ⟨message, hread, rfl⟩
      · exact ⟨[], .nil, .rejected happ⟩
      · exact ⟨[], .nil, .unread hread⟩
    · rw [run_bindArray_ok .array hbuild]
      have hcreate : Creates [.array n.elementType n.data.length] (fun _ _ => True)
          (n.create : Binding σ NativeValue) :=
        (Creates.array n.elementType n.data).map NativeValue.array fun _ _ _ => trivial
      obtain ⟨calls, htrace, -, -, hends⟩ := hcreate ⟨cs, w.connection⟩
      exact ⟨calls, htrace, .made (hends.mono fun _ _ _ => trivial)⟩
  all_goals exact convertEnds_of_outcome (fun _ => rfl) (.error rfl)

private theorem Leaf.kind_of_error? {l : Leaf} {e : Error} (h : l.error? = some e) :
    e.kind = .application := by
  unfold Leaf.error? at h
  split at h
  · split at h
    · cases h
    · split at h
      · cases h
      · cases h
        rfl
  · cases h
    rfl

/-- A record is planned as a whole before the connection is asked for anything. -/
private theorem convertEnds_build (r : Record) :
    ConvertEnds arith p (r.build : Binding σ NativeStruct) := by
  by_cases h : r.Conforms
  · obtain ⟨plan, hplan⟩ := Record.plan_eq_ok_of_conforms h
    exact convertEnds_of_creates (Record.creates_build hplan)
  · obtain ⟨leaf, e, ⟨_, _, _, _, _, herror⟩, hplan⟩ := Record.plan_eq_error_of_not_conforms h
    exact convertEnds_of_outcome (Record.run_build_of_plan_error hplan)
      (.error (Leaf.kind_of_error? herror))

private theorem convertEnds_struct (type : SqlType) (v : Value) :
    ConvertEnds arith p (bindStruct type v : Binding σ NativeValue) := by
  cases v
  case record r => exact (convertEnds_build r).map NativeValue.struct
  all_goals exact convertEnds_of_outcome (fun _ => rfl) (.error rfl)

private theorem bindBare_ofApplication (v : Value) :
    FailsOnly Failure.OfApplication v.bindBare := by
  cases v
  case text | int | long | float | double | decimal | boolean | bytes | xml => exact .ok _
  all_goals exact .error rfl

private theorem convertEnds_of_category {type : SqlType} {category : Category} {v : Value}
    (hcategory : type.category? = some category)
    (h : ConvertEnds arith (.typed ⟨type, some v⟩)
      (category.bind arith (Converter.standard arith : Converter σ).customArray type v :
        Binding σ _)) :
    ConvertEnds arith (.typed ⟨type, some v⟩)
      ((Converter.standard arith : Converter σ).convert (.typed ⟨type, some v⟩)) := by
  obtain ⟨native, -, hconvert⟩ := Converter.standard_convert_typed arith σ hcategory v
  rw [hconvert]
  exact h.map _

private theorem convertEnds_typed (type : SqlType) (v : Value) :
    ConvertEnds arith (.typed ⟨type, some v⟩)
      ((Converter.standard arith : Converter σ).convert (.typed ⟨type, some v⟩)) := by
  cases hkinds : type.acceptedKinds? with
  | some kinds =>
    by_cases hclob : type = .clob ∨ type = .nclob
    · have hcategory : type.category? = some .clob := by rcases hclob with rfl | rfl <;> rfl
      exact convertEnds_of_category hcategory (convertEnds_clob hclob v)
    · obtain ⟨x, ⟨native, -, hrun⟩, hx⟩ := scalar_bindsAlone arith σ hkinds hclob v
      exact convertEnds_of_outcome hrun hx.ofApplication.map
  | none =>
    cases type
    case array => exact convertEnds_of_category rfl (convertEnds_array v)
    case ref | struct => exact convertEnds_of_category rfl (convertEnds_struct _ v)
    case custom name => exact convertEnds_of_outcome (fun _ => rfl) (.error rfl)
    all_goals cases hkinds

/-- Every conversion by the standard converter ends in one of the ways that there are. -/
theorem convertEnds_standard (arith : Arithmetic) (σ : Type) [Connection σ] (p : Parameter) :
    ConvertEnds arith p ((Converter.standard arith : Converter σ).convert p) := by
  cases p with
  | null => exact convertEnds_of_outcome (fun _ => rfl) (.ok _)
  | raw v => exact convertEnds_of_outcome (fun _ => rfl) (bindBare_ofApplication v)
  | typed t =>
    obtain ⟨type, value⟩ := t
    cases value with
    | some v => exact convertEnds_typed type v
    | none =>
      cases hnative : type.native? none with
      | some native =>
        rw [Converter.convert_typed_null _ hnative]
        exact convertEnds_of_outcome (fun _ => rfl) (.ok _)
      | none =>
        rw [SqlType.native?_eq_none_iff] at hnative
        cases type
        case custom name => exact convertEnds_of_outcome (fun _ => rfl) (.error rfl)
        all_goals cases hnative

end

end SqlBinding
