import Mathlib.Data.List.Basic
import SqlBinding.Proofs.Array.ScalarLift
import SqlBinding.Proofs.Calendar.CivilParts

/-!
# The kinds of values that scalar types accept

A value of a kind that its type does not accept is an invalid parameter, and nothing is asked for or
read on its behalf. A value of an accepted kind fails for its content alone: a binary number without
a decimal, an integer that is no bit, a calendar record that names nothing. The connection may
refuse a character large object, and the arithmetic on a calendar record may overflow.
-/

namespace SqlBinding

inductive ValueKind where
  | int | long | float | double | decimal | boolean | text | bytes | byteStream | charStream
  | date | timeOfDay | civil | utc | array | record | xml
deriving DecidableEq, Repr

@[simp] def Value.valueKind : Value → ValueKind
  | .int _ => .int
  | .long _ => .long
  | .float _ => .float
  | .double _ => .double
  | .decimal _ => .decimal
  | .boolean _ => .boolean
  | .text _ => .text
  | .bytes _ => .bytes
  | .byteStream _ => .byteStream
  | .charStream _ => .charStream
  | .date _ => .date
  | .timeOfDay _ => .timeOfDay
  | .civil _ => .civil
  | .utc _ => .utc
  | .array _ => .array
  | .record _ => .record
  | .xml _ => .xml

namespace SqlType

/-- The kinds of values that a scalar type accepts. -/
def acceptedKinds? : SqlType → Option (List ValueKind)
  | .integer | .bigint | .smallint => some [.int, .long]
  | .float | .real | .double | .decimal | .numeric =>
    some [.int, .long, .float, .double, .decimal]
  | .bit | .boolean => some [.boolean, .text, .int, .long]
  | .varchar | .char | .text | .nchar | .nvarchar => some [.text]
  | .binary | .varbinary | .blob => some [.bytes, .byteStream]
  | .clob | .nclob => some [.text, .charStream]
  | .date => some [.text, .date, .civil]
  | .time | .timeWithTimezone => some [.text, .timeOfDay]
  | .timestamp | .datetime | .timestampWithTimezone => some [.text, .utc, .civil]
  | .row => some [.bytes]
  | .array | .ref | .struct | .custom _ => none

def isTimestamp : SqlType → Bool
  | .timestamp | .datetime | .timestampWithTimezone => true
  | _ => false

def isTime : SqlType → Bool
  | .time | .timeWithTimezone => true
  | _ => false

def isTemporal (type : SqlType) : Bool := type == .date || type.isTime || type.isTimestamp

theorem eq_of_isTimestamp {type : SqlType} (h : type.isTimestamp = true) :
    type = .timestamp ∨ type = .datetime ∨ type = .timestampWithTimezone := by
  cases type
  case timestamp | datetime | timestampWithTimezone => simp
  all_goals cases h

theorem eq_of_isTime {type : SqlType} (h : type.isTime = true) :
    type = .time ∨ type = .timeWithTimezone := by
  cases type
  case time | timeWithTimezone => simp
  all_goals cases h

theorem isTemporal_of_isTime {type : SqlType} (h : type.isTime = true) :
    type.isTemporal = true := by
  rw [isTemporal, h, Bool.or_true, Bool.true_or]

theorem isTemporal_of_isTimestamp {type : SqlType} (h : type.isTimestamp = true) :
    type.isTemporal = true := by
  rw [isTemporal, h, Bool.or_true]

end SqlType

namespace Value

/-- A binary number that has no decimal of the digits that its width warrants. -/
def LacksDecimal : Value → Prop
  | .float x => (Decimal.ofBinary? (.ofFloat32 x)).bind (·.significant? narrowDigits) = none
  | .double x => (Decimal.ofBinary? (.ofFloat x)).bind (·.significant? wideDigits) = none
  | _ => False

def integer? : Value → Option Int64
  | .int i => some i.toInt64
  | .long i => some i
  | _ => none

/-- A calendar record whose arithmetic overflows when it is resolved for a type. -/
inductive OverflowsAs (arith : Arithmetic) (type : SqlType) : Value → Prop
  | time {t : TimeOfDay} (htype : type.isTime = true) (h : t.Overflows arith) :
      OverflowsAs arith type (.timeOfDay t)
  | civil {c : CivilDateTime} (htype : type.isTimestamp = true) (h : c.Overflows arith) :
      OverflowsAs arith type (.civil c)
  | instant {u : UtcInstant} (htype : type.isTimestamp = true) (h : u.Overflows) :
      OverflowsAs arith type (.utc u)

end Value

/-- How the conversion of a value of an accepted kind can fail by itself. -/
inductive ScalarFailure (arith : Arithmetic) (type : SqlType) (v : Value) : Failure → Prop
  | noDecimal (htype : type = .decimal ∨ type = .numeric) (hv : v.LacksDecimal) :
      ScalarFailure arith type v (.error (.invalidParameter v (.type type)))
  | notBit {i : Int64} (htype : type = .bit ∨ type = .boolean) (hv : v.integer? = some i)
      (hzero : i ≠ 0) (hone : i ≠ 1) : ScalarFailure arith type v (.error (.invalidBit type i))
  | content {f : Failure} (htype : type.isTemporal = true)
      (h : BadContent (v.OverflowsAs arith type) f) : ScalarFailure arith type v f

open Outcome

/-- A conversion that takes values of certain kinds: others are invalid, and these fail only for
their content. -/
structure Coerces {α : Type} (arith : Arithmetic) (kinds : List ValueKind) (type : SqlType)
    (v : Value) (x : Outcome α) : Prop where
  outside : v.valueKind ∉ kinds → x = v.invalid type
  inside : v.valueKind ∈ kinds → FailsOnly (ScalarFailure arith type v) x

namespace Coerces

variable {α β : Type} {arith : Arithmetic} {kinds : List ValueKind} {type : SqlType} {v : Value}
  {x : Outcome α}

theorem accepted (h : v.valueKind ∈ kinds) (hx : FailsOnly (ScalarFailure arith type v) x) :
    Coerces arith kinds type v x where
  outside hout := absurd h hout
  inside _ := hx

theorem invalid (h : v.valueKind ∉ kinds) :
    Coerces arith kinds type v (v.invalid type : Outcome α) where
  outside _ := rfl
  inside hin := absurd hin h

private theorem bind {f : α → Outcome β} (hx : Coerces arith kinds type v x)
    (hf : ∀ a, FailsOnly (ScalarFailure arith type v) (f a)) :
    Coerces arith kinds type v (x >>= f) where
  outside hout := by
    rw [hx.outside hout]
    rfl
  inside hin := (hx.inside hin).bind hf

theorem map (f : α → β) (hx : Coerces arith kinds type v x) :
    Coerces arith kinds type v (f <$> x) where
  outside hout := by
    rw [hx.outside hout]
    rfl
  inside hin := (hx.inside hin).map

end Coerces

section

variable (arith : Arithmetic) (type : SqlType) (v : Value)

theorem toInt64_coerces : Coerces arith [.int, .long] type v (v.toInt64 type) := by
  cases v
  case int | long => exact .accepted (by simp) (.ok _)
  all_goals exact .invalid (by simp)

theorem toFloat_coerces :
    Coerces arith [.int, .long, .float, .double, .decimal] type v (v.toFloat type) := by
  cases v
  case int | long | float | double | decimal => exact .accepted (by simp) (.ok _)
  all_goals exact .invalid (by simp)

theorem toText_coerces : Coerces arith [.text] type v (v.toText type) := by
  cases v
  case text => exact .accepted (by simp) (.ok _)
  all_goals exact .invalid (by simp)

variable {arith} {type} {v}

private theorem widened_fails {d : Option Decimal} (htype : type = .decimal ∨ type = .numeric)
    (h : d = none → v.LacksDecimal) :
    FailsOnly (ScalarFailure arith type v) (match d with
      | some d => .ok d
      | none => v.invalid type) := by
  cases d with
  | none => exact .error (.noDecimal htype (h rfl))
  | some d => exact .ok d

variable (v)

theorem toDecimal_coerces (htype : type = .decimal ∨ type = .numeric) :
    Coerces arith [.int, .long, .float, .double, .decimal] type v (v.toDecimal type) := by
  -- An integer always has its leading digits as a decimal, a binary number may not.
  have hint : ∀ (i : Int64) {n : Nat}, 0 < n → (Decimal.ofInt64 i).significant? n = none →
      v.LacksDecimal :=
    fun i _ hn hnone => absurd hnone (Decimal.significant?_ofInt64_ne_none i hn)
  cases v
  case int i => exact .accepted (by simp) (widened_fails htype (hint i.toInt64 (by decide)))
  case long i => exact .accepted (by simp) (widened_fails htype (hint i (by decide)))
  case float x => exact .accepted (by simp) (widened_fails htype id)
  case double x => exact .accepted (by simp) (widened_fails htype id)
  case decimal d => exact .accepted (by simp) (.ok d)
  all_goals exact .invalid (by simp)

variable {v}

private theorem integer_fails {i : Int64} (htype : type = .bit ∨ type = .boolean)
    (hv : v.integer? = some i) (hint : v.toInt64 type = .ok i) :
    FailsOnly (ScalarFailure arith type v) (do
      let i ← v.toInt64 type
      if i = 0 then return false
      else if i = 1 then return true
      else .fail (.invalidBit type i)) := by
  rw [hint]
  change FailsOnly _ (if i = 0 then .ok false else if i = 1 then .ok true else .fail _)
  by_cases hzero : i = 0
  · rw [if_pos hzero]
    exact .ok false
  · by_cases hone : i = 1
    · rw [if_neg hzero, if_pos hone]
      exact .ok true
    · rw [if_neg hzero, if_neg hone]
      exact .error (.notBit htype hv hzero hone)

theorem toBool_coerces (htype : type = .bit ∨ type = .boolean) :
    Coerces arith [.boolean, .text, .int, .long] type v (v.toBool type) := by
  cases v
  case boolean | text => exact .accepted (by simp) (.ok _)
  case int | long => exact .accepted (by simp) (integer_fails htype rfl rfl)
  all_goals exact .invalid (by simp)

theorem scalarFailure_of_content {α : Type} {x : Outcome α} {overflows : Prop}
    (htype : type.isTemporal = true) (hx : FailsOnly (BadContent overflows) x)
    (h : overflows → v.OverflowsAs arith type) : FailsOnly (ScalarFailure arith type v) x :=
  hx.mono fun _ hf => .content htype (hf.mono h)

variable (arith) (v)

theorem toDate_coerces (htype : type.isTemporal = true) :
    Coerces arith [.text, .date, .civil] type v (v.toDate type) := by
  cases v
  case text s =>
    exact .accepted (by simp) (scalarFailure_of_content htype (resolveDateText_fails s) nofun)
  case date d => exact .accepted (by simp) (scalarFailure_of_content htype d.resolve_fails nofun)
  case civil c =>
    exact .accepted (by simp) (scalarFailure_of_content htype c.date.resolve_fails nofun)
  all_goals exact .invalid (by simp)

private theorem bindTime_coerces (htype : type.isTime = true) :
    Coerces arith [.text, .timeOfDay] type v (bindTime arith type v) := by
  cases v
  case text => exact .accepted (by simp) (.ok _)
  case timeOfDay t =>
    have htemporal := SqlType.isTemporal_of_isTime htype
    exact .accepted (by simp)
      (scalarFailure_of_content htemporal (t.resolve_fails arith) (.time htype)).map
  all_goals exact .invalid (by simp)

private theorem bindTimestamp_coerces (htype : type.isTimestamp = true) :
    Coerces arith [.text, .utc, .civil] type v (bindTimestamp arith type v) := by
  have htemporal := SqlType.isTemporal_of_isTimestamp htype
  cases v
  case text => exact .accepted (by simp) (.ok _)
  case utc u =>
    exact .accepted (by simp)
      (scalarFailure_of_content htemporal u.resolve_fails (.instant htype)).map
  case civil c =>
    exact .accepted (by simp)
      (scalarFailure_of_content htemporal (c.resolve_fails arith) (.civil htype)).map
  all_goals exact .invalid (by simp)

variable (type)

private theorem bindInteger_coerces : Coerces arith [.int, .long] type v (bindInteger type v) := by
  refine (toInt64_coerces arith type v).bind fun i => ?_
  split <;> exact .ok _

private theorem bindFloat_coerces :
    Coerces arith [.int, .long, .float, .double, .decimal] type v (bindFloat type v) := by
  refine (toFloat_coerces arith type v).bind fun x => ?_
  split <;> exact .ok _

private theorem bindText_of_not_text {v : Value} (h : ∀ s, v ≠ .text s) :
    bindText type v = v.invalid type := by
  unfold bindText
  split
  case h_4 => rfl
  all_goals exact absurd rfl (h _)

private theorem bindText_coerces : Coerces arith [.text] type v (bindText type v) := by
  cases v
  case text s =>
    refine .accepted (by simp) ?_
    unfold bindText
    split
    case h_4 hother _ _ => exact absurd rfl (hother s)
    all_goals exact .ok _
  all_goals
    rw [bindText_of_not_text type (by simp)]
    exact .invalid (by simp)

private theorem bindBinary_coerces :
    Coerces arith [.bytes, .byteStream] type v (bindBinary type v) := by
  cases v
  case bytes | byteStream => exact .accepted (by simp) (.ok _)
  all_goals exact .invalid (by simp)

private theorem bindRow_coerces : Coerces arith [.bytes] type v (bindRow type v) := by
  cases v
  case bytes => exact .accepted (by simp) (.ok _)
  all_goals exact .invalid (by simp)

end

section

variable {arith : Arithmetic} {σ : Type} [Connection σ] {type : SqlType} {kinds : List ValueKind}
  {v : Value} {w : World σ}

/-- The connection refuses the large object that a text needs. -/
inductive ClobRefused (type : SqlType) (v : Value) (w : World σ) : Failure → Prop
  | intro {s : String} {e : DriverError} (htype : type = .clob ∨ type = .nclob) (hv : v = .text s)
      (h : (Connection.createClob (type == .nclob) w.connection).1 = .error e) :
      ClobRefused type v w (.error (.database (.createClob type) e))

/-- A type accepts values of certain kinds. Others are invalid and touch nothing; these fail only
for their content, or because a connection refuses a large object. -/
structure AcceptsOnly (arith : Arithmetic) (kinds : List ValueKind) (type : SqlType) (v : Value)
    (w : World σ) : Prop where
  outside : v.valueKind ∉ kinds →
    ((Converter.standard arith : Converter σ).convert (.typed ⟨type, some v⟩)).run w =
      (.error (.error (.invalidParameter v (.type type))), w)
  inside : v.valueKind ∈ kinds → ∀ f w',
    ((Converter.standard arith : Converter σ).convert (.typed ⟨type, some v⟩)).run w =
      (.error f, w') → ScalarFailure arith type v f ∨ ClobRefused type v w f

/-- A scalar other than a large object is converted without a look at the world. -/
theorem scalar_bindsAlone (arith : Arithmetic) (σ : Type) [Connection σ]
    (h : type.acceptedKinds? = some kinds) (hclob : ¬ (type = .clob ∨ type = .nclob)) (v : Value) :
    ∃ x, BindsAlone arith σ type v x ∧ Coerces arith kinds type v x := by
  cases type
  case integer | bigint | smallint =>
    cases h
    exact ⟨_, bindsAlone_of_category rfl rfl, bindInteger_coerces _ _ v⟩
  case float | real | double =>
    cases h
    exact ⟨_, bindsAlone_of_category rfl rfl, bindFloat_coerces _ _ v⟩
  case decimal | numeric =>
    cases h
    exact ⟨_, bindsAlone_of_category rfl rfl, (toDecimal_coerces v (by simp)).map _⟩
  case bit | boolean =>
    cases h
    exact ⟨_, bindsAlone_of_category rfl rfl, (toBool_coerces (by simp)).map _⟩
  case varchar | char | text | nchar | nvarchar =>
    cases h
    exact ⟨_, bindsAlone_of_category rfl rfl, bindText_coerces _ _ v⟩
  case binary | varbinary | blob =>
    cases h
    exact ⟨_, bindsAlone_of_category rfl rfl, bindBinary_coerces _ _ v⟩
  case date =>
    cases h
    exact ⟨_, bindsAlone_of_category rfl rfl, (toDate_coerces _ v rfl).map _⟩
  case time | timeWithTimezone =>
    cases h
    exact ⟨_, bindsAlone_of_category rfl rfl, bindTime_coerces _ v rfl⟩
  case timestamp | datetime | timestampWithTimezone =>
    cases h
    exact ⟨_, bindsAlone_of_category rfl rfl, bindTimestamp_coerces _ v rfl⟩
  case row =>
    cases h
    exact ⟨_, bindsAlone_of_category rfl rfl, bindRow_coerces _ _ v⟩
  case clob | nclob => exact absurd (by simp) hclob
  case array | ref | struct | custom => cases h

private theorem acceptsOnly_of_coerces {x : Outcome NativeValue}
    (hbind : BindsAlone arith σ type v x)
    (hx : Coerces arith kinds type v x) (w : World σ) : AcceptsOnly arith kinds type v w := by
  obtain ⟨native, -, hrun⟩ := hbind
  constructor
  · intro hout
    rw [hrun w, hx.outside hout]
    rfl
  · intro hin f w' hfails
    rw [hrun w] at hfails
    cases x with
    | ok a => cases hfails
    | error e =>
      cases hfails
      exact .inl (failsOnly_iff.mp (hx.inside hin) _ rfl)

private theorem run_bindClob_text (type : SqlType) (s : String) (w : World σ) :
    (bindClob type (.text s)).run w =
      (((Connection.createClob (type == .nclob) w.connection).1.mapError fun e =>
          .error (.database (.createClob type) e)).map fun clob => .clob (clob.write 1 s),
        ⟨w.channels, (Connection.createClob (type == .nclob) w.connection).2⟩) := by
  rw [bindClob, bind_pure_comp, Step.run_map, Binding.run_ask]

private theorem acceptsOnly_clob (arith : Arithmetic) (htype : type = .clob ∨ type = .nclob)
    (v : Value)
    (w : World σ) : AcceptsOnly arith [.text, .charStream] type v w := by
  have hcategory : type.category? = some .clob := by rcases htype with rfl | rfl <;> rfl
  obtain ⟨native, -, hconvert⟩ := Converter.standard_convert_typed arith σ hcategory v
  rw [Category.bind] at hconvert
  constructor
  · intro hout
    rw [hconvert, Step.run_map]
    cases v
    case text | charStream => simp at hout
    all_goals rfl
  · intro hin f w' hfails
    rw [hconvert] at hfails
    have hclob := Step.run_of_map_error hfails
    cases v
    case text s =>
      rw [run_bindClob_text] at hclob
      cases hanswer : (Connection.createClob (type == .nclob) w.connection).1 with
      | ok clob =>
        rw [hanswer] at hclob
        cases hclob
      | error e =>
        rw [hanswer] at hclob
        cases hclob
        exact .inr (.intro htype rfl hanswer)
    case charStream => cases hclob
    all_goals simp at hin

private theorem acceptsOnly (arith : Arithmetic) (h : type.acceptedKinds? = some kinds) (v : Value)
    (w : World σ) : AcceptsOnly arith kinds type v w := by
  by_cases hclob : type = .clob ∨ type = .nclob
  · have hkinds : kinds = [.text, .charStream] := by
      rcases hclob with rfl | rfl <;> exact (Option.some.inj h).symm
    rw [hkinds]
    exact acceptsOnly_clob arith hclob v w
  · obtain ⟨x, hbind, hx⟩ := scalar_bindsAlone arith σ h hclob v
    exact acceptsOnly_of_coerces hbind hx w

theorem overflowsAs_of_run {w' : World σ} (h : type.acceptedKinds? = some kinds)
    (hrun : ((Converter.standard arith : Converter σ).convert (.typed ⟨type, some v⟩)).run w =
      (.error .overflow, w')) :
    v.OverflowsAs arith type := by
  have haccepts := acceptsOnly arith h v w
  by_cases hin : v.valueKind ∈ kinds
  · rcases haccepts.inside hin _ _ hrun with hscalar | hclob
    · cases hscalar with
      | content _ hcontent =>
        cases hcontent
        assumption
    · cases hclob
  · rw [haccepts.outside hin] at hrun
    cases hrun

theorem bindsAlone_of_overflowsAs (σ : Type) [Connection σ] (h : v.OverflowsAs arith type) :
    BindsAlone arith σ type v (.error .overflow) := by
  cases h with
  | @time t htype h =>
    have hcategory : type.category? = some .time := by
      rcases SqlType.eq_of_isTime htype with rfl | rfl <;> rfl
    refine bindsAlone_of_category hcategory (congrArg Step.ofOutcome ?_)
    rw [bindTime, TimeOfDay.resolve_of_overflows h]
    rfl
  | @civil c htype h =>
    have hcategory : type.category? = some .timestamp := by
      rcases SqlType.eq_of_isTimestamp htype with rfl | rfl | rfl <;> rfl
    refine bindsAlone_of_category hcategory (congrArg Step.ofOutcome ?_)
    rw [bindTimestamp, CivilDateTime.resolve_of_overflows h]
    rfl
  | @instant u htype h =>
    have hcategory : type.category? = some .timestamp := by
      rcases SqlType.eq_of_isTimestamp htype with rfl | rfl | rfl <;> rfl
    refine bindsAlone_of_category hcategory (congrArg Step.ofOutcome ?_)
    rw [bindTimestamp, UtcInstant.resolve_of_overflows h]
    rfl

/-- Only a calendar record whose arithmetic overflows ends a conversion without an error. -/
private theorem convert_overflow_iff (h : type.acceptedKinds? = some kinds) (v : Value)
    (w : World σ) :
    ((Converter.standard arith : Converter σ).convert (.typed ⟨type, some v⟩)).run w =
        (.error .overflow, w) ↔
      v.OverflowsAs arith type := by
  constructor
  · exact overflowsAs_of_run h
  · intro hv
    obtain ⟨native, -, hrun⟩ := bindsAlone_of_overflowsAs σ hv
    rw [hrun w]
    rfl

/-- A scalar type refuses exactly the values outside the kinds that it accepts, and touches nothing
for them. A value that it accepts fails for its content alone, with an error for the caller unless
the arithmetic on it overflows: the thousandths of an instant outgrow a decimal, or, in checked
arithmetic, an offset outgrows 32 bits. -/
theorem scalar_types_accept_kinds (arith : Arithmetic) (h : type.acceptedKinds? = some kinds)
    (v : Value) (w : World σ) :
    AcceptsOnly arith kinds type v w ∧
      (((Converter.standard arith : Converter σ).convert (.typed ⟨type, some v⟩)).run w =
          (.error .overflow, w) ↔
        v.OverflowsAs arith type) :=
  ⟨acceptsOnly arith h v w, convert_overflow_iff h v w⟩

end

/-- Of the integers that BIT takes, two is refused for its content. -/
theorem scalar_types_accept_kinds_bit :
    let w : World BufferedConnection := ⟨.exhausted, {}⟩
    SqlType.bit.acceptedKinds? = some [.boolean, .text, .int, .long] ∧
      AcceptsOnly .wrapping [.boolean, .text, .int, .long] .bit (.long 2) w ∧
      ((Converter.standard .wrapping).convert (.typed ⟨.bit, some (.long 2)⟩)).run w =
        (.error (.error (.invalidBit .bit 2)), w) := by
  intro w
  have h : SqlType.bit.acceptedKinds? = some [.boolean, .text, .int, .long] := rfl
  exact ⟨h, (scalar_types_accept_kinds .wrapping h (.long 2) w).1, rfl⟩

/-- An instant is of a kind that TIMESTAMP accepts, and its fraction is refused when it is one or
more; but the largest fractions end the conversion, and no error reaches the caller. -/
theorem timestamp_overflows_on_utc_fraction :
    let u : UtcInstant := ⟨0, .ofNat 79228162514264337593543951 (by decide)⟩
    let w : World BufferedConnection := ⟨.exhausted, {}⟩
    SqlType.timestamp.acceptedKinds? = some [.text, .utc, .civil] ∧
      (Value.utc u).valueKind ∈ [ValueKind.text, .utc, .civil] ∧
      ∀ arith : Arithmetic,
        ((Converter.standard arith).convert (.typed ⟨.timestamp, some (.utc u)⟩)).run w =
          (.error .overflow, w) ∧
        ∀ e : Error,
          (((Converter.standard arith).convert (.typed ⟨.timestamp, some (.utc u)⟩)).run w).1 ≠
            .error (.error e) := by
  intro u w
  have h : SqlType.timestamp.acceptedKinds? = some [.text, .utc, .civil] := rfl
  have hu : u.Overflows := by decide
  refine ⟨h, by simp, fun arith => ?_⟩
  have hrun : ((Converter.standard arith).convert (.typed ⟨.timestamp, some (.utc u)⟩)).run w =
      (.error .overflow, w) := (convert_overflow_iff h (.utc u) w).mpr (.instant rfl hu)
  refine ⟨hrun, fun e he => ?_⟩
  rw [hrun] at he
  cases he

end SqlBinding
