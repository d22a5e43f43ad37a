import Mathlib.Data.List.Basic
import SqlBinding.Proofs.Binding.ConversionEnds
import SqlBinding.Proofs.Binding.ParameterList

/-!
# Conversions that are aborted

A conversion is aborted by an arithmetic overflow and by nothing else. The thousandths of an instant
can overflow, which are computed before its fraction is checked, and the parts of an offset if the
arithmetic on 32 bits is checked. They are computed for a record that is bound as a time or a
timestamp, and for one in an array of these when all elements before it are converted.
-/

namespace SqlBinding

open Outcome

/-- Only fractions of one or more overflow, and these are refused for what they are. -/
private theorem UtcInstant.Overflows.le_mantissa {u : UtcInstant} (h : u.Overflows) :
    tenPow u.fraction.scale ≤ u.fraction.mantissa := by
  by_contra hlt
  exact Decimal.times?_ne_none_of_fraction (Nat.lt_of_not_le hlt) (by decide) h

/-- The offset of a time of day or of a civil date-time. -/
def Value.offset? : Value → Option ZoneOffset
  | .timeOfDay t => t.offset
  | .civil c => c.offset
  | _ => none

/-- What overflows is the fraction of an instant, or else an offset in checked arithmetic. -/
private theorem Value.OverflowsAs.cause {arith : Arithmetic} {type : SqlType} {v : Value}
    (h : v.OverflowsAs arith type) :
    (∃ u, v = .utc u ∧ u.Overflows) ∨
      ∃ o, v.offset? = some o ∧ arith = .checked ∧ o.Overflows := by
  cases h with
  | time htype h =>
    cases h with
    | offset clock hoffset checked overflows => exact .inr ⟨_, hoffset, checked, overflows⟩
  | civil htype h =>
    cases h with
    | offset isWall hoffset checked overflows => exact .inr ⟨_, hoffset, checked, overflows⟩
  | instant htype h => exact .inl ⟨_, rfl, h⟩

/-- All elements that are not null are converted for an array, and nothing is read for them. -/
def SqlType.Takes (arith : Arithmetic) (type : SqlType) (elements : List TypedValue) : Prop :=
  ∀ t ∈ elements, ∀ v, t.value = some v → ∃ n, type.element arith v = .ofOutcome (.ok n)

/-- A parameter with a calendar record that overflows and that is looked at. -/
inductive Overflows (arith : Arithmetic) : Parameter → Prop
  | value {type : SqlType} {v : Value} (h : v.OverflowsAs arith type) :
      Overflows arith (.typed ⟨type, some v⟩)
  | element {type tag : SqlType} {before after : List TypedValue} {v : Value}
      (hbefore : type.Takes arith before) (h : v.OverflowsAs arith type) :
      Overflows arith (.typed ⟨.array, some (.array (.typed type
        (before ++ ⟨tag, some v⟩ :: after)))⟩)

/-- A step that is never aborted: it gives a result or an error. -/
def Step.Returns {s α : Type} (x : Step s α) : Prop := x.FailsOnly (· ≠ .overflow)

private theorem Step.Returns.ne_overflow {s α : Type} {x : Step s α} (hx : x.Returns) (w : s) :
    (x.run w).1 ≠ .error .overflow := fun h => hx w .overflow h rfl

private theorem Outcome.map_eq_error_iff {α β : Type} {f : α → β} {x : Outcome α} {e : Failure} :
    Except.map f x = .error e ↔ x = .error e := by
  cases x <;> simp [Except.map]

section

variable {arith : Arithmetic} {type : SqlType} {v : Value} {elements before : List TypedValue}
  {cells : List (Option NativeValue)} {cs cs' : Channels}

private theorem Coerces.of_overflow {α : Type} {kinds : List ValueKind} {x : Outcome α}
    (hx : Coerces arith kinds type v x) (h : x = .error .overflow) :
    v.OverflowsAs arith type := by
  by_cases hin : v.valueKind ∈ kinds
  · cases failsOnly_iff.mp (hx.inside hin) .overflow h with
    | content _ hcontent =>
      cases hcontent
      assumption
  · rw [hx.outside hin] at h
    cases h

private theorem elementBytes_returns (type : SqlType) (v : Value) :
    (ArrayValue.elementBytes type v).Returns := by
  intro cs
  cases v
  case byteStream c =>
    rw [ArrayValue.elementBytes, Reading.run_bytes]
    cases (cs.readBytes c).1 with
    | ok bytes => exact nofun
    | error message =>
      rintro f hf rfl
      cases hf
  all_goals
    rintro f hf rfl
    cases hf

private theorem element_of_overflow (htype : type.isElement = true)
    (h : (type.element arith v).run cs = (.error .overflow, cs')) : v.OverflowsAs arith type := by
  by_cases hbytes : type = .binary ∨ type = .varbinary
  · have hreturns : (type.element arith v).Returns := by
      rcases hbytes with rfl | rfl <;> exact Step.FailsOnly.map _ (elementBytes_returns _ v)
    exact absurd (congrArg Prod.fst h) (hreturns.ne_overflow cs)
  · obtain ⟨kinds, x, hx, hcoerces⟩ := element_coerces arith htype hbytes v
    rw [hx] at h
    exact hcoerces.of_overflow (congrArg Prod.fst h)

/-- Only elements of times and timestamps overflow, and these are converted without reading. -/
private theorem element_of_overflowsAs (h : v.OverflowsAs arith type) :
    type.isElement = true ∧ type.element arith v = .ofOutcome (.error .overflow) ∧
      ∃ convert : Value → Outcome NativeValue,
        type.element arith = fun v => .ofOutcome (convert v) := by
  cases h with
  | time htype h =>
    rcases SqlType.eq_of_isTime htype with rfl | rfl
    all_goals
      refine ⟨rfl, ?_, fun v => .ofTime <$> ArrayValue.elementTime arith _ v, rfl⟩
      rw [SqlType.element, ArrayValue.elementTime, TimeOfDay.resolve_of_overflows h]
      rfl
  | civil htype h =>
    rcases SqlType.eq_of_isTimestamp htype with rfl | rfl | rfl
    all_goals
      refine ⟨rfl, ?_, fun v => .ofTimestamp <$> ArrayValue.elementTimestamp arith _ v, rfl⟩
      rw [SqlType.element, ArrayValue.elementTimestamp, CivilDateTime.resolve_of_overflows h]
      rfl
  | instant htype h =>
    rcases SqlType.eq_of_isTimestamp htype with rfl | rfl | rfl
    all_goals
      refine ⟨rfl, ?_, fun v => .ofTimestamp <$> ArrayValue.elementTimestamp arith _ v, rfl⟩
      rw [SqlType.element, ArrayValue.elementTimestamp, UtcInstant.resolve_of_overflows h]
      rfl

private theorem exists_collected_iff_takes {convert : Value → Outcome NativeValue}
    (hconvert : type.element arith = fun v => .ofOutcome (convert v)) (cs : Channels) :
    (∃ cells, ArrayValue.Collected (type.element arith) cs elements cells cs) ↔
      type.Takes arith elements := by
  rw [SqlType.Takes, hconvert, ArrayValue.exists_collected_iff, ArrayValue.forall_present_iff]
  refine forall₂_congr fun t _ => forall₂_congr fun v _ => exists_congr fun n => ?_
  exact ⟨fun h => congrArg Step.ofOutcome h, fun h => congrArg Prod.fst (congrFun h cs)⟩

end

section

variable {arith : Arithmetic} {σ : Type} [Connection σ] {type : SqlType} {p : Parameter}
  {w w' : World σ}

private theorem Creates.returns {α : Type} {what : List Creation} {P : List Call → α → Prop}
    {x : Binding σ α} (hx : Creates what P x) : x.Returns :=
  Step.FailsOnly.mono hx.failsOnly fun f hf => by
    obtain ⟨_, _, _, rfl⟩ := hf
    exact nofun

private theorem build_of_overflow {a : ArrayValue} {cs cs' : Channels}
    (h : (a.build arith (Converter.standard arith : Converter σ).customArray).run cs =
      (.error .overflow, cs')) : Overflows arith (.typed ⟨.array, some (.array a)⟩) := by
  cases a
  case typed type elements =>
    by_cases htype : type.isElement = true
    · rcases ArrayValue.collected_or_fails (type.element arith) elements cs with
        ⟨cells, cs₁, hcells⟩ | ⟨before, tag, v, after, cells, cs₁, e, cs₂, rfl, hcells, hv⟩
      · obtain ⟨n, hrun, -⟩ := ArrayValue.run_bindTyped_of_collected
          (Converter.standard arith : Converter σ).customArray htype hcells
        rw [ArrayValue.build, hrun] at h
        cases h
      · rw [ArrayValue.build, ArrayValue.run_bindTyped_error _ htype hcells hv after] at h
        cases h
        have hover := element_of_overflow htype hv
        obtain ⟨-, -, convert, hconvert⟩ := element_of_overflowsAs hover
        rw [hconvert] at hcells
        have hbefore := hcells.in_channels cs
        rw [← hconvert] at hbefore
        exact .element ((exists_collected_iff_takes hconvert cs).mp ⟨cells, hbefore⟩) hover
    · cases type
      case text | nchar | blob | clob | nclob | array | ref | struct | row | custom => cases h
      all_goals exact absurd rfl htype
  all_goals cases h

private theorem bindArray_of_overflow {v : Value}
    (h : (bindArray arith (Converter.standard arith : Converter σ).customArray .array v).run w =
      (.error .overflow, w')) : Overflows arith (.typed ⟨.array, some v⟩) := by
  cases v
  case array a =>
    rcases hbuild : (a.build arith (Converter.standard arith : Converter σ).customArray).run
      w.channels with ⟨f | n, cs⟩
    · rw [run_bindArray_error .array hbuild] at h
      cases h
      exact build_of_overflow hbuild
    · have hcreate : (n.create : Binding σ NativeValue).Returns :=
        Step.FailsOnly.map NativeValue.array (Creates.array n.elementType n.data).returns
      rw [run_bindArray_ok .array hbuild] at h
      exact absurd (congrArg Prod.fst h) (hcreate.ne_overflow _)
  all_goals cases h

private theorem build_returns (r : Record) : (r.build : Binding σ NativeStruct).Returns := by
  by_cases h : r.Conforms
  · obtain ⟨plan, hplan⟩ := Record.plan_eq_ok_of_conforms h
    exact (Record.creates_build hplan).returns
  · obtain ⟨leaf, e, -, hplan⟩ := Record.plan_eq_error_of_not_conforms h
    intro w f hf
    rw [Record.run_build_of_plan_error hplan w] at hf
    cases hf
    exact nofun

private theorem bindStruct_ne_overflow (type : SqlType) (v : Value) (w : World σ) :
    ((bindStruct type v : Binding σ NativeValue).run w).1 ≠ .error .overflow := by
  cases v
  case record r =>
    have hstruct : (bindStruct type (.record r) : Binding σ NativeValue).Returns :=
      Step.FailsOnly.map NativeValue.struct (build_returns r)
    exact hstruct.ne_overflow w
  all_goals exact nofun

private theorem bindBare_ne_overflow (v : Value) : v.bindBare ≠ .error .overflow := by
  cases v <;> nofun

private theorem overflows_of_convert
    (h : ((Converter.standard arith : Converter σ).convert p).run w = (.error .overflow, w')) :
    Overflows arith p := by
  cases p with
  | null => cases h
  | raw v => exact absurd (congrArg Prod.fst h) (bindBare_ne_overflow v)
  | typed t =>
    obtain ⟨type, value⟩ := t
    cases value with
    | none =>
      cases type <;> cases h
    | some v =>
      cases hkinds : type.acceptedKinds? with
      | some kinds =>
        exact .value (overflowsAs_of_run hkinds h)
      | none =>
        cases hcategory : type.category? with
        | none =>
          cases type
          case custom name => cases h
          all_goals cases hcategory
        | some category =>
          obtain ⟨native, -, hconvert⟩ := Converter.standard_convert_typed arith σ hcategory v
          rw [hconvert] at h
          have hbind := Step.run_of_map_error h
          cases type
          case array =>
            cases hcategory
            exact bindArray_of_overflow hbind
          case ref | struct =>
            cases hcategory
            exact absurd (congrArg Prod.fst hbind) (bindStruct_ne_overflow _ v w)
          case custom name => cases hcategory
          all_goals cases hkinds

private theorem convert_of_overflows (h : Overflows arith p) (w : World σ) :
    ((Converter.standard arith : Converter σ).convert p).run w = (.error .overflow, w) := by
  cases h with
  | value h =>
    obtain ⟨native, -, hrun⟩ := bindsAlone_of_overflowsAs σ h
    rw [hrun w]
    rfl
  | @element type tag before after v hbefore h =>
    obtain ⟨helement, hover, convert, hconvert⟩ := element_of_overflowsAs h
    obtain ⟨cells, hcells⟩ := (exists_collected_iff_takes hconvert w.channels).mpr hbefore
    have hv : (type.element arith v).run w.channels = (.error .overflow, w.channels) := by
      rw [hover, Step.run_ofOutcome]
    have hbuild : ((ArrayValue.typed type (before ++ ⟨tag, some v⟩ :: after)).build
        arith (Converter.standard arith : Converter σ).customArray).run w.channels =
          (.error .overflow, w.channels) :=
      ArrayValue.run_bindTyped_error _ helement hcells hv after
    have hcategory : SqlType.array.category? = some .array := rfl
    obtain ⟨native, -, hconverts⟩ := Converter.standard_convert_typed arith σ hcategory
      (.array (.typed type (before ++ ⟨tag, some v⟩ :: after)))
    rw [hconverts, Category.bind, Step.run_map, run_bindArray_error .array hbuild]
    rfl

private theorem convert_aborts_iff (p : Parameter) (w : World σ) :
    (((Converter.standard arith : Converter σ).convert p).run w).1 = .error .overflow ↔
      Overflows arith p := by
  constructor
  · intro h
    exact overflows_of_convert (Prod.ext h rfl)
  · intro h
    rw [convert_of_overflows h w]

end

section

variable {arith : Arithmetic} {σ τ : Type} [Connection σ] [PreparedStatement τ]

variable {index : Nat} {p : Parameter} {ps : List Parameter} {u u' : World σ × τ}

private theorem bind_aborts_iff :
    (((Converter.standard arith : Converter σ).bind index p).run u).1 = .error .overflow ↔
      Overflows arith p := by
  obtain ⟨w, s⟩ := u
  constructor
  · intro h
    rcases hrun : ((Converter.standard arith : Converter σ).bind index p).run (w, s) with ⟨x, u'⟩
    rw [hrun] at h
    subst h
    cases Converter.bind_run_error hrun with
    | convert hconvert => exact overflows_of_convert hconvert
  · intro h
    have hconvert := convert_of_overflows h w
    simp only [Step.run, Converter.bind] at hconvert ⊢
    rw [hconvert]

private theorem bindFrom_cons_ok_iff {natives : List NativeType} :
    ((Converter.standard arith : Converter σ).bindFrom index (p :: ps)).run u = (.ok natives, u') ↔
      ∃ native u₁ rest,
        ((Converter.standard arith : Converter σ).bind index p).run u = (.ok native, u₁) ∧
        ((Converter.standard arith : Converter σ).bindFrom (index + 1) ps).run u₁ = (.ok rest, u') ∧
        natives = native :: rest := by
  rw [Converter.bindFrom]
  constructor
  · intro h
    rcases hbind : ((Converter.standard arith).bind index p).run u with ⟨e | native, u₁⟩
    · rw [Step.run_bind_error hbind] at h
      cases h
    · rw [Step.run_bind_ok hbind, bind_pure_comp] at h
      obtain ⟨rest, hrest, rfl⟩ := Step.run_of_map_ok h
      exact ⟨native, u₁, rest, rfl, hrest, rfl⟩
  · rintro ⟨native, u₁, rest, hbind, hrest, rfl⟩
    rw [Step.run_bind_ok hbind, Step.run_bind_ok hrest]
    rfl

private theorem bindFrom_cons_aborts_iff :
    (((Converter.standard arith : Converter σ).bindFrom index (p :: ps)).run u).1 =
        .error .overflow ↔
      Overflows arith p ∨ ∃ native u₁,
        ((Converter.standard arith : Converter σ).bind index p).run u = (.ok native, u₁) ∧
        (((Converter.standard arith : Converter σ).bindFrom (index + 1) ps).run u₁).1 =
          .error .overflow := by
  have haborts : (((Converter.standard arith : Converter σ).bind index p).run u).1 =
      .error .overflow ↔ Overflows arith p := bind_aborts_iff
  rw [Converter.bindFrom, ← haborts]
  rcases hbind : ((Converter.standard arith).bind index p).run u with ⟨e | native, u₁⟩
  · rw [Step.run_bind_error hbind]
    simp
  · rw [Step.run_bind_ok hbind, bind_pure_comp, Step.run_map]
    constructor
    · intro h
      exact .inr ⟨native, u₁, rfl, map_eq_error_iff.mp h⟩
    · rintro (h | ⟨_, _, h, hrest⟩)
      · cases h
      · cases h
        exact map_eq_error_iff.mpr hrest

/-- A list is aborted at its first parameter with a record that overflows, if all parameters before
it are bound. -/
private theorem bindFrom_aborts_iff :
    (((Converter.standard arith : Converter σ).bindFrom index ps).run u).1 = .error .overflow ↔
      ∃ before p after natives u', ps = before ++ p :: after ∧
        ((Converter.standard arith : Converter σ).bindFrom index before).run u = (.ok natives, u') ∧
        Overflows arith p := by
  induction ps generalizing index u with
  | nil =>
    refine ⟨nofun, ?_⟩
    rintro ⟨before, p, after, natives, u', h, -⟩
    cases before <;> cases h
  | cons q ps ih =>
    rw [bindFrom_cons_aborts_iff]
    constructor
    · rintro (hq | ⟨native, u₁, hbind, hrest⟩)
      · exact ⟨[], q, ps, [], u, rfl, rfl, hq⟩
      · obtain ⟨before, p, after, natives, u', rfl, hbefore, hp⟩ := ih.mp hrest
        have hrun := bindFrom_cons_ok_iff.mpr ⟨native, u₁, natives, hbind, hbefore, rfl⟩
        exact ⟨q :: before, p, after, native :: natives, u', rfl, hrun, hp⟩
    · rintro ⟨before, p, after, natives, u', h, hrun, hp⟩
      cases before with
      | nil =>
        cases h
        exact .inl hp
      | cons _ before =>
        cases h
        obtain ⟨native, u₁, rest, hbind, hbefore, -⟩ := bindFrom_cons_ok_iff.mp hrun
        exact .inr ⟨native, u₁, hbind, ih.mpr ⟨before, p, after, rest, u', rfl, hbefore, hp⟩⟩

/-- A conversion ends with a result or an error, a bind and the binding of a list too, unless a
calendar record that is looked at overflows. It is an instant with a fraction of one or more, or, in
checked arithmetic, a record with an offset that 32 bits do not hold. -/
theorem conversion_aborts_iff (arith : Arithmetic) (σ τ : Type) [Connection σ]
    [PreparedStatement τ] :
    (∀ p w, (((Converter.standard arith : Converter σ).convert p).run w).1 = .error .overflow ↔
      Overflows arith p) ∧
    (∀ index p (u : World σ × τ),
      (((Converter.standard arith : Converter σ).bind index p).run u).1 = .error .overflow ↔
        Overflows arith p) ∧
    (∀ ps (u : World σ × τ),
      (((Converter.standard arith : Converter σ).bindAll ps).run u).1 = .error .overflow ↔
        ∃ before p after natives u', ps = before ++ p :: after ∧
          ((Converter.standard arith : Converter σ).bindAll before).run u = (.ok natives, u') ∧
          Overflows arith p) ∧
    (∀ (type : SqlType) (v : Value), v.OverflowsAs arith type →
      (∃ u, v = .utc u ∧ u.Overflows) ∨
        ∃ o, v.offset? = some o ∧ arith = .checked ∧ o.Overflows) ∧
    (∀ u : UtcInstant, u.Overflows → tenPow u.fraction.scale ≤ u.fraction.mantissa) := by
  refine ⟨convert_aborts_iff, fun index p u => ?_, fun ps u => ?_, fun type v h => h.cause,
    fun u hu => hu.le_mantissa⟩
  · exact bind_aborts_iff
  · exact bindFrom_aborts_iff

/-- The largest decimal as a fraction is refused for its content as soon as its thousandths are
computed; but they cannot be, and no error reaches the caller. -/
theorem conversion_aborts_in_array :
    let u : UtcInstant := ⟨0, .ofNat 79228162514264337593543950335 (by decide)⟩
    let elements : List TypedValue := [⟨.datetime, some (.utc u)⟩]
    let p : Parameter := .typed ⟨.array, some (.array (.typed .datetime elements))⟩
    let w : World BufferedConnection := ⟨.exhausted, {}⟩
    ∀ arith : Arithmetic,
      ((Converter.standard arith).convert p).run w = (.error .overflow, w) ∧
        ∀ s : BufferedStatement,
          (((Converter.standard arith).bindAll [p]).run (w, s)).1 = .error .overflow := by
  intro u elements p w arith
  have hu : u.Overflows := by decide
  have hp : Overflows arith p :=
    @Overflows.element arith .datetime .datetime [] [] (.utc u) nofun (.instant rfl hu)
  refine ⟨convert_of_overflows hp w, fun s => ?_⟩
  exact bindFrom_aborts_iff.mpr ⟨[], p, [], [], (w, s), rfl, rfl, hp⟩

end

end SqlBinding
