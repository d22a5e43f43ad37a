import Mathlib.Data.List.Basic
import SqlBinding.Binding.Vendor
import SqlBinding.Driver.Buffered
import SqlBinding.Driver.Recording
import SqlBinding.Proofs.Binding.StandardConverter

/-!
# Hooks for custom types

A converter has hooks for the types outside the vocabulary: one that knows their native types, one
that converts their values, and one that converts arrays of them. Converters that differ in these
only cannot be told apart as long as no custom type is named, whatever their own methods do. A value
with a custom type is left to the hooks alone.
-/

namespace SqlBinding

def ArrayValue.hasCustomElements : ArrayValue → Bool
  | .typed type _ => type.isCustom
  | _ => false

def Value.hasCustomElements : Value → Bool
  | .array a => a.hasCustomElements
  | _ => false

def Parameter.usesCustom : Parameter → Bool
  | .typed ⟨type, value⟩ => type.isCustom || value.any Value.hasCustomElements
  | _ => false

private theorem SqlType.exists_category {type : SqlType} (h : type.isCustom = false) :
    ∃ category, type.category? = some category := by
  cases type
  case custom => cases h
  all_goals exact ⟨_, rfl⟩

/-- What a converter has for the types outside the vocabulary. -/
structure Hooks (σ : Type) where
  resolveCustom : String → Option NativeType
  custom : SqlType → Value → Binding σ NativeValue
  customArray : CustomArrays

/-- What the own methods of a converter do with a value, given the standard conversion of it. -/
abbrev Methods (σ : Type) :=
  Category → SqlType → Value → Binding σ NativeValue → Binding σ NativeValue

namespace Converter

variable {σ : Type}

def ofMethods [Connection σ] (arith : Arithmetic) (own : Methods σ) (hooks : Hooks σ) :
    Converter σ where
  category := fun customArray c type v => own c type v (c.bind arith customArray type v)
  resolveCustom := hooks.resolveCustom
  custom := hooks.custom
  customArray := hooks.customArray

/-- Converters that may differ in their hooks: they have the same methods, and these leave the hook
for arrays to arrays of custom elements. -/
structure SameButHooks (c₁ c₂ : Converter σ) : Prop where
  category : c₁.category = c₂.category
  customArray : ∀ custom custom' category type v, v.hasCustomElements = false →
    c₁.category custom category type v = c₁.category custom' category type v

end Converter

private theorem ArrayValue.build_congr {arith : Arithmetic} {a : ArrayValue}
    (h : a.hasCustomElements = false) (custom custom' : CustomArrays) :
    a.build arith custom = a.build arith custom' := by
  cases a with
  | typed type elements =>
    cases type with
    | custom name => cases h
    | _ => rfl
  | _ => rfl

section

variable {arith : Arithmetic} {σ : Type} [Connection σ]

private theorem bindArray_congr {v : Value} (h : v.hasCustomElements = false) (type : SqlType)
    (custom custom' : CustomArrays) :
    (bindArray arith custom type v : Binding σ NativeValue) = bindArray arith custom' type v := by
  cases v with
  | array a => rw [bindArray, bindArray, ArrayValue.build_congr h custom custom']
  | _ => rfl

private theorem Category.bind_congr {v : Value} (h : v.hasCustomElements = false)
    (category : Category)
    (type : SqlType) (custom custom' : CustomArrays) :
    (category.bind arith custom type v : Binding σ NativeValue) =
      category.bind arith custom' type v := by
  cases category with
  | array => exact bindArray_congr h type custom custom'
  | _ => rfl

/-- The vendor's own methods: its word for true. -/
def Vendor.methods : Methods σ := fun category _ v x =>
  match category, v with
  | .boolean, .text "Y" => return .boolean true
  | _, _ => x

private theorem Vendor.converter_eq (arith : Arithmetic) :
    (converter arith : Converter σ) =
      .ofMethods arith methods ⟨resolve, document, documents⟩ := by
  rw [converter, Converter.ofMethods]
  congr 1
  funext custom category type v
  dsimp only [methods]
  split
  · rfl
  · simp_all

private theorem Converter.sameButHooks_ofMethods (own : Methods σ) (hooks₁ hooks₂ : Hooks σ) :
    SameButHooks (ofMethods arith own hooks₁) (ofMethods arith own hooks₂) where
  category := rfl
  customArray custom custom' category type v h := by
    dsimp only [ofMethods]
    rw [Category.bind_congr h category type custom custom']

end

/-- What a caller may ask for on one connection and one statement. -/
inductive SessionStep where
  | bind (index : Nat) (p : Parameter)
  | bindAll (ps : List Parameter)
  | convert (p : Parameter)
  | buildArray (a : Option ArrayValue)
  | buildStruct (r : Record)

def SessionStep.usesCustom : SessionStep → Bool
  | .bind _ p => p.usesCustom
  | .bindAll ps => ps.any Parameter.usesCustom
  | .convert p => p.usesCustom
  | .buildArray a => a.any ArrayValue.hasCustomElements
  | .buildStruct _ => false

inductive SessionAnswer where
  | type (native : NativeType)
  | types (natives : List NativeType)
  | value (v : NativeValue)
  | array (a : Option NativeArray)
  | struct (s : NativeStruct)

/-- A conversion beside a statement that it does not touch. -/
def Binding.beside {σ τ α : Type} (x : Binding σ α) : Step (World σ × τ) α := fun (w, s) =>
  let (answer, w) := x w
  (answer, w, s)

/-- Has the statement take a converted value. -/
def NativeValue.bindAt {σ τ : Type} [PreparedStatement τ] (index : Nat)
    (r : NativeType × NativeValue) : Step (World σ × τ) NativeType := fun (w, s) =>
  match PreparedStatement.set index r.2 s with
  | (.ok (), s) => (.ok r.1, w, s)
  | (.error e, s) => (.error (.error (.database (.bindParameter index) e)), w, s)

namespace Converter

variable {σ τ : Type}

/-- The native array of an array parameter; a null has none. -/
def buildArray (arith : Arithmetic) (c : Converter σ) :
    Option ArrayValue → Reading (Option NativeArray)
  | none => return none
  | some a => some <$> a.build arith c.customArray

variable [PreparedStatement τ]

private theorem bind_eq (c : Converter σ) (index : Nat) (p : Parameter) :
    (c.bind index p : Step (World σ × τ) NativeType) =
      (c.convert p).beside >>= NativeValue.bindAt index := by
  funext ⟨w, s⟩
  change bind c index p (w, s) = ((c.convert p).beside >>= NativeValue.bindAt index).run (w, s)
  rw [Step.run_bind]
  dsimp only [bind, Binding.beside, Step.run]
  rcases c.convert p w with ⟨e | ⟨native, v⟩, w'⟩
  · rfl
  · rfl

variable [Connection σ]

def perform (arith : Arithmetic) (c : Converter σ) :
    SessionStep → Step (World σ × τ) SessionAnswer
  | .bind index p => .type <$> c.bind index p
  | .bindAll ps => .types <$> c.bindAll ps
  | .convert p => (fun r => .value r.2) <$> (c.convert p).beside
  | .buildArray a => .array <$> (c.buildArray arith a).lift.beside
  | .buildStruct r => .struct <$> r.build.beside

/-- The answers to the steps, one after the other, and what they leave behind. -/
def session (arith : Arithmetic) (c : Converter σ) :
    List SessionStep → World σ × τ → List (Outcome SessionAnswer) × World σ × τ
  | [], u => ([], u)
  | step :: steps, u =>
    let (answer, u) := c.perform arith step u
    let (answers, u) := c.session arith steps u
    (answer :: answers, u)

end Converter

namespace Converter

section

variable {arith : Arithmetic} {σ τ : Type} [PreparedStatement τ] {c₁ c₂ : Converter σ}

private theorem resolve_congr {type : SqlType} {value : Option Value} (h : type.isCustom = false)
    (c₁ c₂ : Converter σ) : c₁.resolve ⟨type, value⟩ = c₂.resolve ⟨type, value⟩ := by
  obtain ⟨category, hcategory⟩ := SqlType.exists_category h
  obtain ⟨native, hnative⟩ := SqlType.native?_of_category hcategory value
  rw [resolve_of_native c₁ hnative, resolve_of_native c₂ hnative]

private theorem buildArray_congr {a : Option ArrayValue}
    (h : a.any ArrayValue.hasCustomElements = false)
    (c₁ c₂ : Converter σ) : c₁.buildArray arith a = c₂.buildArray arith a := by
  cases a with
  | none => rfl
  | some a =>
    rw [buildArray, buildArray, ArrayValue.build_congr h c₁.customArray c₂.customArray]

namespace SameButHooks

variable (h : SameButHooks c₁ c₂)
include h

private theorem convertAs {type : SqlType} {v : Value} (htype : type.isCustom = false)
    (hv : v.hasCustomElements = false) : c₁.convertAs type v = c₂.convertAs type v := by
  obtain ⟨category, hcategory⟩ := SqlType.exists_category htype
  rw [Converter.convertAs, Converter.convertAs, hcategory]
  dsimp only
  rw [h.customArray c₁.customArray c₂.customArray category type v hv, h.category]

private theorem convert {p : Parameter} (hp : p.usesCustom = false) :
    c₁.convert p = c₂.convert p := by
  cases p with
  | null => rfl
  | raw v => rfl
  | typed t =>
    obtain ⟨type, value⟩ := t
    rw [Parameter.usesCustom, Bool.or_eq_false_iff] at hp
    rw [Converter.convert, Converter.convert, resolve_congr hp.1 c₁ c₂]
    cases value with
    | none => rfl
    | some v =>
      dsimp only
      rw [h.convertAs hp.1 hp.2]

private theorem bind {p : Parameter} (hp : p.usesCustom = false) (index : Nat) :
    (c₁.bind index p : Step (World σ × τ) NativeType) = c₂.bind index p := by
  rw [bind_eq, bind_eq, h.convert hp]

private theorem bindFrom {ps : List Parameter} (hps : ps.any Parameter.usesCustom = false)
    (index : Nat) :
    (c₁.bindFrom index ps : Step (World σ × τ) (List NativeType)) = c₂.bindFrom index ps := by
  induction ps generalizing index with
  | nil => rfl
  | cons p ps ih =>
    rw [List.any_cons, Bool.or_eq_false_iff] at hps
    simp only [Converter.bindFrom, h.bind hps.1, ih hps.2]

variable [Connection σ]

private theorem perform {step : SessionStep} (hstep : step.usesCustom = false) :
    (c₁.perform arith step : Step (World σ × τ) SessionAnswer) = c₂.perform arith step := by
  cases step with
  | bind index p => rw [Converter.perform, Converter.perform, h.bind hstep]
  | bindAll ps =>
    rw [Converter.perform, Converter.perform, bindAll, bindAll, h.bindFrom hstep]
  | convert p => rw [Converter.perform, Converter.perform, h.convert hstep]
  | buildArray a => rw [Converter.perform, Converter.perform, buildArray_congr hstep c₁ c₂]
  | buildStruct r => rfl

private theorem session {steps : List SessionStep}
    (hsteps : ∀ step ∈ steps, step.usesCustom = false)
    (u : World σ × τ) : c₁.session arith steps u = c₂.session arith steps u := by
  induction steps generalizing u with
  | nil => rfl
  | cons step steps ih =>
    obtain ⟨hstep, hrest⟩ := List.forall_mem_cons.mp hsteps
    simp only [Converter.session, h.perform hstep, ih hrest]

end SameButHooks

end

section

variable {σ : Type} {c : Converter σ} {name : String}

private theorem convert_custom_unknown (h : c.resolveCustom name = none) (value : Option Value) :
    c.convert (.typed ⟨.custom name, value⟩) = .fail (.unsupported (.type (.custom name))) := by
  have hresolve :
      c.resolve ⟨.custom name, value⟩ = .fail (.unsupported (.type (.custom name))) := by
    simp [resolve, SqlType.native?, SqlType.name, h]
  rw [convert, hresolve]
  rfl

variable {native : NativeType}

private theorem resolve_custom (h : c.resolveCustom name = some native) (value : Option Value) :
    c.resolve ⟨.custom name, value⟩ = .ok native := by
  simp [resolve, SqlType.native?, SqlType.name, h]

private theorem convert_custom_null (h : c.resolveCustom name = some native) :
    c.convert (.typed ⟨.custom name, none⟩) = pure (native, .null native.ofNull) := by
  rw [convert, resolve_custom h]
  rfl

private theorem convert_custom (h : c.resolveCustom name = some native) (v : Value) :
    c.convert (.typed ⟨.custom name, some v⟩) = (native, ·) <$> c.custom (.custom name) v := by
  rw [convert, resolve_custom h, map_eq_pure_bind]
  rfl

end

end Converter

open Converter

/-- Converters that differ in their hooks for custom types only give the same answers over any
session that names no custom type, and leave the same statement, the same connection with all that
it was asked for, and the same channels. Whatever methods a converter has of its own on top of the
standard ones, the hooks may be exchanged in this sense.

A typed parameter of a custom type is left to the hooks. If they do not know the name, then the type
is not supported; if they do, then a null is bound as a null of the native type they tell (REAL goes
as FLOAT, as for any null). In neither case the hook for values is asked, as any other in its place
makes no difference. A value is what this hook makes of it, with the native type of the name. -/
theorem custom_hooks_conservative (arith : Arithmetic) {σ τ : Type} [Connection σ]
    [PreparedStatement τ] :
    (∀ c₁ c₂ : Converter σ, SameButHooks c₁ c₂ → ∀ steps : List SessionStep,
      (∀ step ∈ steps, step.usesCustom = false) →
        ∀ u : World σ × τ, c₁.session arith steps u = c₂.session arith steps u) ∧
    (∀ (own : Methods σ) (hooks₁ hooks₂ : Hooks σ),
      SameButHooks (ofMethods arith own hooks₁) (ofMethods arith own hooks₂)) ∧
    (∀ (c : Converter σ) (index : Nat) (p : Parameter),
      (c.bind index p : Step (World σ × τ) NativeType) =
        (c.convert p).beside >>= NativeValue.bindAt index) ∧
    (∀ (c : Converter σ) (name : String),
      (c.resolveCustom name = none → ∀ custom value,
        { c with custom }.convert (.typed ⟨.custom name, value⟩) =
          .fail (.unsupported (.type (.custom name)))) ∧
      (∀ native, c.resolveCustom name = some native →
        (∀ custom, { c with custom }.convert (.typed ⟨.custom name, none⟩) =
          pure (native, .null native.ofNull)) ∧
        (native ≠ .real → native.ofNull = native) ∧
        (∀ v, c.convert (.typed ⟨.custom name, some v⟩) =
          (native, ·) <$> c.custom (.custom name) v))) := by
  refine ⟨fun c₁ c₂ h steps hsteps u => h.session hsteps u, sameButHooks_ofMethods, bind_eq,
    fun c name => ⟨fun h custom value => ?_, fun native h => ⟨fun custom => ?_, ?_, ?_⟩⟩⟩
  · exact convert_custom_unknown (c := { c with custom }) h value
  · exact convert_custom_null (c := { c with custom }) h
  · intro hreal
    cases native
    case real => exact absurd rfl hreal
    all_goals rfl
  · exact convert_custom h

/-- The vendor's converter, and the one that has its word for true and none of its types. -/
theorem custom_hooks_conservative_vendor :
    let standard : Converter (Recorded BufferedConnection) := .standard .checked
    let c₁ : Converter (Recorded BufferedConnection) := ofMethods .checked Vendor.methods
      ⟨standard.resolveCustom, standard.custom, standard.customArray⟩
    let c₂ : Converter (Recorded BufferedConnection) := Vendor.converter .checked
    let steps : List SessionStep := [.bind 1 (.typed ⟨.boolean, some (.text "Y")⟩),
      .buildArray (some (.typed .date [⟨.custom "JSON", none⟩])), .convert (.raw (.long 1))]
    let json : Value → Parameter := fun v => .typed ⟨.custom "JSON", some v⟩
    SameButHooks c₁ c₂ ∧ (∀ step ∈ steps, step.usesCustom = false) ∧
      (∀ u : World (Recorded BufferedConnection) × BufferedStatement,
        c₁.session .checked steps u = c₂.session .checked steps u) ∧
      c₁.resolveCustom "JSON" = none ∧
      (∀ v, c₁.convert (json v) = .fail (.unsupported (.type (.custom "JSON")))) ∧
      c₂.resolveCustom "JSON" = some (.other 1111) ∧
      (∀ v, c₂.convert (json v) = return (.other 1111, .string v.literal)) := by
  intro standard c₁ c₂ steps json
  obtain ⟨hsession, hsame, -, hcustom⟩ :=
    custom_hooks_conservative .checked (σ := Recorded BufferedConnection) (τ := BufferedStatement)
  have hc : SameButHooks c₁ c₂ := by
    rw [show c₂ = _ from Vendor.converter_eq .checked]
    exact hsame Vendor.methods _ _
  have hsteps : ∀ step ∈ steps, step.usesCustom = false := by
    simp [steps, SessionStep.usesCustom, Parameter.usesCustom, Value.hasCustomElements,
      ArrayValue.hasCustomElements, SqlType.isCustom]
  refine ⟨hc, hsteps, hsession c₁ c₂ hc steps hsteps, rfl, ?_, rfl, ?_⟩
  · exact fun v => (hcustom c₁ "JSON").1 rfl c₁.custom (some v)
  · exact fun v => ((hcustom c₂ "JSON").2 (.other 1111) rfl).2.2 v

/-- A null of a custom type goes as FLOAT where the hooks tell REAL. -/
theorem null_of_custom_real_goes_as_float :
    let c : Converter BufferedConnection :=
      { Converter.standard .checked with resolveCustom := fun _ => some .real }
    c.resolveCustom "MEASURE" = some .real ∧ ∀ w : World BufferedConnection,
      (c.convert (.typed ⟨.custom "MEASURE", none⟩)).run w = (.ok (.real, .null .float), w) :=
  ⟨rfl, fun _ => rfl⟩

end SqlBinding
