import Mathlib.Data.List.Basic
import SqlBinding.Driver.Buffered
import SqlBinding.Proofs.Struct.Creations

/-!
# Structs are made as a whole or not at all

A record that does not conform is refused with the error of its first bad leaf before the connection
is asked for anything. A record that conforms is planned, and from then on only a refusal of the
connection to make an array or a struct can stop it.
-/

namespace SqlBinding

inductive RefusedObject : Failure → Prop
  | array (elementType : String) (e : DriverError) :
      RefusedObject (.error (.database (.createArray elementType) e))
  | struct (typeName : String) (e : DriverError) :
      RefusedObject (.error (.database (.createStruct typeName) e))

/-- A step that reads no channel and stops only if the connection refuses an array or a struct. -/
structure Binding.OnlyCreates {σ α : Type} (x : Binding σ α) : Prop where
  channels : x.Keeps World.channels
  refused : x.FailsOnly RefusedObject

/-- Whether an object can stand in a struct: it is no character large object. -/
def Creation.isPart : Creation → Bool
  | .clob _ => false
  | .array _ _ | .struct _ _ => true

mutual

private theorem Creation.isPart_ofFields : ∀ (fields : List Field) (r : Record),
    (Creation.ofFields fields r).all isPart = true
  | [], _ => rfl
  | ⟨_, kind, _⟩ :: fields, r => by
      rw [Creation.ofFields, List.all_append, Creation.isPart_ofField kind,
        Creation.isPart_ofFields fields r, Bool.and_true]

private theorem Creation.isPart_ofField : ∀ (kind : FieldKind) (v : Option Value),
    (Creation.ofField kind v).all isPart = true
  | kind, v => by
      unfold Creation.ofField
      split
      case h_2 type r => exact Creation.isPart_ofRecord type r
      all_goals rfl

private theorem Creation.isPart_ofRecord : ∀ (type : RecordType) (r : Record),
    (Creation.ofRecord type r).all isPart = true
  | ⟨_, fields⟩, r => by
      rw [Creation.ofRecord, List.all_append, Creation.isPart_ofFields fields r, Bool.true_and]
      rfl

end

open Binding

variable {σ : Type} [Connection σ]

private theorem Creates.onlyCreates {α : Type} {what : List Creation} {P : List Call → α → Prop}
    {x : Binding σ α} (hx : Creates what P x) (h : what.all Creation.isPart = true) :
    OnlyCreates x where
  channels := hx.keeps_channels
  refused := Step.FailsOnly.mono hx.failsOnly fun f hf => by
    obtain ⟨call, hcall, e, rfl⟩ := hf
    have hpart := List.all_eq_true.mp h _ hcall
    cases call with
    | clob national answer => cases hpart
    | array elementType data answer => exact .array elementType e
    | struct typeName attributes answer => exact .struct typeName e

namespace Record

variable {r : Record}

theorem run_attributes_of_plan_error {e : Failure} (h : r.plan = .error e) (w : World σ) :
    r.attributes.run w = (.error e, w) := by
  rw [Record.attributes, h]
  rfl

theorem run_build_of_plan_error {e : Failure} (h : r.plan = .error e) (w : World σ) :
    r.build.run w = (.error e, w) :=
  Step.run_bind_error (run_attributes_of_plan_error h w)

private theorem isPart_innerCreations (r : Record) : r.innerCreations.all Creation.isPart = true :=
  Creation.isPart_ofFields r.type.fields r

private theorem isPart_creations (r : Record) : r.creations.all Creation.isPart = true := by
  rw [creations, List.all_append, r.isPart_innerCreations]
  rfl

theorem onlyCreates_build (h : r.Conforms) : OnlyCreates (r.build : Binding σ NativeStruct) := by
  obtain ⟨plan, hplan⟩ := plan_eq_ok_of_conforms h
  exact (creates_build hplan).onlyCreates r.isPart_creations

end Record

/-- A record that does not conform is refused with the error of its first bad leaf, and the world
stays as it was: no connection is asked for anything, not even one that notes every request. For a
record that conforms the connection is asked for the objects of the record in their order, and
nothing but its refusal to make one of them can stop the conversion. -/
theorem struct_all_or_nothing (type : SqlType) (r : Record) :
    (r.Conforms →
      (OnlyCreates (r.build : Binding σ NativeStruct) ∧
        OnlyCreates (r.attributes : Binding σ (List NativeValue × String)) ∧
        OnlyCreates (bindStruct type (.record r) : Binding σ NativeValue)) ∧
      Requests r.creations (r.build : Binding (Recorded σ) NativeStruct) ∧
      Requests r.innerCreations
        (r.attributes : Binding (Recorded σ) (List NativeValue × String)) ∧
      Requests r.creations (bindStruct type (.record r) : Binding (Recorded σ) NativeValue)) ∧
    (¬ r.Conforms → ∃ leaf e, r.FirstBad leaf e ∧ ∀ w : World σ,
      r.build.run w = (.error (.error e), w) ∧
      r.attributes.run w = (.error (.error e), w) ∧
      (bindStruct type (.record r)).run w = (.error (.error e), w)) := by
  constructor
  · intro h
    obtain ⟨plan, hplan⟩ := Record.plan_eq_ok_of_conforms h
    have hbind {τ : Type} [Connection τ] :
        Creates r.creations (fun _ _ => True)
          (bindStruct type (.record r) : Binding τ NativeValue) :=
      (Record.creates_build hplan).map NativeValue.struct fun _ _ _ => trivial
    refine ⟨⟨r.onlyCreates_build h, ?_, ?_⟩, ?_, ?_, ?_⟩
    · exact (Record.creates_attributes hplan).onlyCreates r.isPart_innerCreations
    · exact hbind.onlyCreates r.isPart_creations
    · exact (Record.creates_build hplan).requests
    · exact (Record.creates_attributes hplan).requests
    · exact hbind.requests
  · intro h
    obtain ⟨leaf, e, hbad, hplan⟩ := r.plan_eq_error_of_not_conforms h
    refine ⟨leaf, e, hbad, fun w => ?_⟩
    have hbuild := Record.run_build_of_plan_error hplan w
    refine ⟨hbuild, Record.run_attributes_of_plan_error hplan w, ?_⟩
    rw [bindStruct, Step.run_map, hbuild]
    rfl

/-- A good child does not save a record with a number for its flag: no struct is made of either. -/
theorem struct_all_or_nothing_flag :
    let point : RecordType := ⟨"point", [⟨"x", .int, false⟩]⟩
    let child : Record := ⟨point, [⟨"x", some (.long 1)⟩]⟩
    let shape : RecordType :=
      ⟨"shape", [⟨"origin", .record point, false⟩, ⟨"flag", .boolean, false⟩]⟩
    let r : Record := ⟨shape, [⟨"flag", some (.int 1)⟩, ⟨"origin", some (.record child)⟩]⟩
    child.Conforms ∧
      Requests [.struct (Text.upper "point") 1]
        (child.build : Binding (Recorded BufferedConnection) NativeStruct) ∧
      ¬ r.Conforms ∧ ∃ leaf e, r.FirstBad leaf e ∧
        ∀ w : World (Recorded BufferedConnection), r.build.run w = (.error (.error e), w) := by
  intro point child shape r
  have hchild : child.Conforms := by
    intro f hf
    rw [List.mem_singleton.mp hf]
    exact .plain rfl
  have hr : ¬ r.Conforms := by
    intro h
    cases h ⟨"flag", .boolean, false⟩ (by simp [r, shape]) with
    | plain h => cases h
  obtain ⟨-, hrequests, -⟩ :=
    (@struct_all_or_nothing BufferedConnection _ .struct child).1 hchild
  obtain ⟨leaf, e, hbad, hrun⟩ :=
    (@struct_all_or_nothing (Recorded BufferedConnection) _ .struct r).2 hr
  exact ⟨hchild, hrequests, hr, leaf, e, hbad, fun w => (hrun w).1⟩

end SqlBinding
