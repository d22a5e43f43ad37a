import Mathlib.Data.List.Basic
import SqlBinding.Proofs.Driver.Calls
import SqlBinding.Proofs.Struct.Conformance

/-!
# The objects of a struct

A record needs an array object for every binary array in it and a struct object for every nested
record, inner objects before the ones that hold them. A connection is asked for these objects in
this order, and for no more of them once it refused one. Every attribute holds the object that its
own call returned.
-/

namespace SqlBinding

mutual

/-- The objects that declared fields of a record need. -/
def Creation.ofFields : List Field → Record → List Creation
  | [], _ => []
  | ⟨name, kind, _⟩ :: fields, r =>
    Creation.ofField kind (r.get? name) ++ Creation.ofFields fields r

def Creation.ofField : FieldKind → Option Value → List Creation
  | .binaryArray, some (.array (.binary vs)) => [.array "BINARY" vs.length]
  | .record type, some (.record r) => Creation.ofRecord type r
  | _, _ => []

/-- The objects that a record of a declared type needs, its own last. -/
def Creation.ofRecord : RecordType → Record → List Creation
  | ⟨name, fields⟩, r =>
    Creation.ofFields fields r ++ [.struct (Text.upper name) fields.length]

end

mutual

/-- The attribute of a field with the calls that were granted for it. -/
inductive Attribute : FieldKind → Option Value → List Call → NativeValue → Prop
  | null {kind : FieldKind} {t : NativeType} (h : kind.nullType? = some t) :
      Attribute kind none [] (.null t)
  | int (i : Int32) : Attribute .int (some (.int i)) [] (.integer i)
  | long (i : Int64) : Attribute .int (some (.long i)) [] (.bigint i)
  | float (x : Float32) : Attribute .float (some (.float x)) [] (.float x)
  | double (x : Float) : Attribute .float (some (.double x)) [] (.double x)
  | decimal (d : Decimal) : Attribute .decimal (some (.decimal d)) [] (.decimal d)
  | text (s : String) : Attribute .text (some (.text s)) [] (.string s)
  | boolean (b : Bool) : Attribute .boolean (some (.boolean b)) [] (.boolean b)
  | bytes (b : Bytes) : Attribute .bytes (some (.bytes b)) [] (.bytes b)
  | array (vs : List Bytes) (a : NativeArray) :
      Attribute .binaryArray (some (.array (.binary vs)))
        [.array "BINARY" (.binary (vs.map some)) (.ok a)] (.array a)
  | record {type : RecordType} {r : Record} {calls : List Call} {vs : List NativeValue}
      (h : Attributes type.fields r calls vs) (s : NativeStruct) :
      Attribute (.record type) (some (.record r))
        (calls ++ [.struct (Text.upper type.name) vs (.ok s)]) (.struct s)

/-- The attributes of declared fields, each with its own share of the calls. -/
inductive Attributes : List Field → Record → List Call → List NativeValue → Prop
  | nil {r : Record} : Attributes [] r [] []
  | cons {f : Field} {fields : List Field} {r : Record} {calls more : List Call} {v : NativeValue}
      {vs : List NativeValue} (first : Attribute f.kind (r.get? f.name) calls v)
      (rest : Attributes fields r more vs) : Attributes (f :: fields) r (calls ++ more) (v :: vs)

end

theorem Attributes.length_eq {fields : List Field} {r : Record} {calls : List Call}
    {vs : List NativeValue} (h : Attributes fields r calls vs) : vs.length = fields.length := by
  induction fields generalizing calls vs with
  | nil =>
    cases h
    rfl
  | cons f fields ih =>
    cases h with
    | cons first rest => rw [List.length_cons, List.length_cons, ih rest]

private theorem planFields_cons_ok {f : Field} {fields : List Field} {r : Record}
    {plan : List Planned}
    (h : planFields (f :: fields) r = .ok plan) :
    ∃ p rest, planField f.name f.kind (r.get? f.name) = .ok p ∧ planFields fields r = .ok rest ∧
      plan = p :: rest := by
  obtain ⟨name, kind, nullable⟩ := f
  rw [planFields] at h
  cases hfirst : planField name kind (r.get? name) with
  | error e => simp [hfirst, bind, Except.bind] at h
  | ok p =>
    cases hrest : planFields fields r with
    | error e => simp [hfirst, hrest, bind, Except.bind] at h
    | ok rest =>
      rw [hfirst, hrest] at h
      cases h
      exact ⟨p, rest, rfl, rfl, rfl⟩

variable {σ : Type} [Connection σ]

private theorem conforms_of_planField {name : String} {kind : FieldKind} {v : Option Value}
    {p : Planned}
    (h : planField name kind v = .ok p) : Conforms kind v := by
  have hnone : (Leaf.ofField name kind v).findSome? Leaf.error? = none := by
    rw [← failure?_planField, h]
    rfl
  rw [← forall_leaf_ofField name kind v]
  intro l hl
  rw [Leaf.conforms_iff_error? (Leaf.terminal_of_mem_ofField name kind v l hl)]
  exact List.findSome?_eq_none_iff.mp hnone l hl

/-- A value of a kind that does not nest is its own attribute, or a binary array that is made. -/
private theorem creates_plain {name : String} {kind : FieldKind} {v : Value} {p : Planned}
    (hv : kind.admits v = true) (h : planField name kind (some v) = .ok p) :
    Creates (Creation.ofField kind (some v)) (Attribute kind (some v))
      (p.create : Binding σ NativeValue) := by
  unfold FieldKind.admits at hv
  split at hv
  case h_1 i => cases h; exact .pure (.int i)
  case h_2 i => cases h; exact .pure (.long i)
  case h_3 x => cases h; exact .pure (.float x)
  case h_4 x => cases h; exact .pure (.double x)
  case h_5 d => cases h; exact .pure (.decimal d)
  case h_6 s => cases h; exact .pure (.text s)
  case h_7 b => cases h; exact .pure (.boolean b)
  case h_8 b => cases h; exact .pure (.bytes b)
  case h_9 vs =>
    cases h
    have hneeds : Creation.ofField .binaryArray (some (.array (.binary vs))) =
        [.array "BINARY" (ArrayData.binary (vs.map some)).length] := by
      rw [ArrayData.length, List.length_map]
      rfl
    have harray : Creates _ _ (Binding.ask _ _ : Binding σ NativeArray) :=
      .array "BINARY" (.binary (vs.map some))
    rw [hneeds]
    refine harray.map NativeValue.array ?_
    rintro _ a rfl
    exact .array vs a
  case h_10 => cases hv

private theorem creates_null {name : String} {kind : FieldKind} {p : Planned}
    (h : planField name kind none = .ok p) :
    Creates (Creation.ofField kind none) (Attribute kind none)
      (p.create : Binding σ NativeValue) := by
  have hneeds : Creation.ofField kind none = [] := by
    cases kind <;> rfl
  rw [planField] at h
  rw [hneeds]
  cases hnull : kind.nullType? with
  | none => simp [hnull, FieldKind.unsupported] at h
  | some t =>
    rw [hnull] at h
    cases h
    exact .pure (.null hnull)

mutual

theorem creates_ofFields : ∀ (fields : List Field) (r : Record) (plan : List Planned),
    planFields fields r = .ok plan → Creates (Creation.ofFields fields r) (Attributes fields r)
      (Planned.createAll plan : Binding σ (List NativeValue))
  | [], _, plan, h => by
      cases h
      exact .pure .nil
  | ⟨name, kind, nullable⟩ :: fields, r, plan, h => by
      obtain ⟨p, rest, hfirst, hrest, rfl⟩ := planFields_cons_ok h
      refine (creates_ofField name kind _ p hfirst).bind fun calls v hv => ?_
      rw [← List.append_nil (Creation.ofFields fields r)]
      refine (creates_ofFields fields r rest hrest).bind fun more vs hvs => .pure ?_
      rw [List.append_nil]
      exact .cons hv hvs

theorem creates_ofField (name : String) : ∀ (kind : FieldKind) (v : Option Value) (p : Planned),
    planField name kind v = .ok p →
      Creates (Creation.ofField kind v) (Attribute kind v) (p.create : Binding σ NativeValue)
  | kind, v, p, h => by
      cases conforms_of_planField h with
      | null => exact creates_null h
      | plain hv => exact creates_plain hv h
      | record => exact creates_ofRecord _ _ p h

theorem creates_ofRecord : ∀ (type : RecordType) (r : Record) (p : Planned),
    planRecord type r = .ok p →
      Creates (Creation.ofRecord type r) (Attribute (.record type) (some (.record r)))
        (p.create : Binding σ NativeValue)
  | ⟨name, fields⟩, r, p, h => by
      rw [planRecord] at h
      cases hplan : planFields fields r with
      | error e => simp [hplan, bind, Except.bind] at h
      | ok plan =>
        rw [hplan] at h
        cases h
        rw [Planned.create, Creation.ofRecord]
        refine (creates_ofFields fields r plan hplan).bind fun calls vs hvs => ?_
        rw [← hvs.length_eq]
        refine (Creates.struct (Text.upper name) vs).map NativeValue.struct ?_
        rintro _ s rfl
        exact .record hvs s

end

namespace Record

variable {r : Record} {plan : List Planned}

/-- The objects inside a record. -/
def innerCreations (r : Record) : List Creation := Creation.ofFields r.type.fields r

def creations (r : Record) : List Creation :=
  r.innerCreations ++ [.struct r.type.structName r.type.fields.length]

theorem attributes_of_plan (h : r.plan = .ok plan) :
    (r.attributes : Binding σ (List NativeValue × String)) =
      (·, r.type.structName) <$> Planned.createAll plan := by
  rw [Record.attributes, h]
  rfl

theorem planFields_of_plan (h : r.plan = .ok plan) :
    planFields r.type.fields r = .ok plan := by
  rw [Record.plan] at h
  cases hplan : planFields r.type.fields r with
  | error e => simp [hplan, Except.mapError] at h
  | ok plan' =>
    rw [hplan] at h
    cases h
    rfl

/-- The call for the struct of a record itself. -/
def outerCall (r : Record) (vs : List NativeValue) (answer : Except DriverError NativeStruct) :
    Call :=
  .struct r.type.structName vs answer

/-- The attributes of a record come in the order of the declarations, each from its own calls. -/
theorem creates_attributes (h : r.plan = .ok plan) :
    Creates r.innerCreations
      (fun calls p => Attributes r.type.fields r calls p.1 ∧ p.2 = r.type.structName)
      (r.attributes : Binding σ (List NativeValue × String)) := by
  rw [attributes_of_plan h]
  refine (creates_ofFields _ r plan (planFields_of_plan h)).map _ ?_
  exact fun calls vs hvs => ⟨hvs, rfl⟩

theorem creates_build (h : r.plan = .ok plan) :
    Creates r.creations
      (fun calls s => ∃ inner vs, calls = inner ++ [r.outerCall vs (.ok s)] ∧
        Attributes r.type.fields r inner vs) (r.build : Binding σ NativeStruct) := by
  refine (creates_attributes h).bind ?_
  rintro inner ⟨vs, _⟩ ⟨hvs, rfl⟩
  rw [← hvs.length_eq]
  refine (Creates.struct r.type.structName vs).mono ?_
  rintro _ s rfl
  exact ⟨inner, vs, rfl, hvs⟩

end Record

end SqlBinding
