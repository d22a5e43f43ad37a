import SqlBinding.Proofs.Struct.Declarations

/-!
# Records of derived structs

The record of an instance is one of the type that is derived from the declaration, if the types of
the fields bear the kinds that their names show. A struct is made of it unless a calendar field is
reached, and its attributes are the data of the instance in the order of the fields.
-/

namespace SqlBinding

/-- What an instance holds for its fields, in their order. -/
def Instance.data : {fields : List StructField} → Instance fields →
    List (Option ((type : FieldType) × Datum type))
  | _, .nil => []
  | _, .present v rest => some ⟨_, v⟩ :: rest.data
  | _, .absent _ rest => none :: rest.data

def FieldKind.isCalendar : FieldKind → Bool
  | .date | .time | .timestamp => true
  | _ => false

/-- A connection that never fails. -/
structure Connection.Unfailing (σ : Type) [Connection σ] : Prop where
  clob : ∀ national (c : σ), ∃ o, (createClob national c).1 = .ok o
  array : ∀ elementType data (c : σ), ∃ a, (createArray elementType data c).1 = .ok a
  struct : ∀ typeName attributes (c : σ), ∃ s, (createStruct typeName attributes c).1 = .ok s

variable {σ : Type} [Connection σ]

section

variable {type : StructType} {fields : List StructField}

private theorem StructType.recordType_eq (type : StructType) :
    type.recordType = ⟨type.typeName, StructField.recordFields type.fields⟩ := by
  cases type
  rfl

private theorem map_name_recordFields (fields : List StructField) :
    (StructField.recordFields fields).map (·.name) = fields.map (·.name) := by
  induction fields with
  | nil => rfl
  | cons f fields ih =>
    cases f
    exact congrArg _ ih

private theorem StructType.record_eq (h : type.WellFormed) (v : Instance type.fields) :
    type.record v = ⟨type.recordType, v.entries⟩ := by
  apply Record.ofList_eq
  rw [Instance.map_name_entries]
  exact h.nodup

private theorem StructType.distinct_record (h : type.WellFormed) (v : Instance type.fields) :
    (type.record v).Distinct := by
  rw [StructType.record_eq h, Record.Distinct, Instance.map_name_entries]
  exact h.nodup

private theorem StructType.get?_record (h : type.WellFormed) {v : Instance type.fields} {e : Entry}
    (he : e ∈ v.entries) : (type.record v).get? e.name = e.value := by
  refine Record.get?_of_mem (StructType.distinct_record h v) ?_
  rwa [StructType.record_eq h]

private theorem StructType.fills_record (h : type.WellFormed) {v : Instance type.fields}
    (hv : List.Forall₂ Field.Entered (StructField.recordFields type.fields) v.entries) :
    (type.record v).Fills type.recordType := by
  rw [StructType.record_eq h]
  rw [StructType.recordType_eq] at *
  refine fills_of_entered hv ?_
  rw [map_name_recordFields]
  exact h.nodup

mutual

private theorem Datum.suits : {type : FieldType} → (d : Datum type) → type.WellFormed →
    d.toValue.Suits type.kind
  | _, .plain v, h => by
    cases h with
    | plain hkind => exact PlainType.suits hkind v
  | _, .struct v, h => by
    cases h with
    | struct htype => exact .record (StructType.fills_record htype (v.entered htype.inside))

private theorem Instance.entered : {fields : List StructField} → (v : Instance fields) →
    (∀ f ∈ fields, f.type.WellFormed) →
    List.Forall₂ Field.Entered (StructField.recordFields fields) v.entries
  | _, .nil, _ => .nil
  | ⟨_, _, _⟩ :: _, .present v rest, h =>
    .cons ⟨rfl, nofun, fun _ hv => Option.some.inj hv ▸ v.suits (h _ List.mem_cons_self)⟩
      (rest.entered fun f hf => h f (List.mem_cons_of_mem _ hf))
  | ⟨_, _, _⟩ :: _, .absent hoptional rest, h =>
    .cons ⟨rfl, fun _ => hoptional, nofun⟩
      (rest.entered fun f hf => h f (List.mem_cons_of_mem _ hf))

end

/-- A field is of a calendar kind, or what it holds is converted. -/
def Leaf.Converted (l : Leaf) : Prop := l.kind.isCalendar = true ∨ l.Conforms

private theorem converted_plain {name : String} {kind : FieldKind} {v : Value}
    (h : kind.admits v = true) : ∀ l ∈ Leaf.ofField name kind (some v), l.Converted := by
  have hconforms := (forall_leaf_ofField name kind (some v)).mpr (.plain h)
  exact fun l hl => .inr (hconforms l hl)

private theorem converted_calendar {name : String} {kind : FieldKind} {v : Option Value}
    (h : kind.isCalendar = true) : ∀ l ∈ Leaf.ofField name kind v, l.Converted := by
  have hterminal : Leaf.Terminal ⟨name, kind, v⟩ := by
    rintro type r rfl
    cases h
  rw [Leaf.ofField_eq_singleton hterminal]
  intro l hl
  rw [List.mem_singleton.mp hl]
  exact .inl h

private theorem converted_absent (name : String) (type : FieldType) :
    ∀ l ∈ Leaf.ofField name type.kind none, l.Converted := by
  have hterminal : Leaf.Terminal ⟨name, type.kind, none⟩ := nofun
  rw [Leaf.ofField_eq_singleton hterminal]
  intro l hl
  rw [List.mem_singleton.mp hl]
  cases type with
  | struct type => exact .inr (.null rfl)
  | plain kind _ =>
    cases kind with
    | date | time | timestamp => exact .inl rfl
    | _ => exact .inr (.null rfl)

private theorem converted_of_suits {name : String} {kind : PlainKind} {v : Value}
    (h : v.Suits kind.fieldKind) :
    ∀ l ∈ Leaf.ofField name kind.fieldKind (some v), l.Converted := by
  generalize hkind : kind.fieldKind = shown at h
  cases h with
  | plain hadmits => exact converted_plain hadmits
  | date | timeOfDay | civil | utc => exact converted_calendar rfl
  | other | record => cases kind <;> cases hkind

mutual

private theorem Datum.converted (name : String) : {type : FieldType} → (d : Datum type) →
    type.WellFormed → ∀ l ∈ Leaf.ofField name type.kind (some d.toValue), l.Converted
  | _, .plain v, h => by
    cases h with
    | plain hkind => exact converted_of_suits (PlainType.suits hkind v)
  | .struct type, .struct v, h => by
    cases h with
    | struct htype =>
      have hrecord := v.converted htype.inside fun e he => StructType.get?_record htype he
      rw [FieldType.kind, StructType.recordType_eq]
      exact hrecord

private theorem Instance.converted : {fields : List StructField} → (v : Instance fields) →
    (∀ f ∈ fields, f.type.WellFormed) → {r : Record} →
    (∀ e ∈ v.entries, r.get? e.name = e.value) →
    ∀ l ∈ Leaf.ofFields (StructField.recordFields fields) r, l.Converted
  | _, .nil, _, _, _ => nofun
  | ⟨name, type, _⟩ :: _, .present v rest, h, r, hget => by
    have hfirst : r.get? name = some v.toValue := hget _ List.mem_cons_self
    have hrest := rest.converted (fun f hf => h f (List.mem_cons_of_mem _ hf))
      fun e he => hget e (List.mem_cons_of_mem _ he)
    rw [StructField.recordFields, Leaf.ofFields, hfirst, List.forall_mem_append]
    exact ⟨v.converted name (h _ List.mem_cons_self), hrest⟩
  | ⟨name, type, _⟩ :: _, .absent _ rest, h, r, hget => by
    have hfirst : r.get? name = none := hget _ List.mem_cons_self
    have hrest := rest.converted (fun f hf => h f (List.mem_cons_of_mem _ hf))
      fun e he => hget e (List.mem_cons_of_mem _ he)
    rw [StructField.recordFields, Leaf.ofFields, hfirst, List.forall_mem_append]
    exact ⟨converted_absent name type, hrest⟩

end

end

private theorem Call.Answered.granted (hσ : Connection.Unfailing σ) {call : Call} {c c' : σ}
    (h : call.Answered c c') : call.refusal? = none := by
  cases call with
  | clob national answer =>
    obtain ⟨o, ho⟩ := hσ.clob national c
    obtain rfl : answer = .ok o := (congrArg Prod.fst h).symm.trans ho
    rfl
  | array elementType data answer =>
    obtain ⟨a, ha⟩ := hσ.array elementType data c
    obtain rfl : answer = .ok a := (congrArg Prod.fst h).symm.trans ha
    rfl
  | struct typeName attributes answer =>
    obtain ⟨s, hs⟩ := hσ.struct typeName attributes c
    obtain rfl : answer = .ok s := (congrArg Prod.fst h).symm.trans hs
    rfl

namespace Record

variable {r : Record}

end Record

end SqlBinding
