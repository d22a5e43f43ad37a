import SqlBinding.Proofs.Struct.DeclaredFields

/-!
# Values of a kind

Every kind has values of its own, also the kinds that a struct does not take. A record is one of its
type if it has the declared names in their order, and a value of its kind under each of them, or
null where that is allowed.
-/

namespace SqlBinding

mutual

/-- A value is one of a kind. -/
inductive Value.Suits : Value → FieldKind → Prop
  | plain {kind : FieldKind} {v : Value} (h : kind.admits v = true) : v.Suits kind
  | date (d : CivilDate) : Value.Suits (.date d) .date
  | timeOfDay (t : TimeOfDay) : Value.Suits (.timeOfDay t) .time
  | civil (t : CivilDateTime) : Value.Suits (.civil t) .timestamp
  | utc (i : UtcInstant) : Value.Suits (.utc i) .timestamp
  | other (v : Value) (name : String) : v.Suits (.other name)
  | record {r : Record} {type : RecordType} (h : r.Fills type) :
      Value.Suits (.record r) (.record type)

/-- A record is one of a type. -/
inductive Record.Fills : Record → RecordType → Prop
  | intro {r : Record} {type : RecordType} (typed : r.type = type)
      (names : r.entries.map (·.name) = type.fields.map (·.name)) (distinct : r.Distinct)
      (nulls : ∀ f ∈ type.fields, r.get? f.name = none → f.nullable = true)
      (values : ∀ f ∈ type.fields, ∀ v, r.get? f.name = some v → v.Suits f.kind) : r.Fills type

end

namespace Record

theorem putEntry_of_notMem {name : String} {es : List Entry} (h : name ∉ es.map (·.name))
    (value : Option Value) : putEntry name value es = es ++ [⟨name, value⟩] := by
  induction es with
  | nil => rfl
  | cons e es ih =>
    rw [List.map_cons, List.mem_cons, not_or] at h
    rw [putEntry, if_neg (Ne.symm h.1), ih h.2]
    rfl

theorem ofList_eq (type : RecordType) {es : List Entry} (h : (es.map (·.name)).Nodup) :
    ofList type es = ⟨type, es⟩ := by
  induction es using List.reverseRecOn with
  | nil => rfl
  | append_singleton es e ih =>
    rw [List.map_append, List.nodup_append'] at h
    obtain ⟨name, value⟩ := e
    have hnew : name ∉ es.map (·.name) := fun hmem => h.2.2 hmem List.mem_cons_self
    rw [ofList_concat, ih h.1, Record.set, putEntry_of_notMem hnew]

theorem get?_of_mem {r : Record} (h : r.Distinct) {e : Entry} (he : e ∈ r.entries) :
    r.get? e.name = e.value := by
  have hfind : r.entries.find? (·.name == e.name) = some e := by
    obtain ⟨found, hfound⟩ : ∃ found, r.entries.find? (·.name == e.name) = some found := by
      rw [← Option.isSome_iff_exists, List.find?_isSome]
      exact ⟨e, he, beq_self_eq_true _⟩
    have hname : found.name = e.name := beq_iff_eq.mp (List.find?_some hfound :)
    have hsame := List.inj_on_of_nodup_map h (List.mem_of_find?_eq_some hfound) he hname
    rw [hfound, hsame]
  rw [get?, hfind]
  rfl

end Record

theorem exists_mem_of_forall₂ {α β : Type} {R : α → β → Prop} {as : List α} {bs : List β}
    (h : List.Forall₂ R as bs) {b : β} (hb : b ∈ bs) : ∃ a ∈ as, R a b := by
  induction h with
  | nil => cases hb
  | cons first _ ih =>
    rcases List.mem_cons.mp hb with rfl | hrest
    · exact ⟨_, List.mem_cons_self, first⟩
    · obtain ⟨a, ha, hab⟩ := ih hrest
      exact ⟨a, List.mem_cons_of_mem _ ha, hab⟩

theorem map_eq_of_forall₂ {α β γ : Type} {R : α → β → Prop} {f : α → γ} {g : β → γ}
    (hR : ∀ a b, R a b → g b = f a) {as : List α} {bs : List β} (h : List.Forall₂ R as bs) :
    bs.map g = as.map f := by
  induction h with
  | nil => rfl
  | cons first _ ih => rw [List.map_cons, List.map_cons, hR _ _ first, ih]

/-- An entry of a record stands for a declared field. -/
structure Field.Entered (f : Field) (e : Entry) : Prop where
  name : e.name = f.name
  null : e.value = none → f.nullable = true
  value : ∀ v, e.value = some v → v.Suits f.kind

theorem map_name_of_entered {fields : List Field} {es : List Entry}
    (h : List.Forall₂ Field.Entered fields es) : es.map (·.name) = fields.map (·.name) :=
  map_eq_of_forall₂ (fun _ _ hentered => hentered.name) h

theorem fills_of_entered {type : RecordType} {es : List Entry}
    (h : List.Forall₂ Field.Entered type.fields es)
    (hnames : (type.fields.map (·.name)).Nodup) : (⟨type, es⟩ : Record).Fills type := by
  have hdistinct : (⟨type, es⟩ : Record).Distinct := by
    rwa [Record.Distinct, map_name_of_entered h]
  have hget : ∀ f ∈ type.fields, ∃ e, f.Entered e ∧
      (⟨type, es⟩ : Record).get? f.name = e.value := by
    intro f hf
    obtain ⟨e, he, hentered⟩ := exists_mem_of_forall₂ h.flip hf
    refine ⟨e, hentered, ?_⟩
    rw [← hentered.name]
    exact Record.get?_of_mem hdistinct he
  refine .intro rfl (map_name_of_entered h) hdistinct (fun f hf hnull => ?_) fun f hf v hv => ?_
  · obtain ⟨e, hentered, hvalue⟩ := hget f hf
    exact hentered.null (hvalue.symm.trans hnull)
  · obtain ⟨e, hentered, hvalue⟩ := hget f hf
    exact hentered.value v (hvalue.symm.trans hv)

end SqlBinding
