import Mathlib.Data.List.Find
import Mathlib.Data.List.Induction
import Mathlib.Data.List.Nodup
import SqlBinding.Proofs.Struct.CreationOrder

/-!
# A struct depends on the declared fields alone

A record is read by the names that its type declares, and a record inside it by the names of the
type that the field around it declares. The order of entries, entries that are not declared and the
types that inner records bear themselves have no influence on the struct that is made.
-/

namespace SqlBinding

namespace Record

/-- No name is used twice. -/
def Distinct (r : Record) : Prop := (r.entries.map (·.name)).Nodup

theorem map_name_putEntry (name : String) (value : Option Value) (es : List Entry) :
    (putEntry name value es).map (·.name) =
      if name ∈ es.map (·.name) then es.map (·.name) else es.map (·.name) ++ [name] := by
  induction es with
  | nil => rfl
  | cons e es ih =>
    by_cases hname : e.name = name
    · have hput : putEntry name value (e :: es) = ⟨name, value⟩ :: es := if_pos hname
      rw [hput, if_pos (List.mem_map.mpr ⟨e, List.mem_cons_self, hname⟩), List.map_cons,
        List.map_cons, hname]
    · have hput : putEntry name value (e :: es) = e :: putEntry name value es := if_neg hname
      have hmem : name ∈ (e :: es).map (·.name) ↔ name ∈ es.map (·.name) := by
        rw [List.map_cons, List.mem_cons]
        exact or_iff_right (Ne.symm hname)
      rw [hput, List.map_cons, ih, if_congr hmem rfl rfl]
      split
      · rfl
      · rfl

theorem Distinct.set {r : Record} (h : r.Distinct) (name : String) (value : Option Value) :
    (r.set name value).Distinct := by
  unfold Distinct
  rw [Record.set, map_name_putEntry]
  split
  · exact h
  · next hname =>
    rw [List.nodup_append']
    refine ⟨h, List.nodup_singleton name, ?_⟩
    exact List.disjoint_singleton.mpr hname

private theorem distinct_ofList (type : RecordType) (es : List Entry) :
    (ofList type es).Distinct := by
  induction es using List.reverseRecOn with
  | nil => exact List.nodup_nil
  | append_singleton es e ih =>
    rw [ofList_concat]
    exact ih.set e.name e.value

/-- Which entries bear a name, and in which order, does not depend on the order of others. -/
private theorem filter_name_of_perm {r : Record} (hdistinct : r.Distinct) {es : List Entry}
    (h : r.entries.Perm es) (name : String) :
    r.entries.filter (·.name == name) = es.filter (·.name == name) := by
  -- No two entries bear the name, so the permutation has nothing to move.
  have hone : ∀ e e', e ∈ r.entries.filter (·.name == name) → e' ∈ es.filter (·.name == name) →
      True → True → e = e' := by
    intro e e' he he' _ _
    obtain ⟨he, hname⟩ := List.mem_filter.mp he
    obtain ⟨he', hname'⟩ := List.mem_filter.mp he'
    have hsame : e.name = e'.name := (beq_iff_eq.mp hname).trans (beq_iff_eq.mp hname').symm
    exact List.inj_on_of_nodup_map hdistinct he (h.mem_iff.mpr he') hsame
  exact (h.filter _).eq_of_pairwise hone (List.pairwise_of_forall fun _ _ => trivial)
    (List.pairwise_of_forall fun _ _ => trivial)

private theorem get?_of_filter {type : RecordType} {es es' : List Entry} {name : String}
    (h : es.filter (·.name == name) = es'.filter (·.name == name)) :
    (⟨type, es⟩ : Record).get? name = (⟨type, es'⟩ : Record).get? name := by
  simp only [get?, ← List.head?_filter, h]

private theorem get?_insert {type : RecordType} {es es' : List Entry} {e : Entry} {name : String}
    (h : name ≠ e.name) :
    (⟨type, es ++ e :: es'⟩ : Record).get? name = (⟨type, es ++ es'⟩ : Record).get? name := by
  have hfind : (e :: es').find? (·.name == name) = es'.find? (·.name == name) :=
    List.find?_cons_of_neg fun hname => h (beq_iff_eq.mp hname).symm
  simp only [get?, List.find?_append, hfind]

end Record

/-- A value that is a record, or may hold some, in a field that reads no record from it. -/
def FieldKind.overlooks : FieldKind → Value → Bool
  | .record _, .record _ => false
  | _, .record _ => true
  | _, .array (.nested _) | _, .array (.typed _ _) => true
  | _, _ => false

/-- Values of a field of a kind that differ in the dress of their records, at any depth: their types
are replaced, their entries reordered, and entries that are not declared added or dropped. Only the
kind says what is declared. Entries that share a declared name stay in their order; what a field
overlooks may differ in any way. -/
inductive Redressed : FieldKind → Option Value → Option Value → Prop
  | refl (kind : FieldKind) (v : Option Value) : Redressed kind v v
  | symm {kind : FieldKind} {v v' : Option Value} (h : Redressed kind v v') : Redressed kind v' v
  | trans {kind : FieldKind} {v v' v'' : Option Value} (h : Redressed kind v v')
      (h' : Redressed kind v' v'') : Redressed kind v v''
  | retyped (declared type : RecordType) (r : Record) :
      Redressed (.record declared) (some (.record r)) (some (.record { r with type := type }))
  | reordered {declared : RecordType} {r : Record} {es : List Entry} (h : r.entries.Perm es)
      (same : ∀ f ∈ declared.fields,
        r.entries.filter (·.name == f.name) = es.filter (·.name == f.name)) :
      Redressed (.record declared) (some (.record r)) (some (.record { r with entries := es }))
  | undeclared {declared type : RecordType} (es es' : List Entry) {e : Entry}
      (h : ∀ f ∈ declared.fields, f.name ≠ e.name) :
      Redressed (.record declared) (some (.record ⟨type, es ++ es'⟩))
        (some (.record ⟨type, es ++ e :: es'⟩))
  | inside {declared : RecordType} {r r' : Record}
      (h : ∀ f ∈ declared.fields, Redressed f.kind (r.get? f.name) (r'.get? f.name)) :
      Redressed (.record declared) (some (.record r)) (some (.record r'))
  | overlooked {kind : FieldKind} {v v' : Value} (h : kind.overlooks v = true)
      (h' : kind.overlooks v' = true) : Redressed kind (some v) (some v')

/-- Where no name is used twice, entries may be reordered in any way. -/
theorem Redressed.reordered_of_distinct (declared : RecordType) {r : Record} {es : List Entry}
    (hdistinct : r.Distinct) (h : r.entries.Perm es) :
    Redressed (.record declared) (some (.record r)) (some (.record { r with entries := es })) :=
  .reordered h fun f _ => Record.filter_name_of_perm hdistinct h f.name

private theorem toOption_bind {ε α β : Type} (x : Except ε α) (f : α → Except ε β) :
    (x >>= f).toOption = x.toOption.bind fun a => (f a).toOption := by
  cases x with
  | error e => rfl
  | ok a => rfl

/-- A plan reads nothing of a record but the values of the declared names. -/
private theorem planFields_congr {fields : List Field} {r r' : Record}
    (h : ∀ f ∈ fields, r.get? f.name = r'.get? f.name) :
    planFields fields r = planFields fields r' := by
  induction fields with
  | nil => rfl
  | cons f fields ih =>
    have hfirst : r.get? f.name = r'.get? f.name := h f List.mem_cons_self
    have hrest := ih fun g hg => h g (List.mem_cons_of_mem f hg)
    obtain ⟨name, kind, nullable⟩ := f
    rw [planFields, planFields, hfirst, hrest]

private theorem toOption_planFields {fields : List Field} {r r' : Record}
    (h : ∀ f ∈ fields, (planField f.name f.kind (r.get? f.name)).toOption =
      (planField f.name f.kind (r'.get? f.name)).toOption) :
    (planFields fields r).toOption = (planFields fields r').toOption := by
  induction fields with
  | nil => rfl
  | cons f fields ih =>
    have hfirst := h f List.mem_cons_self
    have hrest := ih fun g hg => h g (List.mem_cons_of_mem f hg)
    obtain ⟨name, kind, nullable⟩ := f
    rw [planFields, planFields, toOption_bind, toOption_bind, hfirst]
    simp only [toOption_bind, hrest]

private theorem toOption_planRecord {declared : RecordType} {r r' : Record}
    (h : (planFields declared.fields r).toOption = (planFields declared.fields r').toOption) :
    (planRecord declared r).toOption = (planRecord declared r').toOption := by
  obtain ⟨name, fields⟩ := declared
  rw [planRecord, planRecord, toOption_bind, toOption_bind, h]

private theorem planRecord_congr {declared : RecordType} {r r' : Record}
    (h : ∀ f ∈ declared.fields, r.get? f.name = r'.get? f.name) :
    planRecord declared r = planRecord declared r' := by
  obtain ⟨name, fields⟩ := declared
  rw [planRecord, planRecord, planFields_congr h]

private theorem planField_of_overlooks {name : String} {kind : FieldKind} {v : Value}
    (h : kind.overlooks v = true) : (planField name kind (some v)).toOption = none := by
  unfold FieldKind.overlooks at h
  split at h
  · cases h
  · next hkind => cases kind <;> first | rfl | exact (hkind _ rfl).elim
  · cases kind <;> rfl
  · cases kind <;> rfl
  · cases h

/-- Values that differ in the dress of their records are planned in the same way, or both refused:
by induction on the ways to dress them, with the name of the field left open. -/
private theorem Redressed.toOption_planField {kind : FieldKind} {v v' : Option Value}
    (h : Redressed kind v v') (name : String) :
    (planField name kind v).toOption = (planField name kind v').toOption := by
  induction h generalizing name with
  | refl => rfl
  | symm _ ih => exact (ih name).symm
  | trans _ _ ih ih' => exact (ih name).trans (ih' name)
  | retyped => exact congrArg _ (planRecord_congr fun f _ => rfl)
  | reordered _ same =>
    exact congrArg _ (planRecord_congr fun f hf => Record.get?_of_filter (same f hf))
  | undeclared es es' h =>
    exact congrArg _ (planRecord_congr fun f hf => (Record.get?_insert (h f hf)).symm)
  | inside _ ih => exact toOption_planRecord (toOption_planFields fun f hf => ih f hf f.name)
  | overlooked h h' => rw [planField_of_overlooks h, planField_of_overlooks h']

open Call

namespace Record

variable (σ : Type) [Connection σ]

/-- Two records that make the same calls and come to the same outcome in every world, also in one
whose connection notes its calls. -/
structure BuildsLike (r r' : Record) : Prop where
  attributes : (r.attributes : Binding σ (List NativeValue × String)) = r'.attributes
  build : (r.build : Binding σ NativeStruct) = r'.build
  bind : ∀ type, (bindStruct type (.record r) : Binding σ NativeValue) =
    bindStruct type (.record r')

/-- A record that is refused before the connection is asked for anything. -/
structure Refused (r : Record) (e : Error) : Prop where
  attributes : ∀ w : World σ, r.attributes.run w = (.error (.error e), w)
  build : ∀ w : World σ, r.build.run w = (.error (.error e), w)
  bind : ∀ type (w : World σ), (bindStruct type (.record r)).run w = (.error (.error e), w)

variable {σ} {r r' : Record}

private theorem buildsLike_of_plan (htype : r.type = r'.type) (h : r.plan = r'.plan) :
    r.BuildsLike σ r' := by
  have hattributes : (r.attributes : Binding σ (List NativeValue × String)) = r'.attributes := by
    rw [Record.attributes, Record.attributes, h, htype]
  have hbuild : (r.build : Binding σ NativeStruct) = r'.build := by
    rw [Record.build, Record.build, hattributes]
  refine ⟨hattributes, hbuild, fun type => ?_⟩
  rw [bindStruct, bindStruct, hbuild]

private theorem refused_of_plan {e : Error} (h : r.plan = .error (.error e)) : r.Refused σ e := by
  have hbuild : ∀ w : World σ, r.build.run w = (.error (.error e), w) := run_build_of_plan_error h
  refine ⟨run_attributes_of_plan_error h, hbuild, fun type w => ?_⟩
  rw [bindStruct, Step.run_map, hbuild]
  rfl

private theorem plan_congr (htype : r.type = r'.type)
    (h : ∀ f ∈ r.type.fields, r.get? f.name = r'.get? f.name) : r.plan = r'.plan := by
  rw [Record.plan, Record.plan, ← htype, planFields_congr h]

private theorem plan_of_redressed (htype : r.type = r'.type)
    (h : ∀ f ∈ r.type.fields, Redressed f.kind (r.get? f.name) (r'.get? f.name)) :
    r.plan = r'.plan ∨
      ∃ e e', r.plan = .error (.error e) ∧ r'.plan = .error (.error e') := by
  have hsame := toOption_planFields fun f hf => (h f hf).toOption_planField f.name
  rw [Record.plan, Record.plan, ← htype]
  generalize planFields r.type.fields r = x at hsame ⊢
  generalize planFields r.type.fields r' = y at hsame ⊢
  cases x with
  | error e =>
    cases y with
    | error e' => exact .inr ⟨e, e', rfl, rfl⟩
    | ok plan => cases hsame
  | ok plan =>
    cases y with
    | error e => cases hsame
    | ok plan' =>
      cases hsame
      exact .inl rfl

private theorem plan_of_attributes_ok {w w' : World σ} {p : List NativeValue × String}
    (h : r.attributes.run w = (.ok p, w')) : ∃ plan, r.plan = .ok plan := by
  cases hplan : r.plan with
  | ok plan => exact ⟨plan, rfl⟩
  | error e =>
    rw [run_attributes_of_plan_error hplan] at h
    cases h

private theorem plan_of_build_ok {w w' : World σ} {s : NativeStruct}
    (h : r.build.run w = (.ok s, w')) :
    ∃ plan, r.plan = .ok plan := by
  cases hplan : r.plan with
  | ok plan => exact ⟨plan, rfl⟩
  | error e =>
    rw [run_build_of_plan_error hplan] at h
    cases h

/-- What a record declares is made in the order of the declarations, and nothing else is. -/
structure KeepsOrder (σ : Type) [Connection σ] (r : Record) : Prop where
  attributes : ∀ {w w' : World σ} {vs : List NativeValue} {typeName : String},
    r.attributes.run w = (.ok (vs, typeName), w') → typeName = r.type.structName ∧
      ∃ calls, Trace Answered w.connection calls w'.connection ∧
        Attributes r.type.fields r calls vs
  build : ∀ {w w' : World σ} {s : NativeStruct}, r.build.run w = (.ok s, w') →
    ∃ calls vs, Trace Answered w.connection (calls ++ [r.outerCall vs (.ok s)]) w'.connection ∧
      Attributes r.type.fields r calls vs

private theorem keepsOrder (r : Record) : r.KeepsOrder σ where
  attributes h := by
    obtain ⟨plan, hplan⟩ := plan_of_attributes_ok h
    obtain ⟨calls, htrace, hheld, hname⟩ := (creates_attributes hplan).of_run_ok h
    exact ⟨hname, calls, htrace, hheld⟩
  build h := by
    obtain ⟨plan, hplan⟩ := plan_of_build_ok h
    obtain ⟨_, htrace, calls, vs, rfl, hheld⟩ := (creates_build hplan).of_run_ok h
    exact ⟨calls, vs, htrace, hheld⟩

end Record

/-- Records of one type that have the same values under the declared names make the same calls and
come to the same outcome. If the records inside them are only dressed differently, they do so too
unless both are refused, before any call. The attributes of a struct have the order in which their
fields are declared. -/
theorem struct_reads_declared_values (σ : Type) [Connection σ] (r r' : Record)
    (htype : r.type = r'.type) :
    ((∀ f ∈ r.type.fields, r.get? f.name = r'.get? f.name) → r.BuildsLike σ r') ∧
    ((∀ f ∈ r.type.fields, Redressed f.kind (r.get? f.name) (r'.get? f.name)) →
      r.BuildsLike σ r' ∨ ∃ e e', r.Refused σ e ∧ r'.Refused σ e') ∧
    r.KeepsOrder σ := by
  refine ⟨fun h => ?_, fun h => ?_, r.keepsOrder⟩
  · exact Record.buildsLike_of_plan htype (Record.plan_congr htype h)
  · rcases Record.plan_of_redressed htype h with hplan | ⟨e, e', hplan, hplan'⟩
    · exact .inl (Record.buildsLike_of_plan htype hplan)
    · exact .inr ⟨e, e', Record.refused_of_plan hplan, Record.refused_of_plan hplan'⟩

/-- The entries of an inner record share a name. The first of them is read, so their order decides
which struct is made. -/
theorem reordering_shared_names_changes_struct :
    let point : RecordType := ⟨"point", [⟨"x", .int, false⟩]⟩
    let shape : RecordType := ⟨"shape", [⟨"origin", .record point, false⟩]⟩
    let es : List Entry := [⟨"x", some (.int 1)⟩, ⟨"x", some (.int 2)⟩]
    let es' : List Entry := [⟨"x", some (.int 2)⟩, ⟨"x", some (.int 1)⟩]
    let r (entries : List Entry) : Record := ⟨shape, [⟨"origin", some (.record ⟨point, entries⟩)⟩]⟩
    let w : World BufferedConnection := ⟨.exhausted, {}⟩
    let made (i : Int32) : NativeStruct :=
      ⟨Text.upper "shape", [.struct ⟨Text.upper "point", [.integer i]⟩]⟩
    es.Perm es' ∧ ((r es).build.run w).1 = .ok (made 1) ∧ ((r es').build.run w).1 = .ok (made 2) ∧
      made 1 ≠ made 2 := by
  intro point shape es es' r w made
  refine ⟨.swap _ _ _, rfl, rfl, fun h => ?_⟩
  simp [made] at h

/-- The origin is of another type, has its coordinates the other way round and a name that a point
has not; the record around it has its entries in another order. The same struct is made. -/
theorem struct_reads_declared_values_origin :
    let point : RecordType := ⟨"point", [⟨"x", .int, false⟩, ⟨"y", .int, false⟩]⟩
    let shape : RecordType :=
      ⟨"shape", [⟨"origin", .record point, false⟩, ⟨"flag", .boolean, false⟩]⟩
    let origin : Record := .ofList point [⟨"x", some (.int 1)⟩, ⟨"y", some (.int 2)⟩]
    let labelled : Record := ⟨⟨"label", []⟩,
      [⟨"y", some (.int 2)⟩, ⟨"name", some (.text "o")⟩, ⟨"x", some (.int 1)⟩]⟩
    let r : Record := ⟨shape, [⟨"origin", some (.record origin)⟩, ⟨"flag", some (.boolean true)⟩]⟩
    let r' : Record :=
      ⟨shape, [⟨"flag", some (.boolean true)⟩, ⟨"origin", some (.record labelled)⟩]⟩
    Redressed (.record point) (some (.record origin)) (some (.record labelled)) ∧
      r.BuildsLike RefusingConnection r' ∧ r'.KeepsOrder RefusingConnection ∧
      (r'.build.run ⟨.exhausted, (⟨0, none⟩ : RefusingConnection)⟩).1 =
        .ok ⟨Text.upper "shape",
          [.struct ⟨Text.upper "point", [.integer 1, .integer 2]⟩, .boolean true]⟩ := by
  intro point shape origin labelled r r'
  have horigin : Redressed (.record point) (some (.record origin)) (some (.record labelled)) := by
    have hdistinct : origin.Distinct := Record.distinct_ofList _ _
    have hswapped := Redressed.reordered_of_distinct point hdistinct (.swap _ _ _)
    have hretyped := Redressed.retyped point ⟨"label", []⟩
      ⟨point, [⟨"y", some (.int 2)⟩, ⟨"x", some (.int 1)⟩]⟩
    have hnamed : Redressed (.record point) _ (some (.record labelled)) :=
      .undeclared [⟨"y", some (.int 2)⟩] [⟨"x", some (.int 1)⟩] (by decide)
    exact hswapped.trans (hretyped.trans hnamed)
  have hfields : ∀ f ∈ r.type.fields, Redressed f.kind (r.get? f.name) (r'.get? f.name) := by
    intro f hf
    have hf : f = ⟨"origin", .record point, false⟩ ∨ f = ⟨"flag", .boolean, false⟩ := by
      simpa [r, shape] using hf
    rcases hf with rfl | rfl
    · exact horigin
    · exact .refl _ _
  obtain ⟨-, hdressed, -⟩ := struct_reads_declared_values RefusingConnection r r' rfl
  obtain ⟨-, -, horder⟩ := struct_reads_declared_values RefusingConnection r' r' rfl
  refine ⟨horigin, ?_, horder, rfl⟩
  rcases hdressed hfields with hlike | ⟨e, e', -, hrefused⟩
  · exact hlike
  · cases hrefused.build ⟨.exhausted, ⟨0, none⟩⟩

end SqlBinding
