import Mathlib.Data.List.Basic
import SqlBinding.Binding.Struct

/-!
# Conformance of records

A record conforms to its declared type if every declared field, at every depth, is null or holds a
value of its kind. The leaves of a record are its fields outside nested records, in the depth-first
order of the declarations. A record is planned without the connection, and the plan fails with the
error of the first leaf that does not conform, if there is one.
-/

namespace SqlBinding

def FieldKind.supported : FieldKind → Bool
  | .int | .float | .decimal | .text | .boolean | .bytes | .binaryArray | .record _ => true
  | .date | .time | .timestamp | .array _ | .other _ => false

/-- Whether a value is one of a kind, for kinds that do not nest. -/
def FieldKind.admits : FieldKind → Value → Bool
  | .int, .int _ | .int, .long _ => true
  | .float, .float _ | .float, .double _ => true
  | .decimal, .decimal _ => true
  | .text, .text _ => true
  | .boolean, .boolean _ => true
  | .bytes, .bytes _ => true
  | .binaryArray, .array (.binary _) => true
  | _, _ => false

/-- A field of a kind conforms with the value that a record has for it. -/
inductive Conforms : FieldKind → Option Value → Prop
  | null {kind : FieldKind} (h : kind.supported = true) : Conforms kind none
  | plain {kind : FieldKind} {v : Value} (h : kind.admits v = true) : Conforms kind (some v)
  | record {type : RecordType} {r : Record}
      (h : ∀ f ∈ type.fields, Conforms f.kind (r.get? f.name)) :
      Conforms (.record type) (some (.record r))

def Record.Conforms (r : Record) : Prop :=
  ∀ f ∈ r.type.fields, SqlBinding.Conforms f.kind (r.get? f.name)

structure Leaf where
  name : String
  kind : FieldKind
  value : Option Value

mutual

/-- The leaves below declared fields of a record. -/
def Leaf.ofFields : List Field → Record → List Leaf
  | [], _ => []
  | ⟨name, kind, _⟩ :: fields, r => Leaf.ofField name kind (r.get? name) ++ Leaf.ofFields fields r

def Leaf.ofField (name : String) : FieldKind → Option Value → List Leaf
  | .record type, some (.record r) => Leaf.ofRecord type r
  | kind, v => [⟨name, kind, v⟩]

def Leaf.ofRecord : RecordType → Record → List Leaf
  | ⟨_, fields⟩, r => Leaf.ofFields fields r

end

def Record.leaves (r : Record) : List Leaf := Leaf.ofFields r.type.fields r

namespace Leaf

/-- No record stands where one is declared, so nothing lies below. -/
def Terminal (l : Leaf) : Prop := ∀ type r, l.kind = .record type → l.value ≠ some (.record r)

def Conforms (l : Leaf) : Prop := SqlBinding.Conforms l.kind l.value

/-- The error of a leaf: its kind is not supported, or it has a value that is none of its kind. -/
def error? (l : Leaf) : Option Error :=
  if l.kind.supported then
    match l.value with
    | none => none
    | some v =>
      if l.kind.admits v then none else some (.invalidParameter v (.field l.kind l.name))
  else some (.unsupported (.fieldKind l.kind))

end Leaf

theorem Leaf.ofField_eq_singleton {name : String} {kind : FieldKind} {v : Option Value}
    (h : Leaf.Terminal ⟨name, kind, v⟩) : Leaf.ofField name kind v = [⟨name, kind, v⟩] := by
  unfold Leaf.ofField
  split
  · exact (h _ _ rfl rfl).elim
  · rfl

private theorem Leaf.eq_record_of_not_terminal {name : String} {kind : FieldKind} {v : Option Value}
    (h : ¬ Leaf.Terminal ⟨name, kind, v⟩) :
    ∃ type r, kind = .record type ∧ v = some (.record r) := by
  unfold Leaf.Terminal at h
  push Not at h
  exact h

mutual

theorem Leaf.terminal_of_mem_ofFields : ∀ (fields : List Field) (r : Record),
    ∀ l ∈ Leaf.ofFields fields r, l.Terminal
  | [], _, l, hl => by simp [Leaf.ofFields] at hl
  | ⟨name, kind, _⟩ :: fields, r, l, hl => by
      rw [Leaf.ofFields, List.mem_append] at hl
      rcases hl with hl | hl
      · exact Leaf.terminal_of_mem_ofField name kind _ l hl
      · exact Leaf.terminal_of_mem_ofFields fields r l hl

theorem Leaf.terminal_of_mem_ofField (name : String) : ∀ (kind : FieldKind) (v : Option Value),
    ∀ l ∈ Leaf.ofField name kind v, l.Terminal
  | kind, v, l, hl => by
      by_cases h : Leaf.Terminal ⟨name, kind, v⟩
      · rw [Leaf.ofField_eq_singleton h, List.mem_singleton] at hl
        exact hl ▸ h
      · obtain ⟨type, r, rfl, rfl⟩ := Leaf.eq_record_of_not_terminal h
        exact Leaf.terminal_of_mem_ofRecord type r l hl

theorem Leaf.terminal_of_mem_ofRecord : ∀ (type : RecordType) (r : Record),
    ∀ l ∈ Leaf.ofRecord type r, l.Terminal
  | ⟨_, fields⟩, r, l, hl => Leaf.terminal_of_mem_ofFields fields r l hl

end

private theorem conforms_none_iff {kind : FieldKind} :
    Conforms kind none ↔ kind.supported = true := by
  constructor
  · intro h
    cases h with
    | null h => exact h
  · exact .null

private theorem conforms_record_iff {type : RecordType} {r : Record} :
    Conforms (.record type) (some (.record r)) ↔
      ∀ f ∈ type.fields, Conforms f.kind (r.get? f.name) := by
  constructor
  · intro h
    cases h with
    | plain h => cases h
    | record h => exact h
  · exact .record

theorem FieldKind.supported_of_admits {kind : FieldKind} {v : Value} (h : kind.admits v = true) :
    kind.supported = true := by
  cases kind <;> first | rfl | cases h

theorem Leaf.conforms_iff_error? {l : Leaf} (hl : l.Terminal) : l.Conforms ↔ l.error? = none := by
  obtain ⟨name, kind, v⟩ := l
  cases v with
  | none => simp [Leaf.Conforms, Leaf.error?, conforms_none_iff]
  | some v =>
      have hplain : SqlBinding.Conforms kind (some v) ↔ kind.admits v = true := by
        constructor
        · intro h
          cases h with
          | plain h => exact h
          | record h => exact (hl _ _ rfl rfl).elim
        · exact .plain
      have hsupported := @FieldKind.supported_of_admits kind v
      simp only [Leaf.Conforms, Leaf.error?, hplain]
      split <;> simp_all

mutual

theorem forall_leaf_ofFields : ∀ (fields : List Field) (r : Record),
    (∀ l ∈ Leaf.ofFields fields r, l.Conforms) ↔
      ∀ f ∈ fields, Conforms f.kind (r.get? f.name)
  | [], _ => by simp [Leaf.ofFields]
  | ⟨name, kind, _⟩ :: fields, r => by
      rw [Leaf.ofFields, List.forall_mem_append, List.forall_mem_cons,
        forall_leaf_ofField name kind, forall_leaf_ofFields fields r]

theorem forall_leaf_ofField (name : String) : ∀ (kind : FieldKind) (v : Option Value),
    (∀ l ∈ Leaf.ofField name kind v, l.Conforms) ↔ Conforms kind v
  | kind, v => by
      by_cases h : Leaf.Terminal ⟨name, kind, v⟩
      · rw [Leaf.ofField_eq_singleton h, List.forall_mem_singleton]
        rfl
      · obtain ⟨type, r, rfl, rfl⟩ := Leaf.eq_record_of_not_terminal h
        rw [conforms_record_iff, ← forall_leaf_ofRecord type r]
        rfl

theorem forall_leaf_ofRecord : ∀ (type : RecordType) (r : Record),
    (∀ l ∈ Leaf.ofRecord type r, l.Conforms) ↔
      ∀ f ∈ type.fields, Conforms f.kind (r.get? f.name)
  | ⟨_, fields⟩, r => forall_leaf_ofFields fields r

end

def failure? {ε α : Type} : Except ε α → Option ε
  | .ok _ => none
  | .error e => some e

private theorem failure?_eq_none_iff {ε α : Type} {x : Except ε α} :
    failure? x = none ↔ ∃ a, x = .ok a := by
  cases x <;> simp [failure?]

private theorem failure?_eq_some_iff {ε α : Type} {x : Except ε α} {e : ε} :
    failure? x = some e ↔ x = .error e := by
  cases x <;> simp [failure?]

theorem failure?_planField_leaf {name : String} {kind : FieldKind} {v : Option Value}
    (h : Leaf.Terminal ⟨name, kind, v⟩) :
    failure? (planField name kind v) = (Leaf.ofField name kind v).findSome? Leaf.error? := by
  rw [Leaf.ofField_eq_singleton h, List.findSome?_singleton]
  cases v with
  | none => cases kind <;> rfl
  | some v =>
      -- The plan looks into an array before it looks at the kind, so values are told apart first.
      cases v with
      | record r =>
          cases kind with
          | record type => exact (h type r rfl rfl).elim
          | _ => rfl
      | array a => cases a <;> cases kind <;> rfl
      | _ => cases kind <;> rfl

mutual

/-- The plan of fields fails exactly with the first error among their leaves. -/
theorem failure?_planFields : ∀ (fields : List Field) (r : Record),
    failure? (planFields fields r) = (Leaf.ofFields fields r).findSome? Leaf.error?
  | [], _ => rfl
  | ⟨name, kind, nullable⟩ :: fields, r => by
      have first := failure?_planField name kind (r.get? name)
      have rest := failure?_planFields fields r
      rw [Leaf.ofFields, List.findSome?_append, ← first, ← rest, planFields]
      cases planField name kind (r.get? name) with
      | error e => rfl
      | ok p => cases planFields fields r <;> rfl

theorem failure?_planField (name : String) : ∀ (kind : FieldKind) (v : Option Value),
    failure? (planField name kind v) = (Leaf.ofField name kind v).findSome? Leaf.error?
  | kind, v => by
      by_cases h : Leaf.Terminal ⟨name, kind, v⟩
      · exact failure?_planField_leaf h
      · obtain ⟨type, r, rfl, rfl⟩ := Leaf.eq_record_of_not_terminal h
        exact failure?_planRecord type r

theorem failure?_planRecord : ∀ (type : RecordType) (r : Record),
    failure? (planRecord type r) = (Leaf.ofRecord type r).findSome? Leaf.error?
  | ⟨name, fields⟩, r => by
      rw [Leaf.ofRecord, ← failure?_planFields fields r, planRecord]
      cases planFields fields r <;> rfl

end

namespace Record

variable {r : Record}

theorem conforms_iff_leaves : r.Conforms ↔ ∀ l ∈ r.leaves, l.Conforms :=
  (forall_leaf_ofFields r.type.fields r).symm

/-- A leaf with an error that comes before every other one in the order of the declarations. -/
def FirstBad (r : Record) (leaf : Leaf) (e : Error) : Prop :=
  ∃ before after, r.leaves = before ++ leaf :: after ∧
    (∀ l ∈ before, l.Conforms) ∧ ¬ leaf.Conforms ∧ leaf.error? = some e

theorem failure?_plan :
    failure? r.plan = (r.leaves.findSome? Leaf.error?).map .error := by
  rw [Record.leaves, ← failure?_planFields, Record.plan]
  cases planFields r.type.fields r <;> rfl

private theorem terminal_of_mem_leaves {l : Leaf} (hl : l ∈ r.leaves) : l.Terminal :=
  Leaf.terminal_of_mem_ofFields r.type.fields r l hl

theorem plan_eq_ok_of_conforms (h : r.Conforms) : ∃ plan, r.plan = .ok plan := by
  have hnone : r.leaves.findSome? Leaf.error? = none := by
    rw [List.findSome?_eq_none_iff]
    intro l hl
    exact (Leaf.conforms_iff_error? (terminal_of_mem_leaves hl)).mp (conforms_iff_leaves.mp h l hl)
  rw [← failure?_eq_none_iff, failure?_plan, hnone]
  rfl

theorem plan_eq_error_of_not_conforms (h : ¬ r.Conforms) :
    ∃ leaf e, r.FirstBad leaf e ∧ r.plan = .error (.error e) := by
  cases hfind : r.leaves.findSome? Leaf.error? with
  | none =>
      refine (h (conforms_iff_leaves.mpr fun l hl => ?_)).elim
      exact (Leaf.conforms_iff_error? (terminal_of_mem_leaves hl)).mpr
        (List.findSome?_eq_none_iff.mp hfind l hl)
  | some e =>
      obtain ⟨before, leaf, after, hleaves, herror, hbefore⟩ := List.findSome?_eq_some_iff.mp hfind
      have hterminal : ∀ l ∈ before ++ leaf :: after, l.Terminal :=
        fun l hl => terminal_of_mem_leaves (hleaves ▸ hl)
      refine ⟨leaf, e, ⟨before, after, hleaves, fun l hl => ?_, ?_, herror⟩, ?_⟩
      · exact (Leaf.conforms_iff_error? (hterminal l (by simp [hl]))).mpr (hbefore l hl)
      · rw [Leaf.conforms_iff_error? (hterminal leaf (by simp)), herror]
        simp
      · rw [← failure?_eq_some_iff, failure?_plan, hfind]
        rfl

end Record

end SqlBinding
