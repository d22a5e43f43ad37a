import SqlBinding.Proofs.Struct.ValueKinds

/-!
# Entries in the order of their first sets

A record that is filled by setting values is a map in the order of insertion: every name that was
set has one entry, in the place that the first set of the name gave it and with the value of the
last one. Setting a name leaves the entries of other names as they are and where they are.
-/

namespace SqlBinding

namespace Record

section

variable (sets : List Entry)

/-- The value that was set last under a name, which may be null. -/
def lastValue (name : String) : Option (Option Value) :=
  (sets.reverse.find? (·.name == name)).map (·.value)

/-- The entries of a record are those of a map in the order of insertion. -/
structure InsertionOrdered (r : Record) : Prop where
  distinct : r.Distinct
  names : ∀ name, name ∈ r.entries.map (·.name) ↔ name ∈ sets.map (·.name)
  order : (r.entries.map (·.name)).Pairwise fun a b =>
    (sets.map (·.name)).idxOf a < (sets.map (·.name)).idxOf b
  values : ∀ e ∈ r.entries, lastValue sets e.name = some e.value

variable {sets} {r : Record} {name : String}

private theorem lastValue_concat (e : Entry) (name : String) :
    lastValue (sets ++ [e]) name = if e.name = name then some e.value else lastValue sets name := by
  rw [lastValue, List.reverse_append, List.reverse_singleton, List.singleton_append]
  by_cases h : e.name = name
  · rw [List.find?_cons_of_pos (by simpa using h), if_pos h]
    rfl
  · rw [List.find?_cons_of_neg (by simpa using h), if_neg h]
    rfl

private theorem lastValue_eq_none_iff : lastValue sets name = none ↔ name ∉ sets.map (·.name) := by
  rw [lastValue, Option.map_eq_none_iff, List.find?_eq_none]
  simp

private theorem getElem?_putEntry {e : Entry} (h : e.name ≠ name) (value : Option Value)
    (es : List Entry) (i : Nat) : (putEntry name value es)[i]? = some e ↔ es[i]? = some e := by
  have hother : (some ⟨name, value⟩ : Option Entry) ≠ some e := by
    rintro ⟨⟩
    exact h rfl
  induction es generalizing i with
  | nil =>
    cases i with
    | zero => exact iff_of_false hother (by simp)
    | succ i => exact Iff.rfl
  | cons first es ih =>
    by_cases hname : first.name = name
    · rw [putEntry, if_pos hname]
      cases i with
      | zero =>
        refine iff_of_false hother ?_
        rintro ⟨⟩
        exact h hname
      | succ i => exact Iff.rfl
    · rw [putEntry, if_neg hname]
      cases i with
      | zero => exact Iff.rfl
      | succ i => exact ih i

private theorem mem_entries_of_mem_set {e : Entry} {value : Option Value} (h : e.name ≠ name)
    (he : e ∈ (r.set name value).entries) : e ∈ r.entries := by
  obtain ⟨i, hi⟩ := List.mem_iff_getElem?.mp he
  exact List.mem_iff_getElem?.mpr ⟨i, (getElem?_putEntry h value r.entries i).mp hi⟩

/-- A set leaves the names that were set before in their order, and a new name comes last. -/
private theorem InsertionOrdered.order_set (h : InsertionOrdered sets r) (e : Entry) :
    ((r.set e.name e.value).entries.map (·.name)).Pairwise fun a b =>
      ((sets ++ [e]).map (·.name)).idxOf a < ((sets ++ [e]).map (·.name)).idxOf b := by
  have hold : ∀ a ∈ r.entries.map (·.name),
      ((sets ++ [e]).map (·.name)).idxOf a = (sets.map (·.name)).idxOf a := by
    intro a ha
    rw [List.map_append]
    exact List.idxOf_append_of_mem ((h.names a).mp ha)
  have hkept : (r.entries.map (·.name)).Pairwise fun a b =>
      ((sets ++ [e]).map (·.name)).idxOf a < ((sets ++ [e]).map (·.name)).idxOf b := by
    refine h.order.imp_of_mem fun {a b} ha hb hlt => ?_
    rwa [hold a ha, hold b hb]
  rw [Record.set, map_name_putEntry]
  split
  · exact hkept
  · next hnew =>
    refine List.pairwise_append.mpr ⟨hkept, List.pairwise_singleton _ _, fun a ha b hb => ?_⟩
    obtain rfl := List.mem_singleton.mp hb
    have hunset : e.name ∉ sets.map (·.name) := fun hset => hnew ((h.names e.name).mpr hset)
    have hbefore : (sets.map (·.name)).idxOf a < (sets.map (·.name)).length :=
      List.idxOf_lt_length_of_mem ((h.names a).mp ha)
    rw [hold a ha, List.map_append, List.idxOf_append_of_notMem hunset]
    exact Nat.lt_add_right _ hbefore

private theorem InsertionOrdered.set (h : InsertionOrdered sets r) (e : Entry) :
    InsertionOrdered (sets ++ [e]) (r.set e.name e.value) where
  distinct := h.distinct.set e.name e.value
  names name := by
    rw [Record.set, map_name_putEntry, List.map_append, List.mem_append, ← h.names name]
    split
    · next hknown =>
      refine (or_iff_left_of_imp fun hname => ?_).symm
      rwa [List.mem_singleton.mp hname]
    · rw [List.mem_append]
      rfl
  order := h.order_set e
  values entry hentry := by
    rw [lastValue_concat]
    by_cases hname : e.name = entry.name
    · rw [if_pos hname, ← get?_of_mem (h.distinct.set e.name e.value) hentry, ← hname,
        get?_set_self]
    · rw [if_neg hname]
      exact h.values entry (mem_entries_of_mem_set (Ne.symm hname) hentry)

private theorem insertionOrdered_ofList (type : RecordType) (sets : List Entry) :
    InsertionOrdered sets (ofList type sets) := by
  -- From the end of the run: its last set meets the record of the sets before it.
  induction sets using List.reverseRecOn with
  | nil =>
    exact ⟨List.nodup_nil, fun name => Iff.rfl, .nil, fun e he => absurd he List.not_mem_nil⟩
  | append_singleton sets e ih =>
    rw [ofList_concat]
    exact ih.set e

private theorem type_ofList (type : RecordType) (sets : List Entry) :
    (ofList type sets).type = type := by
  induction sets using List.reverseRecOn with
  | nil => rfl
  | append_singleton sets e ih => rw [ofList_concat, type_set, ih]

private theorem InsertionOrdered.get?_eq (h : InsertionOrdered sets r) (name : String) :
    r.get? name = (lastValue sets name).join := by
  by_cases hname : name ∈ r.entries.map (·.name)
  · obtain ⟨e, he, rfl⟩ := List.mem_map.mp hname
    rw [get?_of_mem h.distinct he, h.values e he]
    rfl
  · have hunset := lastValue_eq_none_iff.mpr (mt (h.names name).mpr hname)
    have hfind : r.entries.find? (·.name == name) = none := by
      rw [List.find?_eq_none]
      rintro e he heq
      exact hname (List.mem_map.mpr ⟨e, he, beq_iff_eq.mp heq⟩)
    rw [hunset, get?, hfind]
    rfl

/-- A record that is filled by any run of sets is a map in the order of insertion: a lookup gives
the value of the last set, and another set leaves every entry of another name in its place. -/
theorem sets_keep_insertion_order (type : RecordType) (sets : List Entry) :
    (ofList type sets).type = type ∧ InsertionOrdered sets (ofList type sets) ∧
      (∀ name v, (ofList type sets).get? name = some v ↔ lastValue sets name = some (some v)) ∧
      (∀ name, (ofList type sets).get? name = none ↔
        name ∉ sets.map (·.name) ∨ lastValue sets name = some none) ∧
      ∀ name value (e : Entry), e.name ≠ name → ∀ i : Nat,
        ((ofList type sets).set name value).entries[i]? = some e ↔
          (ofList type sets).entries[i]? = some e := by
  have h := insertionOrdered_ofList type sets
  refine ⟨type_ofList type sets, h, fun name v => ?_, fun name => ?_, fun name value e hne i => ?_⟩
  · rw [h.get?_eq, Option.join_eq_some_iff]
  · rw [h.get?_eq, Option.join_eq_none_iff, lastValue_eq_none_iff]
  · exact getElem?_putEntry hne value (ofList type sets).entries i

/-- A name keeps its place when it is set again, also to null. -/
example (type : RecordType) :
    (ofList type [⟨"x", some (.int 1)⟩, ⟨"y", some (.int 2)⟩, ⟨"x", none⟩]).entries =
      [⟨"x", none⟩, ⟨"y", some (.int 2)⟩] := rfl

end

end Record

end SqlBinding
