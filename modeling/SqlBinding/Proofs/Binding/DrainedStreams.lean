import Mathlib.Data.List.Basic
import SqlBinding.Proofs.Binding.ConversionEnds

/-!
# What a conversion reads

The standard converter reads byte streams for one purpose only: to put their bytes into a binary
array. It reads those among the elements up to the first element that fails, whether that stops the
conversion or not, and leaves every other stream as it was. A stream that comes again has no bytes
left for its second place, and a stream bound alone is handed on unread.
-/

namespace SqlBinding

private theorem Step.run_bind_unless {s α β : Type} {x : Step s α} {f : α → Step s β} {w w' : s}
    {a : α}
    {error? : Option Error}
    (h : x.run w = (match error? with | none => .ok a | some e => .error (.error e), w')) :
    (x >>= f).run w = error?.elim ((f a).run w') fun e => (.error (.error e), w') := by
  cases error? with
  | none => exact run_bind_ok h
  | some e => exact run_bind_error h

namespace Channels

variable {cs : Channels} {l : List ByteChannel} {c : ByteChannel}

/-- The store after some byte streams were read. -/
def drain (cs : Channels) (l : List ByteChannel) : Channels :=
  { cs with byteSource := fun c => if c ∈ l then (cs.byteSource c).consumed else cs.byteSource c }

@[simp] private theorem drain_nil (cs : Channels) : cs.drain [] = cs := by simp [drain]

private theorem byteSource_drain_of_mem (h : c ∈ l) :
    (cs.drain l).byteSource c = (cs.byteSource c).consumed := if_pos h

private theorem byteSource_drain_of_not_mem (h : c ∉ l) :
    (cs.drain l).byteSource c = cs.byteSource c := if_neg h

private theorem failure_drain (cs : Channels) (l : List ByteChannel) (c : ByteChannel) :
    ((cs.drain l).byteSource c).failure = (cs.byteSource c).failure := by
  by_cases h : c ∈ l
  · rw [byteSource_drain_of_mem h]
    rfl
  · rw [byteSource_drain_of_not_mem h]

private theorem content_drain (cs : Channels) (l : List ByteChannel) (c : ByteChannel) :
    ((cs.drain l).byteSource c).content = if c ∈ l then [] else (cs.byteSource c).content := by
  by_cases h : c ∈ l
  · rw [byteSource_drain_of_mem h, if_pos h]
    rfl
  · rw [byteSource_drain_of_not_mem h, if_neg h]

private theorem readBytes_drain (cs : Channels) (l : List ByteChannel) (c : ByteChannel) :
    ((cs.drain l).readBytes c).2 = cs.drain (l ++ [c]) := by
  have hsource : ∀ d, ((cs.drain l).readBytes c).2.byteSource d =
      (cs.drain (l ++ [c])).byteSource d := by
    intro d
    change (if d = c then ((cs.drain l).byteSource c).consumed else (cs.drain l).byteSource d) = _
    by_cases hd : d = c
    · -- The stream itself is at its end then, whether it was there before or not.
      have hmem : c ∈ l ++ [c] := List.mem_append_right l (List.mem_singleton_self c)
      rw [if_pos hd, hd, byteSource_drain_of_mem hmem]
      by_cases hc : c ∈ l
      · rw [byteSource_drain_of_mem hc, Source.consumed_consumed]
      · rw [byteSource_drain_of_not_mem hc]
    · rw [if_neg hd]
      by_cases hl : d ∈ l
      · rw [byteSource_drain_of_mem hl, byteSource_drain_of_mem (List.mem_append_left _ hl)]
      · have hmem : d ∉ l ++ [c] := by simp [hl, hd]
        rw [byteSource_drain_of_not_mem hl, byteSource_drain_of_not_mem hmem]
  change (⟨_, _⟩ : Channels) = ⟨_, _⟩
  congr 1
  exact funext hsource

/-- From one store to the next the sources of some byte streams are consumed and nothing else is
changed. -/
structure Footprint (cs cs' : Channels) (l : List ByteChannel) : Prop where
  consumed : ∀ c ∈ l, cs'.byteSource c = (cs.byteSource c).consumed
  kept : ∀ c ∉ l, cs'.byteSource c = cs.byteSource c
  chars : cs'.charSource = cs.charSource

private theorem footprint_drain (cs : Channels) (l : List ByteChannel) :
    Footprint cs (cs.drain l) l where
  consumed _ h := byteSource_drain_of_mem h
  kept _ h := byteSource_drain_of_not_mem h
  chars := rfl

end Channels

/-- The error of a value that gives no bytes. -/
def Value.bytesError? (type : SqlType) (cs : Channels) : Value → Option Error
  | .bytes _ => none
  | .byteStream c => (cs.byteSource c).failure.map (.io .arrayElement)
  | v => some (.invalidParameter v (.type type))

/-- The bytes that a value gives when some streams were read before. -/
def Value.bytesAfter (cs : Channels) (seen : List ByteChannel) : Value → Bytes
  | .bytes b => b
  | .byteStream c => if c ∈ seen then [] else (cs.byteSource c).content
  | _ => []

/-- The byte stream that a value is, if it is one. -/
def Value.stream : Value → List ByteChannel
  | .byteStream c => [c]
  | _ => []

namespace TypedValue

def bytesError? (type : SqlType) (cs : Channels) (t : TypedValue) : Option Error :=
  t.value.bind (·.bytesError? type cs)

def bytesAfter (cs : Channels) (seen : List ByteChannel) (t : TypedValue) : Option Bytes :=
  t.value.map (·.bytesAfter cs seen)

def stream (t : TypedValue) : List ByteChannel := (t.value.map Value.stream).getD []

end TypedValue

namespace ArrayValue

/-- The byte streams among elements, in their order. -/
def streams (elements : List TypedValue) : List ByteChannel := elements.flatMap (·.stream)

/-- The elements up to the first that gives no bytes, this one included. -/
def visited (type : SqlType) (cs : Channels) (elements : List TypedValue) : List TypedValue :=
  elements.take (elements.findIdx (fun t => (t.bytesError? type cs).isSome) + 1)

/-- The bytes of elements, each of them read after the streams that come before it. -/
def contents (cs : Channels) : List ByteChannel → List TypedValue → List (Option Bytes)
  | _, [] => []
  | seen, t :: rest => t.bytesAfter cs seen :: contents cs (seen ++ t.stream) rest

private theorem visited_cons (type : SqlType) (cs : Channels) (t : TypedValue)
    (rest : List TypedValue) :
    visited type cs (t :: rest) =
      t :: if (t.bytesError? type cs).isSome then [] else visited type cs rest := by
  rw [visited, List.findIdx_cons, visited]
  cases (t.bytesError? type cs).isSome <;> rfl

private theorem streams_cons (t : TypedValue) (rest : List TypedValue) :
    streams (t :: rest) = t.stream ++ streams rest := List.flatMap_cons

/-- Whether and with what an element fails is settled before any stream is read. -/
private theorem run_elementBytes (type : SqlType) (cs : Channels) (seen : List ByteChannel)
    (v : Value) :
    (elementBytes type v).run (cs.drain seen) =
      (match v.bytesError? type cs with
        | none => .ok (v.bytesAfter cs seen)
        | some e => .error (.error e),
        cs.drain (seen ++ v.stream)) := by
  cases v
  case byteStream c =>
    have hfailure := cs.failure_drain seen c
    have hcontent := cs.content_drain seen c
    rw [elementBytes, Reading.run_bytes, cs.readBytes_drain, Value.stream]
    simp only [Channels.readBytes, Source.bytes, hfailure, hcontent, Value.bytesError?,
      Value.bytesAfter]
    cases (cs.byteSource c).failure <;> rfl
  all_goals
    simp only [Value.stream, List.append_nil]
    rfl

/-- Elements are read up to the first that fails, each after those before it. -/
private theorem run_collect_elementBytes (type : SqlType) (cs : Channels) (seen : List ByteChannel)
    (elements : List TypedValue) :
    (collect (elementBytes type) elements).run (cs.drain seen) =
      (match elements.findSome? (·.bytesError? type cs) with
        | none => .ok (contents cs seen elements)
        | some e => .error (.error e),
        cs.drain (seen ++ streams (visited type cs elements))) := by
  induction elements generalizing seen with
  | nil => simp [collect, contents, visited, streams]
  | cons t rest ih =>
    obtain ⟨tag, value⟩ := t
    -- A null is passed over, a value is read, and what follows counts only if that did not fail.
    cases value with
    | none =>
      have hnone : (⟨tag, none⟩ : TypedValue).bytesError? type cs = none := rfl
      have hrest := ih seen
      rw [visited_cons, List.findSome?_cons, hnone, streams_cons, collect,
        Step.run_bind_unless hrest]
      cases rest.findSome? (·.bytesError? type cs) with
      | none => simp [contents, TypedValue.bytesAfter, TypedValue.stream]
      | some e => simp [TypedValue.stream]
    | some v =>
      have hvalue : (⟨tag, some v⟩ : TypedValue).bytesError? type cs = v.bytesError? type cs := rfl
      have hfirst := run_elementBytes type cs seen v
      rw [visited_cons, List.findSome?_cons, hvalue, streams_cons, collect,
        Step.run_bind_unless hfirst]
      cases v.bytesError? type cs with
      | some e => simp [TypedValue.stream, streams]
      | none =>
        have hrest := ih (seen ++ v.stream)
        rw [Option.elim_none, Step.run_bind_unless hrest]
        cases rest.findSome? (·.bytesError? type cs) with
        | none => simp [contents, TypedValue.bytesAfter, TypedValue.stream]
        | some e => simp [TypedValue.stream]

private theorem run_build_binary (arith : Arithmetic) (custom : CustomArrays) {type : SqlType}
    (h : type = .binary ∨ type = .varbinary) (elements : List TypedValue) (cs : Channels) :
    ((ArrayValue.typed type elements).build arith custom).run cs =
      (match elements.findSome? (·.bytesError? type cs) with
        | none => .ok ⟨type.name, .binary (contents cs [] elements)⟩
        | some e => .error (.error e),
        cs.drain (streams (visited type cs elements))) := by
  have hcollect := run_collect_elementBytes type cs [] elements
  rw [Channels.drain_nil, List.nil_append] at hcollect
  have hbuild : (ArrayValue.typed type elements).build arith custom =
      (fun vs => ⟨type.name, .binary vs⟩) <$> collect (elementBytes type) elements := by
    rcases h with rfl | rfl <;> rfl
  rw [hbuild, Step.run_map, hcollect]
  cases elements.findSome? (·.bytesError? type cs) <;> rfl

/-- The streams that building an array reads. -/
def drained (cs : Channels) : ArrayValue → List ByteChannel
  | .typed .binary elements => streams (visited .binary cs elements)
  | .typed .varbinary elements => streams (visited .varbinary cs elements)
  | _ => []

variable {α : Type} {arith : Arithmetic} {custom : CustomArrays} {type : SqlType}

private theorem collect_keeps {convert : Value → Reading α} (h : ∀ v, (convert v).Keeps id)
    (elements : List TypedValue) : (collect convert elements).Keeps id := by
  induction elements with
  | nil => exact .ofOutcome (.ok [])
  | cons t rest ih =>
    obtain ⟨tag, value⟩ := t
    rw [collect.eq_def]
    cases value with
    | none => exact ih.bind fun _ => .ofOutcome (.ok _)
    | some v => exact (h v).bind fun _ => ih.bind fun _ => .ofOutcome (.ok _)

private theorem bindTyped_keeps (hcustom : ∀ type elements, (custom type elements).Keeps id)
    (hbytes : ¬ (type = .binary ∨ type = .varbinary)) (elements : List TypedValue) :
    (bindTyped arith custom type elements).Keeps id := by
  by_cases helement : type.isElement = true
  · have hcollect : (collect (type.element arith) elements).Keeps id := by
      refine collect_keeps (fun v => ?_) elements
      obtain ⟨x, hx, -⟩ := element_pure arith helement hbytes v
      rw [hx]
      exact .ofOutcome x
    rw [← cells_bindTyped custom helement] at hcollect
    exact hcollect.of_map
  · cases type
    case custom name => exact hcustom (.custom name) elements
    case text | nchar | blob | clob | nclob | array | ref | struct | row => exact .ofOutcome _
    all_goals exact absurd rfl helement

/-- Building an array reads the streams among the elements of a binary array and no other. -/
private theorem channels_build (hcustom : ∀ type elements, (custom type elements).Keeps id)
    (a : ArrayValue) (cs : Channels) :
    ((a.build arith custom).run cs).2 = cs.drain (a.drained cs) := by
  cases a
  case typed type elements =>
    by_cases hbytes : type = .binary ∨ type = .varbinary
    · rw [run_build_binary arith custom hbytes]
      rcases hbytes with rfl | rfl <;> rfl
    · have hnone : (ArrayValue.typed type elements).drained cs = [] := by
        cases type
        case binary | varbinary => simp at hbytes
        all_goals rfl
      rw [hnone, Channels.drain_nil]
      exact bindTyped_keeps hcustom hbytes elements cs
  all_goals exact cs.drain_nil.symm

end ArrayValue

/-- The streams that the standard converter reads for a parameter. -/
def Parameter.drained (cs : Channels) : Parameter → List ByteChannel
  | .typed ⟨.array, some (.array a)⟩ => a.drained cs
  | _ => []

/-- A conversion leaves the store with the streams read that it reads for its parameter. -/
def Drains {σ α : Type} (p : Parameter) (x : Binding σ α) : Prop :=
  x.Obeys fun w _ w' => w'.channels = w.channels.drain (p.drained w.channels)

private theorem Step.Keeps.drains {σ α : Type} {p : Parameter} {x : Binding σ α}
    (hx : x.Keeps World.channels) (hp : ∀ cs, p.drained cs = []) : Drains p x :=
  Obeys.mono hx fun {w _ w'} h => by
    rw [hp, Channels.drain_nil]
    exact h

private theorem Step.Keeps.ask {σ α : Type} (action : DriverAction)
    (request : σ → Except DriverError α × σ) :
    (Binding.ask action request).Keeps World.channels := fun _ => rfl

private theorem drained_of_not_array {type : SqlType} (h : type ≠ .array) (value : Option Value)
    (cs : Channels) : Parameter.drained cs (.typed ⟨type, value⟩) = [] := by
  cases type
  case array => exact absurd rfl h
  all_goals rfl

section

variable {arith : Arithmetic} {σ : Type} [Connection σ]

private theorem channels_bindArray (custom : CustomArrays) (type : SqlType) (a : ArrayValue)
    (w : World σ) :
    ((bindArray arith custom type (.array a)).run w).2.channels =
      ((a.build arith custom).run w.channels).2 := by
  rcases hbuild : (a.build arith custom).run w.channels with ⟨e | n, cs⟩
  · rw [run_bindArray_error type hbuild]
  · have hcreate : (n.create : Binding σ NativeValue).Keeps World.channels :=
      (Step.Keeps.ask _ _).map _
    rw [run_bindArray_ok type hbuild, hcreate]

private theorem bindClob_keeps (type : SqlType) (v : Value) :
    (bindClob type v : Binding σ NativeValue).Keeps World.channels := by
  cases v
  case text s => exact (Step.Keeps.ask _ _).bind fun _ => .ofOutcome (.ok _)
  all_goals exact .ofOutcome _

private theorem build_keeps (r : Record) :
    (r.build : Binding σ NativeStruct).Keeps World.channels := by
  by_cases h : r.Conforms
  · exact (r.onlyCreates_build h).channels
  · obtain ⟨_, _, _, hplan⟩ := Record.plan_eq_error_of_not_conforms h
    intro w
    rw [Record.run_build_of_plan_error hplan]

private theorem bindStruct_keeps (type : SqlType) (v : Value) :
    (bindStruct type v : Binding σ NativeValue).Keeps World.channels := by
  cases v
  case record r => exact (build_keeps r).map _
  all_goals exact .ofOutcome _

private theorem category_bind_keeps (custom : CustomArrays) {category : Category}
    (h : category ≠ .array) (type : SqlType) (v : Value) :
    (category.bind arith custom type v : Binding σ NativeValue).Keeps World.channels := by
  cases category
  case clob => exact bindClob_keeps type v
  case struct => exact bindStruct_keeps type v
  case array => exact absurd rfl h
  all_goals exact .ofOutcome _

private theorem drains_array (v : Value) :
    Drains (.typed ⟨.array, some v⟩)
      (bindArray arith (Converter.standard arith : Converter σ).customArray .array v :
        Binding σ NativeValue) := by
  cases v
  case array a =>
    intro w
    rw [channels_bindArray]
    exact ArrayValue.channels_build (fun _ _ => Step.Keeps.ofOutcome _) a w.channels
  all_goals exact Step.Keeps.drains (.ofOutcome _) fun _ => rfl

private theorem drains_value (type : SqlType) (v : Value) :
    Drains (.typed ⟨type, some v⟩)
      ((Converter.standard arith : Converter σ).convert (.typed ⟨type, some v⟩)) := by
  cases hcategory : type.category? with
  | none =>
    cases type
    case custom name => exact Step.Keeps.drains (.ofOutcome _) fun _ => rfl
    all_goals cases hcategory
  | some category =>
    obtain ⟨native, -, hconvert⟩ := Converter.standard_convert_typed arith σ hcategory v
    rw [hconvert]
    by_cases harray : type = .array
    · subst harray
      cases hcategory
      intro w
      rw [Step.run_map]
      exact drains_array v w
    · have hne : category ≠ .array := by
        rintro rfl
        cases type
        case array => exact harray rfl
        all_goals cases hcategory
      exact Step.Keeps.drains ((category_bind_keeps _ hne type v).map _)
        (drained_of_not_array harray _)

private theorem drains_standard (p : Parameter) :
    Drains p ((Converter.standard arith : Converter σ).convert p) := by
  cases p with
  | null => exact Step.Keeps.drains (.ofOutcome _) fun _ => rfl
  | raw v => exact Step.Keeps.drains (.ofOutcome _) fun _ => rfl
  | typed t =>
    obtain ⟨type, value⟩ := t
    cases value with
    | some v => exact drains_value type v
    | none =>
      cases type
      all_goals exact Step.Keeps.drains (fun _ => rfl) fun _ => rfl

/-- The standard converter reads the byte streams of a binary array, from the first element to the
first that fails, and nothing else, whether the conversion succeeds or not. The array holds what is
read, with nothing for a stream that comes again, or fails like its first element that does. A
stream bound alone is handed on as it is. -/
theorem only_binary_arrays_read_streams (arith : Arithmetic) (σ : Type) [Connection σ] :
    (∀ (p : Parameter) (w : World σ), Channels.Footprint w.channels
      (((Converter.standard arith : Converter σ).convert p).run w).2.channels
      (p.drained w.channels)) ∧
    (∀ type : SqlType, type = .binary ∨ type = .varbinary → ∀ custom elements cs,
      ((ArrayValue.typed type elements).build arith custom).run cs =
        (match elements.findSome? (·.bytesError? type cs) with
          | none => .ok ⟨type.name, .binary (ArrayValue.contents cs [] elements)⟩
          | some e => .error (.error e),
          cs.drain ((ArrayValue.typed type elements).drained cs))) ∧
    (∀ type : SqlType, type.category? = some .binary → ∀ c,
      BindsAlone arith σ type (.byteStream c) (.ok (.binaryStream c))) ∧
    ∀ type : SqlType, type.category? = some .clob → ∀ c,
      BindsAlone arith σ type (.charStream c) (.ok (.characterStream c)) := by
  refine ⟨fun p w => ?_, fun type htype custom elements cs => ?_, fun type htype c => ?_,
    fun type htype c => ?_⟩
  · rw [drains_standard p w]
    exact Channels.footprint_drain _ _
  · rw [ArrayValue.run_build_binary arith custom htype]
    rcases htype with rfl | rfl <;> rfl
  · exact bindsAlone_of_category htype rfl
  · exact bindsAlone_of_category htype rfl

end

/-- A stream that comes twice gives its bytes once, and one behind a failing element is not read. -/
example :
    let cs : Channels := ⟨fun c => ⟨[c.id.toUInt8], none⟩, fun _ => ⟨[], none⟩⟩
    let stream (id : Nat) : TypedValue := ⟨.binary, some (.byteStream ⟨id⟩)⟩
    let twice : Parameter := .typed ⟨.array, some (.array (.typed .binary [stream 7, stream 7]))⟩
    let cut : Parameter := .typed ⟨.array,
      some (.array (.typed .binary [stream 7, ⟨.binary, some (.int 1)⟩, stream 8]))⟩
    ArrayValue.contents cs [] [stream 7, stream 7] = [some [7], some []] ∧
      twice.drained cs = [⟨7⟩, ⟨7⟩] ∧ cut.drained cs = [⟨7⟩] := by
  decide

end SqlBinding
