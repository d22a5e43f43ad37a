import Mathlib.Data.List.Basic
import SqlBinding.Proofs.Driver.Calls
import SqlBinding.Proofs.Struct.AllOrNothing

/-!
# The order in which the objects of a struct are made

The connection makes the objects of a record in post-order: those of each field in the order of the
declarations, those inside a nested record before its own struct, the outer struct last. Every
attribute holds the object that its own call returned. After the first refusal no call is made.
-/

namespace SqlBinding

open Call

variable {σ : Type} [Connection σ]

/-- The calls that a record makes of its connection, and what comes of them. Either the objects
inside it are granted, and a struct of the attributes that hold them is asked for at last; or one of
them is refused, and its refusal is reported. -/
inductive CreatedInOrder (r : Record) (w : World (Recorded σ)) : Prop
  | granted {calls : List Call} {vs : List NativeValue} {answer : Except DriverError NativeStruct}
      (granted : Granted calls) (held : Attributes r.type.fields r calls vs)
      (inner : calls.map creation = r.innerCreations)
      (attributes : Serves r.attributes w calls (.ok (vs, r.type.structName)))
      (all : (calls ++ [r.outerCall vs answer]).map creation = r.creations)
      (build : Serves r.build w (calls ++ [r.outerCall vs answer])
        (answer.mapError fun e => .error (.database (.createStruct r.type.structName) e)))
  | refused {done : List Call} {last : Call} {e : DriverError} (granted : Granted done)
      (refusal : last.refusal? = some e)
      (order : (done ++ [last]).map creation = r.creations.take (done ++ [last]).length)
      (attributes : Serves r.attributes w (done ++ [last])
        (.error (.error (.database last.action e))))
      (build : Serves r.build w (done ++ [last]) (.error (.error (.database last.action e))))

namespace Record

variable {r : Record} {plan : List Planned}

private theorem run_attributes_of_plan {x : Outcome (List NativeValue)} {w w' : World σ}
    (h : r.plan = .ok plan) (hrun : (Planned.createAll plan).run w = (x, w')) :
    r.attributes.run w = ((·, r.type.structName) <$> x, w') := by
  rw [attributes_of_plan h, Step.run_map, hrun]
  rfl

private theorem run_build_ok {vs : List NativeValue} {w w' : World σ}
    (h : r.attributes.run w = (.ok (vs, r.type.structName), w')) :
    r.build.run w = (Binding.ask (.createStruct r.type.structName)
      (Connection.createStruct r.type.structName vs)).run w' :=
  Step.run_bind_ok h

private theorem run_build_error {e : Failure} {w w' : World σ}
    (h : r.attributes.run w = (.error e, w')) :
    r.build.run w = (.error e, w') :=
  Step.run_bind_error h

variable {w w' : World (Recorded σ)} {calls : List Call}

private theorem createdInOrder_of_error {e : Failure} {P : List Call → List NativeValue → Prop}
    (h : r.plan = .ok plan) (hrun : (Planned.createAll plan).run w = (.error e, w'))
    (htrace : Trace Answered w.connection calls w'.connection)
    (hchannels : w'.channels = w.channels) (hpre : calls.map creation <+: r.innerCreations)
    (hends : GrantedOrRefused P calls (.error e)) : CreatedInOrder r w := by
  have hattributes : r.attributes.run w = (.error e, w') := run_attributes_of_plan h hrun
  have hbuild : r.build.run w = (.error e, w') := run_build_error hattributes
  have horder : calls.map creation = r.creations.take calls.length := by
    have hall : calls.map creation <+: r.creations := hpre.trans (List.prefix_append _ _)
    rwa [List.prefix_iff_eq_take, List.length_map] at hall
  cases hends with
  | refused hgranted hrefusal =>
    exact .refused hgranted hrefusal horder (serves_of_trace hattributes hchannels htrace)
      (serves_of_trace hbuild hchannels htrace)

private theorem createdInOrder_of_ok {vs : List NativeValue} (h : r.plan = .ok plan)
    (hrun : (Planned.createAll plan).run w = (.ok vs, w'))
    (htrace : Trace Answered w.connection calls w'.connection)
    (hchannels : w'.channels = w.channels) (hgranted : Granted calls)
    (hinner : calls.map creation = r.innerCreations)
    (hheld : Attributes r.type.fields r calls vs) : CreatedInOrder r w := by
  have hattributes : r.attributes.run w = (.ok (vs, r.type.structName), w') :=
    run_attributes_of_plan h hrun
  rcases hanswer : Connection.createStruct r.type.structName vs w'.connection with ⟨answer, c⟩
  have hbuild : r.build.run w =
      (answer.mapError fun e => .error (.database (.createStruct r.type.structName) e),
        ⟨w'.channels, c⟩) := by
    rw [run_build_ok hattributes, Binding.run_ask, hanswer]
  have hall : (calls ++ [r.outerCall vs answer]).map creation = r.creations := by
    rw [List.map_append, hinner, creations, ← hheld.length_eq]
    rfl
  have houter : Trace Answered w.connection (calls ++ [r.outerCall vs answer]) c :=
    htrace.append (.single hanswer)
  exact .granted hgranted hheld hinner (serves_of_trace hattributes hchannels htrace) hall
    (serves_of_trace hbuild hchannels houter)

end Record

/-- The objects of a record that conforms are made in post-order and once each. If the connection
makes them all, every attribute holds the object of its own call, and the struct that is built is
made of the attributes and the name that the record has without it. The first refusal is reported
with what it refused, and no call follows it. -/
theorem creations_in_post_order (r : Record) (h : r.Conforms) (w : World (Recorded σ)) :
    CreatedInOrder r w := by
  obtain ⟨plan, hplan⟩ := Record.plan_eq_ok_of_conforms h
  obtain ⟨calls, htrace, hchannels, hpre, hends⟩ :=
    creates_ofFields _ r plan (Record.planFields_of_plan hplan) w
  rcases hrun : (Planned.createAll plan).run w with ⟨e | vs, w'⟩
  · rw [hrun] at htrace hchannels hends
    exact Record.createdInOrder_of_error hplan hrun htrace hchannels hpre hends
  · rw [hrun] at htrace hchannels hends
    cases hends with
    | granted hgranted hmade =>
      exact Record.createdInOrder_of_ok hplan hrun htrace hchannels hgranted hmade.1 hmade.2

/-- The array is made, the struct of the inner record is refused, and the outer one is not asked
for. -/
theorem creations_in_post_order_refused :
    let point : RecordType := ⟨"point", [⟨"x", .int, false⟩]⟩
    let shape : RecordType :=
      ⟨"shape", [⟨"raws", .binaryArray, false⟩, ⟨"origin", .record point, false⟩]⟩
    let r : Record := ⟨shape, [⟨"origin", some (.record ⟨point, [⟨"x", some (.int 1)⟩]⟩)⟩,
      ⟨"raws", some (.array (.binary [[1, 2]]))⟩]⟩
    let e : DriverError := { message := "refused" }
    let w : World (Recorded RefusingConnection) := ⟨.exhausted, ⟨⟨0, some (2, e)⟩, []⟩⟩
    r.Conforms ∧ CreatedInOrder r w ∧
      (r.build.run w).1 = .error (.error (.database (.createStruct (Text.upper "point")) e)) ∧
      (r.build.run w).2.connection.requests =
        [.array "BINARY" 1, .struct (Text.upper "point") 1] := by
  intro point shape r e w
  have hr : r.Conforms := by
    intro f hf
    have hf : f = ⟨"raws", .binaryArray, false⟩ ∨ f = ⟨"origin", .record point, false⟩ := by
      simpa [r, shape] using hf
    rcases hf with rfl | rfl
    · exact .plain rfl
    · refine .record fun f hf => ?_
      rw [List.mem_singleton.mp hf]
      exact .plain rfl
  exact ⟨hr, creations_in_post_order r hr w, rfl, rfl⟩

end SqlBinding
