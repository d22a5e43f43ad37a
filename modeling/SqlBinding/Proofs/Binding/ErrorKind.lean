import Mathlib.Data.List.Basic
import SqlBinding.Proofs.Binding.ConversionEnds
import SqlBinding.Proofs.Binding.ParameterList

/-!
# Where an error comes from

The kind of an error says who failed: the driver at its last call, a stream among the elements of a
binary array, or the application by its own checks. Without a failed call of the driver no call was
made at all.
-/

namespace SqlBinding

/-- A call of the driver while a parameter is bound, with the answer to it. -/
inductive DriverCall where
  | create (call : Call)
  | set (index : Nat) (v : NativeValue) (answer : Except DriverError Unit)

namespace DriverCall

def creation? : DriverCall → Option Creation
  | create call => some call.creation
  | set _ _ _ => none

def action : DriverCall → DriverAction
  | create call => call.action
  | set index _ _ => .bindParameter index

def refusal? : DriverCall → Option DriverError
  | create call => call.refusal?
  | set _ _ (.error e) => some e
  | set _ _ (.ok _) => none

/-- A call concerns the connection or the statement, and leaves the other one alone. -/
def Answered {σ τ : Type} [Connection σ] [PreparedStatement τ] : DriverCall → σ × τ → σ × τ → Prop
  | create call, u, u' => call.Answered u.1 u'.1 ∧ u'.2 = u.2
  | set index v answer, u, u' => PreparedStatement.set index v u.2 = (answer, u'.2) ∧ u'.1 = u.1

def Granted (calls : List DriverCall) : Prop := ∀ call ∈ calls, call.refusal? = none

private theorem granted_map_create {calls : List Call} (h : Call.Granted calls) :
    Granted (calls.map create) := by
  intro call hmem
  obtain ⟨c, hc, rfl⟩ := List.mem_map.mp hmem
  exact h c hc

end DriverCall

open DriverCall

/-- What the kind of an error says about the calls that were made and the streams that were read. -/
structure ErrorOrigin (arith : Arithmetic) (cs : Channels) (p : Parameter) (e : Error)
    (calls : List DriverCall) : Prop where
  database : e.kind = .database ↔ ∃ call ∈ calls, call.refusal? ≠ none
  source : e.kind = .database → ∃ done last d, calls = done ++ [last] ∧ Granted done ∧
    last.refusal? = some d ∧ e = .database last.action d
  io : e.kind = .io ↔ ∃ message, ReadFails arith cs p message
  unread : e.kind = .io →
    calls = [] ∧ ∃ message, ReadFails arith cs p message ∧ e = .io .arrayElement message
  application : e.kind = .application ↔ Granted calls ∧ ¬ ∃ message, ReadFails arith cs p message
  untouched : e.kind = .application → calls = []

namespace ErrorOrigin

variable {arith : Arithmetic} {cs : Channels} {p : Parameter} {e : Error}

private theorem of_driver (last : DriverCall) {done : List DriverCall} {d : DriverError}
    (hgranted : Granted done) (hlast : last.refusal? = some d)
    (hread : ¬ ∃ message, ReadFails arith cs p message) :
    ErrorOrigin arith cs p (.database last.action d) (done ++ [last]) := by
  have hrefused : last.refusal? ≠ none := by simp [hlast]
  have hmem : last ∈ done ++ [last] := by simp
  constructor
  · exact ⟨fun _ => ⟨last, hmem, hrefused⟩, fun _ => rfl⟩
  · exact fun _ => ⟨done, last, d, rfl, hgranted, hlast, rfl⟩
  · exact ⟨nofun, fun h => absurd h hread⟩
  · nofun
  · exact ⟨nofun, fun h => absurd (h.1 last hmem) hrefused⟩
  · nofun

private theorem of_stream {message : String} (hread : ReadFails arith cs p message) :
    ErrorOrigin arith cs p (.io .arrayElement message) [] := by
  constructor
  · exact ⟨nofun, nofun⟩
  · nofun
  · exact ⟨fun _ => ⟨message, hread⟩, fun _ => rfl⟩
  · exact fun _ => ⟨rfl, message, hread, rfl⟩
  · exact ⟨nofun, fun h => absurd ⟨message, hread⟩ h.2⟩
  · nofun

private theorem of_application (he : e.kind = .application)
    (hread : ¬ ∃ message, ReadFails arith cs p message) : ErrorOrigin arith cs p e [] := by
  constructor
  · rw [he]
    exact ⟨nofun, nofun⟩
  · rw [he]
    nofun
  · rw [he]
    exact ⟨nofun, fun h => absurd h hread⟩
  · rw [he]
    nofun
  · exact ⟨fun _ => ⟨nofun, hread⟩, fun _ => he⟩
  · exact fun _ => rfl

end ErrorOrigin

section

variable {arith : Arithmetic} {σ τ : Type} [Connection σ] [PreparedStatement τ]

private theorem trace_map_create {c c' : σ} {calls : List Call} (s : τ)
    (h : Trace Call.Answered c calls c') :
    Trace Answered (c, s) (calls.map create) (c', s) :=
  h.map create (·, s) fun _ _ _ hfirst => ⟨hfirst, rfl⟩

private theorem eq_io_of_readFails {p : Parameter} {w w' : World σ}
    {x : Outcome (NativeType × NativeValue)}
    {message : String} (hread : ReadFails arith w.channels p message)
    (hrun : ((Converter.standard arith : Converter σ).convert p).run w = (x, w')) :
    x = .error (.error (.io .arrayElement message)) := by
  obtain ⟨w'', hfails⟩ : ∃ w'', ((Converter.standard arith : Converter σ).convert p).run w =
    (.error (.error (.io .arrayElement message)), w'') := run_convert_of_readFails hread
  rw [hrun] at hfails
  cases hfails
  rfl

private theorem origin_of_convert {p : Parameter} {w w' : World σ} {e : Error} {calls : List Call}
    (hrun : ((Converter.standard arith : Converter σ).convert p).run w = (.error (.error e), w'))
    (hends : Ends arith w.channels p calls
      (.error (.error e) : Outcome (NativeType × NativeValue))) :
    ErrorOrigin arith w.channels p e (calls.map create) := by
  have hread : e.kind ≠ .io → ¬ ∃ message, ReadFails arith w.channels p message := by
    rintro hkind ⟨message, hread⟩
    cases eq_io_of_readFails hread hrun
    exact hkind rfl
  cases hends with
  | rejected happ => exact .of_application happ (hread (by rw [happ]; nofun))
  | unread hunread => exact .of_stream hunread
  | made hmade =>
    cases hmade with
    | @refused done last d hgranted hlast =>
      rw [List.map_append]
      exact .of_driver (create last) (granted_map_create hgranted) hlast (hread nofun)

private theorem requests_of_answered {r r' : Recorded σ} {s s' : τ} {calls : List DriverCall}
    (h : Trace Answered (r, s) calls (r', s')) :
    r'.requests = r.requests ++ calls.filterMap creation? := by
  generalize hu : (r, s) = u at h
  generalize hu' : (r', s') = u' at h
  induction h generalizing r s with
  | nil =>
    cases hu'
    cases hu
    exact (List.append_nil _).symm
  | @cons a b c call calls first _ ih =>
    cases hu
    have hrest := ih rfl hu'
    cases call with
    | create call =>
      obtain ⟨hcall, -⟩ := first
      rw [hrest, hcall.of_recorded.2, List.append_assoc]
      rfl
    | set index v answer =>
      obtain ⟨-, hkept⟩ := first
      rw [hrest, hkept]
      rfl

/-- The kind of the error of a bind that fails tells where the failure comes from: from the last
call of the driver, from a stream of a binary array, or from the application's own checks. In the
last two cases the driver was not called. -/
theorem error_kind_tells_origin {index : Nat} {p : Parameter} {w : World σ} {s : τ} {e : Error}
    {u : World σ × τ}
    (h : ((Converter.standard arith : Converter σ).bind index p).run (w, s) =
      (.error (.error e), u)) :
    ∃ calls, Trace Answered (w.connection, s) calls (u.1.connection, u.2) ∧
      ErrorOrigin arith w.channels p e calls := by
  obtain ⟨calls, htrace, hends⟩ := convertEnds_standard arith σ p w
  have hcalls := trace_map_create s htrace
  cases Converter.bind_run_error h with
  | convert hconvert =>
    rw [hconvert] at hcalls hends
    exact ⟨calls.map create, hcalls, origin_of_convert hconvert hends⟩
  | @set r w' d s' hconvert hset =>
    rw [hconvert] at hcalls hends
    have hread : ¬ ∃ message, ReadFails arith w.channels p message := by
      rintro ⟨message, hread⟩
      cases eq_io_of_readFails hread hconvert
    have hgranted : Granted (calls.map create) := by
      cases hends with
      | made hmade =>
        cases hmade with
        | granted hgranted => exact granted_map_create hgranted
    -- The value is set after all objects are made, and this is the call that fails.
    refine ⟨calls.map create ++ [.set index r.2 (.error d)], ?_, ?_⟩
    · exact hcalls.append (.single ⟨hset, rfl⟩)
    · exact .of_driver (.set index r.2 (.error d)) hgranted rfl hread

/-- A statement that refuses its first position is asked when the large object is made. -/
theorem error_kind_tells_origin_set :
    let d : DriverError := { message := "refused" }
    let w : World (Recorded BufferedConnection) := ⟨.exhausted, ⟨{}, []⟩⟩
    let s : RefusingStatement BufferedStatement := ⟨{}, some (1, d)⟩
    let p : Parameter := .typed ⟨.clob, some (.text "a")⟩
    let u : World (Recorded BufferedConnection) × RefusingStatement BufferedStatement :=
      (⟨.exhausted, ⟨⟨1⟩, [.clob false]⟩⟩, s)
    ((Converter.standard .checked : Converter (Recorded BufferedConnection)).bind 1 p).run (w, s) =
        (.error (.error (.database (.bindParameter 1) d)), u) ∧
      ∃ calls, Trace Answered (w.connection, s) calls (u.1.connection, u.2) ∧
        u.1.connection.requests = w.connection.requests ++ calls.filterMap creation? ∧
        ErrorOrigin .checked w.channels p (.database (.bindParameter 1) d) calls := by
  intro d w s p u
  have h : ((Converter.standard .checked : Converter (Recorded BufferedConnection)).bind 1 p).run
      (w, s) = (.error (.error (.database (.bindParameter 1) d)), u) := rfl
  obtain ⟨calls, htrace, horigin⟩ := error_kind_tells_origin h
  exact ⟨h, calls, htrace, requests_of_answered htrace, horigin⟩

end

end SqlBinding
