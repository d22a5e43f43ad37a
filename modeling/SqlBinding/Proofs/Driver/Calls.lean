import Mathlib.Data.List.Basic
import SqlBinding.Driver.Recording
import SqlBinding.Proofs.Binding.StepLaws

/-!
# Calls of a connection

A call is a request together with the answer that the connection gave to it. A conversion step that
makes calls either has all of them granted, or stops at the first refusal and reports it: the error
names what was to be made and has the driver's error as its source.
-/

namespace SqlBinding

/-- A sequence of labelled steps that leads from one state to another. -/
inductive Trace {κ s : Type} (step : κ → s → s → Prop) : s → List κ → s → Prop
  | nil {a : s} : Trace step a [] a
  | cons {a b c : s} {k : κ} {ks : List κ} (first : step k a b) (rest : Trace step b ks c) :
      Trace step a (k :: ks) c

namespace Trace

variable {κ s : Type} {step : κ → s → s → Prop} {a b c : s} {k : κ} {ks ls : List κ}

theorem single (h : step k a b) : Trace step a [k] b := .cons h .nil

theorem append (h : Trace step a ks b) (h' : Trace step b ls c) : Trace step a (ks ++ ls) c := by
  induction h with
  | nil => exact h'
  | cons first _ ih => exact .cons first (ih h')

/-- Labels and states may be read differently as long as every step remains a step. -/
theorem map {κ' s' : Type} {step' : κ' → s' → s' → Prop} (f : κ → κ') (g : s → s')
    (hstep : ∀ k a b, step k a b → step' (f k) (g a) (g b)) (h : Trace step a ks b) :
    Trace step' (g a) (ks.map f) (g b) := by
  induction h with
  | nil => exact .nil
  | cons first _ ih => exact .cons (hstep _ _ _ first) ih

end Trace

/-- A request for an object and the answer to it. -/
inductive Call where
  | clob (national : Bool) (answer : Except DriverError Clob)
  | array (elementType : String) (data : ArrayData) (answer : Except DriverError NativeArray)
  | struct (typeName : String) (attributes : List NativeValue)
    (answer : Except DriverError NativeStruct)

namespace Call

/-- The object that was asked for. -/
def creation : Call → Creation
  | clob national _ => .clob national
  | array elementType data _ => .array elementType data.length
  | struct typeName attributes _ => .struct typeName attributes.length

def action : Call → DriverAction
  | clob national _ => .createClob (if national then .nclob else .clob)
  | array elementType _ _ => .createArray elementType
  | struct typeName _ _ => .createStruct typeName

/-- The error of a call that was refused. -/
def refusal? : Call → Option DriverError
  | clob _ (.error e) | array _ _ (.error e) | struct _ _ (.error e) => some e
  | _ => none

def Answered {σ : Type} [Connection σ] : Call → σ → σ → Prop
  | clob national answer, c, c' => Connection.createClob national c = (answer, c')
  | array elementType data answer, c, c' => Connection.createArray elementType data c = (answer, c')
  | struct typeName attributes answer, c, c' =>
    Connection.createStruct typeName attributes c = (answer, c')

def Granted (calls : List Call) : Prop := ∀ call ∈ calls, call.refusal? = none

theorem granted_nil : Granted [] := by
  intro call hmem
  cases hmem

theorem granted_append {calls more : List Call} (h : Granted calls) (h' : Granted more) :
    Granted (calls ++ more) := by
  intro call hmem
  rcases List.mem_append.mp hmem with hmem | hmem
  · exact h call hmem
  · exact h' call hmem

section Recorded

variable {σ : Type} [Connection σ] {r r' : Recorded σ} {call : Call} {calls : List Call}

theorem Answered.of_recorded (h : call.Answered r r') :
    call.Answered r.connection r'.connection ∧ r'.requests = r.requests ++ [call.creation] := by
  cases call with
  | clob national answer =>
    cases h
    exact ⟨rfl, by simp [Recorded.requests, creation]⟩
  | array elementType data answer =>
    cases h
    exact ⟨rfl, by simp [Recorded.requests, creation]⟩
  | struct typeName attributes answer =>
    cases h
    exact ⟨rfl, by simp [Recorded.requests, creation]⟩

/-- A recording connection notes the calls that it passes on, all of them and in their order. -/
theorem requests_of_trace (h : Trace Answered r calls r') :
    r'.requests = r.requests ++ calls.map creation := by
  induction h with
  | nil => exact (List.append_nil _).symm
  | cons first _ ih =>
    rw [ih, first.of_recorded.2, List.append_assoc]
    rfl

theorem trace_of_recorded (h : Trace Answered r calls r') :
    Trace Answered r.connection calls r'.connection := by
  rw [← List.map_id calls]
  exact h.map id Recorded.connection fun _ _ _ first => first.of_recorded.1

end Recorded

end Call

open Call

/-- All calls are granted and the result suits them, or the last one is the first to be refused and
is reported. -/
inductive GrantedOrRefused {α : Type} (Holds : List Call → α → Prop) :
    List Call → Outcome α → Prop
  | granted {calls : List Call} {a : α} (granted : Granted calls) (h : Holds calls a) :
      GrantedOrRefused Holds calls (.ok a)
  | refused {done : List Call} {last : Call} {e : DriverError} (granted : Granted done)
      (h : last.refusal? = some e) :
      GrantedOrRefused Holds (done ++ [last]) (.error (.error (.database last.action e)))

theorem GrantedOrRefused.mono {α : Type} {Holds Holds' : List Call → α → Prop} {calls : List Call}
    {x : Outcome α} (h : GrantedOrRefused Holds calls x)
    (himp : ∀ calls a, Holds calls a → Holds' calls a) : GrantedOrRefused Holds' calls x := by
  cases h with
  | granted hgranted ha => exact .granted hgranted (himp _ _ ha)
  | refused hgranted hlast => exact .refused hgranted hlast

/-- A step that makes the calls for certain objects in their order, up to the first that is refused,
and does nothing else. Its results suit the calls. -/
def Creates {σ α : Type} [Connection σ] (what : List Creation) (Holds : List Call → α → Prop)
    (x : Binding σ α) : Prop :=
  x.Obeys fun w y w' => ∃ calls, Trace Answered w.connection calls w'.connection ∧
    w'.channels = w.channels ∧ calls.map creation <+: what ∧
    GrantedOrRefused (fun calls a => calls.map creation = what ∧ Holds calls a) calls y

namespace Creates

variable {σ α β : Type} [Connection σ] {what more : List Creation} {P : List Call → α → Prop}
  {Q : List Call → β → Prop} {x : Binding σ α}

theorem pure {a : α} (h : P [] a) : Creates [] P (pure a : Binding σ α) :=
  fun _ => ⟨[], .nil, rfl, List.prefix_rfl, .granted granted_nil ⟨rfl, h⟩⟩

theorem bind {f : α → Binding σ β} (hx : Creates what P x)
    (hf : ∀ calls a, P calls a → Creates more (fun later b => Q (calls ++ later) b) (f a)) :
    Creates (what ++ more) Q (x >>= f) := by
  refine Step.Obeys.bind hx ?_ ?_
  · rintro w e w' ⟨calls, htrace, hchannels, hpre, hends⟩
    refine ⟨calls, htrace, hchannels, hpre.trans (List.prefix_append _ _), ?_⟩
    cases hends with
    | refused hgranted hlast => exact .refused hgranted hlast
  · rintro w a w' ⟨calls, htrace, hchannels, -, hends⟩
    cases hends with
    | granted hgranted h =>
      obtain ⟨hwhat, ha⟩ := h
      obtain ⟨later, hlater, hkept, hpre, hends⟩ := hf calls a ha w'
      refine ⟨calls ++ later, htrace.append hlater, hkept.trans hchannels, ?_, ?_⟩
      · rw [List.map_append, hwhat]
        exact (List.prefix_append_right_inj what).mpr hpre
      · generalize ((f a).run w').1 = outcome at hends
        cases hends with
        | granted hgranted' hb =>
          refine .granted (granted_append hgranted hgranted') ⟨?_, hb.2⟩
          rw [List.map_append, hwhat, hb.1]
        | refused hgranted' hlast =>
          rw [← List.append_assoc]
          exact .refused (granted_append hgranted hgranted') hlast

theorem map (f : α → β) (hx : Creates what P x) (hf : ∀ calls a, P calls a → Q calls (f a)) :
    Creates what Q (f <$> x) := by
  rw [map_eq_pure_bind, ← List.append_nil what]
  refine hx.bind fun calls a ha => .pure ?_
  rw [List.append_nil]
  exact hf calls a ha

theorem mono {P' : List Call → α → Prop} (hx : Creates what P x)
    (h : ∀ calls a, P calls a → P' calls a) : Creates what P' x :=
  Step.Obeys.mono hx fun ⟨calls, htrace, hchannels, hpre, hends⟩ =>
    ⟨calls, htrace, hchannels, hpre, hends.mono fun calls a ha => ⟨ha.1, h calls a ha.2⟩⟩

theorem of_run_ok (hx : Creates what P x) {w w' : World σ} {a : α} (h : x.run w = (.ok a, w')) :
    ∃ calls, Trace Answered w.connection calls w'.connection ∧ P calls a := by
  obtain ⟨calls, htrace, -, -, hends⟩ := hx w
  rw [h] at htrace hends
  cases hends with
  | granted _ hheld => exact ⟨calls, htrace, hheld.2⟩

theorem ask {action : DriverAction} {request : σ → Except DriverError α × σ} {made : Creation}
    (call : Except DriverError α → Call) (haction : ∀ answer, (call answer).action = action)
    (hcreation : ∀ answer, (call answer).creation = made)
    (hanswered : ∀ c, (call (request c).1).Answered c (request c).2)
    (hgranted : ∀ a, (call (.ok a)).refusal? = none)
    (hrefused : ∀ e, (call (.error e)).refusal? = some e)
    (h : ∀ a, P [call (.ok a)] a) : Creates [made] P (Binding.ask action request) := by
  intro w
  have hmade : [call (request w.connection).1].map creation = [made] :=
    congrArg (fun c => [c]) (hcreation _)
  refine ⟨[call (request w.connection).1], .single (hanswered w.connection), rfl, ?_, ?_⟩
  · exact hmade ▸ List.prefix_rfl
  · change GrantedOrRefused _ _
      ((request w.connection).1.mapError fun e => .error (.database action e))
    cases (request w.connection).1 with
    | ok a =>
      refine .granted ?_ ⟨congrArg (fun c => [c]) (hcreation _), h a⟩
      intro c hmem
      rw [List.mem_singleton.mp hmem]
      exact hgranted a
    | error e =>
      rw [Except.mapError, ← haction (.error e)]
      change GrantedOrRefused _ ([] ++ [call (.error e)]) _
      exact .refused granted_nil (hrefused e)

theorem clob {national : Bool} {type : SqlType}
    (htype : type = if national then .nclob else .clob) :
    Creates [.clob national] (fun calls c => calls = [.clob national (.ok c)])
      (.ask (.createClob type) (Connection.createClob national) : Binding σ Clob) :=
  .ask (.clob national) (fun _ => htype ▸ rfl) (fun _ => rfl) (fun _ => rfl) (fun _ => rfl)
    (fun _ => rfl) fun _ => rfl

theorem array (elementType : String) (data : ArrayData) :
    Creates [.array elementType data.length]
      (fun calls a => calls = [.array elementType data (.ok a)])
      (.ask (.createArray elementType) (Connection.createArray elementType data) :
        Binding σ NativeArray) :=
  .ask (.array elementType data) (fun _ => rfl) (fun _ => rfl) (fun _ => rfl) (fun _ => rfl)
    (fun _ => rfl) fun _ => rfl

theorem struct (typeName : String) (attributes : List NativeValue) :
    Creates [.struct typeName attributes.length]
      (fun calls s => calls = [.struct typeName attributes (.ok s)])
      (.ask (.createStruct typeName) (Connection.createStruct typeName attributes) :
        Binding σ NativeStruct) :=
  .ask (.struct typeName attributes) (fun _ => rfl) (fun _ => rfl) (fun _ => rfl) (fun _ => rfl)
    (fun _ => rfl) fun _ => rfl

theorem keeps_channels (hx : Creates what P x) : x.Keeps World.channels :=
  Step.Obeys.mono hx fun ⟨_, _, hchannels, _⟩ => hchannels

theorem failsOnly (hx : Creates what P x) : x.FailsOnly fun f =>
    ∃ call : Call, call.creation ∈ what ∧ ∃ e, f = .error (.database call.action e) :=
  Step.Obeys.mono hx fun ⟨calls, _, _, hpre, hends⟩ f hf => by
    subst hf
    cases hends with
    | @refused done last e _ _ =>
      refine ⟨last, hpre.subset ?_, e, rfl⟩
      simp

end Creates

/-- A step that asks for objects in an order, and for the first of them only if it fails. -/
structure Binding.Requests {σ α : Type} (what : List Creation) (x : Binding (Recorded σ) α) :
    Prop where
  done : ∀ {w a w'}, x.run w = (.ok a, w') →
    w'.connection.requests = w.connection.requests ++ what
  failed : ∀ {w e w'}, x.run w = (.error e, w') →
    ∃ made, made <+: what ∧ w'.connection.requests = w.connection.requests ++ made

theorem Creates.requests {σ α : Type} [Connection σ] {what : List Creation}
    {P : List Call → α → Prop} {x : Binding (Recorded σ) α} (hx : Creates what P x) :
    x.Requests what where
  done {w a w'} h := by
    obtain ⟨calls, htrace, -, -, hends⟩ := hx w
    rw [h] at htrace hends
    cases hends with
    | granted _ hheld => rw [requests_of_trace htrace, hheld.1]
  failed {w e w'} h := by
    obtain ⟨calls, htrace, -, hpre, -⟩ := hx w
    rw [h] at htrace
    exact ⟨_, hpre, requests_of_trace htrace⟩

/-- A run with the calls that it made, all of them noted, and with its outcome. -/
structure Serves {σ α : Type} [Connection σ] (x : Binding (Recorded σ) α) (w : World (Recorded σ))
    (calls : List Call) (outcome : Outcome α) : Prop where
  outcome : (x.run w).1 = outcome
  channels : (x.run w).2.channels = w.channels
  answered : Trace Answered w.connection.connection calls (x.run w).2.connection.connection
  noted : (x.run w).2.connection.requests = w.connection.requests ++ calls.map creation

section

variable {σ α : Type} [Connection σ] {x : Binding (Recorded σ) α} {w w' : World (Recorded σ)}
  {calls : List Call} {outcome : Outcome α}

theorem serves_of_trace (h : x.run w = (outcome, w')) (hchannels : w'.channels = w.channels)
    (htrace : Trace Answered w.connection calls w'.connection) : Serves x w calls outcome where
  outcome := by rw [h]
  channels := by rw [h, hchannels]
  answered := by
    rw [h]
    exact trace_of_recorded htrace
  noted := by
    rw [h]
    exact requests_of_trace htrace

end

end SqlBinding
