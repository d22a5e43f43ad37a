import SqlBinding.Driver.Basic

/-!
# Conversion steps

A conversion may read channels and ask a connection for objects. A step takes a state and gives an
outcome and the state it leaves behind, also when it stops short; what follows a stop is not run.
-/

namespace SqlBinding

def Step (s α : Type) : Type := s → Outcome α × s

namespace Step

variable {s α β : Type}

def run (x : Step s α) (w : s) : Outcome α × s := x w

instance : Monad (Step s) where
  pure a := fun w => (.ok a, w)
  bind x f := fun w =>
    match x w with
    | (.ok a, w) => f a w
    | (.error e, w) => (.error e, w)

def ofOutcome (x : Outcome α) : Step s α := fun w => (x, w)

def fail (e : Error) : Step s α := ofOutcome (.fail e)

@[simp] theorem run_pure (a : α) (w : s) : (pure a : Step s α).run w = (.ok a, w) := rfl

@[simp] theorem run_ofOutcome (x : Outcome α) (w : s) :
    (ofOutcome x : Step s α).run w = (x, w) := rfl

@[simp] theorem run_fail (e : Error) (w : s) :
    (fail e : Step s α).run w = (.error (.error e), w) := rfl

theorem run_bind (x : Step s α) (f : α → Step s β) (w : s) :
    (x >>= f).run w =
      match x.run w with
      | (.ok a, w) => (f a).run w
      | (.error e, w) => (.error e, w) := rfl

theorem run_map (f : α → β) (x : Step s α) (w : s) :
    (f <$> x).run w = ((x.run w).1.map f, (x.run w).2) := by
  change (match x w with | (.ok a, w) => _ | (.error e, w) => _) = ((x w).1.map f, (x w).2)
  rcases x w with ⟨_ | _, _⟩ <;> rfl

theorem run_bind_ok {x : Step s α} {f : α → Step s β} {w w' : s} {a : α}
    (h : x.run w = (.ok a, w')) : (x >>= f).run w = (f a).run w' := by
  rw [run_bind, h]

theorem run_bind_error {x : Step s α} {f : α → Step s β} {w w' : s} {e : Failure}
    (h : x.run w = (.error e, w')) : (x >>= f).run w = (.error e, w') := by
  rw [run_bind, h]

instance : LawfulMonad (Step s) :=
  LawfulMonad.mk' _
    (fun x => by
      funext w
      change (match x w with | (.ok a, w) => _ | (.error e, w) => _) = x w
      rcases x w with ⟨_ | _, _⟩ <;> rfl)
    (fun _ _ => rfl)
    (fun x f g => by
      funext w
      change (match (match x w with | (.ok a, w) => f a w | (.error e, w) => (.error e, w)) with
        | (.ok b, w) => g b w | (.error e, w) => (.error e, w)) = _
      change _ = match x w with | (.ok a, w) => (f a >>= g) w | (.error e, w) => (.error e, w)
      rcases x w with ⟨_ | _, _⟩ <;> rfl)

end Step

/-- What a conversion may change: the channels and the connection. -/
structure World (σ : Type) where
  channels : Channels
  connection : σ

/-- A conversion step that may only read channels. -/
abbrev Reading := Step Channels

/-- A conversion step that may read channels and ask the connection. -/
abbrev Binding (σ : Type) := Step (World σ)

namespace Reading

def bytes (use : StreamUse) (c : ByteChannel) : Reading Bytes := fun cs =>
  let (read, cs) := cs.readBytes c
  (read.mapError fun message => .error (.io use message), cs)

def chars (use : StreamUse) (c : CharChannel) : Reading String := fun cs =>
  let (read, cs) := cs.readChars c
  (read.mapError fun message => .error (.io use message), cs)

def lift {σ α : Type} (x : Reading α) : Binding σ α := fun w =>
  let (outcome, channels) := x w.channels
  (outcome, { w with channels })

end Reading

def Binding.ask {σ α : Type} (action : DriverAction) (request : σ → Except DriverError α × σ) :
    Binding σ α := fun w =>
  let (answer, connection) := request w.connection
  (answer.mapError fun e => .error (.database action e), { w with connection })

section

variable {σ α : Type}

theorem Reading.run_bytes (use : StreamUse) (c : ByteChannel) (cs : Channels) :
    (Reading.bytes use c).run cs =
      ((cs.readBytes c).1.mapError fun message => .error (.io use message),
        (cs.readBytes c).2) := rfl

theorem Reading.run_chars (use : StreamUse) (c : CharChannel) (cs : Channels) :
    (Reading.chars use c).run cs =
      ((cs.readChars c).1.mapError fun message => .error (.io use message),
        (cs.readChars c).2) := rfl

theorem Reading.run_lift (x : Reading α) (w : World σ) :
    (x.lift : Binding σ α).run w =
      ((x.run w.channels).1, ⟨(x.run w.channels).2, w.connection⟩) := rfl

theorem Binding.run_ask (action : DriverAction) (request : σ → Except DriverError α × σ)
    (w : World σ) :
    (Binding.ask action request).run w =
      ((request w.connection).1.mapError fun e => .error (.database action e),
        ⟨w.channels, (request w.connection).2⟩) := rfl

end

end SqlBinding
