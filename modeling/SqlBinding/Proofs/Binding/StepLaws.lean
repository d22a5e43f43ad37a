import Mathlib.Data.List.Forall2
import SqlBinding.Binding.Step

/-!
# Laws of conversion steps

A law relates the state before a step, its outcome and the state after. A sequence obeys a law if
its first step obeys one which the rest completes to it. Statements on the results of a step, on its
failures and on what it leaves as it was are laws, and an outcome obeys the laws of the step that
has no state.
-/

namespace SqlBinding

namespace Step

variable {s α β γ : Type} {law law' : s → Outcome α → s → Prop} {next : s → Outcome β → s → Prop}
  {x : Step s α}

/-- Every run of the step is as the law says. -/
def Obeys (law : s → Outcome α → s → Prop) (x : Step s α) : Prop :=
  ∀ w, law w (x.run w).1 (x.run w).2

theorem Obeys.ofOutcome {x : Outcome α} (h : ∀ w, law w x w) :
    (ofOutcome x : Step s α).Obeys law := h

theorem Obeys.mono (hx : x.Obeys law) (h : ∀ {w y w'}, law w y w' → law' w y w') :
    x.Obeys law' := fun w => h (hx w)

theorem Obeys.bind {f : α → Step s β} (hx : x.Obeys law)
    (hstop : ∀ {w e w'}, law w (.error e) w' → next w (.error e) w')
    (hgo : ∀ {w a w'}, law w (.ok a) w' → next w ((f a).run w').1 ((f a).run w').2) :
    (x >>= f).Obeys next := by
  intro w
  have hfirst := hx w
  rcases hrun : x.run w with ⟨e | a, w'⟩
  · rw [hrun] at hfirst
    rw [run_bind_error hrun]
    exact hstop hfirst
  · rw [hrun] at hfirst
    rw [run_bind_ok hrun]
    exact hgo hfirst

theorem Obeys.map {f : α → β} (hx : x.Obeys law)
    (hstop : ∀ {w e w'}, law w (.error e) w' → next w (.error e) w')
    (hgo : ∀ {w a w'}, law w (.ok a) w' → next w (.ok (f a)) w') : (f <$> x).Obeys next := by
  rw [map_eq_pure_bind]
  exact hx.bind hstop hgo

/-- A step whose results are of a certain kind. -/
def Yields (P : α → Prop) (x : Step s α) : Prop := x.Obeys fun _ y _ => ∀ a, y = .ok a → P a

/-- A step that, if it fails, fails in a certain way. -/
def FailsOnly (P : Failure → Prop) (x : Step s α) : Prop :=
  x.Obeys fun _ y _ => ∀ f, y = .error f → P f

/-- A step that leaves a part of the state as it is, also when it stops short. -/
def Keeps (part : s → γ) (x : Step s α) : Prop := x.Obeys fun w _ w' => part w' = part w

section

variable {P : α → Prop} {Q : β → Prop}

theorem Yields.trivial : x.Yields fun _ => True := fun _ _ _ => True.intro

theorem Yields.pure {a : α} (h : P a) : (pure a : Step s α).Yields P :=
  Obeys.ofOutcome fun _ _ ha => by cases ha; exact h

theorem Yields.bind {f : α → Step s β} (hx : x.Yields P) (hf : ∀ a, P a → (f a).Yields Q) :
    (x >>= f).Yields Q :=
  Obeys.bind hx (fun _ => nofun) fun {_ a w'} ha => hf a (ha a rfl) w'

theorem Yields.map {f : α → β} (hx : x.Yields P) (hf : ∀ a, P a → Q (f a)) : (f <$> x).Yields Q :=
  Obeys.map hx (fun _ => nofun) fun {_ a _} ha _ hb => by cases hb; exact hf a (ha a rfl)

theorem forall₂_of_mapM {R : α → β → Prop} {f : α → Step s β} (hf : ∀ a, (f a).Yields (R a))
    (as : List α) : (as.mapM f).Yields (List.Forall₂ R as) := by
  induction as with
  | nil => exact .pure .nil
  | cons a as ih =>
    rw [List.mapM_cons]
    exact (hf a).bind fun b hb => ih.bind fun bs hbs => .pure (.cons hb hbs)

end

section

variable {P Q : Failure → Prop}

theorem FailsOnly.mono (hx : x.FailsOnly P) (h : ∀ f, P f → Q f) : x.FailsOnly Q :=
  Obeys.mono hx fun hy f hf => h f (hy f hf)

theorem FailsOnly.bind {f : α → Step s β} (hx : x.FailsOnly P) (hf : ∀ a, (f a).FailsOnly P) :
    (x >>= f).FailsOnly P :=
  Obeys.bind hx (fun {_ e _} he _ h => by cases h; exact he e rfl) fun {_ a w'} _ => hf a w'

theorem FailsOnly.map (f : α → β) (hx : x.FailsOnly P) : (f <$> x).FailsOnly P :=
  Obeys.map hx (fun {_ e _} he _ h => by cases h; exact he e rfl) fun _ => nofun

end

section

variable {part : s → γ}

theorem Keeps.ofOutcome (x : Outcome α) : (ofOutcome x : Step s α).Keeps part :=
  Obeys.ofOutcome fun _ => rfl

theorem Keeps.bind {f : α → Step s β} (hx : x.Keeps part) (hf : ∀ a, (f a).Keeps part) :
    (x >>= f).Keeps part :=
  Obeys.bind hx id fun {_ a w'} ha => (hf a w').trans ha

theorem Keeps.map (f : α → β) (hx : x.Keeps part) : (f <$> x).Keeps part := Obeys.map hx id id

theorem Keeps.of_map {f : α → β} (h : (f <$> x).Keeps part) : x.Keeps part := by
  intro w
  have hw := h w
  rwa [run_map] at hw

end

end Step

namespace Outcome

variable {α β : Type} {x : Outcome α}

theorem ofOutcome_bind {s : Type} (x : Outcome α) (f : α → Outcome β) :
    (Step.ofOutcome (x >>= f) : Step s β) =
      Step.ofOutcome x >>= fun a => Step.ofOutcome (f a) := by
  funext w
  cases x <;> rfl

theorem ofOutcome_map {s : Type} (f : α → β) (x : Outcome α) :
    (Step.ofOutcome (f <$> x) : Step s β) = f <$> Step.ofOutcome x := by
  funext w
  cases x <;> rfl

/-- An outcome that, if there is a result, has one of a certain kind. -/
def Yields (P : α → Prop) (x : Outcome α) : Prop := (Step.ofOutcome x : Step Unit α).Yields P

/-- An outcome that, if it fails, fails in a certain way. -/
def FailsOnly (P : Failure → Prop) (x : Outcome α) : Prop :=
  (Step.ofOutcome x : Step Unit α).FailsOnly P

section

variable {P : α → Prop} {Q : β → Prop}

theorem yields_iff : x.Yields P ↔ ∀ a, x = .ok a → P a := ⟨fun h => h (), fun h _ => h⟩

theorem Yields.trivial : x.Yields fun _ => True := Step.Yields.trivial

theorem Yields.ok {a : α} (h : P a) : Yields P (.ok a : Outcome α) := Step.Yields.pure h

theorem Yields.error (f : Failure) : Yields P (.error f : Outcome α) := yields_iff.mpr nofun

theorem Yields.bind {f : α → Outcome β} (hx : x.Yields P) (hf : ∀ a, P a → (f a).Yields Q) :
    (x >>= f).Yields Q := by
  rw [Yields, ofOutcome_bind]
  exact Step.Yields.bind hx hf

theorem Yields.map {f : α → β} (hx : x.Yields P) (hf : ∀ a, P a → Q (f a)) :
    (f <$> x).Yields Q := by
  rw [Yields, ofOutcome_map]
  exact Step.Yields.map hx hf

end

section

variable {P Q : Failure → Prop}

theorem failsOnly_iff : x.FailsOnly P ↔ ∀ f, x = .error f → P f := ⟨fun h => h (), fun h _ => h⟩

theorem FailsOnly.ok (a : α) : FailsOnly P (.ok a : Outcome α) := failsOnly_iff.mpr nofun

theorem FailsOnly.error {f : Failure} (h : P f) : FailsOnly P (.error f : Outcome α) :=
  failsOnly_iff.mpr fun _ hf => by cases hf; exact h

theorem FailsOnly.mono (hx : x.FailsOnly P) (h : ∀ f, P f → Q f) : x.FailsOnly Q :=
  Step.FailsOnly.mono hx h

theorem FailsOnly.bind {f : α → Outcome β} (hx : x.FailsOnly P) (hf : ∀ a, (f a).FailsOnly P) :
    (x >>= f).FailsOnly P := by
  rw [FailsOnly, ofOutcome_bind]
  exact Step.FailsOnly.bind hx hf

theorem FailsOnly.map {f : α → β} (hx : x.FailsOnly P) : (f <$> x).FailsOnly P := by
  rw [FailsOnly, ofOutcome_map]
  exact Step.FailsOnly.map f hx

theorem FailsOnly.orRefuse {why : Refusal} (h : P (.error (.refused why))) (a : Option α) :
    FailsOnly P (orRefuse why a) := by
  cases a with
  | none => exact .error h
  | some a => exact .ok a

end

end Outcome

section

variable {s α : Type} {x : Outcome α}

theorem Step.Yields.ofOutcome {P : α → Prop} (hx : x.Yields P) :
    (Step.ofOutcome x : Step s α).Yields P := fun _ => hx ()

end

end SqlBinding
