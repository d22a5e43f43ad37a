import SqlBinding.Binding.Temporal
import SqlBinding.Proofs.Binding.StepLaws

/-!
# Temporal content and what becomes of it

Content that names something in the calendar is resolved to it, and content that does not is
refused. What remains is content whose arithmetic has no result: it ends the computation.
-/

namespace SqlBinding

/-- The refusals of content that names nothing in the calendar. -/
def Refusal.ofContent : Refusal → Bool
  | .second _ | .zoneOffset _ | .zoneOffsetRange _ | .date _ | .time _ _ _ _ | .civil _
  | .utcFraction _ | .utcSeconds _ | .dateText _ | .timeText _ | .timestampText _ => true
  | _ => false

/-- The failures of temporal content. Only content that overflows ends the computation. -/
inductive BadContent (overflows : Prop) : Failure → Prop
  | refused {why : Refusal} (h : why.ofContent = true) :
      BadContent overflows (.error (.refused why))
  | overflow (h : overflows) : BadContent overflows .overflow

theorem BadContent.mono {p q : Prop} {f : Failure} (h : p → q) : BadContent p f → BadContent q f
  | .refused hwhy => .refused hwhy
  | .overflow hp => .overflow (h hp)

namespace Outcome

variable {α : Type} {x : Outcome α} {P : α → Prop} {Q : Refusal → Prop} {R : Prop}

/-- An outcome is `.ok` just for what `P` says, and a refusal just for what `Q` says; without
either the computation ends, which is so just if `R` is. -/
def Settles (x : Outcome α) (P : α → Prop) (Q : Refusal → Prop) (R : Prop) : Prop :=
  (∀ a, x = .ok a ↔ P a) ∧
    ∀ f, x = .error f ↔ (∃ why, f = .error (.refused why) ∧ Q why) ∨ f = .overflow ∧ R

theorem settles (hok : ∀ a, P a → x = .ok a) (hrefused : ∀ why, Q why → x = .refuse why)
    (hoverflow : R → x = .error .overflow) (htotal : (∃ a, P a) ∨ (∃ why, Q why) ∨ R) :
    x.Settles P Q R := by
  constructor
  · refine fun a => ⟨fun hx => ?_, hok a⟩
    rcases htotal with ⟨a', ha⟩ | ⟨why, hwhy⟩ | hR
    · cases hx.symm.trans (hok a' ha)
      exact ha
    · cases hx.symm.trans (hrefused why hwhy)
    · cases hx.symm.trans (hoverflow hR)
  · refine fun f => ⟨fun hx => ?_, ?_⟩
    · rcases htotal with ⟨a, ha⟩ | ⟨why, hwhy⟩ | hR
      · cases hx.symm.trans (hok a ha)
      · cases hx.symm.trans (hrefused why hwhy)
        exact .inl ⟨why, rfl, hwhy⟩
      · cases hx.symm.trans (hoverflow hR)
        exact .inr ⟨rfl, hR⟩
    · rintro (⟨why, rfl, hwhy⟩ | ⟨rfl, hR⟩)
      · exact hrefused why hwhy
      · exact hoverflow hR

theorem Settles.overflow_iff (h : x.Settles P Q R) : x = .error .overflow ↔ R := by
  rw [h.2]
  exact ⟨fun hx => by simpa using hx, fun hR => .inr ⟨rfl, hR⟩⟩

theorem Settles.failsOnly (h : x.Settles P Q R) (hcontent : ∀ why, Q why → why.ofContent = true) :
    x.FailsOnly (BadContent R) := by
  refine failsOnly_iff.mpr fun f hf => ?_
  rcases (h.2 f).mp hf with ⟨why, rfl, hwhy⟩ | ⟨rfl, hR⟩
  · exact .refused (hcontent why hwhy)
  · exact .overflow hR

theorem resolved_or_fails (h : x.FailsOnly (BadContent R)) :
    (∃ a, x = .ok a) ∨ (∃ why, x = .refuse why) ∨ x = .error .overflow := by
  cases x with
  | ok a => exact .inl ⟨a, rfl⟩
  | error f =>
    cases failsOnly_iff.mp h f rfl with
    | refused hwhy => exact .inr (.inl ⟨_, rfl⟩)
    | overflow => exact .inr (.inr rfl)

theorem ok_bind {β : Type} (a : α) (f : α → Outcome β) : ((.ok a : Outcome α) >>= f) = f a := rfl

theorem refuse_bind {β : Type} (why : Refusal) (f : α → Outcome β) :
    ((.refuse why : Outcome α) >>= f) = .refuse why := rfl

theorem overflow_bind {β : Type} (f : α → Outcome β) :
    ((.error .overflow : Outcome α) >>= f) = .error .overflow := rfl

theorem of_map_ok {β : Type} {f : α → β} {b : β} (h : f <$> x = .ok b) :
    ∃ a, x = .ok a ∧ f a = b := by
  cases x with
  | error e => cases h
  | ok a =>
    cases h
    exact ⟨a, rfl, rfl⟩

end Outcome

open Outcome

theorem CivilDate.resolve_fails (d : CivilDate) : d.resolve.FailsOnly (BadContent False) :=
  .orRefuse (.refused rfl) _

theorem resolveDateText_fails (text : String) :
    (resolveDateText text).FailsOnly (BadContent False) := .orRefuse (.refused rfl) _

theorem resolveTimeText_fails (text : String) :
    (resolveTimeText text).FailsOnly (BadContent False) := .orRefuse (.refused rfl) _

theorem resolveTimestampText_fails (text : String) :
    (resolveTimestampText text).FailsOnly (BadContent False) := .orRefuse (.refused rfl) _

/-- The fraction of an instant, in thousandths, outgrows a decimal. -/
def UtcInstant.Overflows (u : UtcInstant) : Prop := u.fraction.times? 1000 = none

instance : DecidablePred UtcInstant.Overflows :=
  fun u => inferInstanceAs (Decidable (u.fraction.times? 1000 = none))

theorem UtcInstant.resolve_of_overflows {u : UtcInstant} (h : u.Overflows) :
    u.resolve = .error .overflow := by
  rw [UtcInstant.Overflows] at h
  rw [UtcInstant.resolve, h]

theorem UtcInstant.resolve_fails (u : UtcInstant) :
    u.resolve.FailsOnly (BadContent u.Overflows) := by
  unfold UtcInstant.resolve
  split
  · next hnone => exact .error (.overflow hnone)
  · split
    · exact .error (.refused rfl)
    · exact .orRefuse (.refused rfl) _

end SqlBinding
