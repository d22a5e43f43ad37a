import Mathlib.Data.List.Basic
import SqlBinding.Binding.Converter
import SqlBinding.Driver.Buffered

/-!
# Binding a list of parameters

Parameters are bound one after the other. Either all of them are converted and the statement takes
every value at its position, or there is a first one whose conversion fails or whose value the
statement refuses: then the values before it stand at their positions, and what follows it is
neither converted nor bound. A buffered statement is left as it was by a bind that fails.
-/

namespace SqlBinding

section Lists

variable {s α β : Type} {f : α → Step s β} {a : α} {as : List α} {b : β} {bs : List β}
  {w w₁ w₂ : s}

theorem Step.run_mapM_cons_ok (h : (f a).run w = (.ok b, w₁))
    (hs : (as.mapM f).run w₁ = (.ok bs, w₂)) :
    ((a :: as).mapM f).run w = (.ok (b :: bs), w₂) := by
  rw [List.mapM_cons, Step.run_bind_ok h, Step.run_bind_ok hs]
  rfl

end Lists

variable {σ τ : Type} [PreparedStatement τ]

inductive Takes : Nat → List NativeValue → τ → τ → Prop
  | nil {index : Nat} {s : τ} : Takes index [] s s
  | cons {index : Nat} {v : NativeValue} {vs : List NativeValue} {s s₁ s₂ : τ}
      (h : PreparedStatement.set index v s = (.ok (), s₁)) (rest : Takes (index + 1) vs s₁ s₂) :
      Takes index (v :: vs) s s₂

/-- A parameter is not bound: it cannot be converted, or the statement refuses its value. -/
inductive BindFails (c : Converter σ) (index : Nat) (p : Parameter) (w : World σ) (s : τ) :
    Failure → World σ × τ → Prop
  | convert {e : Failure} {w' : World σ} (h : (c.convert p).run w = (.error e, w')) :
      BindFails c index p w s e (w', s)
  | set {r : NativeType × NativeValue} {w' : World σ} {e : DriverError} {s' : τ}
      (h : (c.convert p).run w = (.ok r, w'))
      (hs : PreparedStatement.set index r.2 s = (.error e, s')) :
      BindFails c index p w s (.error (.database (.bindParameter index) e)) (w', s')

namespace Converter

variable {c : Converter σ} {index : Nat} {p : Parameter} {w : World σ} {s : τ}

private theorem bind_run_ok {native : NativeType} {u : World σ × τ}
    (h : (c.bind index p).run (w, s) = (.ok native, u)) :
    ∃ v, (c.convert p).run w = (.ok (native, v), u.1) ∧
      PreparedStatement.set index v s = (.ok (), u.2) := by
  simp only [Step.run, Converter.bind] at h ⊢
  rcases hc : c.convert p w with ⟨e | ⟨t, v⟩, w₁⟩
  · simp [hc] at h
  · rcases hs : PreparedStatement.set index v s with ⟨e | _, s₁⟩
    · simp [hc, hs] at h
    · simp only [hc, hs, Prod.mk.injEq, Except.ok.injEq] at h
      obtain ⟨rfl, rfl⟩ := h
      exact ⟨v, rfl, hs⟩

theorem bind_run_error {e : Failure} {u : World σ × τ}
    (h : (c.bind index p).run (w, s) = (.error e, u)) : BindFails c index p w s e u := by
  simp only [Step.run, Converter.bind] at h
  rcases hc : c.convert p w with ⟨e | ⟨t, v⟩, w₁⟩
  · simp only [hc, Prod.mk.injEq, Except.error.injEq] at h
    obtain ⟨rfl, rfl⟩ := h
    exact .convert hc
  · rcases hs : PreparedStatement.set index v s with ⟨e | _, s₁⟩
    · simp only [hc, hs, Prod.mk.injEq, Except.error.injEq] at h
      obtain ⟨rfl, rfl⟩ := h
      exact .set hc hs
    · simp [hc, hs] at h

/-- Either all parameters are bound, or the first that is not stops the binding, whatever follows
it. -/
theorem bindFrom_run (c : Converter σ) (ps : List Parameter) (index : Nat) (w : World σ) (s : τ) :
    (∃ rs w' s', (ps.mapM c.convert).run w = (.ok rs, w') ∧ rs.length = ps.length ∧
      Takes index (rs.map (·.2)) s s' ∧
      (c.bindFrom index ps).run (w, s) = (.ok (rs.map (·.1)), (w', s'))) ∨
    (∃ before p rest rs w₁ s₁ e u, ps = before ++ p :: rest ∧
      (before.mapM c.convert).run w = (.ok rs, w₁) ∧ rs.length = before.length ∧
      Takes index (rs.map (·.2)) s s₁ ∧ BindFails c (index + before.length) p w₁ s₁ e u ∧
      ∀ after, (c.bindFrom index (before ++ p :: after)).run (w, s) = (.error e, u)) := by
  induction ps generalizing index w s with
  | nil => exact .inl ⟨[], w, s, rfl, rfl, .nil, rfl⟩
  | cons p ps ih =>
    rcases hbind : (c.bind index p).run (w, s) with ⟨e | native, u⟩
    · refine .inr ⟨[], p, ps, [], w, s, e, u, rfl, rfl, rfl, .nil, bind_run_error hbind, ?_⟩
      intro after
      exact Step.run_bind_error hbind
    · obtain ⟨v, hconvert, hset⟩ := bind_run_ok hbind
      rcases ih (index + 1) u.1 u.2 with
        ⟨rs, w', s', hmap, hlen, htakes, hrun⟩ |
        ⟨before, q, rest, rs, w₁, s₁, e, u', hps, hmap, hlen, htakes, hfails, hrun⟩
      · refine .inl ⟨(native, v) :: rs, w', s', Step.run_mapM_cons_ok hconvert hmap, by simp [hlen],
          .cons hset htakes, ?_⟩
        rw [bindFrom, Step.run_bind_ok hbind, Step.run_bind_ok hrun]
        rfl
      · refine .inr ⟨p :: before, q, rest, (native, v) :: rs, w₁, s₁, e, u', by simp [hps],
          Step.run_mapM_cons_ok hconvert hmap, by simp [hlen], .cons hset htakes, ?_, ?_⟩
        · rw [List.length_cons, Nat.add_comm before.length, ← Nat.add_assoc]
          exact hfails
        · intro after
          rw [List.cons_append, bindFrom, Step.run_bind_ok hbind, Step.run_bind_error (hrun after)]

end Converter

namespace BufferedStatement

/-- A statement that holds values at the positions from one on, and elsewhere what another holds. -/
structure Overlays (vs : List NativeValue) (s s' : BufferedStatement) : Prop where
  held : ∀ i (h : i < vs.length), s'.get? (i + 1) = some vs[i]
  kept : ∀ i, i = 0 ∨ vs.length < i → s'.get? i = s.get? i

private theorem set_of_pos {index : Nat} (h : 0 < index) (v : NativeValue) (s : BufferedStatement) :
    PreparedStatement.set index v s = (.ok (), ⟨put index v s.values⟩) :=
  if_neg (Nat.pos_iff_ne_zero.mp h)

private theorem get?_of_takes {index : Nat} {vs : List NativeValue} {s s' : BufferedStatement}
    (h : Takes index vs s s') (hpos : 0 < index) :
    (∀ i (hi : i < vs.length), s'.get? (index + i) = some vs[i]) ∧
      ∀ i, i < index ∨ index + vs.length ≤ i → s'.get? i = s.get? i := by
  induction h with
  | nil => exact ⟨fun i hi => absurd hi (Nat.not_lt_zero i), fun _ _ => rfl⟩
  | @cons index v vs s s₁ s₂ hset _ ih =>
    rw [set_of_pos hpos] at hset
    cases hset
    obtain ⟨hheld, hkept⟩ := ih (Nat.succ_pos index)
    constructor
    · intro i hi
      cases i with
      | zero =>
        rw [Nat.add_zero, hkept index (.inl (Nat.lt_succ_self index))]
        exact lookup_put_self index v s.values
      | succ i =>
        have hi' : i < vs.length := by simpa using hi
        have := hheld i hi'
        rwa [Nat.add_assoc, Nat.add_comm 1 i] at this
    · intro i hi
      rw [List.length_cons] at hi
      rw [hkept i (by omega)]
      exact lookup_put_ne v s.values (by omega)

private theorem overlays_of_takes {vs : List NativeValue} {s s' : BufferedStatement}
    (h : Takes 1 vs s s') : Overlays vs s s' := by
  obtain ⟨hheld, hkept⟩ := get?_of_takes h Nat.one_pos
  refine ⟨fun i hi => ?_, fun i hi => hkept i (by omega)⟩
  rw [Nat.add_comm]
  exact hheld i hi

private theorem eq_of_set_error {index : Nat} {v : NativeValue} {s s' : BufferedStatement}
    {e : DriverError}
    (h : PreparedStatement.set index v s = (.error e, s')) : s' = s := by
  rcases Nat.eq_zero_or_pos index with rfl | hpos
  · cases h
    rfl
  · rw [set_of_pos hpos] at h
    cases h

end BufferedStatement

private theorem BindFails.eq_of_buffered {c : Converter σ} {index : Nat} {p : Parameter}
    {w : World σ}
    {s : BufferedStatement} {e : Failure} {u : World σ × BufferedStatement}
    (h : BindFails c index p w s e u) : u.2 = s := by
  cases h with
  | convert => rfl
  | set _ hs => exact BufferedStatement.eq_of_set_error hs

/-- Binding a list leaves a buffered statement with the values of the parameters that were bound,
and everything else in it as it was. What follows the first parameter that is not bound has no part
in the outcome: the world is the one in which that parameter failed. A single bind that fails leaves
the statement as it was, and at position zero it always fails. -/
theorem bindAll_prefix_exact (c : Converter σ) (w : World σ) (s : BufferedStatement) :
    (∀ ps : List Parameter,
      (∃ rs w' s', (ps.mapM c.convert).run w = (.ok rs, w') ∧ rs.length = ps.length ∧
        s.Overlays (rs.map (·.2)) s' ∧
        (c.bindAll ps).run (w, s) = (.ok (rs.map (·.1)), (w', s'))) ∨
      (∃ before p rest rs w₁ s' e w', ps = before ++ p :: rest ∧
        (before.mapM c.convert).run w = (.ok rs, w₁) ∧ rs.length = before.length ∧
        s.Overlays (rs.map (·.2)) s' ∧
        BindFails c (before.length + 1) p w₁ s' e (w', s') ∧
        ∀ after, (c.bindAll (before ++ p :: after)).run (w, s) = (.error e, (w', s')))) ∧
    (∀ index p e w' s', (c.bind index p).run (w, s) = (.error e, (w', s')) → s' = s) ∧
    (∀ p, ∃ e w', (c.bind 0 p).run (w, s) = (.error e, (w', s))) := by
  refine ⟨fun ps => ?_, fun index p e w' s' h => ?_, fun p => ?_⟩
  · rcases c.bindFrom_run ps 1 w s with
      ⟨rs, w', s', hmap, hlen, htakes, hrun⟩ |
      ⟨before, p, rest, rs, w₁, s₁, e, u, hps, hmap, hlen, htakes, hfails, hrun⟩
    · exact .inl ⟨rs, w', s', hmap, hlen, BufferedStatement.overlays_of_takes htakes, hrun⟩
    · -- A buffered statement is the same before and after the parameter that fails.
      have hu : u = (u.1, s₁) := Prod.ext rfl hfails.eq_of_buffered
      rw [Nat.add_comm, hu] at hfails
      rw [hu] at hrun
      exact .inr ⟨before, p, rest, rs, w₁, s₁, e, u.1, hps, hmap, hlen,
        BufferedStatement.overlays_of_takes htakes, hfails, hrun⟩
  · exact (Converter.bind_run_error h).eq_of_buffered
  · rcases h : (c.bind 0 p).run (w, s) with ⟨e | native, u⟩
    · have hu : u = (u.1, s) := Prod.ext rfl (Converter.bind_run_error h).eq_of_buffered
      exact ⟨e, u.1, by rw [hu]⟩
    · obtain ⟨v, -, hset⟩ := Converter.bind_run_ok h
      cases hset

/-- The first parameter is bound, the second has no native type, and the third is not reached. -/
example (w : World BufferedConnection) :
    ((Converter.standard arith).bindAll [.raw (.boolean true), .raw (.array (.int [])), .null]).run
        (w, (⟨[(2, .null .null)]⟩ : BufferedStatement)) =
      (.error (.error (.refused (.bareParameter (.array (.int []))))),
        (w, ⟨[(1, .boolean true), (2, .null .null)]⟩)) := rfl

end SqlBinding
