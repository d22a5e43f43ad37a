import Mathlib.Data.List.Induction
import SqlBinding.Driver.Buffered
import SqlBinding.Proofs.Result.Release

/-!
# Results of a buffered call

A buffered call hands out every result set at most once, and in the order in which it holds them,
whatever is asked of it. The set that it stands on is told by the calls alone, until it is closed.
-/

namespace SqlBinding.BufferedCallable

def step (c : BufferedCallable) : StatementCall → BufferedCallable
  | .nextResult => c.next.2
  | .resultSet => c.take.2
  | .executionSummary => c.summarize.2
  | .close => c.release.2

def run (c : BufferedCallable) (calls : List StatementCall) : BufferedCallable :=
  calls.foldl step c

/-- The result set that a call hands out. -/
def handed (c : BufferedCallable) : StatementCall → Option BufferedResultSet
  | .resultSet => c.take.1.toOption
  | _ => none

/-- The result sets that a run hands out, in the order in which it does. -/
def handedOut (c : BufferedCallable) : List StatementCall → List BufferedResultSet
  | [] => []
  | call :: calls => (c.handed call).toList ++ (c.step call).handedOut calls

/-- The advance with a number is the last one, and no result set was asked for after it. -/
def MovedTo (calls : List StatementCall) (i : Nat) : Prop :=
  ∃ before after, calls = before ++ .nextResult :: after ∧ .nextResult ∉ after ∧
    .resultSet ∉ after ∧ before.count .nextResult = i

variable {c : BufferedCallable} {calls : List StatementCall} {call : StatementCall}
  {rs : List BufferedResultSet} {summary : ExecutionSummary} {set : BufferedResultSet} {i : Nat}

@[simp] private theorem run_cons (c : BufferedCallable) (call : StatementCall)
    (calls : List StatementCall) : c.run (call :: calls) = (c.step call).run calls := rfl

private theorem run_append (c : BufferedCallable) (calls more : List StatementCall) :
    c.run (calls ++ more) = (c.run calls).run more := List.foldl_append

private theorem handedOut_append (c : BufferedCallable) (calls more : List StatementCall) :
    c.handedOut (calls ++ more) = c.handedOut calls ++ (c.run calls).handedOut more := by
  induction calls generalizing c with
  | nil => rfl
  | cons call calls ih => rw [List.cons_append, handedOut, ih, handedOut, run_cons,
      List.append_assoc]

/-- What can still be handed out. -/
def left (c : BufferedCallable) : List BufferedResultSet := c.current.toList ++ c.pending

theorem sublist_left (c : BufferedCallable) (call : StatementCall) :
    ((c.handed call).toList ++ (c.step call).left).Sublist c.left := by
  obtain ⟨pending, current, summary, closed⟩ := c
  cases closed with
  | true =>
    cases call with
    | close => exact List.nil_sublist _
    | nextResult | resultSet | executionSummary => exact List.Sublist.refl _
  | false =>
    cases call with
    | nextResult =>
      -- the set that was not asked for is lost, and the next one takes its place
      have hlost : pending.Sublist (current.toList ++ pending) := List.sublist_append_right _ _
      cases pending with
      | nil => exact List.nil_sublist _
      | cons set pending => exact hlost
    | resultSet => cases current <;> exact List.Sublist.refl _
    | executionSummary => exact List.Sublist.refl _
    | close => exact List.nil_sublist _

private theorem handedOut_sublist_left (c : BufferedCallable) (calls : List StatementCall) :
    (c.handedOut calls ++ (c.run calls).left).Sublist c.left := by
  induction calls generalizing c with
  | nil => exact List.Sublist.refl _
  | cons call calls ih =>
    rw [handedOut, run_cons, List.append_assoc]
    exact ((ih (c.step call)).append_left _).trans (sublist_left c call)

private theorem next_of_closed (h : c.closed = true) : c.next = (.error closedError, c) := if_pos h

private theorem take_of_closed (h : c.closed = true) : c.take = (.error closedError, c) := if_pos h

private theorem summarize_of_closed (h : c.closed = true) : c.summarize = (.error closedError, c) :=
  if_pos h

private theorem closed_step (h : c.closed = true) (call : StatementCall) :
    (c.step call).closed = true := by
  cases call with
  | nextResult => rwa [step, next_of_closed h]
  | resultSet => rwa [step, take_of_closed h]
  | executionSummary => rwa [step, summarize_of_closed h]
  | close => rfl

private theorem closed_run (h : c.closed = true) (calls : List StatementCall) :
    (c.run calls).closed = true := by
  induction calls generalizing c with
  | nil => exact h
  | cons call calls ih => exact ih (closed_step h call)

private theorem closed_run_of_mem (c : BufferedCallable) (h : .close ∈ calls) :
    (c.run calls).closed = true := by
  obtain ⟨before, after, rfl⟩ := List.append_of_mem h
  rw [run_append]
  exact closed_run rfl after

private theorem handedOut_of_closed (h : c.closed = true) (calls : List StatementCall) :
    c.handedOut calls = [] := by
  induction calls generalizing c with
  | nil => rfl
  | cons call calls ih =>
    have hnone : c.handed call = none := by
      cases call with
      | resultSet => rw [handed, take_of_closed h]; rfl
      | nextResult | executionSummary | close => rfl
    rw [handedOut, hnone, ih (closed_step h call)]
    rfl

private theorem not_movedTo_nil : ¬MovedTo [] i := by
  rintro ⟨before, after, h, -⟩
  simp at h

/-- One more call moves the statement on, takes the set away, or leaves it where it is. -/
private theorem movedTo_concat :
    MovedTo (calls ++ [call]) i ↔
      call = .nextResult ∧ calls.count .nextResult = i ∨
        call ≠ .nextResult ∧ call ≠ .resultSet ∧ MovedTo calls i := by
  constructor
  · rintro ⟨before, after, heq, hnext, htake, hcount⟩
    rcases List.eq_nil_or_concat after with rfl | ⟨rest, last, rfl⟩
    · obtain ⟨rfl, hcall⟩ := List.append_inj' heq rfl
      exact .inl ⟨List.singleton_inj.mp hcall, hcount⟩
    · rw [List.concat_eq_append] at heq hnext htake
      rw [← List.cons_append, ← List.append_assoc] at heq
      obtain ⟨rfl, hcall⟩ := List.append_inj' heq rfl
      obtain rfl := List.singleton_inj.mp hcall
      simp only [List.mem_append, List.mem_singleton, not_or] at hnext htake
      exact .inr ⟨Ne.symm hnext.2, Ne.symm htake.2, before, rest, rfl, hnext.1, htake.1, hcount⟩
  · rintro (⟨rfl, hcount⟩ | ⟨hnext, htake, before, after, rfl, hafter, hnone, hcount⟩)
    · exact ⟨calls, [], rfl, by simp, by simp, hcount⟩
    · refine ⟨before, after ++ [call], by simp, ?_, ?_, hcount⟩
      · simp [hafter, Ne.symm hnext]
      · simp [hnone, Ne.symm htake]

/-- What the calls tell of the state of a statement over the result sets. -/
structure Stands (rs : List BufferedResultSet) (summary : ExecutionSummary)
    (calls : List StatementCall) (c : BufferedCallable) : Prop where
  pending : c.pending = rs.drop (calls.count .nextResult)
  current : ∀ set, c.current = some set ↔ ∃ i, MovedTo calls i ∧ rs[i]? = some set
  summary_eq : c.summary = summary
  unclosed : c.closed = false

private theorem stands_start : Stands rs summary [] { pending := rs, summary } where
  pending := rfl
  current _ := ⟨nofun, fun ⟨_, h, _⟩ => absurd h not_movedTo_nil⟩
  summary_eq := rfl
  unclosed := rfl

private theorem Stands.next_eq (h : Stands rs summary calls c) :
    c.next = (.ok (decide (calls.count .nextResult < rs.length)),
      { c with
        pending := rs.drop (calls.count .nextResult + 1)
        current := rs[calls.count .nextResult]? }) := by
  by_cases hlt : calls.count .nextResult < rs.length
  · have hnow := h.pending.trans (List.drop_eq_getElem_cons hlt)
    rw [next, h.unclosed, hnow, decide_eq_true hlt, List.getElem?_eq_getElem hlt]
    rfl
  · have hlen := Nat.le_of_not_lt hlt
    have hnow := h.pending.trans (List.drop_eq_nil_of_le hlen)
    have hlater := List.drop_eq_nil_of_le (Nat.le_succ_of_le hlen)
    rw [next, h.unclosed, hnow, hlater, decide_eq_false hlt, List.getElem?_eq_none hlen]
    rfl

private theorem Stands.take_eq (h : Stands rs summary calls c) :
    c.take = match c.current with
      | none => (.error noResultSet, c)
      | some set => (.ok set, { c with current := none }) := by
  rw [take, h.unclosed]
  rfl

private theorem Stands.take_left (h : Stands rs summary calls c) :
    c.take.2 = { c with current := none } := by
  obtain ⟨pending, current, summary, closed⟩ := c
  obtain rfl : closed = false := h.unclosed
  cases current <;> rfl

private theorem Stands.take_ok_iff (h : Stands rs summary calls c) :
    c.take.1 = .ok set ↔ ∃ i, MovedTo calls i ∧ rs[i]? = some set := by
  rw [h.take_eq, ← h.current]
  cases c.current <;> simp

private theorem Stands.of_take_error (h : Stands rs summary calls c) {e : DriverError}
    (he : c.take.1 = .error e) : e = noResultSet ∧ c.take.2 = c := by
  rw [h.take_eq] at he ⊢
  cases hcurrent : c.current with
  | none =>
    rw [hcurrent] at he
    exact ⟨(Except.error.inj he).symm, rfl⟩
  | some set =>
    rw [hcurrent] at he
    cases he

private theorem Stands.summarize_eq (h : Stands rs summary calls c) :
    c.summarize = (.ok summary, c) := by
  rw [summarize, h.unclosed, ← h.summary_eq]
  rfl

private theorem Stands.step (h : Stands rs summary calls c) (hcall : call ≠ .close) :
    Stands rs summary (calls ++ [call]) (c.step call) := by
  cases call with
  | nextResult =>
    rw [BufferedCallable.step, h.next_eq]
    refine ⟨by simp, fun set => ?_, h.summary_eq, h.unclosed⟩
    simp [movedTo_concat]
  | resultSet =>
    rw [BufferedCallable.step, h.take_left]
    refine ⟨by simpa using h.pending, fun set => ?_, h.summary_eq, h.unclosed⟩
    simp [movedTo_concat]
  | executionSummary =>
    rw [BufferedCallable.step, h.summarize_eq]
    refine ⟨by simpa using h.pending, fun set => ?_, h.summary_eq, h.unclosed⟩
    simpa [movedTo_concat] using h.current set
  | close => exact absurd rfl hcall

private theorem stands_run (hopen : .close ∉ calls) :
    Stands rs summary calls (run { pending := rs, summary } calls) := by
  induction calls using List.reverseRecOn with
  | nil => exact stands_start
  | append_singleton calls call ih =>
    simp only [List.mem_append, List.mem_singleton, not_or] at hopen
    rw [run_append]
    exact (ih hopen.1).step (Ne.symm hopen.2)

private theorem exists_movedTo_iff (hopen : .close ∉ calls) :
    (∃ i, MovedTo calls i ∧ rs[i]? = some set) ↔
      ∃ before after, calls = before ++ .nextResult :: after ∧
        (run { pending := rs, summary } before).next.1 = .ok true ∧ .nextResult ∉ after ∧
        .resultSet ∉ after ∧ rs[before.count .nextResult]? = some set := by
  constructor
  · rintro ⟨i, ⟨before, after, rfl, hnext, hnone, rfl⟩, hset⟩
    have hbefore : Stands rs summary before (run { pending := rs, summary } before) :=
      stands_run fun hmem => hopen (List.mem_append_left _ hmem)
    have hlt := (List.getElem?_eq_some_iff.mp hset).1
    exact ⟨before, after, rfl, by rw [hbefore.next_eq, decide_eq_true hlt], hnext, hnone, hset⟩
  · rintro ⟨before, after, heq, -, hnext, hnone, hset⟩
    exact ⟨_, ⟨before, after, heq, hnext, hnone, rfl⟩, hset⟩

/-- While a call is open, the advance with a number tells whether there is a result set with that
number, and the set that the last advance came to is handed out in full, once. The sets of a run
come in the order in which they are held, each at most once. Once closed, a call refuses all but
another close, and hands out nothing more. -/
theorem result_sets_handed_out_once (rs : List BufferedResultSet) (summary : ExecutionSummary)
    (calls : List StatementCall) :
    let start : BufferedCallable := { pending := rs, summary }
    let c := start.run calls
    (.close ∉ calls →
      c.next.1 = .ok (decide (calls.count .nextResult + 1 ≤ rs.length)) ∧
      (∀ set, c.take.1 = .ok set ↔
        ∃ before after, calls = before ++ .nextResult :: after ∧
          (start.run before).next.1 = .ok true ∧ .nextResult ∉ after ∧ .resultSet ∉ after ∧
          rs[before.count .nextResult]? = some set) ∧
      (∀ e, c.take.1 = .error e → e = noResultSet ∧ c.take.2 = c) ∧
      c.summarize = (.ok summary, c)) ∧
    (start.handedOut calls).Sublist rs ∧
    (.close ∈ calls →
      c.next = (.error closedError, c) ∧ c.take = (.error closedError, c) ∧
      c.summarize = (.error closedError, c)) ∧
    (∀ after, start.handedOut (calls ++ .close :: after) = start.handedOut calls) ∧
    c.release.1 = .ok () ∧
    noResultSet.sqlState = some "24000" ∧ closedError.sqlState = some "HY010" := by
  intro start c
  refine ⟨fun hopen => ?_, ?_, fun hclose => ?_, fun after => ?_, rfl, rfl, rfl⟩
  · have h : Stands rs summary calls c := stands_run hopen
    refine ⟨congrArg Prod.fst h.next_eq, fun set => ?_, fun e he => h.of_take_error he,
      h.summarize_eq⟩
    rw [h.take_ok_iff, exists_movedTo_iff hopen]
  · exact (List.sublist_append_left _ _).trans (handedOut_sublist_left start calls)
  · have hclosed := closed_run_of_mem start hclose
    exact ⟨next_of_closed hclosed, take_of_closed hclosed, summarize_of_closed hclosed⟩
  · rw [handedOut_append]
    have hnone : (c.step .close).handedOut after = [] := handedOut_of_closed rfl after
    simp [handedOut, handed, c, hnone]

end SqlBinding.BufferedCallable
