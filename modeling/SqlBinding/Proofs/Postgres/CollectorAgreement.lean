import Mathlib.Data.List.Basic
import SqlBinding.Postgres.Parameters
import SqlBinding.Proofs.Binding.ParameterList

/-!
# Two collectors of parameters

A buffered statement keeps its values in the order of their positions; the parameters of a query are
a list with gaps. Values that are set in any order, repeatedly or with gaps between them, are held
by both in the same way: the pairs of the one are the places of the other that are no gaps. The
parameters are sent up to the first gap, which is reported by its position.
-/

namespace SqlBinding

section

variable {τ : Type} [PreparedStatement τ]

/-- What a statement answers when values are set at positions one after the other, and the statement
then. A refusal does not end the calls. -/
def PreparedStatement.setAll : List (Nat × NativeValue) → τ → List (Except DriverError Unit) × τ
  | [], s => ([], s)
  | (index, v) :: calls, s =>
    let (answer, s) := PreparedStatement.set index v s
    let (answers, s) := setAll calls s
    (answer :: answers, s)

private theorem PreparedStatement.setAll_cons {index : Nat} {v : NativeValue} {s s' : τ}
    {answer : Except DriverError Unit} (h : PreparedStatement.set index v s = (answer, s'))
    (calls : List (Nat × NativeValue)) :
    setAll ((index, v) :: calls) s = (answer :: (setAll calls s').1, (setAll calls s').2) := by
  rw [setAll, h]

end

section

variable (calls : List (Nat × NativeValue))

/-- The answer to a value that is set: there is no position before the first one. -/
def answerTo (call : Nat × NativeValue) : Except DriverError Unit :=
  if call.1 = 0 then .error .indexZero else .ok ()

/-- The value that was set last at a position. -/
def lastSet (index : Nat) : Option NativeValue := calls.reverse.lookup index

/-- The largest position at which a value was set, or zero. -/
def largestIndex : Nat := (calls.map (·.1)).foldr max 0

/-- The least position below the largest one at which no value was set. -/
structure FirstUnset (index : Nat) : Prop where
  pos : 0 < index
  below : index < largestIndex calls
  unset : ∀ call ∈ calls, call.1 ≠ index
  earlier : ∀ i, 0 < i → i < index → ∃ call ∈ calls, call.1 = i

variable {calls}

private theorem lastSet_cons (call : Nat × NativeValue) (index : Nat) :
    lastSet (call :: calls) index =
      (lastSet calls index).or (if index = call.1 then some call.2 else none) := by
  obtain ⟨i, v⟩ := call
  have hsingle : [(i, v)].lookup index = if index = i then some v else none := by
    by_cases h : index = i
    · simp [h]
    · simp [List.lookup_cons, beq_false_of_ne h, h]
  rw [lastSet, List.reverse_cons, List.lookup_append, hsingle]
  rfl

private theorem lastSet_eq_none_iff {index : Nat} :
    lastSet calls index = none ↔ ∀ call ∈ calls, call.1 ≠ index := by
  rw [lastSet, List.lookup_eq_none_iff]
  simp only [List.mem_reverse, bne_iff_ne]
  exact forall₂_congr fun _ _ => ne_comm

private theorem exists_largestIndex (h : 0 < largestIndex calls) :
    ∃ call ∈ calls, call.1 = largestIndex calls := by
  induction calls with
  | nil => cases h
  | cons call calls ih =>
    have hmax : largestIndex (call :: calls) = max call.1 (largestIndex calls) := rfl
    rcases Nat.le_total (largestIndex calls) call.1 with hle | hle
    · exact ⟨call, List.mem_cons_self, by omega⟩
    · obtain ⟨found, hmem, hfound⟩ := ih (by omega)
      exact ⟨found, List.mem_cons_of_mem _ hmem, by omega⟩

end

namespace Postgres.Parameters

/-- The pairs of the places that are no gaps, with positions from `n` on. -/
def entries (n : Nat) : List (Option NativeValue) → List (Nat × NativeValue)
  | [] => []
  | none :: vs => entries (n + 1) vs
  | some v :: vs => (n, v) :: entries (n + 1) vs

section

variable (n i : Nat) (v : NativeValue) (vs : List (Option NativeValue))

private theorem le_of_mem_entries {n : Nat} {e : Nat × NativeValue} (h : e ∈ entries n vs) :
    n ≤ e.1 := by
  induction vs generalizing n with
  | nil => cases h
  | cons u vs ih =>
    cases u with
    | none => exact Nat.le_of_succ_le (ih h)
    | some u =>
      rcases List.mem_cons.mp h with rfl | hrest
      · exact Nat.le_refl n
      · exact Nat.le_of_succ_le (ih hrest)

private theorem sorted_entries : ((entries n vs).map (·.1)).Pairwise (· < ·) := by
  induction vs generalizing n with
  | nil => exact .nil
  | cons u vs ih =>
    cases u with
    | none => exact ih (n + 1)
    | some u =>
      refine .cons (fun index hindex => ?_) (ih (n + 1))
      obtain ⟨e, he, rfl⟩ := List.mem_map.mp hindex
      exact le_of_mem_entries vs he

private theorem map_snd_entries : (entries n vs).map (·.2) = vs.filterMap id := by
  induction vs generalizing n with
  | nil => rfl
  | cons u vs ih =>
    cases u with
    | none => exact ih (n + 1)
    | some u => exact congrArg (u :: ·) (ih (n + 1))

private theorem lookup_entries_of_lt {n index : Nat} (h : index < n) :
    (entries n vs).lookup index = none := by
  rw [List.lookup_eq_none_iff]
  intro e he
  have hle := le_of_mem_entries vs he
  simp only [bne_iff_ne]
  omega

private theorem lookup_entries : (entries n vs).lookup (n + i) = (vs[i]?).join := by
  induction vs generalizing n i with
  | nil => rfl
  | cons u vs ih =>
    cases i with
    | zero =>
      cases u with
      | none => exact lookup_entries_of_lt vs (Nat.lt_succ_self n)
      | some u => simp [entries]
    | succ i =>
      have hrest : (entries (n + 1) vs).lookup (n + (i + 1)) = (vs[i]?).join := by
        rw [← ih, Nat.add_assoc, Nat.add_comm 1 i]
      cases u with
      | none => exact hrest
      | some u =>
        have hne : (n + (i + 1) == n) = false := beq_false_of_ne (by omega)
        rw [entries, List.lookup_cons, hne, List.getElem?_cons_succ]
        exact hrest

private theorem put_of_lt {index : Nat} {es : List (Nat × NativeValue)}
    (h : ∀ e ∈ es, index < e.1) :
    BufferedStatement.put index v es = (index, v) :: es := by
  cases es with
  | nil => rfl
  | cons e es => exact if_pos (h e List.mem_cons_self)

private theorem put_entries :
    BufferedStatement.put (n + i) v (entries n vs) = entries n (put i v vs) := by
  induction i generalizing n vs with
  | zero =>
    cases vs with
    | nil => rfl
    | cons u vs =>
      cases u with
      | none => exact put_of_lt v fun e he => le_of_mem_entries vs he
      | some u => simp [entries, put, BufferedStatement.put]
  | succ i ih =>
    have hindex : n + (i + 1) = n + 1 + i := by omega
    cases vs with
    | nil =>
      rw [hindex]
      exact ih (n + 1) []
    | cons u vs =>
      have hrest := ih (n + 1) vs
      rw [← hindex] at hrest
      cases u with
      | none => exact hrest
      | some u =>
        have hlt : ¬ n + (i + 1) < n := by omega
        have hne : ¬ n + (i + 1) = n := by omega
        rw [entries, BufferedStatement.put, if_neg hlt, if_neg hne, hrest]
        rfl

private theorem length_put : (put i v vs).length = max (i + 1) vs.length := by
  induction i generalizing vs with
  | zero => cases vs <;> simp [put]
  | succ i ih => cases vs <;> simp [put, ih]

private theorem getElem?_put (j : Nat) :
    ((put i v vs)[j]?).join = if j = i then some v else (vs[j]?).join := by
  induction i generalizing vs j with
  | zero => cases vs <;> cases j <;> simp [put]
  | succ i ih => cases vs <;> cases j <;> simp [put, ih]

end

variable {calls : List (Nat × NativeValue)} {s : BufferedStatement} {ps : Parameters}

/-- The pairs of a buffered statement are the places of the parameters that are no gaps. -/
def Matches (s : BufferedStatement) (ps : Parameters) : Prop := s.values = entries 1 ps.values

private theorem set_zero (v : NativeValue) (ps : Parameters) :
    PreparedStatement.set 0 v ps = (.error .indexZero, ps) := rfl

private theorem set_succ (i : Nat) (v : NativeValue) (ps : Parameters) :
    PreparedStatement.set (i + 1) v ps = (.ok (), ⟨put i v ps.values⟩) := rfl

private theorem Matches.put (h : Matches s ps) (i : Nat) (v : NativeValue) :
    Matches ⟨BufferedStatement.put (i + 1) v s.values⟩ ⟨put i v ps.values⟩ := by
  have hput := put_entries 1 i v ps.values
  rwa [← h, Nat.add_comm] at hput

private theorem Matches.get?_eq (h : Matches s ps) (index : Nat) :
    s.get? index = ps.get? index := by
  rw [BufferedStatement.get?, h]
  cases index with
  | zero => exact lookup_entries_of_lt ps.values Nat.one_pos
  | succ i =>
    have hlookup := lookup_entries 1 i ps.values
    rwa [Nat.add_comm] at hlookup

/-- Calls are answered alike, and leave matching values if there were matching ones before. -/
private theorem Matches.setAll (h : Matches s ps) :
    (PreparedStatement.setAll calls s).1 = calls.map answerTo ∧
      (PreparedStatement.setAll calls ps).1 = calls.map answerTo ∧
      Matches (PreparedStatement.setAll calls s).2 (PreparedStatement.setAll calls ps).2 := by
  induction calls generalizing s ps with
  | nil => exact ⟨rfl, rfl, h⟩
  | cons call calls ih =>
    obtain ⟨index, v⟩ := call
    cases index with
    | zero =>
      obtain ⟨hs, hps, hmatch⟩ := ih h
      have hset : PreparedStatement.set 0 v s = (.error .indexZero, s) := rfl
      rw [PreparedStatement.setAll_cons hset, PreparedStatement.setAll_cons (set_zero v ps), hs,
        hps]
      exact ⟨rfl, rfl, hmatch⟩
    | succ i =>
      obtain ⟨hs, hps, hmatch⟩ := ih (h.put i v)
      have hset : PreparedStatement.set (i + 1) v s =
          (.ok (), ⟨BufferedStatement.put (i + 1) v s.values⟩) := rfl
      rw [PreparedStatement.setAll_cons hset, PreparedStatement.setAll_cons (set_succ i v ps), hs,
        hps]
      exact ⟨rfl, rfl, hmatch⟩

private theorem get?_setAll (calls : List (Nat × NativeValue)) (ps : Parameters) {index : Nat}
    (h : 0 < index) :
    (PreparedStatement.setAll calls ps).2.get? index =
      (lastSet calls index).or (ps.get? index) := by
  obtain ⟨j, rfl⟩ := Nat.exists_eq_succ_of_ne_zero (Nat.pos_iff_ne_zero.mp h)
  induction calls generalizing ps with
  | nil => rfl
  | cons call calls ih =>
    obtain ⟨i, v⟩ := call
    rw [lastSet_cons, Option.or_assoc]
    cases i with
    | zero =>
      rw [PreparedStatement.setAll_cons (set_zero v ps), ih, if_neg (Nat.succ_ne_zero j),
        Option.none_or]
    | succ i =>
      rw [PreparedStatement.setAll_cons (set_succ i v ps), ih]
      congr 1
      simp only [get?, getElem?_put, Nat.succ.injEq]
      split <;> rfl

private theorem length_setAll (calls : List (Nat × NativeValue)) (ps : Parameters) :
    (PreparedStatement.setAll calls ps).2.values.length =
      max (largestIndex calls) ps.values.length := by
  induction calls generalizing ps with
  | nil => exact (Nat.zero_max _).symm
  | cons call calls ih =>
    obtain ⟨i, v⟩ := call
    have hmax : largestIndex ((i, v) :: calls) = max i (largestIndex calls) := rfl
    cases i with
    | zero =>
      rw [PreparedStatement.setAll_cons (set_zero v ps), ih, hmax, Nat.zero_max]
    | succ i =>
      rw [PreparedStatement.setAll_cons (set_succ i v ps), ih, hmax, length_put, ← Nat.max_assoc,
        Nat.max_comm (largestIndex calls)]

private theorem ofNative_ne_unbound (v : NativeValue) (cs : Channels) (index : Nat) :
    ((Argument.ofNative v).run cs).1 ≠ .error (.error (.refused (.unboundParameter index))) := by
  cases v
  case binaryStream c =>
    rw [Argument.ofNative, Step.run_map, Reading.run_bytes]
    cases (cs.readBytes c).1 <;> nofun
  case characterStream c =>
    rw [Argument.ofNative, Step.run_map, Reading.run_chars]
    cases (cs.readChars c).1 <;> nofun
  case array a =>
    rw [Argument.ofNative, Step.run_ofOutcome, Argument.ofArray]
    split
    case h_10 | h_11 => split <;> nofun
    all_goals nofun
  all_goals nofun

private theorem mapM_ofNative_ne_unbound (natives : List NativeValue) (cs : Channels)
    (index : Nat) :
    ((natives.mapM Argument.ofNative).run cs).1 ≠
      .error (.error (.refused (.unboundParameter index))) := by
  induction natives generalizing cs with
  | nil => nofun
  | cons v natives ih =>
    rcases hfirst : (Argument.ofNative v).run cs with ⟨e | a, cs₁⟩
    · have hne := ofNative_ne_unbound v cs index
      rw [hfirst] at hne
      rw [List.mapM_cons, Step.run_bind_error hfirst]
      intro h
      cases h
      exact hne rfl
    · have hne := ih cs₁
      rcases hrest : (natives.mapM Argument.ofNative).run cs₁ with ⟨e | as, cs₂⟩
      · rw [hrest] at hne
        rwa [List.mapM_cons, Step.run_bind_ok hfirst, Step.run_bind_error hrest]
      · rw [Step.run_mapM_cons_ok hfirst hrest]
        nofun

private theorem argumentsFrom_append (index : Nat) (natives : List NativeValue)
    (rest : List (Option NativeValue)) :
    argumentsFrom index (natives.map some ++ rest) = do
      let arguments ← natives.mapM Argument.ofNative
      let more ← argumentsFrom (index + natives.length) rest
      return arguments ++ more := by
  induction natives generalizing index with
  | nil => simp
  | cons v natives ih =>
    have hindex : index + 1 + natives.length = index + (natives.length + 1) := by omega
    rw [List.map_cons, List.cons_append, argumentsFrom, ih, hindex]
    simp

private theorem exists_gap_or_map (vs : List (Option NativeValue)) :
    ∃ natives : List NativeValue,
      vs = natives.map some ∨ ∃ rest, vs = natives.map some ++ none :: rest := by
  induction vs with
  | nil => exact ⟨[], .inl rfl⟩
  | cons u vs ih =>
    cases u with
    | none => exact ⟨[], .inr ⟨vs, rfl⟩⟩
    | some v =>
      obtain ⟨natives, rfl | ⟨rest, rfl⟩⟩ := ih
      · exact ⟨v :: natives, .inl rfl⟩
      · exact ⟨v :: natives, .inr ⟨rest, rfl⟩⟩

section

variable {index i : Nat} {vs rest : List (Option NativeValue)} {natives : List NativeValue}
  {arguments : List Argument} {cs cs' : Channels}

/-- A gap is reported once the values before it have become arguments. -/
private theorem run_argumentsFrom_gap
    (h : (natives.mapM Argument.ofNative).run cs = (.ok arguments, cs')) :
    (argumentsFrom index (natives.map some ++ none :: rest)).run cs =
      (.error (.error (.refused (.unboundParameter (index + natives.length)))), cs') := by
  rw [argumentsFrom_append, Step.run_bind_ok h]
  rfl

private theorem exists_gap_of_unbound
    (h : (argumentsFrom index vs).run cs =
      (.error (.error (.refused (.unboundParameter i))), cs')) :
    ∃ (natives : List NativeValue) (rest : List (Option NativeValue)) (arguments : List Argument),
      vs = natives.map some ++ none :: rest ∧ i = index + natives.length ∧
      (natives.mapM Argument.ofNative).run cs = (.ok arguments, cs') := by
  obtain ⟨natives, hvs⟩ := exists_gap_or_map vs
  have hne := mapM_ofNative_ne_unbound natives cs i
  rcases hrun : (natives.mapM Argument.ofNative).run cs with ⟨e | arguments, cs₁⟩
  · -- a value that cannot be sent is reported for another reason
    have hfail : (argumentsFrom index vs).run cs = (.error e, cs₁) := by
      obtain rfl | ⟨rest, rfl⟩ := hvs
      · rw [← List.append_nil (natives.map some), argumentsFrom_append, Step.run_bind_error hrun]
      · rw [argumentsFrom_append, Step.run_bind_error hrun]
    rw [h] at hfail
    cases hfail
    rw [hrun] at hne
    exact absurd rfl hne
  · obtain rfl | ⟨rest, rfl⟩ := hvs
    · rw [← List.append_nil (natives.map some), argumentsFrom_append, Step.run_bind_ok hrun] at h
      cases h
    · rw [run_argumentsFrom_gap hrun] at h
      cases h
      exact ⟨natives, rest, arguments, rfl, rfl, hrun⟩

end

/-- The values that were set last at the positions before a gap, in their order. -/
structure SetBefore (calls : List (Nat × NativeValue)) (index : Nat) (natives : List NativeValue) :
    Prop where
  length : natives.length + 1 = index
  last : ∀ i (h : i < natives.length), lastSet calls (i + 1) = some natives[i]

/-- Two statements that were given the same values hold the same ones. -/
structure Agree (calls : List (Nat × NativeValue)) (s : BufferedStatement) (ps : Parameters) :
    Prop where
  buffered : ∀ index, 0 < index → s.get? index = lastSet calls index
  collected : ∀ index, 0 < index → ps.get? index = lastSet calls index
  sorted : (s.values.map (·.1)).Pairwise (· < ·)
  length : ps.values.length = largestIndex calls
  inOrder : s.toList = ps.values.filterMap id

private theorem agree_setAll (calls : List (Nat × NativeValue)) :
    Agree calls (PreparedStatement.setAll calls (⟨[]⟩ : BufferedStatement)).2
      (PreparedStatement.setAll calls (⟨[]⟩ : Parameters)).2 := by
  obtain ⟨-, -, hmatch⟩ := @Matches.setAll calls ⟨[]⟩ ⟨[]⟩ rfl
  have hcollected : ∀ index, 0 < index →
      (PreparedStatement.setAll calls (⟨[]⟩ : Parameters)).2.get? index = lastSet calls index := by
    intro index hpos
    have hnone : (⟨[]⟩ : Parameters).get? index = none := by cases index <;> rfl
    rw [get?_setAll calls _ hpos, hnone, Option.or_none]
  refine ⟨fun index hpos => ?_, hcollected, ?_, ?_, ?_⟩
  · rw [hmatch.get?_eq, hcollected index hpos]
  · rw [hmatch]
    exact sorted_entries 1 _
  · rw [length_setAll]
    exact Nat.max_zero _
  · rw [BufferedStatement.toList, hmatch]
    exact map_snd_entries 1 _

section

variable {index : Nat} {natives : List NativeValue}

private theorem Agree.firstUnset (h : Agree calls s ps) {rest : List (Option NativeValue)}
    (hvalues : ps.values = natives.map some ++ none :: rest) :
    FirstUnset calls (natives.length + 1) ∧ SetBefore calls (natives.length + 1) natives := by
  have hlast : ∀ i (hi : i < natives.length), lastSet calls (i + 1) = some natives[i] := by
    intro i hi
    have hmapped : i < (natives.map some).length := by simpa using hi
    rw [← h.collected (i + 1) (Nat.succ_pos i), get?, hvalues, List.getElem?_append_left hmapped,
      List.getElem?_map, List.getElem?_eq_getElem hi]
    rfl
  have hgap : lastSet calls (natives.length + 1) = none := by
    rw [← h.collected _ (Nat.succ_pos _), get?, hvalues]
    simp
  have hunset := lastSet_eq_none_iff.mp hgap
  refine ⟨⟨Nat.succ_pos _, ?_, hunset, fun i hpos hlt => ?_⟩, rfl, hlast⟩
  · -- a value stands at the largest position, so the gap is not there
    have hlen := h.length
    rw [hvalues, List.length_append, List.length_map, List.length_cons] at hlen
    have hpos : 0 < largestIndex calls := by omega
    obtain ⟨call, hmem, hcall⟩ := exists_largestIndex hpos
    have hne := hunset call hmem
    omega
  · obtain ⟨j, rfl⟩ := Nat.exists_eq_succ_of_ne_zero (Nat.pos_iff_ne_zero.mp hpos)
    by_contra hnone
    have hset := hlast j (by omega)
    have hmissing : lastSet calls (j + 1) = none :=
      lastSet_eq_none_iff.mpr fun call hmem hcall => hnone ⟨call, hmem, hcall⟩
    rw [hmissing] at hset
    cases hset

private theorem Agree.exists_gap (h : Agree calls s ps) (hfirst : FirstUnset calls index)
    (hbefore : SetBefore calls index natives) :
    ∃ rest, ps.values = natives.map some ++ none :: rest := by
  obtain ⟨hlen, hlast⟩ := hbefore
  subst hlen
  have hbelow : natives.length < ps.values.length := by
    have := hfirst.below
    rw [h.length]
    omega
  have hgap : ps.values[natives.length] = none := by
    have hnone := lastSet_eq_none_iff.mpr hfirst.unset
    rw [← h.collected _ hfirst.pos, get?, List.getElem?_eq_getElem hbelow] at hnone
    simpa using hnone
  have htake : ps.values.take natives.length = natives.map some := by
    refine List.ext_getElem (by simp; omega) fun i hi hi' => ?_
    have hlt : i < natives.length := by simpa using hi'
    have hvalue := h.collected (i + 1) (Nat.succ_pos i)
    rw [hlast i hlt, get?, List.getElem?_eq_getElem (Nat.lt_trans hlt hbelow)] at hvalue
    simpa using hvalue
  refine ⟨ps.values.drop (natives.length + 1), ?_⟩
  rw [← htake, ← hgap, ← List.drop_eq_getElem_cons hbelow, List.take_append_drop]

end

/-- Values that are set at positions one after the other are refused at position zero alone, by both
collectors and without a change, and both hold the value that was set last at each other position.
The parameters reach to the largest position, and without their gaps they are the values of the
buffered statement. They are reported to have a gap just if it is the first one and every value
before it could be sent. -/
theorem collectors_agree (calls : List (Nat × NativeValue)) :
    let buffered := PreparedStatement.setAll calls (⟨[]⟩ : BufferedStatement)
    let collected := PreparedStatement.setAll calls (⟨[]⟩ : Parameters)
    buffered.1 = calls.map answerTo ∧ collected.1 = calls.map answerTo ∧
    (∀ v (s : BufferedStatement) (ps : Parameters),
      PreparedStatement.set 0 v s = (.error .indexZero, s) ∧
      PreparedStatement.set 0 v ps = (.error .indexZero, ps)) ∧
    DriverError.indexZero.sqlState = some "07009" ∧
    Agree calls buffered.2 collected.2 ∧
    ∀ index, (Error.refused (.unboundParameter index)).message =
        "Parameter " ++ toString index ++ " was not bound." ∧
      ∀ cs cs', collected.2.arguments.run cs =
          (.error (.error (.refused (.unboundParameter index))), cs') ↔
        FirstUnset calls index ∧ ∃ natives arguments, SetBefore calls index natives ∧
          (natives.mapM Argument.ofNative).run cs = (.ok arguments, cs') := by
  intro buffered collected
  obtain ⟨hbuffered, hcollected, -⟩ := @Matches.setAll calls ⟨[]⟩ ⟨[]⟩ rfl
  have hagree := agree_setAll calls
  refine ⟨hbuffered, hcollected, fun v s ps => ⟨rfl, rfl⟩, rfl, hagree, fun index => ⟨rfl, ?_⟩⟩
  intro cs cs'
  constructor
  · intro h
    obtain ⟨natives, rest, arguments, hvalues, rfl, hrun⟩ := exists_gap_of_unbound h
    obtain ⟨hfirst, hbefore⟩ := hagree.firstUnset hvalues
    rw [Nat.add_comm]
    exact ⟨hfirst, natives, arguments, hbefore, hrun⟩
  · rintro ⟨hfirst, natives, arguments, hbefore, hrun⟩
    obtain ⟨rest, hvalues⟩ := hagree.exists_gap hfirst hbefore
    rw [Parameters.arguments, hvalues, ← hbefore.length, Nat.add_comm natives.length]
    exact run_argumentsFrom_gap hrun

/-- The later value stands at a position that is set twice; what is missing before it is a gap. -/
example :
    PreparedStatement.setAll [(2, .boolean true), (0, .boolean false), (2, .integer 7)]
        (⟨[]⟩ : Parameters) =
      ([.ok (), .error .indexZero, .ok ()], ⟨[none, some (.integer 7)]⟩) := rfl

end Postgres.Parameters

end SqlBinding
