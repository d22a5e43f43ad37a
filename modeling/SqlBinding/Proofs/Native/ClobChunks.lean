import SqlBinding.Native.Clob

/-!
# Chunks of a character large object

A text that is written in chunks, each right behind the one before it, leaves what writing it at
once leaves: the whole characters before the first position, then the text.
-/

namespace SqlBinding

namespace Clob

/-- A position right behind a text that was written: so many characters from where it was written,
which is never before the first character, or from the start of the content. -/
def IsBehind (c : Clob) (position : Nat) (text : String) (next : Nat) : Prop :=
  next = max position 1 + text.length ∨ next = (c.write position text).content.length + 1

/-- Chunks are written one after the other, the first at a position and every other one right behind
the one before it. -/
inductive WritesChunks : Clob → Nat → List String → Clob → Prop
  | last (c : Clob) (position : Nat) (chunk : String) :
      WritesChunks c position [chunk] (c.write position chunk)
  | cons {c c' : Clob} {position next : Nat} {chunk : String} {chunks : List String}
      (behind : c.IsBehind position chunk next)
      (rest : WritesChunks (c.write position chunk) next chunks c') :
      WritesChunks c position (chunk :: chunks) c'

/-- What a text leaves that is written at a position: characters of the content up to the position,
none of them split, and then the text. -/
structure Overwrites (c : Clob) (position : Nat) (text : String) (c' : Clob) : Prop where
  content : ∃ kept dropped : String, c.content = kept ++ dropped ∧
    kept.length = min (max position 1 - 1) c.content.length ∧ c'.content = kept ++ text
  national : c'.national = c.national
  locator : c'.locator = c.locator

section

variable {c c' : Clob} {position next : Nat} {chunks : List String}

private theorem length_content_write (c : Clob) (position : Nat) (text : String) :
    (c.write position text).content.length =
      min (position - 1) c.content.length + text.length := by
  rw [← String.length_toList, toList_content_write, List.length_append, List.length_take,
    String.length_toList, String.length_toList]

private theorem lt_of_isBehind {chunk : String} (h : c.IsBehind position chunk next) :
    (c.write position chunk).content.length < next := by
  rcases h with rfl | rfl
  · rw [length_content_write]
    omega
  · exact Nat.lt_succ_self _

private theorem write_of_lt (h : c.content.length < position) (text : String) :
    c.write position text = { c with content := c.content ++ text } := by
  have hall : c.content.toList.length ≤ position - 1 := by
    rw [String.length_toList]
    omega
  rw [write, List.take_of_length_le hall, String.ofList_toList]

private theorem write_write {first : String} (h : (c.write position first).content.length < next)
    (second : String) :
    (c.write position first).write next second = c.write position (first ++ second) := by
  rw [write_of_lt h, write, write, String.append_assoc]

private theorem WritesChunks.eq_write (h : WritesChunks c position chunks c') :
    c' = c.write position (String.join chunks) := by
  induction h with
  | last c position chunk => rw [String.join_cons, String.join_nil, String.append_empty]
  | cons behind rest ih => rw [ih, write_write (lt_of_isBehind behind), String.join_cons]

private theorem writesChunks_write (c : Clob) (position : Nat) (chunk : String)
    (chunks : List String) :
    WritesChunks c position (chunk :: chunks)
      (c.write position (String.join (chunk :: chunks))) := by
  induction chunks generalizing c position chunk with
  | nil =>
    rw [String.join_cons, String.join_nil, String.append_empty]
    exact .last c position chunk
  | cons second chunks ih =>
    have hbehind : c.IsBehind position chunk (max position 1 + chunk.length) := .inl rfl
    rw [String.join_cons, ← write_write (lt_of_isBehind hbehind)]
    exact .cons hbehind (ih (c.write position chunk) _ second)

private theorem overwrites_write (c : Clob) (position : Nat) (text : String) :
    Overwrites c position text (c.write position text) where
  content := by
    refine ⟨String.ofList (c.content.toList.take (position - 1)),
      String.ofList (c.content.toList.drop (position - 1)), ?_, ?_, rfl⟩
    · rw [← String.ofList_append, List.take_append_drop, String.ofList_toList]
    · rw [String.length_ofList, List.length_take, String.length_toList]
      omega
  national := rfl
  locator := rfl

end

/-- Writing chunks one behind the other comes to writing their text at once. It keeps the whole
characters before the position: none of them at position zero, as at position one, and all of them
at a position behind the end, where the text follows without a gap. -/
theorem chunks_come_to_one_write (c : Clob) (position : Nat) :
    (∀ chunks c', WritesChunks c position chunks c' ↔
      chunks ≠ [] ∧ c' = c.write position (String.join chunks)) ∧
      (∀ text, Overwrites c position text (c.write position text)) ∧
      (∀ text, c.write 0 text = c.write 1 text) ∧
      ∀ text beyond,
        (c.write (c.content.length + 1 + beyond) text).content = c.content ++ text := by
  refine ⟨fun chunks c' => ⟨fun h => ⟨?_, h.eq_write⟩, ?_⟩, overwrites_write c position,
    fun text => rfl, fun text beyond => ?_⟩
  · rintro rfl
    cases h
  · rintro ⟨hchunks, rfl⟩
    obtain ⟨chunk, chunks, rfl⟩ := List.exists_cons_of_ne_nil hchunks
    exact writesChunks_write c position chunk chunks
  · rw [write_of_lt (by omega)]

/-- Positions count characters, whatever their length in bytes. -/
example : ((⟨false, none, "añb"⟩ : Clob).write 3 "é").content = "añé" := by decide

end Clob

end SqlBinding
