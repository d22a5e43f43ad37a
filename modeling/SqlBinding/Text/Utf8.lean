/-!
# UTF-8

Decoding of a byte sequence into characters. Only the shortest encoding of a scalar value is
accepted; a refusal says how many bytes were good and what is wrong with those that follow.
-/

namespace SqlBinding

/-- A byte sequence. -/
abbrev Bytes := List UInt8

end SqlBinding

namespace SqlBinding.Text

/-- Why bytes are not UTF-8: `valid` good bytes, then `length` bytes that begin no character, or
(without a length) a character that the end cuts off. -/
structure Utf8Fault where
  valid : Nat
  length : Option Nat
deriving DecidableEq, Repr

def isContinuation (b : UInt8) : Bool := 0x80 ≤ b && b ≤ 0xbf

/-- Whether `b` may follow the first byte `a` of a character of three bytes: no overlong forms and
no surrogates. -/
def followsThree (a b : UInt8) : Bool :=
  if a = 0xe0 then 0xa0 ≤ b && b ≤ 0xbf
  else if a = 0xed then 0x80 ≤ b && b ≤ 0x9f
  else isContinuation b

/-- Whether `b` may follow the first byte `a` of a character of four bytes: no overlong forms and
nothing above U+10FFFF. -/
def followsFour (a b : UInt8) : Bool :=
  if a = 0xf0 then 0x90 ≤ b && b ≤ 0xbf
  else if a = 0xf4 then 0x80 ≤ b && b ≤ 0x8f
  else isContinuation b

/-- The first character of a nonempty sequence and the bytes behind it, or the fault length. -/
def decodeChar (a : UInt8) (rest : Bytes) : Except (Option Nat) (Char × Bytes) :=
  if a < 0x80 then .ok (Char.ofNat a.toNat, rest)
  else if 0xc2 ≤ a ∧ a ≤ 0xdf then
    match rest with
    | [] => .error none
    | b :: rest =>
      if isContinuation b then .ok (Char.ofNat (a.toNat % 32 * 64 + b.toNat % 64), rest)
      else .error (some 1)
  else if 0xe0 ≤ a ∧ a ≤ 0xef then
    match rest with
    | [] => .error none
    | b :: rest =>
      if !followsThree a b then .error (some 1)
      else
        match rest with
        | [] => .error none
        | c :: rest =>
          if isContinuation c then
            .ok (Char.ofNat ((a.toNat % 16 * 64 + b.toNat % 64) * 64 + c.toNat % 64), rest)
          else .error (some 2)
  else if 0xf0 ≤ a ∧ a ≤ 0xf4 then
    match rest with
    | [] => .error none
    | b :: rest =>
      if !followsFour a b then .error (some 1)
      else
        match rest with
        | [] => .error none
        | c :: rest =>
          if !isContinuation c then .error (some 2)
          else
            match rest with
            | [] => .error none
            | d :: rest =>
              if isContinuation d then
                .ok (Char.ofNat
                  (((a.toNat % 8 * 64 + b.toNat % 64) * 64 + c.toNat % 64) * 64 + d.toNat % 64),
                  rest)
              else .error (some 3)
  else .error (some 1)

theorem length_decodeChar {a : UInt8} {rest left : Bytes} {c : Char}
    (h : decodeChar a rest = .ok (c, left)) : left.length ≤ rest.length := by
  unfold decodeChar at h
  split at h
  · cases h; exact Nat.le_refl _
  · repeat' split at h
    all_goals cases h
    all_goals simp only [List.length_cons]; omega

/-- The characters of a byte sequence, when `valid` good bytes came before it. -/
def decodeFrom (valid : Nat) : Bytes → Except Utf8Fault (List Char)
  | [] => .ok []
  | a :: rest =>
    match h : decodeChar a rest with
    | .error length => .error ⟨valid, length⟩
    | .ok (c, left) =>
      (decodeFrom (valid + (rest.length + 1 - left.length)) left).map (c :: ·)
termination_by bytes => bytes.length
decreasing_by
  have := length_decodeChar h
  simp only [List.length_cons]
  omega

def decodeUtf8 (bytes : Bytes) : Except Utf8Fault String :=
  (decodeFrom 0 bytes).map String.ofList

def Utf8Fault.message (fault : Utf8Fault) : String :=
  match fault.length with
  | some n =>
    "invalid utf-8 sequence of " ++ toString n ++ " bytes from index " ++ toString fault.valid
  | none => "incomplete utf-8 byte sequence from index " ++ toString fault.valid

end SqlBinding.Text
