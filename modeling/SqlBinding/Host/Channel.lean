import SqlBinding.Text.Utf8

/-!
# Channels

Byte and character streams that a caller hands over unread. A handle names a source, and copies of
a handle name the same source, which is consumed by whoever reads it first. The sources live in a
store, so reading is a step from one store to the next.
-/

namespace SqlBinding

/-- What is left of a stream: its bytes, then its end or a failure. -/
structure Source where
  content : Bytes
  failure : Option String := none
deriving DecidableEq

/-- A handle of a byte stream. -/
structure ByteChannel where
  id : Nat
deriving DecidableEq

/-- A handle of a stream of UTF-8 characters. -/
structure CharChannel where
  id : Nat
deriving DecidableEq

namespace Source

/-- All that a source gives: its bytes, unless it fails behind them. -/
def bytes (s : Source) : Except String Bytes :=
  match s.failure with
  | none => .ok s.content
  | some message => .error message

def text (s : Source) : Except String String :=
  s.bytes.bind fun bytes =>
    (Text.decodeUtf8 bytes).mapError fun _ => "stream did not contain valid UTF-8"

/-- A source after it was read: nothing is left but its failure. -/
def consumed (s : Source) : Source := { s with content := [] }

@[simp] theorem consumed_consumed (s : Source) : s.consumed.consumed = s.consumed := rfl

end Source

/-- The sources that handles name. -/
structure Channels where
  byteSource : ByteChannel → Source
  charSource : CharChannel → Source

namespace Channels

def exhausted : Channels := ⟨fun _ => ⟨[], none⟩, fun _ => ⟨[], none⟩⟩

/-- The store with the source of one byte channel replaced. -/
def setBytes (cs : Channels) (c : ByteChannel) (s : Source) : Channels :=
  { cs with byteSource := fun d => if d = c then s else cs.byteSource d }

/-- The store with the source of one character channel replaced. -/
def setChars (cs : Channels) (c : CharChannel) (s : Source) : Channels :=
  { cs with charSource := fun d => if d = c then s else cs.charSource d }

def readBytes (cs : Channels) (c : ByteChannel) : Except String Bytes × Channels :=
  let s := cs.byteSource c
  (s.bytes, cs.setBytes c s.consumed)

def readChars (cs : Channels) (c : CharChannel) : Except String String × Channels :=
  let s := cs.charSource c
  (s.text, cs.setChars c s.consumed)

end Channels

end SqlBinding
