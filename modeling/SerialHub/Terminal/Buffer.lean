/-!
# Bounded output buffer

A terminal keeps the bytes that arrived from its port as a list of chunks, oldest first, under a
capacity, together with a running count of the bytes held. Appending an empty piece does
nothing; any other piece becomes the newest chunk and is added to the count, and then, while the
count exceeds the capacity, the oldest chunk is dropped whole and its length taken off the
count. A chunk larger than the capacity therefore drops itself. Reading gives the held chunks
joined in arrival order, and may empty the buffer.
-/

namespace SerialHub.Terminal

/-- The chunks held by an output buffer under its capacity, with the running count of the bytes
they hold. -/
structure OutputBuffer where
  capacity : Nat
  chunks : List (List UInt8) := []
  total : Nat := 0
  deriving Repr, DecidableEq, Inhabited

namespace OutputBuffer

/-- The bytes held, in arrival order. -/
def bytes (b : OutputBuffer) : List UInt8 :=
  b.chunks.flatten

/-- Drops the oldest chunk while the running count exceeds a capacity, taking its length off
the count; with no chunk left to drop it stops. -/
def evict (capacity : Nat) : List (List UInt8) → Nat → List (List UInt8) × Nat
  | [], total => ([], total)
  | c :: rest, total =>
    if total > capacity then evict capacity rest (total - c.length) else (c :: rest, total)

/-- Adds a piece as the newest chunk, then drops old chunks down to the capacity. -/
def append (b : OutputBuffer) (data : List UInt8) : OutputBuffer :=
  if data.isEmpty then b
  else
    let (chunks, total) := evict b.capacity (b.chunks ++ [data]) (b.total + data.length)
    { b with chunks, total }

/-- The buffer with nothing held. -/
def clear (b : OutputBuffer) : OutputBuffer :=
  { b with chunks := [], total := 0 }

/-- Reads the bytes held, emptying the buffer when asked to. -/
def read (b : OutputBuffer) (clearAfter : Bool) : List UInt8 × OutputBuffer :=
  (b.bytes, if clearAfter then b.clear else b)

end OutputBuffer

end SerialHub.Terminal
