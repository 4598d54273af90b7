/-! An output that may have room for only so many bytes. Bytes that do not all fit are kept as far as they
fit, and then the writer is told that they did not. Writing nothing succeeds even where nothing fits. -/
namespace SqlCheck

structure Stream where
  room : Option Nat := none
  written : List UInt8 := []
  deriving Repr, DecidableEq

namespace Stream

/-- The stream after a write, and whether all of it fitted. -/
def write (stream : Stream) (bytes : List UInt8) : Stream × Bool :=
  match stream.room with
  | none => (⟨none, stream.written ++ bytes⟩, true)
  | some room =>
      (⟨some (room - bytes.length), stream.written ++ bytes.take room⟩, decide (bytes.length ≤ room))

def emptied (stream : Stream) : Stream := { stream with written := [] }

end Stream
end SqlCheck
