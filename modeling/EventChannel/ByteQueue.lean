import EventChannel.Identifier

/-! Bytes that wait, kept in the pieces they came in: adding a piece and asking for the size take no
longer the more bytes there are. What a queue stands for is the string of its bytes, `toBytes`. -/

namespace EventChannel

/-- Bytes in the order in which they came. -/
structure ByteQueue where
  /-- The pieces, the latest first. -/
  pieces : List Bytes := []
  size : Nat := 0
  size_eq : size = pieces.flatten.length := by rfl
  deriving DecidableEq

namespace ByteQueue

def empty : ByteQueue := {}

/-- All bytes, the first to come first. -/
def toBytes (q : ByteQueue) : Bytes :=
  match q.pieces with
  | [bytes] => bytes
  | pieces => pieces.reverse.flatten

theorem toBytes_eq (q : ByteQueue) : q.toBytes = q.pieces.reverse.flatten := by
  unfold toBytes
  split <;> simp_all

/-- Adds bytes at the end. -/
def push (q : ByteQueue) (bytes : Bytes) : ByteQueue where
  pieces := bytes :: q.pieces
  size := bytes.length + q.size
  size_eq := by simp [q.size_eq]

def isEmpty (q : ByteQueue) : Bool := q.size == 0

@[simp] theorem toBytes_empty : empty.toBytes = [] := rfl

@[simp] theorem toBytes_push (q : ByteQueue) (bytes : Bytes) :
    (q.push bytes).toBytes = q.toBytes ++ bytes := by
  simp [push, toBytes_eq]

@[simp] theorem length_toBytes (q : ByteQueue) : q.toBytes.length = q.size := by
  rw [toBytes_eq, (List.reverse_perm q.pieces).flatten.length_eq, q.size_eq]

/-- The queue without the first bytes. What is left is one piece. -/
def drop (n : Nat) (q : ByteQueue) : ByteQueue where
  pieces := [q.toBytes.drop n]
  size := q.size - n
  size_eq := by simp

@[simp] theorem toBytes_drop (n : Nat) (q : ByteQueue) :
    (q.drop n).toBytes = q.toBytes.drop n := rfl

@[simp] theorem isEmpty_iff (q : ByteQueue) : q.isEmpty = true ↔ q.toBytes = [] := by
  rw [isEmpty, beq_iff_eq, ← length_toBytes, List.length_eq_zero_iff]

end ByteQueue

end EventChannel
