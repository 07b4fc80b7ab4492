/-! Sets of the conditions that a descriptor or a channel can be ready for. -/

namespace EventChannel

/-- A set of conditions. -/
@[ext] structure Interest where
  readable : Bool := false
  writable : Bool := false
  exception : Bool := false
  deriving DecidableEq

namespace Interest

def none : Interest := {}

def reading : Interest := { readable := true }

def writing : Interest := { writable := true }

def trouble : Interest := { exception := true }

/-- The set that the three lowest bits of a number stand for. -/
def ofBits (n : Nat) : Interest := ⟨n.testBit 0, n.testBit 1, n.testBit 2⟩

def bits (a : Interest) : Nat := a.readable.toNat + 2 * a.writable.toNat + 4 * a.exception.toNat

def union (a b : Interest) : Interest :=
  ⟨a.readable || b.readable, a.writable || b.writable, a.exception || b.exception⟩

def inter (a b : Interest) : Interest :=
  ⟨a.readable && b.readable, a.writable && b.writable, a.exception && b.exception⟩

instance : Union Interest := ⟨union⟩

instance : Inter Interest := ⟨inter⟩

instance : SDiff Interest := ⟨fun a b =>
  ⟨a.readable && !b.readable, a.writable && !b.writable, a.exception && !b.exception⟩⟩

def isEmpty (a : Interest) : Bool := a == none

/-- The two sets have a condition in common. -/
def meets (a b : Interest) : Bool := !(a ∩ b).isEmpty

/-- All conditions of `b` are in `a`, and `b` has some. -/
def covers (a b : Interest) : Bool := a ∩ b == b && !b.isEmpty

/-- The conditions of several sets taken together. -/
def unions (sets : List Interest) : Interest := sets.foldl (· ∪ ·) none

/-- The set in words. -/
def text (a : Interest) : String :=
  if a.isEmpty then "NONE"
  else "|".intercalate <|
    (if a.readable then ["READABLE"] else []) ++ (if a.writable then ["WRITABLE"] else []) ++
      (if a.exception then ["EXCEPTION"] else [])

@[simp] theorem union_readable (a b : Interest) : (a ∪ b).readable = (a.readable || b.readable) :=
  rfl

@[simp] theorem union_writable (a b : Interest) : (a ∪ b).writable = (a.writable || b.writable) :=
  rfl

@[simp] theorem union_exception (a b : Interest) :
    (a ∪ b).exception = (a.exception || b.exception) := rfl

@[simp] theorem inter_readable (a b : Interest) : (a ∩ b).readable = (a.readable && b.readable) :=
  rfl

@[simp] theorem inter_writable (a b : Interest) : (a ∩ b).writable = (a.writable && b.writable) :=
  rfl

@[simp] theorem inter_exception (a b : Interest) :
    (a ∩ b).exception = (a.exception && b.exception) := rfl

@[simp] theorem union_none (a : Interest) : a ∪ none = a := by ext <;> simp [none]

@[simp] theorem none_union (a : Interest) : none ∪ a = a := by ext <;> simp [none]

@[simp] theorem inter_none (a : Interest) : a ∩ none = none := by ext <;> simp [none]

@[simp] theorem none_inter (a : Interest) : none ∩ a = none := by ext <;> simp [none]

theorem union_assoc (a b c : Interest) : a ∪ b ∪ c = a ∪ (b ∪ c) := by
  ext <;> simp [Bool.or_assoc]

end Interest

end EventChannel
