/-!
Published streams: everything sent so far, and what a subscriber finds that last looked at some point of it. A
stream keeps only its newest entries for subscribers; one that has fallen further behind is told how many it lost.
-/

set_option autoImplicit false

namespace Workcell

structure Stream (A : Type) where
  -- Everything sent, the newest first.
  newestFirst : List A
  position : Nat
  capacity : Nat
  position_eq : position = newestFirst.length := by rfl

namespace Stream

variable {A : Type}

def empty (capacity : Nat) : Stream A where
  newestFirst := []
  position := 0
  capacity := capacity

def push (stream : Stream A) (entry : A) : Stream A where
  newestFirst := entry :: stream.newestFirst
  position := stream.position + 1
  capacity := stream.capacity
  position_eq := by rw [stream.position_eq, List.length_cons]

def sent (stream : Stream A) : List A := stream.newestFirst.reverse

@[simp]
theorem sent_push (stream : Stream A) (entry : A) : (stream.push entry).sent = stream.sent ++ [entry] := by
  simp [sent, push]

-- How many entries a subscriber at a position has lost.
def lag (stream : Stream A) (seen : Nat) : Nat := stream.position - stream.capacity - seen

def since (stream : Stream A) (seen : Nat) : List A :=
  (stream.newestFirst.take (min stream.capacity (stream.position - seen))).reverse

end Stream

end Workcell
