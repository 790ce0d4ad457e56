/-!
What a compiler may use of the computer that it runs on.

None of it is part of a program or of its settings. A pattern is read by calls within calls, and the stack
has room for so many of them; a row is one piece of memory, and pieces can only be so large.
-/
namespace ArrowMachine

structure Capacity where
  /-- Whether reading a pattern takes more calls within each other than the stack has room for. -/
  overflows : String → Bool
  /-- For so many groups within each other there is always room. -/
  depth : Nat
  /-- Calls are within each other as groups are, and every group has a parenthesis of its own. -/
  depth_lt : ∀ s, overflows s = true → depth < s.toList.count '('
  /-- The most absent reads that can be added to one row. -/
  room : Nat
  /-- A read takes eight bytes, and no size reaches 2 ^ 63. -/
  room_lt : room < 0x1000000000000000

/-- As much as there can be. -/
def Capacity.ample : Capacity where
  overflows := fun _ => false
  depth := 0
  depth_lt := nofun
  room := 0xfffffffffffffff
  room_lt := by decide

end ArrowMachine
