import Chip8.Word

/-!
# The call stack

Sixteen slots and a count of those in use.  A call pushes its own address, a return takes it back
off; what lies in the slots above the count is left over and never read.
-/

namespace Chip8

/-- The number of calls that can be open at a time. -/
def stackDepth : Nat := 16

/-- The slots and how many of them, from the first on, hold open calls. -/
structure CallStack where
  slots : Vector Word 16
  depth : Nat
  depth_le : depth ≤ 16
  deriving DecidableEq, Repr

namespace CallStack

/-- No open calls. -/
def empty : CallStack := ⟨Vector.replicate 16 0, 0, by omega⟩

/-- The addresses of the open calls, the oldest first. -/
def live (s : CallStack) : List Word := s.slots.toList.take s.depth

/-- Opens a call, if a slot is free. -/
def push? (s : CallStack) (address : Word) : Option CallStack :=
  if h : s.depth < 16 then some ⟨s.slots.set s.depth address, s.depth + 1, h⟩ else none

/-- Closes the youngest call, if one is open. -/
def pop? (s : CallStack) : Option (Word × CallStack) :=
  if h : 0 < s.depth then
    have := s.depth_le
    some (s.slots[s.depth - 1], ⟨s.slots, s.depth - 1, by omega⟩)
  else none

/-- The stack whose open calls are the first sixteen of the given addresses. -/
def ofList (addresses : List Word) : CallStack :=
  ⟨Vector.ofFn fun k => addresses.getD k.val 0, min addresses.length 16, by omega⟩

theorem push?_eq_none_iff (s : CallStack) (address : Word) : s.push? address = none ↔ s.depth = 16 := by
  have := s.depth_le
  unfold push?
  split <;> simp <;> omega

theorem pop?_eq_none_iff (s : CallStack) : s.pop? = none ↔ s.depth = 0 := by
  unfold pop?
  split <;> simp <;> omega

theorem length_live (s : CallStack) : s.live.length = s.depth := by
  have := s.depth_le
  simp [live]
  omega

/-- A push puts its address behind the open calls. -/
theorem live_push? {s t : CallStack} {address : Word} (h : s.push? address = some t) :
    t.live = s.live ++ [address] := by
  unfold push? at h
  split at h
  · next hd =>
    cases h
    simp only [live]
    apply List.ext_getElem
    · simp; omega
    · intro k h1 h2
      simp only [List.getElem_take, Vector.getElem_toList, Vector.getElem_set, List.getElem_append,
        List.length_take, Vector.length_toList]
      simp only [List.length_append, List.length_take, Vector.length_toList, List.length_cons,
        List.length_nil] at h2
      by_cases e : s.depth = k
      · subst e
        rw [if_pos rfl, dif_neg (by omega)]
        simp
      · rw [if_neg e, dif_pos (by omega)]
  · simp at h

/-- A pop takes the last of the open calls. -/
theorem live_pop? {s t : CallStack} {address : Word} (h : s.pop? = some (address, t)) :
    s.live = t.live ++ [address] := by
  have hle := s.depth_le
  unfold pop? at h
  split at h
  · next hd =>
    cases h
    simp only [live]
    apply List.ext_getElem
    · simp; omega
    · intro k h1 h2
      simp only [List.length_take, Vector.length_toList] at h1
      simp only [List.getElem_take, Vector.getElem_toList, List.getElem_append, List.length_take,
        Vector.length_toList]
      split
      · rfl
      · have : k = s.depth - 1 := by omega
        subst this; simp
  · simp at h

end CallStack

end Chip8
