import PathGlob.Captures

/-!
# Walking over captures from both ends

A cursor stands on the values of a match and consumes them from the front and from the back. Its
`remaining` values are always a contiguous stretch of the values it was made for. Each request gives
one of them and leaves a stretch of them: `next_fst` and `remaining_next`, and so on. Consuming all
of them from one end lists that stretch (`collect_forward`, `collect_backward`).
-/

namespace PathGlob.Captures

/-- The values from index `front` up to, but not including, index `back` are not yet consumed. -/
structure Cursor where
  items : List Text
  front : Nat
  back : Nat
  front_le_back : front ≤ back := by omega
  back_le_length : back ≤ items.length := by omega

def cursor (c : Captures) : Cursor :=
  { items := c.items, front := 0, back := c.items.length }

/-- A cursor that takes the values of a match over. -/
def intoCursor (c : Captures) : Cursor :=
  { items := c.items, front := 0, back := c.items.length }

namespace Cursor

/-- The values not yet consumed, from the front. -/
def remaining (k : Cursor) : List Text :=
  (k.items.take k.back).drop k.front

def size (k : Cursor) : Nat :=
  k.back - k.front

theorem length_remaining (k : Cursor) : k.remaining.length = k.size := by
  have := k.back_le_length
  simp [remaining, size, Nat.min_eq_left this]

@[simp] theorem remaining_cursor (c : Captures) : c.cursor.remaining = c.items := by
  simp [cursor, remaining]

@[simp] theorem remaining_intoCursor (c : Captures) : c.intoCursor.remaining = c.items :=
  remaining_cursor c

theorem getElem?_remaining (k : Cursor) {n : Nat} (h : k.front + n < k.back) :
    k.remaining[n]? = k.items[k.front + n]? := by
  rw [remaining, List.getElem?_drop, List.getElem?_take_of_lt h]

theorem remaining_eq_nil_iff (k : Cursor) : k.remaining = [] ↔ k.front = k.back := by
  rw [← List.length_eq_zero_iff, length_remaining, size]
  have := k.front_le_back
  omega

def next (k : Cursor) : Option Text × Cursor :=
  if h : k.front < k.back then
    have := Nat.lt_of_lt_of_le h k.back_le_length
    (some k.items[k.front], { k with front := k.front + 1, front_le_back := h })
  else (none, k)

theorem next_fst (k : Cursor) : k.next.1 = k.remaining.head? := by
  unfold next
  split
  · next h =>
    have := Nat.lt_of_lt_of_le h k.back_le_length
    rw [List.head?_eq_getElem?, getElem?_remaining k (n := 0) h]
    exact (List.getElem?_eq_getElem this).symm
  · next h =>
    have := k.front_le_back
    rw [(remaining_eq_nil_iff k).2 (by omega)]
    rfl

theorem remaining_next (k : Cursor) : k.next.2.remaining = k.remaining.tail := by
  unfold next
  split
  · simp [remaining]
  · next h =>
    have := k.front_le_back
    rw [(remaining_eq_nil_iff k).2 (by omega)]
    rfl

def nextBack (k : Cursor) : Option Text × Cursor :=
  have := k.back_le_length
  if h : k.front < k.back then
    have : k.back - 1 < k.items.length := by omega
    (some k.items[k.back - 1],
      { k with back := k.back - 1, front_le_back := by omega, back_le_length := by omega })
  else (none, k)

theorem nextBack_fst (k : Cursor) : k.nextBack.1 = k.remaining.getLast? := by
  unfold nextBack
  split
  · next h =>
    rw [List.getLast?_eq_getElem?, length_remaining, size]
    have last : k.front + (k.back - k.front - 1) = k.back - 1 := by omega
    have := k.back_le_length
    rw [getElem?_remaining k (by omega), last, List.getElem?_eq_getElem (by omega)]
  · next h =>
    have := k.front_le_back
    rw [(remaining_eq_nil_iff k).2 (by omega)]
    rfl

theorem remaining_nextBack (k : Cursor) : k.nextBack.2.remaining = k.remaining.dropLast := by
  unfold nextBack
  split
  · next h =>
    have := k.back_le_length
    simp only [remaining]
    rw [List.dropLast_eq_take, List.length_drop, List.length_take, List.take_drop, List.take_take]
    congr 2
    omega
  · next h =>
    have := k.front_le_back
    rw [(remaining_eq_nil_iff k).2 (by omega)]
    rfl

/-- Consumes `n` values at the front and the one behind them. When there are too few, all are
consumed. -/
def nth (k : Cursor) (n : Nat) : Option Text × Cursor :=
  if h : k.front + n < k.back then
    have := Nat.lt_of_lt_of_le h k.back_le_length
    (some k.items[k.front + n], { k with front := k.front + n + 1, front_le_back := h })
  else (none, { k with front := k.back, front_le_back := Nat.le_refl _ })

theorem nth_fst (k : Cursor) (n : Nat) : (k.nth n).1 = k.remaining[n]? := by
  unfold nth
  split
  · next h =>
    have := Nat.lt_of_lt_of_le h k.back_le_length
    rw [getElem?_remaining k h, List.getElem?_eq_getElem this]
  · next h =>
    rw [List.getElem?_eq_none]
    rw [length_remaining, size]
    omega

theorem remaining_nth (k : Cursor) (n : Nat) :
    (k.nth n).2.remaining = k.remaining.drop (n + 1) := by
  unfold nth
  split
  · simp [remaining, Nat.add_assoc]
  · next h =>
    have := k.back_le_length
    rw [List.drop_eq_nil_of_le]
    · rw [remaining_eq_nil_iff]
    · rw [length_remaining, size]
      omega

theorem nth_zero (k : Cursor) : k.nth 0 = k.next := by
  obtain ⟨items, front, back, ordered, within⟩ := k
  by_cases left : front < back
  · simp [nth, next, left]
  · obtain rfl : front = back := by omega
    simp [nth, next]

/-- Asking for a value behind others consumes the first of those and asks again. -/
theorem nth_succ (k : Cursor) (n : Nat) : k.nth (n + 1) = k.next.2.nth n := by
  obtain ⟨items, front, back, ordered, within⟩ := k
  by_cases left : front < back
  · have shifted : front + (n + 1) = front + 1 + n := by omega
    simp [nth, next, left, shifted]
  · obtain rfl : front = back := by omega
    have beyond (i : Nat) : ¬ front + i < front := by omega
    simp [nth, next, beyond]

/-- How many values are still to come, as a bound from below and one from above. -/
def sizeHint (k : Cursor) : Nat × Option Nat :=
  (k.size, some k.size)

/-- The two directions in which values are consumed one by one. -/
inductive Direction where
  | forward
  | backward
  deriving DecidableEq, Repr

def advance (k : Cursor) : Direction → Option Text × Cursor
  | .forward => k.next
  | .backward => k.nextBack

theorem remaining_of_next {k l : Cursor} {t : Text} (h : k.next = (some t, l)) :
    k.remaining = t :: l.remaining := by
  have yielded : k.remaining.head? = some t := by rw [← next_fst, h]
  have left : l.remaining = k.remaining.tail := by rw [← remaining_next, h]
  obtain ⟨later, found⟩ := List.head?_eq_some_iff.1 yielded
  rw [left, found, List.tail_cons]

theorem remaining_of_nextBack {k l : Cursor} {t : Text} (h : k.nextBack = (some t, l)) :
    k.remaining = l.remaining ++ [t] := by
  have yielded : k.remaining.getLast? = some t := by rw [← nextBack_fst, h]
  have left : l.remaining = k.remaining.dropLast := by rw [← remaining_nextBack, h]
  obtain ⟨earlier, found⟩ := List.getLast?_eq_some_iff.1 yielded
  rw [left, found, List.dropLast_concat]

/-- Only a cursor that has consumed all values yields none. -/
theorem remaining_of_advance {k l : Cursor} {d : Direction} (h : k.advance d = (none, l)) :
    k.remaining = [] := by
  cases d with
  | forward =>
    have yielded : k.remaining.head? = none := by rw [← next_fst]; exact congrArg Prod.fst h
    exact List.head?_eq_none_iff.1 yielded
  | backward =>
    have yielded : k.remaining.getLast? = none := by
      rw [← nextBack_fst]; exact congrArg Prod.fst h
    exact List.getLast?_eq_none_iff.1 yielded

theorem size_advance_lt {k l : Cursor} {d : Direction} {t : Text}
    (h : k.advance d = (some t, l)) : l.size < k.size := by
  rw [← length_remaining, ← length_remaining]
  cases d with
  | forward =>
    rw [remaining_of_next h]
    simp
  | backward =>
    rw [remaining_of_nextBack h]
    simp

/-- The values that come when one after the other is consumed in a direction, until none is
left. -/
def collect (d : Direction) (k : Cursor) : List Text :=
  match _h : k.advance d with
  | (some t, l) => t :: collect d l
  | (none, _) => []
termination_by k.size
decreasing_by exact size_advance_lt (by assumption)

theorem collect_forward (k : Cursor) : k.collect .forward = k.remaining := by
  fun_induction collect .forward k with
  | case1 k t l h ih => rw [ih, remaining_of_next h]
  | case2 k l h => rw [remaining_of_advance h]

theorem collect_backward (k : Cursor) : k.collect .backward = k.remaining.reverse := by
  fun_induction collect .backward k with
  | case1 k t l h ih => rw [ih, remaining_of_nextBack h, List.reverse_append]; rfl
  | case2 k l h => rw [remaining_of_advance h, List.reverse_nil]

/-- One request to a cursor. -/
inductive Step where
  | next
  | nextBack
  | nth (n : Nat)
  deriving DecidableEq, Repr

def step (k : Cursor) : Step → Option Text × Cursor
  | .next => k.next
  | .nextBack => k.nextBack
  | .nth n => k.nth n

end Cursor

end PathGlob.Captures
