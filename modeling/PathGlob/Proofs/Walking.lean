import PathGlob.Captures.Cursor

/-!
# What a walk over captures is told

A walk is any sequence of requests to one cursor. What it is told can be said without the cursor, by
two positions that move towards each other: `Obeys` has one rule for each way in which a request is
answered. A cursor keeps to these rules at every request (`obeys_ask`), hence along every walk
(`walk_run`), and the rest follows from the rules alone: no value is told twice, and none is lost
but those that were skipped on purpose (`Walk.told`).
-/

namespace PathGlob.Captures.Cursor

/-- What can be asked of a cursor. The values to come are asked of a copy. -/
inductive Request where
  | consume (s : Step)
  | size
  | sizeHint
  | rest (d : Direction)
  deriving DecidableEq, Repr

/-- What a cursor answers. -/
inductive Answer where
  | value (t : Option Text)
  | size (n : Nat)
  | sizeHint (least : Nat) (most : Option Nat)
  | rest (ts : List Text)
  deriving DecidableEq, Repr

def ask (k : Cursor) : Request → Answer × Cursor
  | .consume s => (.value (k.step s).1, (k.step s).2)
  | .size => (.size k.size, k)
  | .sizeHint => (.sizeHint k.sizeHint.1 k.sizeHint.2, k)
  | .rest d => (.rest (k.collect d), k)

def run (k : Cursor) : List Request → List Answer × Cursor
  | [] => ([], k)
  | r :: rs => ((k.ask r).1 :: ((k.ask r).2.run rs).1, ((k.ask r).2.run rs).2)

/-- The values at the positions from `a` up to, but not including, `b`. -/
def stretch (xs : List Text) (a b : Nat) : List Text :=
  (xs.take b).drop a

/-- `Obeys xs a b r answer a' b'`: while the values of `xs` from position `a` up to `b` are left,
the request `r` is given this answer, and the values from `a'` up to `b'` are left after it. -/
inductive Obeys (xs : List Text) : Nat → Nat → Request → Answer → Nat → Nat → Prop where
  | next {a b} : a < b → Obeys xs a b (.consume .next) (.value xs[a]?) (a + 1) b
  | nextBack {a b} : a < b → Obeys xs a b (.consume .nextBack) (.value xs[b - 1]?) a (b - 1)
  | nth {a b i} : a + i < b → Obeys xs a b (.consume (.nth i)) (.value xs[a + i]?) (a + i + 1) b
  | beyond {a b i} : b ≤ a + i → Obeys xs a b (.consume (.nth i)) (.value none) b b
  | empty {a s} : Obeys xs a a (.consume s) (.value none) a a
  | size {a b} : Obeys xs a b .size (.size (b - a)) a b
  | sizeHint {a b} : Obeys xs a b .sizeHint (.sizeHint (b - a) (some (b - a))) a b
  | forward {a b} : Obeys xs a b (.rest .forward) (.rest (stretch xs a b)) a b
  | backward {a b} : Obeys xs a b (.rest .backward) (.rest (stretch xs a b).reverse) a b

/-- `Walk xs a b rs answers a' b'`: the requests `rs`, one after the other, are given these answers
and leave `a'` and `b'` of `a` and `b`. -/
inductive Walk (xs : List Text) : Nat → Nat → List Request → List Answer → Nat → Nat → Prop where
  | nil {a b} : Walk xs a b [] [] a b
  | cons {a b a₁ b₁ a₂ b₂ r answer rs answers} : Obeys xs a b r answer a₁ b₁ →
      Walk xs a₁ b₁ rs answers a₂ b₂ → Walk xs a b (r :: rs) (answer :: answers) a₂ b₂

/-! ### A cursor keeps to the rules -/

theorem items_step (k : Cursor) (s : Step) : (k.step s).2.items = k.items := by
  cases s with
  | next => simp only [step, next]; split <;> rfl
  | nextBack => simp only [step, nextBack]; split <;> rfl
  | nth n => simp only [step, nth]; split <;> rfl

theorem items_ask (k : Cursor) (r : Request) : (k.ask r).2.items = k.items := by
  cases r with
  | consume s => exact items_step k s
  | size | sizeHint | rest => rfl

theorem obeys_step (k : Cursor) (s : Step) :
    Obeys k.items k.front k.back (.consume s) (.value (k.step s).1)
      (k.step s).2.front (k.step s).2.back := by
  have ordered := k.front_le_back
  have within := k.back_le_length
  cases s with
  | next =>
    simp only [step, next]
    split
    · next left =>
      rw [← List.getElem?_eq_getElem]
      exact .next left
    · have met : k.front = k.back := by omega
      rw [met]
      exact .empty
  | nextBack =>
    simp only [step, nextBack]
    split
    · next left =>
      rw [← List.getElem?_eq_getElem]
      exact .nextBack left
    · have met : k.front = k.back := by omega
      rw [met]
      exact .empty
  | nth n =>
    simp only [step, nth]
    split
    · next left =>
      rw [← List.getElem?_eq_getElem]
      exact .nth left
    · exact .beyond (by omega)

theorem obeys_ask (k : Cursor) (r : Request) :
    Obeys k.items k.front k.back r (k.ask r).1 (k.ask r).2.front (k.ask r).2.back := by
  cases r with
  | consume s => exact obeys_step k s
  | size => exact .size
  | sizeHint => exact .sizeHint
  | rest d =>
    cases d with
    | forward =>
      rw [ask, collect_forward]
      exact .forward
    | backward =>
      rw [ask, collect_backward]
      exact .backward

theorem items_run (k : Cursor) (rs : List Request) : (k.run rs).2.items = k.items := by
  induction rs generalizing k with
  | nil => rfl
  | cons r rs ih => rw [run, ih, items_ask]

theorem walk_of_run (k : Cursor) (rs : List Request) :
    Walk k.items k.front k.back rs (k.run rs).1 (k.run rs).2.front (k.run rs).2.back := by
  induction rs generalizing k with
  | nil => exact .nil
  | cons r rs ih =>
    have later := ih (k.ask r).2
    rw [items_ask] at later
    exact .cons (obeys_ask k r) later

/-! ### What a walk is told -/

/-- The value that a request took from the front, if any. -/
def fromFront : Request → Answer → Option Text
  | .consume .next, .value t => t
  | .consume (.nth _), .value t => t
  | _, _ => none

/-- The value that a request took from the back, if any. -/
def fromBack : Request → Answer → Option Text
  | .consume .nextBack, .value t => t
  | _, _ => none

/-- The values that a walk was told at one of the ends, in order. -/
def told (taken : Request → Answer → Option Text) (rs : List Request) (answers : List Answer) :
    List Text :=
  (List.zipWith taken rs answers).flatMap Option.toList

theorem told_cons (taken : Request → Answer → Option Text) (r : Request) (answer : Answer)
    (rs : List Request) (answers : List Answer) :
    told taken (r :: rs) (answer :: answers) =
      (taken r answer).toList ++ told taken rs answers := rfl

section

variable {xs : List Text} {a b a₁ b₁ : Nat}

theorem stretch_self (xs : List Text) (a : Nat) : stretch xs a a = [] := by
  rw [stretch, List.drop_eq_nil_iff, List.length_take]
  omega

theorem stretch_append (le : a ≤ a₁) (within : a₁ ≤ b) :
    stretch xs a a₁ ++ stretch xs a₁ b = stretch xs a b := by
  have front : stretch xs a a₁ = (stretch xs a b).take (a₁ - a) := by
    rw [stretch, stretch, ← List.drop_take, List.take_take, Nat.min_eq_left within]
  have back : stretch xs a₁ b = (stretch xs a b).drop (a₁ - a) := by
    rw [stretch, stretch, List.drop_drop, Nat.add_sub_cancel' le]
  rw [front, back, List.take_append_drop]

theorem stretch_succ (within : a < xs.length) : stretch xs a (a + 1) = xs[a]?.toList := by
  rw [stretch, List.getElem?_eq_getElem within, List.drop_take, List.drop_eq_getElem_cons within,
    Nat.add_sub_cancel_left]
  rfl

theorem Obeys.ordered {r : Request} {answer : Answer} (h : Obeys xs a b r answer a₁ b₁)
    (le : a ≤ b) : a ≤ a₁ ∧ a₁ ≤ b₁ ∧ b₁ ≤ b := by
  cases h <;> omega

/-- At the back a request takes all that is left out there afterwards. -/
theorem Obeys.fromBack {r : Request} {answer : Answer} (h : Obeys xs a b r answer a₁ b₁)
    (within : b ≤ xs.length) : (fromBack r answer).toList = stretch xs b₁ b := by
  cases h with
  | nextBack left =>
    have last : b - 1 + 1 = b := by omega
    have single : stretch xs (b - 1) (b - 1 + 1) = xs[b - 1]?.toList := stretch_succ (by omega)
    rw [last] at single
    exact single.symm
  | @empty s => cases s <;> exact (stretch_self xs _).symm
  | next | nth | beyond | size | sizeHint | forward | backward => exact (stretch_self xs _).symm

/-- At the front it takes the last value of what is left out there afterwards, or skips all. -/
theorem Obeys.fromFront {r : Request} {answer : Answer} (h : Obeys xs a b r answer a₁ b₁)
    (within : b ≤ xs.length) :
    (fromFront r answer).toList.Sublist (stretch xs a a₁) ∧
      ((∀ n, r ≠ .consume (.nth n)) → (fromFront r answer).toList = stretch xs a a₁) := by
  cases h with
  | next left =>
    rw [stretch_succ (by omega)]
    exact ⟨.refl _, fun _ => rfl⟩
  | @nth _ i left =>
    have parts : stretch xs a (a + i) ++ stretch xs (a + i) (a + i + 1) =
        stretch xs a (a + i + 1) :=
      stretch_append (by omega) (by omega)
    rw [← parts, stretch_succ (by omega)]
    exact ⟨List.sublist_append_right _ _, fun other => absurd rfl (other i)⟩
  | @beyond _ i _ => exact ⟨List.nil_sublist _, fun other => absurd rfl (other i)⟩
  | @empty s =>
    rw [stretch_self]
    cases s <;> exact ⟨.refl _, fun _ => rfl⟩
  | nextBack | size | sizeHint | forward | backward =>
    rw [stretch_self]
    exact ⟨.refl _, fun _ => rfl⟩

variable {rs : List Request} {answers : List Answer}

theorem Walk.ordered (h : Walk xs a b rs answers a₁ b₁) (le : a ≤ b) :
    a ≤ a₁ ∧ a₁ ≤ b₁ ∧ b₁ ≤ b := by
  induction h with
  | nil => omega
  | cons step _ ih =>
    have := step.ordered le
    have := ih (by omega)
    omega

/-- What is told at the back is, from the last position on, all that is no longer left there. -/
theorem Walk.told_fromBack (h : Walk xs a b rs answers a₁ b₁) (le : a ≤ b)
    (within : b ≤ xs.length) :
    (told Cursor.fromBack rs answers).reverse = stretch xs b₁ b := by
  induction h with
  | nil => exact (stretch_self xs _).symm
  | cons step later ih =>
    have now := step.ordered le
    have after := later.ordered (by omega)
    have last : ∀ t : Option Text, t.toList.reverse = t.toList := fun t => by cases t <;> rfl
    rw [told_cons, List.reverse_append, ih (by omega) (by omega), last, step.fromBack within]
    exact stretch_append (by omega) (by omega)

/-- What is told at the front comes in order, and nothing is missing unless it was skipped. -/
theorem Walk.told_fromFront (h : Walk xs a b rs answers a₁ b₁) (le : a ≤ b)
    (within : b ≤ xs.length) :
    (told Cursor.fromFront rs answers).Sublist (stretch xs a a₁) ∧
      ((∀ n, .consume (.nth n) ∉ rs) → told Cursor.fromFront rs answers = stretch xs a a₁) := by
  induction h with
  | nil =>
    rw [stretch_self]
    exact ⟨.refl _, fun _ => rfl⟩
  | cons step later ih =>
    have now := step.ordered le
    have after := later.ordered (by omega)
    obtain ⟨first, first_all⟩ := step.fromFront within
    obtain ⟨rest, rest_all⟩ := ih (by omega) (by omega)
    rw [told_cons, ← stretch_append now.1 after.1]
    constructor
    · exact first.append rest
    · intro none_skipped
      rw [first_all fun n same => none_skipped n (by simp [same]),
        rest_all fun n skipped => none_skipped n (List.mem_cons_of_mem _ skipped)]

/-- With nothing left no request is told a value. -/
theorem Walk.exhausted (h : Walk xs a b rs answers a₁ b₁) (met : a = b) :
    ∀ t, .value (some t) ∉ answers := by
  induction h with
  | nil => simp
  | cons step later ih =>
    have := step.ordered (Nat.le_of_eq met)
    intro t mem
    rcases List.mem_cons.1 mem with told | told
    · cases step with
      | next left | nextBack left | nth left => omega
      | beyond | empty | size | sizeHint | forward | backward => cases told
    · exact ih (by omega) t told

end

/-- However one cursor is asked, forwards, backwards or skipping, its answers are those of two
positions that move towards each other over the values of the match. The values between them are
left; what was told at the back is what is behind them, and what was told at the front is what is
before them, less the values skipped. Once they meet no value is told any more. A cursor that
nothing was asked of has all the values of the match, the candidate and then the groups, as has the
list of their copies. -/
theorem walk_run (c : Captures) (rs : List Request) :
    ∃ a b, a ≤ b ∧ b ≤ c.size ∧
      Walk c.items 0 c.size rs (c.cursor.run rs).1 a b ∧
      (c.cursor.run rs).2.remaining = stretch c.items a b ∧
      (told fromBack rs (c.cursor.run rs).1).reverse = stretch c.items b c.size ∧
      (told fromFront rs (c.cursor.run rs).1).Sublist (stretch c.items 0 a) ∧
      ((∀ n, .consume (.nth n) ∉ rs) →
        told fromFront rs (c.cursor.run rs).1 = stretch c.items 0 a) ∧
      (a = b → ∀ later t, .value (some t) ∉ ((c.cursor.run rs).2.run later).1) ∧
      c.cursor.collect .forward = c.items ∧ c.cursor.collect .backward = c.items.reverse ∧
      c.items = c.candidate :: c.groups ∧ c.toList = c.items ∧
      c.intoCursor.collect .forward = c.items := by
  have walk : Walk c.items 0 c.size rs (c.cursor.run rs).1 _ _ := walk_of_run c.cursor rs
  have same : (c.cursor.run rs).2.items = c.items := items_run c.cursor rs
  obtain ⟨-, ordered, within⟩ := walk.ordered (Nat.zero_le _)
  have front := walk.told_fromFront (Nat.zero_le _) (Nat.le_refl _)
  refine ⟨_, _, ordered, within, walk, ?_, ?_, front.1, front.2, ?_, ?_, ?_, rfl, c.toList_eq, ?_⟩
  · rw [← same]
    rfl
  · exact walk.told_fromBack (Nat.zero_le _) (Nat.le_refl _)
  · intro met later
    exact (walk_of_run (c.cursor.run rs).2 later).exhausted met
  · rw [collect_forward, remaining_cursor]
  · rw [collect_backward, remaining_cursor]
  · rw [collect_forward, remaining_intoCursor]

end PathGlob.Captures.Cursor
