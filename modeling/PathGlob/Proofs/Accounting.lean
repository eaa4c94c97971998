import Mathlib
import PathGlob.Proofs.Operation

/-!
# What a cache has counted

The state of a cache is a function of its history. A history is cut into epochs wherever the cache
was cleared. The cache holds what was requested in the last epoch, and it has compiled every
pattern once for each epoch in which it was requested: this is its `Account`.

`Account.request` says what a single request does to an account, `Account.clear` what clearing
does, and `Account.history` is the induction over a history.
-/

namespace PathGlob.Cache

/-- A history cut at every clearing: the patterns requested in each part. -/
def epochs (history : List Operation) : List (List Text) :=
  (history.splitOn .clear).map (·.flatMap Operation.requests)

def distinct (raws : List Text) : Nat :=
  raws.toFinset.card

/-- What a cache has to show for its epochs, of which the last is the one it is in. -/
structure Account (c : Cache) (epochs : List (List Text)) : Prop where
  contains : ∀ raw, c.contains raw = true ↔ raw ∈ epochs.getLastD []
  size : c.size = distinct (epochs.getLastD [])
  compilations : c.compilations = (epochs.map distinct).sum

theorem contains_keep (c : Cache) (raw : Text) (p : Pattern) (other : Text) :
    (c.keep raw p).2.contains other = true ↔ raw = other ∨ c.contains other = true := by
  rw [Cache.contains, find?_keep]
  split
  · next same => simp [same]
  · next different => simp [different, Cache.contains]

theorem distinct_append (epoch raws : List Text) :
    distinct (epoch ++ raws) = distinct epoch + (raws.toFinset \ epoch.toFinset).card := by
  rw [distinct, List.toFinset_append, Finset.union_comm, ← Finset.card_sdiff_add_card, Nat.add_comm,
    distinct]

theorem distinct_append_of_mem {epoch : List Text} {raw : Text} (known : raw ∈ epoch) :
    distinct (epoch ++ [raw]) = distinct epoch := by
  have : [raw].toFinset \ epoch.toFinset = ∅ := by simp [known]
  rw [distinct_append, this, Finset.card_empty, Nat.add_zero]

theorem distinct_append_of_not_mem {epoch : List Text} {raw : Text} (fresh : raw ∉ epoch) :
    distinct (epoch ++ [raw]) = distinct epoch + 1 := by
  have : [raw].toFinset \ epoch.toFinset = {raw} := by simp [fresh]
  rw [distinct_append, this, Finset.card_singleton]

namespace Account

variable {c : Cache} {earlier : List (List Text)} {epoch : List Text}

theorem empty : Account empty [[]] := by
  constructor
  · intro raw
    simp [Cache.contains, find?, Cache.empty]
  · rfl
  · rfl

/-- A request compiles its pattern unless the epoch has seen it. -/
theorem request (h : Account c (earlier ++ [epoch])) (raw : Text) :
    Account (c.request raw) (earlier ++ [epoch ++ [raw]]) := by
  obtain ⟨contains, size, compilations⟩ := h
  simp only [List.getLastD_concat, List.map_append, List.map_singleton, List.sum_append,
    List.sum_singleton] at contains size compilations
  by_cases known : raw ∈ epoch
  · rw [request_of_contains ((contains raw).2 known)]
    refine ⟨fun other => ?_, ?_, ?_⟩
    · simp only [contains, List.getLastD_concat, List.mem_append, List.mem_singleton]
      constructor
      · exact .inl
      · rintro (h | rfl)
        · exact h
        · exact known
    · simp [distinct_append_of_mem known, size]
    · simp [distinct_append_of_mem known, compilations]
  · rw [request_of_not_contains (mt (contains raw).1 known)]
    refine ⟨fun other => ?_, ?_, ?_⟩
    · simp only [contains_keep, contains, List.getLastD_concat, List.mem_append,
        List.mem_singleton]
      rw [or_comm, eq_comm]
    · simp [distinct_append_of_not_mem known, size]
    · simp [distinct_append_of_not_mem known, compilations, Nat.add_assoc]

theorem requests (h : Account c (earlier ++ [epoch])) (raws : List Text) :
    Account (raws.foldl Cache.request c) (earlier ++ [epoch ++ raws]) := by
  induction raws generalizing c epoch with
  | nil => simpa using h
  | cons raw raws ih => simpa using ih (h.request raw)

/-- Clearing opens a new epoch. -/
theorem clear {epochs : List (List Text)} (h : Account c epochs) :
    Account c.clear.value (epochs ++ [[]]) := by
  constructor
  · intro raw
    simp [Cache.contains]
  · simp [distinct]
  · simp [h.compilations, distinct]

end Account

theorem epochs_clear (history : List Operation) :
    epochs (.clear :: history) = [] :: epochs history := by
  rw [epochs, List.splitOn_cons_eq_if_modifyHead, if_pos (by simp)]
  rfl

theorem epochs_cons {op : Operation} (kept : op ≠ .clear) (history : List Operation) :
    epochs (op :: history) = (epochs history).modifyHead (op.requests ++ ·) := by
  rw [epochs, List.splitOn_cons_eq_if_modifyHead, if_neg (by simpa using kept), epochs]
  cases history.splitOn Operation.clear <;> rfl

theorem epochs_ne_nil (history : List Operation) : epochs history ≠ [] := by
  simp [epochs]

example : epochs [.get ['a'], .clear, .preload [['a'], ['b'], ['a']], .contains ['c'], .get ['b']] =
    [[['a']], [['a'], ['b'], ['a'], ['b']]] := by
  decide

theorem modifyHead_nil_append (epochs : List (List Text)) :
    epochs.modifyHead ([] ++ ·) = epochs := by
  cases epochs <;> rfl

/-- What a history adds to a cache is added to the epoch that was open before it. -/
theorem Account.history {c : Cache} {earlier : List (List Text)} {epoch : List Text}
    (h : Account c (earlier ++ [epoch])) (history : List Operation) :
    Account (history.foldl perform c) (earlier ++ (epochs history).modifyHead (epoch ++ ·)) := by
  -- Clearing moves the open epoch to the earlier ones; anything else makes it longer.
  induction history generalizing c earlier epoch with
  | nil => simpa [epochs] using h
  | cons op history ih =>
    rw [List.foldl_cons]
    by_cases cleared : op = .clear
    · subst cleared
      have opened : Account c.clear.value ((earlier ++ [epoch]) ++ [[]]) := h.clear
      have later := ih opened
      rw [modifyHead_nil_append] at later
      simpa [epochs_clear, perform] using later
    · rw [perform_eq c cleared, epochs_cons cleared]
      simpa [List.modifyHead_modifyHead, Function.comp_def] using ih (h.requests op.requests)

theorem Account.after (history : List Operation) :
    Account (history.foldl perform Cache.empty) (epochs history) := by
  have opened : Account Cache.empty ([] ++ [[]]) := .empty
  have account := opened.history history
  rwa [modifyHead_nil_append, List.nil_append] at account

theorem isEmpty_iff (c : Cache) : c.isEmpty = true ↔ c.size = 0 := by
  simp [isEmpty, size]

/-- An operation compiles what it requests for the first time in an epoch. -/
theorem compilations_perform {c : Cache} {epochs : List (List Text)} (h : Account c epochs)
    (nonempty : epochs ≠ []) (op : Operation) :
    (c.perform op).compilations =
      c.compilations + (op.requests.toFinset \ (epochs.getLastD []).toFinset).card := by
  obtain ⟨earlier, epoch, rfl⟩ := List.eq_nil_or_concat' epochs |>.resolve_left nonempty
  by_cases cleared : op = .clear
  · subst cleared
    simp [perform, Operation.requests]
  · rw [perform_eq c cleared, (h.requests op.requests).compilations, h.compilations]
    simp [distinct_append, Nat.add_assoc]

/-- A cache holds what was requested since it was last cleared, and its compilations are those of
each epoch once for every pattern. So a pattern that the epoch knows is not compiled again, and
clearing takes no compilation back. -/
theorem accounting (history : List Operation) :
    let c := history.foldl perform Cache.empty
    let epoch := (epochs history).getLastD []
    (∀ raw, c.contains raw = true ↔ raw ∈ epoch) ∧
      c.size = distinct epoch ∧
      (c.isEmpty = true ↔ c.size = 0) ∧
      c.compilations = ((epochs history).map distinct).sum ∧
      ∀ op, (c.perform op).compilations =
        c.compilations + (op.requests.toFinset \ epoch.toFinset).card := by
  have h := Account.after history
  exact ⟨h.contains, h.size, isEmpty_iff _, h.compilations,
    compilations_perform h (epochs_ne_nil history)⟩

end PathGlob.Cache
