import PathGlob.Proofs.Operation

namespace PathGlob.Cache

/-- Everything kept was numbered since some compilation, none is numbered like a compilation still
to come, and no two texts have the same number. -/
structure Numbered (c : Cache) (since : Nat) : Prop where
  past : since ≤ c.compilations
  recent : ∀ raw shared, c.find? raw = some shared →
    since ≤ shared.serial ∧ shared.serial < c.compilations
  single : ∀ raw other x y, c.find? raw = some x → c.find? other = some y →
    x.serial = y.serial → raw = other

theorem numbered_empty : Numbered empty 0 :=
  ⟨Nat.le_refl _, by rintro _ _ ⟨⟩, by rintro _ _ _ _ ⟨⟩⟩

theorem numbered_clear (c : Cache) : Numbered c.clear.value c.compilations :=
  ⟨Nat.le_refl _, by rintro _ _ ⟨⟩, by rintro _ _ _ _ ⟨⟩⟩

theorem find?_request (c : Cache) (raw : Text) :
    (c.request raw).find? raw = some (c.get raw).value.1 := by
  rw [request, value_get]
  cases found : c.find? raw with
  | some shared => exact found
  | none => rw [find?_keep, if_pos rfl]

theorem Numbered.request {c : Cache} {since : Nat} (h : Numbered c since) (raw : Text) :
    Numbered (c.request raw) since := by
  by_cases kept : c.contains raw = true
  · rwa [request_of_contains kept]
  rw [request_of_not_contains kept]
  -- What is kept now is the new object or an old one, and only the new one has the last number.
  have split : ∀ other shared, (c.keep raw (Pattern.compile raw)).2.find? other = some shared →
      raw = other ∧ shared.serial = c.compilations ∨
        c.find? other = some shared ∧ shared.serial < c.compilations := by
    intro other shared found
    rw [find?_keep] at found
    split at found
    · next same =>
      cases found
      exact .inl ⟨same, rfl⟩
    · exact .inr ⟨found, (h.recent other shared found).2⟩
  refine ⟨Nat.le_succ_of_le h.past, ?_, ?_⟩
  · intro other shared found
    rw [compilations_keep]
    rcases split other shared found with ⟨-, number⟩ | ⟨old, below⟩
    · exact ⟨number ▸ h.past, by omega⟩
    · exact ⟨(h.recent other shared old).1, by omega⟩
  · intro one other x y foundOne foundOther same
    rcases split one x foundOne with ⟨rfl, number⟩ | ⟨old, below⟩ <;>
      rcases split other y foundOther with ⟨rfl, number'⟩ | ⟨old', below'⟩
    · rfl
    · omega
    · omega
    · exact h.single one other x y old old' same

/-- A request forgets nothing. -/
theorem find?_request_of_find? {c : Cache} {raw : Text} {shared : Shared}
    (kept : c.find? raw = some shared) (other : Text) :
    (c.request other).find? raw = some shared := by
  by_cases known : c.contains other = true
  · rwa [request_of_contains known]
  · rw [request_of_not_contains known, find?_keep, if_neg, kept]
    rintro rfl
    exact known (by rw [contains, kept]; rfl)

theorem compilations_le_request (c : Cache) (raw : Text) :
    c.compilations ≤ (c.request raw).compilations := by
  by_cases kept : c.contains raw = true
  · exact Nat.le_of_eq (by rw [request_of_contains kept])
  · rw [request_of_not_contains kept, compilations_keep]
    exact Nat.le_succ _

/-- While a cache is not cleared, what every request preserves is preserved. -/
theorem perform_preserves {P : Cache → Prop} (preserved : ∀ c raw, P c → P (c.request raw))
    {c : Cache} {op : Operation} (kept : op ≠ .clear) (h : P c) : P (c.perform op) := by
  rw [perform_eq c kept]
  generalize op.requests = raws
  induction raws generalizing c with
  | nil => exact h
  | cons raw raws ih => exact ih (preserved c raw h)

theorem history_preserves {P : Cache → Prop} (preserved : ∀ c raw, P c → P (c.request raw))
    {c : Cache} {history : List Operation} (kept : .clear ∉ history) (h : P c) :
    P (history.foldl perform c) := by
  induction history generalizing c with
  | nil => exact h
  | cons op history ih =>
    rw [List.mem_cons, not_or] at kept
    exact ih kept.2 (perform_preserves preserved (Ne.symm kept.1) h)

/-- Numbers stay in order over a history. If it clears the cache, all that is kept afterwards is
newer than all that was kept before. -/
theorem Numbered.history {c : Cache} {since : Nat} (h : Numbered c since)
    (history : List Operation) :
    ∃ later, since ≤ later ∧ Numbered (history.foldl perform c) later ∧
      (.clear ∈ history → c.compilations ≤ later) := by
  induction history generalizing c since with
  | nil => exact ⟨since, Nat.le_refl _, h, by simp⟩
  | cons op history ih =>
    by_cases cleared : op = .clear
    · subst cleared
      obtain ⟨later, le, numbered, -⟩ := ih (numbered_clear c)
      exact ⟨later, Nat.le_trans h.past le, numbered, fun _ => le⟩
    · have numbered : Numbered (c.perform op) since :=
        perform_preserves (P := (Numbered · since)) (fun _ raw h => h.request raw) cleared h
      have grown : c.compilations ≤ (c.perform op).compilations :=
        perform_preserves (P := fun d => c.compilations ≤ d.compilations)
          (fun d raw le => Nat.le_trans le (compilations_le_request d raw)) cleared (Nat.le_refl _)
      obtain ⟨later, le, after, bound⟩ := ih numbered
      refine ⟨later, le, after, fun mem => Nat.le_trans grown (bound ?_)⟩
      exact (List.mem_cons.1 mem).resolve_left (Ne.symm cleared)

/-- Two requests to a cache hand out the same object exactly when they are for the same text and
nothing between them clears the cache. -/
theorem serial_eq_iff {c : Cache} {since : Nat} (h : Numbered c since) (raw other : Text)
    (between : List Operation) :
    (c.get raw).value.1.serial =
        ((between.foldl perform (c.request raw)).get other).value.1.serial ↔
      raw = other ∧ .clear ∉ between := by
  have first := find?_request c raw
  have second := find?_request (between.foldl perform (c.request raw)) other
  have numbered := h.request raw
  by_cases cleared : .clear ∈ between
  · -- The second object is numbered after the clearing, the first one before it.
    obtain ⟨later, -, after, bound⟩ := numbered.history between
    have old := (numbered.recent raw _ first).2
    have new := ((after.request other).recent other _ second).1
    have := bound cleared
    constructor
    · intro same
      omega
    · rintro ⟨-, kept⟩
      exact absurd cleared kept
  · -- Both objects are kept at the end.
    have still : (between.foldl perform (c.request raw)).find? raw = some (c.get raw).value.1 :=
      history_preserves (P := fun d => d.find? raw = some (c.get raw).value.1)
        (fun _ other found => find?_request_of_find? found other) cleared first
    have still := find?_request_of_find? still other
    obtain ⟨later, -, after, -⟩ := numbered.history between
    constructor
    · exact fun same => ⟨(after.request other).single raw other _ _ still second same, cleared⟩
    · rintro ⟨rfl, -⟩
      rw [still, Option.some.injEq] at second
      rw [second]

end PathGlob.Cache
