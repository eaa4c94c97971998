namespace PathGlob

/-- Characters in order. -/
abbrev Text := List Char

namespace Text

def byteSize : Text → Nat
  | [] => 0
  | c :: t => c.utf8Size + byteSize t

@[simp] theorem byteSize_nil : byteSize [] = 0 := rfl

@[simp] theorem byteSize_cons (c : Char) (t : Text) :
    byteSize (c :: t) = c.utf8Size + byteSize t := rfl

@[simp] theorem byteSize_append (s t : Text) : byteSize (s ++ t) = byteSize s + byteSize t := by
  induction s with
  | nil => simp
  | cons c s ih => simp [ih, Nat.add_assoc]

/-- What follows `lead`, for a text that begins with it. -/
def after? : Text → Text → Option Text
  | [], t => some t
  | _ :: _, [] => none
  | c :: lead, x :: t => if c = x then after? lead t else none

theorem after?_eq_some_iff {lead t rest : Text} : after? lead t = some rest ↔ t = lead ++ rest := by
  induction lead generalizing t with
  | nil => simp [after?]
  | cons c lead ih =>
    cases t with
    | nil => simp [after?]
    | cons x t =>
      by_cases h : c = x
      · simp [after?, h, ih]
      · simp [after?, h, Ne.symm h]

@[simp] theorem after?_append (lead rest : Text) : after? lead (lead ++ rest) = some rest :=
  after?_eq_some_iff.2 rfl

/-- What precedes `trail`, for a text that ends with it. -/
def before? (trail t : Text) : Option Text :=
  (after? trail.reverse t.reverse).map List.reverse

theorem before?_eq_some_iff {trail t rest : Text} :
    before? trail t = some rest ↔ t = rest ++ trail := by
  simp only [before?, Option.map_eq_some_iff, after?_eq_some_iff]
  constructor
  · rintro ⟨r, h, rfl⟩
    simpa using congrArg List.reverse h
  · rintro rfl
    exact ⟨rest.reverse, by simp, by simp⟩

@[simp] theorem before?_append (trail rest : Text) : before? trail (rest ++ trail) = some rest :=
  before?_eq_some_iff.2 rfl

def splitOn (mark : Char) : Text → List Text
  | [] => [[]]
  | c :: t =>
    if c = mark then [] :: splitOn mark t
    else match splitOn mark t with
      | [] => [[c]]
      | part :: rest => (c :: part) :: rest

/-- Skipping up to a character leaves less behind it than there was. -/
theorem length_lt_of_dropWhile {p : Char → Bool} {t rest : Text} {c : Char}
    (h : t.dropWhile p = c :: rest) : rest.length < t.length := by
  have := (List.dropWhile_sublist (l := t) p).length_le
  rw [h] at this
  simpa [Nat.succ_le_iff] using this

end Text

end PathGlob
