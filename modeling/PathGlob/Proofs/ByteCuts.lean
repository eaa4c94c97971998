import PathGlob.Segment
import PathGlob.Text.Bytes

/-!
# Cuts between bytes

A pattern can be cut without looking at its characters: the bytes of stars and backslashes are found
in its UTF-8 form, and the text is cut at their places. `Split.ofBytes?` does this. It would fail
where a place is inside a character, but no place is: only a star has the byte of a star in it, and
only a backslash that of a backslash (`isSpecial_of_mem`). So cutting between bytes never fails
and comes to the same parts (`Split.ofBytes?_eq`).
-/

namespace PathGlob

namespace Text

/-- A text cut behind a number of bytes, unless they end inside a character. -/
def cutAt? : Nat → Text → Option (Text × Text)
  | 0, t => some ([], t)
  | _ + 1, [] => none
  | n + 1, c :: t =>
    if c.utf8Size ≤ n + 1 then
      (cutAt? (n + 1 - c.utf8Size) t).map fun (front, back) => (c :: front, back)
    else none

theorem cutAt?_append (front back : Text) :
    cutAt? (byteSize front) (front ++ back) = some (front, back) := by
  induction front with
  | nil => cases back <;> rfl
  | cons c front ih =>
    obtain ⟨n, width⟩ := Nat.exists_eq_succ_of_ne_zero (Nat.ne_of_gt c.utf8Size_pos)
    have size : byteSize (c :: front) = n + byteSize front + 1 := by
      rw [byteSize_cons, width]
      omega
    have rest : n + byteSize front + 1 - c.utf8Size = byteSize front := by omega
    rw [size, List.cons_append, cutAt?, if_pos (by omega), rest, ih]
    rfl

theorem bytes_cons (c : Char) (t : Text) : bytes (c :: t) = String.utf8EncodeChar c ++ bytes t := by
  rw [bytes, List.flatMap_cons]
  rfl

end Text

namespace Split

def isSpecialByte (b : UInt8) : Bool :=
  b == 42 || b == 92

/-- A pattern cut around the stretch from the first to the last byte of a star or a backslash. If
the last is that of a backslash the stretch takes in the character behind it. There are no parts if
there is no such byte, and nothing at all if a cut would part the bytes of one character. -/
def ofBytes? (raw : Text) : Option (Option Split) := do
  let bs := raw.bytes
  match bs.findIdx? isSpecialByte, bs.reverse.findIdx? isSpecialByte with
  | some first, some fromEnd =>
    let last := bs.length - 1 - fromEnd
    let (_, behind) ← raw.cutAt? (last + 1)
    let width := if bs[last]? = some 92 then (behind.head?.map Char.utf8Size).getD 0 else 0
    let (front, trail) ← raw.cutAt? (last + 1 + width)
    let (lead, segment) ← front.cutAt? first
    return some ⟨lead, segment, trail⟩
  | _, _ => return none

/-! ### Where the bytes of stars and backslashes are -/

/-- All bytes of a character that is longer than one byte are above those of ASCII characters, so
none of them is that of a star or a backslash. -/
theorem isSpecial_of_mem {c : Char} {b : UInt8} (mem : b ∈ String.utf8EncodeChar c)
    (special : isSpecialByte b) : Token.isSpecial c := by
  have found : b.toNat = 42 ∨ b.toNat = 92 := by
    rcases Bool.or_eq_true_iff.1 special with star | backslash
    · exact .inl (congrArg UInt8.toNat (eq_of_beq star))
    · exact .inr (congrArg UInt8.toNat (eq_of_beq backslash))
  have code : c.toNat = 42 ∨ c.toNat = 92 := by
    change c.val.toNat = 42 ∨ c.val.toNat = 92
    simp only [String.utf8EncodeChar] at mem
    split at mem
    · simp only [List.mem_singleton] at mem
      subst mem
      simp only [UInt8.toNat_ofNat'] at found
      omega
    · exfalso
      have high : 128 ≤ b.toNat := by
        split at mem
        · simp only [List.mem_cons, List.not_mem_nil, or_false] at mem
          rcases mem with rfl | rfl <;> simp only [UInt8.toNat_ofNat'] <;> omega
        · split at mem
          · simp only [List.mem_cons, List.not_mem_nil, or_false] at mem
            rcases mem with rfl | rfl | rfl <;> simp only [UInt8.toNat_ofNat'] <;> omega
          · simp only [List.mem_cons, List.not_mem_nil, or_false] at mem
            rcases mem with rfl | rfl | rfl | rfl <;> simp only [UInt8.toNat_ofNat'] <;> omega
      omega
  rcases code with star | backslash
  · have : c = '*' := Char.toNat_inj.1 star
    subst this
    rfl
  · have : c = '\\' := Char.toNat_inj.1 backslash
    subst this
    rfl

theorem not_isSpecialByte {t : Text} (plain : ∀ c ∈ t, ¬ Token.isSpecial c) :
    ∀ b ∈ t.bytes, ¬ isSpecialByte b := by
  intro b mem special
  obtain ⟨c, inside, byte⟩ := List.mem_flatMap.1 mem
  exact plain c inside (isSpecial_of_mem byte special)

/-- A star and a backslash have one byte each. -/
theorem bytes_of_special {c : Char} (special : Token.isSpecial c) :
    ∃ b, String.utf8EncodeChar c = [b] ∧ c.utf8Size = 1 ∧ isSpecialByte b ∧
      (b = 92 ↔ c = '\\') := by
  have : c = '*' ∨ c = '\\' := by simpa [Token.isSpecial] using special
  rcases this with rfl | rfl
  · exact ⟨42, rfl, rfl, rfl, by decide⟩
  · exact ⟨92, rfl, rfl, rfl, by decide⟩

theorem findIdx?_of_first {α : Type} {p : α → Bool} {xs ys : List α} {y : α}
    (before : ∀ x ∈ xs, ¬ p x) (here : p y) : (xs ++ y :: ys).findIdx? p = some xs.length := by
  have none_before : xs.findIdx? p = none := by simpa using before
  rw [List.findIdx?_append, none_before, List.findIdx?_cons, if_pos here]
  simp

section

variable {before after : Text} {c : Char}

/-- The first star or backslash is at the first byte of one. -/
theorem findIdx?_bytes (plain : ∀ x ∈ before, ¬ Token.isSpecial x) (special : Token.isSpecial c) :
    (before ++ c :: after).bytes.findIdx? isSpecialByte = some before.byteSize := by
  obtain ⟨b, encoded, -, found, -⟩ := bytes_of_special special
  rw [Text.bytes_append, Text.bytes_cons, encoded, List.singleton_append,
    findIdx?_of_first (not_isSpecialByte plain) found, Text.length_bytes]

/-- The last star or backslash is at the last byte of one, told from the end. -/
theorem findIdx?_reverse_bytes (plain : ∀ x ∈ after, ¬ Token.isSpecial x)
    (special : Token.isSpecial c) :
    (before ++ c :: after).bytes.reverse.findIdx? isSpecialByte = some after.byteSize := by
  obtain ⟨b, encoded, -, found, -⟩ := bytes_of_special special
  have plain_bytes : ∀ x ∈ after.bytes.reverse, ¬ isSpecialByte x := by
    simpa using not_isSpecialByte plain
  rw [Text.bytes_append, Text.bytes_cons, encoded, List.singleton_append, List.reverse_append,
    List.reverse_cons, List.append_assoc, List.singleton_append,
    findIdx?_of_first plain_bytes found, List.length_reverse, Text.length_bytes]

/-- The byte at the place of a star or a backslash tells which of them it is. -/
theorem getElem?_bytes (special : Token.isSpecial c) :
    (before ++ c :: after).bytes[before.byteSize]? = some 92 ↔ c = '\\' := by
  obtain ⟨b, encoded, -, -, backslash⟩ := bytes_of_special special
  rw [Text.bytes_append, Text.bytes_cons, encoded, List.singleton_append, ← Text.length_bytes,
    List.getElem?_append_right (Nat.le_refl _), Nat.sub_self, List.getElem?_cons_zero,
    Option.some_inj, backslash]

end

/-! ### Both ways of cutting -/

theorem isSpecial_of_dropWhile {t rest : Text} {c : Char}
    (left : t.dropWhile (!Token.isSpecial ·) = c :: rest) : Token.isSpecial c := by
  have stopped := List.head_dropWhile_not (p := (!Token.isSpecial ·)) (l := t) (by simp [left])
  simpa only [left, List.head_cons, Bool.not_eq_false'] using stopped

theorem dropWhile_ne_nil {t : Text} {c : Char} (mem : c ∈ t) (special : Token.isSpecial c) :
    t.dropWhile (!Token.isSpecial ·) ≠ [] := by
  intro nothing
  have whole := List.takeWhile_append_dropWhile (p := (!Token.isSpecial ·)) (l := t)
  rw [nothing, List.append_nil] at whole
  rw [← whole] at mem
  exact not_special_of_mem_takeWhile mem special

/-- A pattern is cut at its first and at its last star or backslash, before the character behind the
latter is looked at. -/
theorem exists_cut {raw : Text} {s : Split} (h : ofPattern? raw = some s) :
    ∃ lead segment trail, raw = lead ++ segment ++ trail ∧
      (∀ c ∈ lead, ¬ Token.isSpecial c) ∧ (∀ c ∈ trail, ¬ Token.isSpecial c) ∧
      (∃ c rest, segment = c :: rest ∧ Token.isSpecial c) ∧
      (∃ rest c, segment = rest ++ [c] ∧ Token.isSpecial c) ∧
      s = closeEscape lead segment trail := by
  have nonempty : raw.dropWhile (!Token.isSpecial ·) ≠ [] := by
    intro nothing
    simp [ofPattern?, nothing] at h
  obtain ⟨c, later, found⟩ := List.exists_cons_of_ne_nil nonempty
  have first := isSpecial_of_dropWhile found
  have mem : c ∈ (c :: later).reverse := by simp
  obtain ⟨d, earlier, found_back⟩ := List.exists_cons_of_ne_nil (dropWhile_ne_nil mem first)
  have last := isSpecial_of_dropWhile found_back
  have stretch : (d :: earlier).reverse ++
      ((c :: later).reverse.takeWhile (!Token.isSpecial ·)).reverse = c :: later := by
    rw [← found_back, ← List.reverse_append, List.takeWhile_append_dropWhile, List.reverse_reverse]
  refine ⟨raw.takeWhile (!Token.isSpecial ·), (d :: earlier).reverse,
    ((c :: later).reverse.takeWhile (!Token.isSpecial ·)).reverse, ?_, ?_, ?_, ?_, ?_, ?_⟩
  · rw [List.append_assoc, stretch, ← found, List.takeWhile_append_dropWhile]
  · exact fun x inside => not_special_of_mem_takeWhile inside
  · exact fun x inside => not_special_of_mem_takeWhile (List.mem_reverse.1 inside)
  · cases front : (d :: earlier).reverse with
    | nil => simp at front
    | cons x rest =>
      rw [front, List.cons_append] at stretch
      obtain ⟨rfl, -⟩ := List.cons.inj stretch
      exact ⟨x, rest, rfl, first⟩
  · exact ⟨earlier.reverse, d, List.reverse_cons, last⟩
  · simp only [ofPattern?, found, List.isEmpty_cons, found_back] at h
    exact (Option.some.inj h).symm

theorem byteSize_closeEscape (lead segment trail : Text) :
    ((closeEscape lead segment trail).lead ++ (closeEscape lead segment trail).segment).byteSize =
      (lead ++ segment).byteSize +
        if segment.getLast? = some '\\' then (trail.head?.map Char.utf8Size).getD 0 else 0 := by
  cases trail with
  | nil => simp [closeEscape]
  | cons c rest =>
    by_cases last : segment.getLast? = some '\\'
    · rw [closeEscape_of_backslash lead c rest last, if_pos last]
      simp [Nat.add_assoc]
    · rw [closeEscape_of_not_backslash lead _ last, if_neg last]
      rfl

/-- Cutting between bytes never parts a character, and comes to the same parts as cutting between
characters. -/
theorem ofBytes?_eq (raw : Text) : ofBytes? raw = some (ofPattern? raw) := by
  cases cut : ofPattern? raw with
  | none =>
    have plain := not_isSpecialByte (ofPattern?_eq_none_iff.1 cut)
    have unfound : raw.bytes.findIdx? isSpecialByte = none := by simpa using plain
    simp only [ofBytes?, unfound]
    rfl
  | some s =>
    obtain ⟨lead, segment, trail, whole, lead_plain, trail_plain, ⟨c, later, front, first⟩,
      ⟨earlier, d, back, last⟩, closed⟩ := exists_cut cut
    have from_front : raw = lead ++ c :: (later ++ trail) := by
      rw [whole, front, List.append_assoc, List.cons_append]
    have from_back : raw = lead ++ earlier ++ d :: trail := by
      rw [whole, back]
      simp
    have found_first : raw.bytes.findIdx? isSpecialByte = some lead.byteSize := by
      rw [from_front]
      exact findIdx?_bytes lead_plain first
    have found_last : raw.bytes.reverse.findIdx? isSpecialByte = some trail.byteSize := by
      rw [from_back]
      exact findIdx?_reverse_bytes trail_plain last
    obtain ⟨-, -, width, -, -⟩ := bytes_of_special last
    have place : raw.bytes.length - 1 - trail.byteSize = (lead ++ earlier).byteSize := by
      rw [from_back, Text.length_bytes, Text.byteSize_append, Text.byteSize_cons, width]
      omega
    have stop : (lead ++ earlier).byteSize + 1 = (lead ++ segment).byteSize := by
      rw [back, Text.byteSize_append, Text.byteSize_append, Text.byteSize_append,
        Text.byteSize_cons, Text.byteSize_nil, width]
      omega
    have ends : raw.bytes[(lead ++ earlier).byteSize]? = some 92 ↔
        segment.getLast? = some '\\' := by
      rw [from_back, getElem?_bytes last, back, List.getLast?_concat, Option.some_inj]
    have behind : raw.cutAt? (lead ++ segment).byteSize = some (lead ++ segment, trail) := by
      rw [whole]
      exact Text.cutAt?_append _ _
    have taken := byteSize_closeEscape lead segment trail
    rw [← closed] at taken
    simp only [← ends] at taken
    have same_lead : s.lead = lead := by rw [closed, closeEscape_lead]
    have outer : raw.cutAt? (s.lead ++ s.segment).byteSize =
        some (s.lead ++ s.segment, s.trail) := by
      rw [← append_of_ofPattern? cut]
      exact Text.cutAt?_append _ _
    have inner : Text.cutAt? lead.byteSize (s.lead ++ s.segment) = some (s.lead, s.segment) := by
      rw [← same_lead]
      exact Text.cutAt?_append _ _
    simp only [ofBytes?, found_first, found_last, place, stop, behind, Option.bind_some, bind,
      ← taken, outer, inner]
    rfl

end Split

end PathGlob
