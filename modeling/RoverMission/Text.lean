/-
Texts are lists of characters.

Every reader in this library recurses on the characters of its input, so a text
is the list itself and string literals are read as texts where one is expected.
`cut` splits at the characters of a class and is the one splitter everything
else is built from; `joined_cut` says that cutting loses nothing but the
separators.
-/

namespace RoverMission

abbrev Text := List Char

instance : Coe String Text := ⟨String.toList⟩

namespace Text

/-- Put a character in front of the first piece. -/
def extendFirst (c : Char) : List Text → List Text
  | [] => [[c]]
  | piece :: pieces => (c :: piece) :: pieces

/-- The pieces between the characters of a class, empty pieces included. -/
def cut (p : Char → Bool) (t : Text) : List Text :=
  t.foldr (fun c pieces => if p c then [] :: pieces else extendFirst c pieces) [[]]

theorem cut_nil (p : Char → Bool) : cut p [] = [[]] := rfl

theorem cut_cons (p : Char → Bool) (c : Char) (t : Text) :
    cut p (c :: t) = if p c then [] :: cut p t else extendFirst c (cut p t) := rfl

theorem extendFirst_ne_nil (c : Char) (pieces : List Text) : extendFirst c pieces ≠ [] := by
  cases pieces <;> simp [extendFirst]

theorem cut_ne_nil (p : Char → Bool) (t : Text) : cut p t ≠ [] := by
  cases t with
  | nil => simp [cut_nil]
  | cons c t =>
    rw [cut_cons]
    split
    · simp
    · exact extendFirst_ne_nil c _

/-- The pieces of the lines of a text: line feeds separate lines, and a final
line feed leaves an empty last line. -/
def lines (t : Text) : List Text := cut (· == '\n') t

/-- Pieces with a separator text between each two. -/
def joined (separator : Text) : List Text → Text
  | [] => []
  | [piece] => piece
  | piece :: pieces => piece ++ separator ++ joined separator pieces

/-- With one separator character, cutting is undone by joining. -/
theorem joined_cut (s : Char) (t : Text) : joined [s] (cut (· == s) t) = t := by
  induction t with
  | nil => rfl
  | cons c t ih =>
    rw [cut_cons]
    cases h : cut (· == s) t with
    | nil => exact absurd h (cut_ne_nil _ t)
    | cons piece pieces =>
      rw [h] at ih
      by_cases hc : c = s
      · simp only [hc, beq_self_eq_true, if_true, joined, List.nil_append, List.singleton_append]
        rw [ih]
      · have hb : (c == s) = false := by simpa using hc
        rw [← ih]
        cases pieces <;> simp [hb, extendFirst, joined]

/-- The longest beginning made of characters of a class, and the rest. -/
def run (p : Char → Bool) (t : Text) : Text × Text := (t.takeWhile p, t.dropWhile p)

theorem append_run (p : Char → Bool) (t : Text) : (run p t).1 ++ (run p t).2 = t :=
  List.takeWhile_append_dropWhile

/-- A run ends with the first character of another class. -/
theorem run_append {p : Char → Bool} {t rest : Text} (h : ∀ c ∈ t, p c = true)
    (hrest : ∀ c ∈ rest.head?, p c = false) : run p (t ++ rest) = (t, rest) := by
  rw [run, List.takeWhile_append_of_pos h, List.dropWhile_append_of_pos h]
  cases rest with
  | nil => rw [List.takeWhile_nil, List.dropWhile_nil, List.append_nil]
  | cons c rest =>
    have hc : ¬ p c = true := by simp [hrest c rfl]
    rw [List.takeWhile_cons_of_neg hc, List.dropWhile_cons_of_neg hc, List.append_nil]

theorem run_until {s : Char} {t rest : Text} (h : s ∉ t) (hrest : ∀ c ∈ rest.head?, c = s) :
    run (· != s) (t ++ rest) = (t, rest) :=
  run_append (fun c hc => by simpa using fun he : c = s => h (he ▸ hc))
    fun c hc => by simpa using hrest c hc

theorem run_of_not_mem {s : Char} {t : Text} (h : s ∉ t) : run (· != s) t = (t, []) := by
  have hrun : run (· != s) (t ++ []) = (t, []) := run_until h fun c hc => by cases hc
  rwa [List.append_nil] at hrun

/-- Whether `part` occurs in the text from its first character on; the rest of
the text if so. -/
def after? : (part : Text) → Text → Option Text
  | [], t => some t
  | _ :: _, [] => none
  | p :: part, c :: t => if p = c then after? part t else none

theorem after?_append (part t : Text) : after? part (part ++ t) = some t := by
  induction part with
  | nil => rfl
  | cons p part ih => simp [after?, ih]

theorem eq_append_of_after? {part t rest : Text} (h : after? part t = some rest) :
    t = part ++ rest := by
  induction part generalizing t with
  | nil => simpa [after?] using h
  | cons p part ih =>
    cases t with
    | nil => simp [after?] at h
    | cons c t =>
      by_cases hp : p = c
      · simp only [after?, hp, if_true] at h
        simp [hp, ih h]
      · simp [after?, hp] at h

/-- The lower case of the ASCII letters; every other character is kept. -/
def lower (t : Text) : Text := t.map Char.toLower

/-- The bytes of a text in UTF-8. -/
def utf8 (t : Text) : List UInt8 := t.flatMap String.utf8EncodeChar

theorem utf8_append (s t : Text) : utf8 (s ++ t) = utf8 s ++ utf8 t := by
  simp [utf8]

/-- The size of a text in bytes. -/
def size (t : Text) : Nat := (utf8 t).length

theorem size_nil : size [] = 0 := rfl

theorem size_cons (c : Char) (t : Text) : size (c :: t) = c.utf8Size + size t := by
  rw [size, utf8, List.flatMap_cons, List.length_append, String.length_utf8EncodeChar]
  rfl

/-- A text cut in two at a place counted in bytes, which must not be inside of a
character or behind the end. -/
def cutAt? : (place : Nat) → Text → Option (Text × Text)
  | 0, t => some ([], t)
  | _ + 1, [] => none
  | place + 1, c :: t =>
    if c.utf8Size ≤ place + 1 then
      (cutAt? (place + 1 - c.utf8Size) t).map fun (before, behind) => (c :: before, behind)
    else none

theorem cutAt?_append (before behind : Text) :
    cutAt? (size before) (before ++ behind) = some (before, behind) := by
  induction before with
  | nil => rw [size_nil, List.nil_append, cutAt?]
  | cons c before ih =>
    have hc := c.utf8Size_pos
    obtain ⟨place, hplace⟩ : ∃ place, size (c :: before) = place + 1 :=
      Nat.exists_eq_succ_of_ne_zero (by rw [size_cons]; omega)
    rw [hplace, List.cons_append, cutAt?, ← hplace, size_cons, if_pos (by omega),
      Nat.add_sub_cancel_left, ih]
    rfl

/-- The text that bytes spell in UTF-8, if they do. -/
def ofUtf8? (bytes : ByteArray) : Option Text := (String.fromUTF8? bytes).map String.toList

theorem ofUtf8?_utf8 (t : Text) : ofUtf8? ⟨(utf8 t).toArray⟩ = some t := by
  have hbytes : (⟨(utf8 t).toArray⟩ : ByteArray) = (String.ofList t).toByteArray := by
    apply ByteArray.ext
    rw [String.toByteArray_ofList, List.utf8Encode, List.data_toByteArray]
    rfl
  have hdecode : String.fromUTF8? (String.ofList t).toByteArray = some (String.ofList t) :=
    dif_pos (String.ofList t).isValidUTF8
  rw [ofUtf8?, hbytes, hdecode, Option.map_some, String.toList_ofList]

end Text
end RoverMission
