/-
Lines and words.

A separator cuts a text in two whatever stands on its sides (`cut_append_cons`),
and all that is said here of lines and words follows from that.  Words do not see
the blanks around a text, so a text and its trimmed form have the same words; a
text of one word is that word when it is trimmed.
-/
import RoverMission.Text.Blank

namespace RoverMission
namespace Text

/-! ## Pieces -/

variable {p : Char → Bool}

theorem extendFirst_append (c : Char) {pieces : List Text} (h : pieces ≠ []) (more : List Text) :
    extendFirst c (pieces ++ more) = extendFirst c pieces ++ more := by
  cases pieces with
  | nil => exact absurd rfl h
  | cons piece pieces => rfl

theorem cut_append_cons {s : Char} (hs : p s = true) (a b : Text) :
    cut p (a ++ s :: b) = cut p a ++ cut p b := by
  induction a with
  | nil => simp [cut_cons, cut_nil, hs]
  | cons c a ih =>
    rw [List.cons_append, cut_cons, cut_cons, ih]
    split
    · rfl
    · exact extendFirst_append c (cut_ne_nil p a) _

theorem cut_of_forall {t : Text} (h : ∀ c ∈ t, p c = false) : cut p t = [t] := by
  induction t with
  | nil => rfl
  | cons c t ih =>
    have hc : p c = false := h c List.mem_cons_self
    rw [cut_cons, ih fun d hd => h d (List.mem_cons_of_mem c hd), hc]
    rfl

theorem cut_of_not_mem {s : Char} {t : Text} (h : s ∉ t) : cut (· == s) t = [t] :=
  cut_of_forall fun c hc => by simpa using fun hs : c = s => h (hs ▸ hc)

/-- The separators themselves are in no piece. -/
theorem not_of_mem_cut {t piece : Text} (h : piece ∈ cut p t) : ∀ c ∈ piece, p c = false := by
  induction t generalizing piece with
  | nil =>
    rw [List.mem_singleton.1 h]
    exact List.forall_mem_nil _
  | cons c t ih =>
    rw [cut_cons] at h
    split at h
    · rcases List.mem_cons.1 h with rfl | h
      · exact List.forall_mem_nil _
      · exact ih h
    · rename_i hc
      have hc : p c = false := by simpa using hc
      cases hpieces : cut p t with
      | nil => exact absurd hpieces (cut_ne_nil p t)
      | cons first pieces =>
        rw [hpieces] at h ih
        rcases List.mem_cons.1 h with rfl | h
        · exact List.forall_mem_cons.2 ⟨hc, ih List.mem_cons_self⟩
        · exact ih (List.mem_cons_of_mem first h)

/-- Joining is undone by cutting, if the separator stands in no piece. -/
theorem cut_joined {s : Char} {pieces : List Text} (hne : pieces ≠ [])
    (h : ∀ piece ∈ pieces, s ∉ piece) : cut (· == s) (joined [s] pieces) = pieces := by
  induction pieces with
  | nil => exact absurd rfl hne
  | cons piece pieces ih =>
    obtain ⟨hpiece, hpieces⟩ := List.forall_mem_cons.1 h
    have hcut : cut (· == s) piece = [piece] := cut_of_not_mem hpiece
    cases pieces with
    | nil => exact hcut
    | cons next pieces =>
      have hrest := ih (List.cons_ne_nil next pieces) hpieces
      show cut (· == s) (piece ++ [s] ++ joined [s] (next :: pieces)) = piece :: next :: pieces
      rw [List.append_assoc, List.singleton_append, cut_append_cons (p := (· == s)) (beq_self_eq_true s),
        hcut, hrest, List.singleton_append]

theorem not_mem_joined {c : Char} {separator : Text} (hs : c ∉ separator) {pieces : List Text}
    (h : ∀ piece ∈ pieces, c ∉ piece) : c ∉ joined separator pieces := by
  induction pieces with
  | nil => exact List.not_mem_nil
  | cons piece pieces ih =>
    obtain ⟨hpiece, hpieces⟩ := List.forall_mem_cons.1 h
    cases pieces with
    | nil => exact hpiece
    | cons next pieces =>
      show c ∉ piece ++ separator ++ joined separator (next :: pieces)
      rw [List.mem_append, List.mem_append, not_or, not_or]
      exact ⟨⟨hpiece, hs⟩, ih hpieces⟩

/-! ## Words -/

/-- A text of blanks only. -/
def IsBlank (t : Text) : Prop := ∀ c ∈ t, isBlank c = true

instance (t : Text) : Decidable t.IsBlank := List.decidableBAll _ t

/-- A text that can be a word. -/
def IsWord (t : Text) : Prop := t ≠ [] ∧ ∀ c ∈ t, isBlank c = false

instance (t : Text) : Decidable t.IsWord :=
  @instDecidableAnd _ _ inferInstance (List.decidableBAll _ t)

theorem isBlank_nil : IsBlank [] := List.forall_mem_nil _

theorem isBlank_cons {c : Char} {t : Text} :
    IsBlank (c :: t) ↔ isBlank c = true ∧ t.IsBlank := List.forall_mem_cons

theorem words_append_cons {s : Char} (hs : isBlank s = true) (a b : Text) :
    words (a ++ s :: b) = words a ++ words b := by
  rw [words, cut_append_cons hs, List.filter_append]
  rfl

theorem words_of_isWord {t : Text} (h : t.IsWord) : words t = [t] := by
  rw [words, cut_of_forall h.2]
  simp [h.1]

theorem words_blank_append {pad : Text} (h : pad.IsBlank) (t : Text) :
    words (pad ++ t) = words t := by
  induction pad with
  | nil => rfl
  | cons c pad ih =>
    obtain ⟨hc, hpad⟩ := isBlank_cons.1 h
    rw [List.cons_append, words_cons_blank hc]
    exact ih hpad

theorem words_of_isBlank {t : Text} (h : t.IsBlank) : words t = [] := by
  have ht := words_blank_append h []
  rwa [List.append_nil, words_nil] at ht

theorem words_append_blank {pad : Text} (h : pad.IsBlank) (t : Text) :
    words (t ++ pad) = words t := by
  cases pad with
  | nil => rw [List.append_nil]
  | cons c pad =>
    obtain ⟨hc, hpad⟩ := isBlank_cons.1 h
    rw [words_append_cons hc, words_of_isBlank hpad, List.append_nil]

/-- A text begins with a word, unless it is blank. -/
theorem exists_word_of_not_blank {c : Char} (h : isBlank c = false) (t : Text) :
    ∃ w rest, c :: t = w ++ rest ∧ IsWord w ∧
      (rest = [] ∨ ∃ s back, rest = s :: back ∧ isBlank s = true) := by
  induction t generalizing c with
  | nil => exact ⟨[c], [], rfl, ⟨by simp, by simpa using h⟩, Or.inl rfl⟩
  | cons d t ih =>
    cases hd : isBlank d with
    | true => exact ⟨[c], d :: t, rfl, ⟨by simp, by simpa using h⟩, Or.inr ⟨d, t, rfl, hd⟩⟩
    | false =>
      obtain ⟨w, rest, he, hw, hrest⟩ := ih hd
      have hword : IsWord (c :: w) := ⟨by simp, List.forall_mem_cons.2 ⟨h, hw.2⟩⟩
      exact ⟨c :: w, rest, congrArg (c :: ·) he, hword, hrest⟩

theorem isBlank_of_words {t : Text} (h : words t = []) : t.IsBlank := by
  induction t with
  | nil => exact isBlank_nil
  | cons c t ih =>
    cases hc : isBlank c with
    | true =>
      rw [words_cons_blank hc] at h
      exact isBlank_cons.2 ⟨hc, ih h⟩
    | false =>
      obtain ⟨w, rest, he, hw, hrest⟩ := exists_word_of_not_blank hc t
      rw [he] at h
      rcases hrest with rfl | ⟨s, back, rfl, hs⟩
      · rw [List.append_nil, words_of_isWord hw] at h
        cases h
      · rw [words_append_cons hs, words_of_isWord hw] at h
        cases h

/-- A text of one word is the word between blanks. -/
theorem exists_pads_of_words {t w : Text} (h : words t = [w]) :
    ∃ front back : Text, t = front ++ w ++ back ∧ w.IsWord ∧ front.IsBlank ∧ back.IsBlank := by
  induction t with
  | nil => cases h
  | cons c t ih =>
    cases hc : isBlank c with
    | true =>
      rw [words_cons_blank hc] at h
      obtain ⟨front, back, rfl, hw, hfront, hback⟩ := ih h
      exact ⟨c :: front, back, rfl, hw, isBlank_cons.2 ⟨hc, hfront⟩, hback⟩
    | false =>
      obtain ⟨w', rest, he, hw, hrest⟩ := exists_word_of_not_blank hc t
      rw [he] at h ⊢
      rcases hrest with rfl | ⟨s, back, rfl, hs⟩
      · rw [List.append_nil, words_of_isWord hw] at h
        cases h
        exact ⟨[], [], by simp, hw, isBlank_nil, isBlank_nil⟩
      · rw [words_append_cons hs, words_of_isWord hw] at h
        simp only [List.cons_append, List.nil_append, List.cons.injEq] at h
        obtain ⟨rfl, hback⟩ := h
        exact ⟨[], s :: back, rfl, hw, isBlank_nil, isBlank_cons.2 ⟨hs, isBlank_of_words hback⟩⟩

/-! ## Trimming -/

theorem exists_pads_trim (t : Text) :
    ∃ front back : Text, t = front ++ trim t ++ back ∧ front.IsBlank ∧ back.IsBlank := by
  have htake : ∀ u : Text, IsBlank (u.takeWhile isBlank) := fun u =>
    List.all_eq_true.1 List.all_takeWhile
  refine ⟨t.takeWhile isBlank, ((t.dropWhile isBlank).reverse.takeWhile isBlank).reverse, ?_,
    htake t, fun c hc => htake _ c (List.mem_reverse.1 hc)⟩
  rw [trim, List.append_assoc, ← List.reverse_append, List.takeWhile_append_dropWhile,
    List.reverse_reverse, List.takeWhile_append_dropWhile]

theorem mem_of_mem_trim {c : Char} {t : Text} (h : c ∈ trim t) : c ∈ t := by
  obtain ⟨front, back, ht, -, -⟩ := exists_pads_trim t
  rw [ht]
  exact List.mem_append_left _ (List.mem_append_right _ h)

theorem words_trim (t : Text) : words (trim t) = words t := by
  obtain ⟨front, back, ht, hfront, hback⟩ := exists_pads_trim t
  have hw : words (front ++ trim t ++ back) = words (trim t) := by
    rw [List.append_assoc, words_blank_append hfront, words_append_blank hback]
  rw [← hw, ← ht]

theorem dropWhile_blank_append {pad w : Text} (hpad : pad.IsBlank) (hw : w.IsWord) (t : Text) :
    (pad ++ (w ++ t)).dropWhile isBlank = w ++ t := by
  rw [List.dropWhile_append_of_pos hpad]
  obtain ⟨c, w, rfl⟩ := List.exists_cons_of_ne_nil hw.1
  rw [List.cons_append, List.dropWhile_cons, hw.2 c List.mem_cons_self]
  rfl

theorem isWord_reverse {w : Text} (h : w.IsWord) : IsWord w.reverse :=
  ⟨by simpa using h.1, fun c hc => h.2 c (List.mem_reverse.1 hc)⟩

theorem trim_pads {front w back : Text} (hfront : front.IsBlank) (hw : w.IsWord)
    (hback : back.IsBlank) : trim (front ++ w ++ back) = w := by
  have hback' : IsBlank back.reverse := fun c hc => hback c (List.mem_reverse.1 hc)
  rw [trim, List.append_assoc, dropWhile_blank_append hfront hw, List.reverse_append]
  have hdrop := dropWhile_blank_append hback' (isWord_reverse hw) []
  rw [List.append_nil] at hdrop
  rw [hdrop, List.reverse_reverse]

theorem trim_of_words {t w : Text} (h : words t = [w]) : trim t = w := by
  obtain ⟨front, back, rfl, hw, hfront, hback⟩ := exists_pads_of_words h
  exact trim_pads hfront hw hback

theorem trim_eq_nil_iff {t : Text} : trim t = [] ↔ t.IsBlank := by
  constructor
  · intro h
    have hw := words_trim t
    rw [h, words_nil] at hw
    exact isBlank_of_words hw.symm
  · intro h
    have hdrop : (t ++ []).dropWhile isBlank = [] := List.dropWhile_append_of_pos h
    rw [List.append_nil] at hdrop
    rw [trim, hdrop]
    rfl

/-! ## Lines -/

theorem newline_not_mem_of_mem_lines {t line : Text} (h : line ∈ lines t) : '\n' ∉ line := by
  intro hn
  have hfalse := not_of_mem_cut h '\n' hn
  exact absurd hfalse (by decide)

theorem newline_not_mem_of_mem_contentLines {t line : Text} (h : line ∈ contentLines t) :
    '\n' ∉ line := by
  rw [contentLines] at h
  obtain ⟨whole, hwhole, rfl⟩ := List.mem_map.1 (List.mem_filter.1 h).1
  exact fun hn => newline_not_mem_of_mem_lines hwhole (mem_of_mem_trim hn)

theorem newline_not_mem_of_mem_words {t word : Text} (h : word ∈ words t) : '\n' ∉ word := by
  intro hn
  have hfalse := not_of_mem_cut (List.mem_filter.1 h).1 '\n' hn
  exact absurd hfalse (by decide)

theorem lines_flatMap_append {pieces : List Text} (h : ∀ piece ∈ pieces, '\n' ∉ piece)
    (rest : Text) :
    lines ((pieces.flatMap fun piece => piece ++ "\n".toList) ++ rest) = pieces ++ lines rest := by
  induction pieces with
  | nil => rfl
  | cons piece pieces ih =>
    obtain ⟨hpiece, hpieces⟩ := List.forall_mem_cons.1 h
    have hcut : cut (· == '\n') piece = [piece] := cut_of_not_mem hpiece
    have happend : ((piece :: pieces).flatMap fun piece => piece ++ "\n".toList) ++ rest =
        piece ++ '\n' :: ((pieces.flatMap fun piece => piece ++ "\n".toList) ++ rest) := by
      simp
    rw [happend, lines, cut_append_cons (p := (· == '\n')) rfl, hcut, ← lines, ih hpieces]
    rfl

theorem lines_flatMap {pieces : List Text} (h : ∀ piece ∈ pieces, '\n' ∉ piece) :
    lines (pieces.flatMap fun piece => piece ++ "\n") = pieces ++ [[]] := by
  have hlines := lines_flatMap_append h []
  rwa [List.append_nil] at hlines

/-- The lines of a text that are not blank. -/
def inkedLines (t : Text) : List Text := (lines t).filter fun line => ¬ line.IsBlank

theorem contentLines_eq (t : Text) : contentLines t = (inkedLines t).map trim := by
  have hp : ((fun line : Text => !line.isEmpty) ∘ trim) = fun line => decide ¬ line.IsBlank := by
    funext line
    by_cases h : line.IsBlank
    · simp [h, trim_eq_nil_iff.2 h]
    · simp [h, mt trim_eq_nil_iff.1 h]
  rw [contentLines, List.filter_map, hp]
  rfl

theorem inkedLines_append (a b : Text) :
    inkedLines (a ++ '\n' :: b) = inkedLines a ++ inkedLines b := by
  rw [inkedLines, lines, cut_append_cons (by decide), List.filter_append]
  rfl

theorem inkedLines_of_forall {t : Text} (h : '\n' ∉ t) :
    inkedLines t = if t.IsBlank then [] else [t] := by
  rw [inkedLines, lines, cut_of_not_mem h]
  split <;> simp [*]

theorem inkedLines_flatMap {lines : List Text} (h : ∀ line ∈ lines, '\n' ∉ line) :
    inkedLines (lines.flatMap fun line => line ++ "\n") =
      lines.filter fun line => ¬ line.IsBlank := by
  induction lines with
  | nil => rfl
  | cons line lines ih =>
    obtain ⟨hline, hlines⟩ := List.forall_mem_cons.1 h
    have happend : ∀ rest : Text, line ++ "\n".toList ++ rest = line ++ '\n' :: rest := fun rest =>
      List.append_assoc line _ rest
    rw [List.flatMap_cons, happend, inkedLines_append, inkedLines_of_forall hline, ih hlines,
      List.filter_cons]
    split <;> simp [*]

end Text
end RoverMission
