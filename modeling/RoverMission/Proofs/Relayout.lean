/-
Changes of layout.

A text is laid out anew by small changes: a blank line comes in, blanks are put at an end
of a line, line feeds become carriage returns with line feeds, and the end of the last line
comes or goes (`Text.Relaid`).  None of them is seen in the trimmed lines that are not
blank, and a mission is read from these alone.  So a text that is laid out anew is read as
the same mission, or refused for the same fault, with the same lines quoted and the same
rover named (`Mission.ofText_of_relaid`).
-/
import Mathlib.Data.List.TakeWhile
import Mathlib.Logic.Relation
import RoverMission.Mission.Reader
import RoverMission.Proofs.Layout

namespace RoverMission
namespace Text

/-! ## Changes -/

/-- A text behind which a line begins. -/
def StartsLine (front : Text) : Prop := front = [] ∨ ∃ before, front = before ++ ['\n']

/-- A text in front of which a line ends. -/
def EndsLine (back : Text) : Prop :=
  back = [] ∨ ∃ eol rest, Field.IsLineEnd eol ∧ back = eol ++ rest

/-- The text with a carriage return in front of every line feed. -/
def withReturns (t : Text) : Text := t.flatMap fun c => if c = '\n' then ['\r', '\n'] else [c]

/-- One change of the layout of a text. -/
inductive Relaid : Text → Text → Prop
  | insertLine {front back pad eol : Text} (hfront : StartsLine front) (hpad : Field.IsPadding pad)
    (heol : Field.IsLineEnd eol) : Relaid (front ++ back) (front ++ (pad ++ eol) ++ back)
  | appendLine (t : Text) {pad eol : Text} (hpad : Field.IsPadding pad)
    (heol : Field.IsLineEnd eol) :
    Relaid t (t ++ eol ++ pad)
  | padStart {front back pad : Text} (hfront : StartsLine front) (hpad : Field.IsPadding pad) :
    Relaid (front ++ back) (front ++ pad ++ back)
  | padEnd {front back pad : Text} (hback : EndsLine back) (hpad : Field.IsPadding pad) :
    Relaid (front ++ back) (front ++ pad ++ back)
  | returns (t : Text) : Relaid t (withReturns t)
  | terminate (t : Text) {eol : Text} (heol : Field.IsLineEnd eol) : Relaid t (t ++ eol)
  | unterminate (t : Text) {eol : Text} (heol : Field.IsLineEnd eol) : Relaid (t ++ eol) t

/-! ## Trimming -/

variable {pad : Text}

theorem trim_blank_append (h : pad.IsBlank) (t : Text) : trim (pad ++ t) = trim t := by
  rw [trim, List.dropWhile_append_of_pos h, trim]

theorem trim_append_blank (h : pad.IsBlank) (t : Text) : trim (t ++ pad) = trim t := by
  by_cases ht : t.IsBlank
  · have hall : IsBlank (t ++ pad) := fun c hc => (List.mem_append.1 hc).elim (ht c) (h c)
    rw [trim_eq_nil_iff.2 hall, trim_eq_nil_iff.2 ht]
  · have hne : ¬ (t.dropWhile isBlank).isEmpty = true := by
      rw [List.isEmpty_iff, List.dropWhile_eq_nil_iff]
      exact ht
    have hpad : IsBlank pad.reverse := fun c hc => h c (List.mem_reverse.1 hc)
    rw [trim, List.dropWhile_append, if_neg hne, List.reverse_append,
      List.dropWhile_append_of_pos hpad, trim]

/-! ## Content lines -/

/-- A text is a line, or a line in front of other lines. -/
theorem line_induction {P : Text → Prop} (last : ∀ line, '\n' ∉ line → P line)
    (cons : ∀ line rest, '\n' ∉ line → P rest → P (line ++ '\n' :: rest)) (t : Text) : P t := by
  induction hn : t.length using Nat.strongRecOn generalizing t with
  | _ n ih =>
    by_cases hmem : '\n' ∈ t
    · obtain ⟨line, rest, rfl, hline⟩ := List.eq_append_cons_of_mem hmem
      rw [List.length_append, List.length_cons] at hn
      exact cons line rest hline (ih rest.length (by omega) rest rfl)
    · exact last t hmem

theorem contentLines_nil : contentLines [] = [] := rfl

theorem contentLines_append (a b : Text) :
    contentLines (a ++ '\n' :: b) = contentLines a ++ contentLines b := by
  rw [contentLines_eq, inkedLines_append, List.map_append, ← contentLines_eq, ← contentLines_eq]

/-- Of a single line the content is its trimmed form. -/
theorem contentLines_congr {line line' : Text} (h : '\n' ∉ line) (h' : '\n' ∉ line')
    (htrim : trim line = trim line') : contentLines line = contentLines line' := by
  rw [contentLines, contentLines, lines, lines, cut_of_not_mem h, cut_of_not_mem h',
    List.map_singleton, List.map_singleton, htrim]

theorem contentLines_of_isPadding (h : Field.IsPadding pad) : contentLines pad = [] := by
  rw [contentLines_eq, Field.inkedLines_of_isPadding h]
  rfl

theorem contentLines_pad_append (h : Field.IsPadding pad) (t : Text) :
    contentLines (pad ++ t) = contentLines t := by
  have hline : ∀ line : Text, '\n' ∉ line → contentLines (pad ++ line) = contentLines line :=
    fun line hline => contentLines_congr (by simp [h.2, hline]) hline (trim_blank_append h.1 line)
  -- The blanks stand on the first line only.
  induction t using line_induction with
  | last line hnone => exact hline line hnone
  | cons line rest hnone _ =>
    rw [← List.append_assoc, contentLines_append, contentLines_append, hline line hnone]

theorem contentLines_append_pad (h : Field.IsPadding pad) (t : Text) :
    contentLines (t ++ pad) = contentLines t := by
  induction t using line_induction with
  | last line hnone =>
    exact contentLines_congr (by simp [h.2, hnone]) hnone (trim_append_blank h.1 line)
  | cons line rest _ ih =>
    rw [List.append_assoc, List.cons_append, contentLines_append, contentLines_append, ih]

theorem contentLines_append_lineEnd {eol : Text} (h : Field.IsLineEnd eol) (a b : Text) :
    contentLines (a ++ eol ++ b) = contentLines a ++ contentLines b := by
  obtain ⟨cr, hcr, rfl⟩ := Field.exists_of_isLineEnd h
  rw [← List.append_assoc, List.append_assoc, List.singleton_append, contentLines_append,
    contentLines_append_pad hcr]

/-- What begins on a line of its own adds its content to the content in front of it. -/
theorem contentLines_of_startsLine {front : Text} (h : StartsLine front) (t : Text) :
    contentLines (front ++ t) = contentLines front ++ contentLines t := by
  rcases h with rfl | ⟨before, rfl⟩
  · rfl
  · rw [List.append_assoc, List.singleton_append, contentLines_append, contentLines_append,
      contentLines_nil, List.append_nil]

theorem contentLines_of_endsLine {back : Text} (h : EndsLine back) (t : Text) :
    contentLines (t ++ back) = contentLines t ++ contentLines back := by
  rcases h with rfl | ⟨eol, rest, heol, rfl⟩
  · rw [List.append_nil, contentLines_nil, List.append_nil]
  · have hback := contentLines_append_lineEnd heol [] rest
    rw [List.nil_append, contentLines_nil, List.nil_append] at hback
    rw [← List.append_assoc, contentLines_append_lineEnd heol, hback]

theorem contentLines_withReturns (t : Text) : contentLines (withReturns t) = contentLines t := by
  have hself : ∀ line : Text, '\n' ∉ line → withReturns line = line := fun line hnone => by
    induction line with
    | nil => rfl
    | cons c line ih =>
      obtain ⟨hc, hline⟩ := not_or.1 (mt List.mem_cons.2 hnone)
      rw [withReturns, List.flatMap_cons, if_neg (Ne.symm hc)]
      exact congrArg (c :: ·) (ih hline)
  induction t using line_induction with
  | last line hnone => rw [hself line hnone]
  | cons line rest hnone ih =>
    have hsplit :
        withReturns (line ++ '\n' :: rest) = line ++ "\r\n".toList ++ withReturns rest := by
      rw [withReturns, List.flatMap_append, List.flatMap_cons, if_pos rfl, ← withReturns,
        ← withReturns, hself line hnone, ← List.append_assoc]
      rfl
    rw [hsplit, contentLines_append_lineEnd (Or.inr rfl), contentLines_append, ih]

theorem contentLines_of_relaid {t t' : Text} (h : Relaid t t') :
    contentLines t' = contentLines t := by
  cases h with
  | @insertLine front back pad eol hfront hpad heol =>
    rw [List.append_assoc, contentLines_of_startsLine hfront, contentLines_of_startsLine hfront,
      contentLines_append_lineEnd heol, contentLines_of_isPadding hpad, List.nil_append]
  | appendLine t hpad heol =>
    rw [contentLines_append_lineEnd heol, contentLines_of_isPadding hpad, List.append_nil]
  | padStart hfront hpad =>
    rw [List.append_assoc, contentLines_of_startsLine hfront, contentLines_of_startsLine hfront,
      contentLines_pad_append hpad]
  | padEnd hback hpad =>
    rw [contentLines_of_endsLine hback, contentLines_of_endsLine hback,
      contentLines_append_pad hpad]
  | returns t => exact contentLines_withReturns t
  | terminate t heol =>
    have hend := contentLines_append_lineEnd heol t []
    rwa [List.append_nil, contentLines_nil, List.append_nil] at hend
  | unterminate t heol =>
    have hend := contentLines_append_lineEnd heol t' []
    rw [List.append_nil, contentLines_nil, List.append_nil] at hend
    exact hend.symm

theorem contentLines_of_reflTransGen_relaid {t t' : Text} (h : Relation.ReflTransGen Relaid t t') :
    contentLines t' = contentLines t := by
  induction h with
  | refl => rfl
  | tail _ hlast ih => exact (contentLines_of_relaid hlast).trans ih

end Text

namespace Mission

/-- However the layout of a text is changed, the text is read as the same mission, or
refused for the same fault. -/
theorem ofText_of_relaid (t t' : Text) (h : Relation.ReflTransGen Text.Relaid t t') :
    ofText t' = ofText t := by
  rw [ofText, ofText, Text.contentLines_of_reflTransGen_relaid h]

/-- A text that is refused for its instructions, and the same with a blank line, blanks at
both ends of a line, an end behind the last line, and carriage returns throughout. -/
theorem ofText_of_relaid_refused :
    let t : Text := "2 1\n1 1 N\nMX"
    let t' : Text := "2 1\r\n \u00a0\r\r\n\t1 1 N\u2003\r\nMX\r\n"
    Relation.ReflTransGen Text.Relaid t t' ∧ ofText t = .error (.instructions 1 "MX") ∧
      ofText t' = ofText t := by
  intro t t'
  have hstarts : Text.StartsLine "2 1\n" := Or.inr ⟨"2 1".toList, rfl⟩
  have hline : Text.Relaid t "2 1\n \u00a0\r\n1 1 N\nMX".toList :=
    @Text.Relaid.insertLine "2 1\n".toList "1 1 N\nMX".toList " \u00a0".toList _ hstarts (by decide)
      (Or.inr rfl)
  have hstart : Text.Relaid "2 1\n \u00a0\r\n1 1 N\nMX".toList
      "2 1\n \u00a0\r\n\t1 1 N\nMX".toList :=
    @Text.Relaid.padStart "2 1\n \u00a0\r\n".toList "1 1 N\nMX".toList "\t".toList
      (Or.inr ⟨"2 1\n \u00a0\r".toList, rfl⟩) (by decide)
  have hend : Text.Relaid "2 1\n \u00a0\r\n\t1 1 N\nMX".toList
      "2 1\n \u00a0\r\n\t1 1 N\u2003\nMX".toList :=
    @Text.Relaid.padEnd "2 1\n \u00a0\r\n\t1 1 N".toList "\nMX".toList "\u2003".toList
      (Or.inr ⟨"\n".toList, "MX".toList, Or.inl rfl, rfl⟩) (by decide)
  have hlast : Text.Relaid "2 1\n \u00a0\r\n\t1 1 N\u2003\nMX".toList
      "2 1\n \u00a0\r\n\t1 1 N\u2003\nMX\n".toList := .terminate _ (Or.inl rfl)
  have hrelaid : Relation.ReflTransGen Text.Relaid t t' :=
    ((((Relation.ReflTransGen.single hline).tail hstart).tail hend).tail hlast).tail (.returns _)
  exact ⟨hrelaid, rfl, ofText_of_relaid t t' hrelaid⟩

end Mission
end RoverMission
