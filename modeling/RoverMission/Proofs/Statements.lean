/-
Statements of TOML documents.

A header of one name and a string under a key of one part are written in many ways: names
stand bare or between quotes, every character of a string may be escaped, blanks stand around
all of it, and comments and blank lines between two statements (`Shows`).  The reader gets the
statements back from each of them (`read_of_shows`).  Of a text that is like this only up to
some line it is known what the statement on that line is about (`exists_of_read`).
-/
import RoverMission.Proofs.Layout
import RoverMission.Proofs.Tables
import RoverMission.Toml.Reader

namespace RoverMission
namespace Toml

/-! ## Strings -/

/-- What may stand between the quotes of a basic string, and the text that it spells. -/
inductive Basic : Text → Text → Prop
  | nil : Basic [] []
  | plain {c : Char} {body value : Text} (hc : isPlain c = true) (hq : c ≠ '"') (hb : c ≠ '\\')
    (h : Basic body value) : Basic (c :: body) (c :: value)
  | named {e c : Char} {body value : Text} (he : named? e = some c) (h : Basic body value) :
    Basic ('\\' :: e :: body) (c :: value)
  | byte {d₁ d₂ c : Char} {body value : Text} (hc : Hexadecimal.char? [d₁, d₂] = some c)
    (h : Basic body value) : Basic ('\\' :: 'x' :: d₁ :: d₂ :: body) (c :: value)
  | short {d₁ d₂ d₃ d₄ c : Char} {body value : Text}
    (hc : Hexadecimal.char? [d₁, d₂, d₃, d₄] = some c) (h : Basic body value) :
    Basic ('\\' :: 'u' :: d₁ :: d₂ :: d₃ :: d₄ :: body) (c :: value)
  | long {d₁ d₂ d₃ d₄ d₅ d₆ d₇ d₈ c : Char} {body value : Text}
    (hc : Hexadecimal.char? [d₁, d₂, d₃, d₄, d₅, d₆, d₇, d₈] = some c) (h : Basic body value) :
    Basic ('\\' :: 'U' :: d₁ :: d₂ :: d₃ :: d₄ :: d₅ :: d₆ :: d₇ :: d₈ :: body) (c :: value)

theorem ne_digits_of_named? {e c : Char} (h : named? e = some c) :
    e ≠ 'x' ∧ e ≠ 'u' ∧ e ≠ 'U' := by
  refine ⟨?_, ?_, ?_⟩ <;> rintro rfl <;> cases h

theorem basic_plain {c : Char} (hc : isPlain c = true) (hq : c ≠ '"') (hb : c ≠ '\\') (t : Text) :
    basic (c :: t) = prepend c (basic t) := by
  have hcond : (isPlain c && c != '\\') = true := by simp [hc, hb]
  rw [basic, if_pos hcond]
  all_goals intros; simp_all

theorem basic_named {e c : Char} (h : named? e = some c) (t : Text) :
    basic ('\\' :: e :: t) = prepend c (basic t) := by
  obtain ⟨hx, hu, hU⟩ := ne_digits_of_named? h
  rw [basic, h]
  · rfl
  all_goals intros; simp_all

/-- The canonical spelling. -/
theorem basic_escape (t : Text) : Basic (escape t) t := by
  induction t with
  | nil => exact .nil
  | cons c t ih =>
    rw [escape, List.flatMap_cons, escapeChar]
    split
    · subst_vars
      exact .named (by rfl) ih
    split
    · subst_vars
      exact .named (by rfl) ih
    split
    · rename_i hquote hslash hplain
      exact .plain hplain hquote hslash ih
    · rename_i hplain
      have hascii : c.toNat < 0x80 := by
        simp only [isPlain, Bool.or_eq_true, Bool.and_eq_true, not_or, not_and] at hplain
        have := hplain.2
        simp at this
        omega
      obtain ⟨x, y, hpair, hc⟩ := Hexadecimal.char?_pair hascii
      rw [hpair]
      exact .short hc ih

/-- The reader of strings stops at the closing quote. -/
theorem basic_of_basic {body value : Text} (h : Basic body value) (rest : Text) :
    basic (body ++ '"' :: rest) = some (value, rest) := by
  induction h with
  | nil => rfl
  | plain hc hq hb _ ih =>
    rw [List.cons_append, basic_plain hc hq hb, ih]
    rfl
  | named he _ ih =>
    rw [List.cons_append, List.cons_append, basic_named he, ih]
    rfl
  | byte hc _ ih =>
    simp only [List.cons_append]
    rw [basic, hc, ih]
    rfl
  | short hc _ ih =>
    simp only [List.cons_append]
    rw [basic, hc, ih]
    rfl
  | long hc _ ih =>
    simp only [List.cons_append]
    rw [basic, hc, ih]
    rfl

/-- A string of one line is not taken for one of several lines. -/
theorem quoted?_of_basic {body value rest : Text} (h : Basic body value)
    (hrest : rest.head? ≠ some '"') :
    quoted? ('"' :: (body ++ '"' :: rest)) = some (some (value, rest)) := by
  -- Three quotes would need a quote in the body or one behind the string.
  have hlong : ∀ t, '"' :: (body ++ '"' :: rest) ≠ '"' :: '"' :: '"' :: t := by
    rintro t he
    cases h with
    | nil =>
      simp only [List.nil_append, List.cons.injEq, true_and] at he
      exact hrest (by rw [he]; rfl)
    | plain hc hq _ _ =>
      simp only [List.cons_append, List.cons.injEq, true_and] at he
      exact hq he.1
    | _ => simp at he
  rw [← basic_of_basic h rest]
  unfold quoted?
  split
  · rename_i t he
    exact absurd he (hlong t)
  · rename_i t _ he
    rw [(List.cons.inj he).2]
  · rename_i he
    simp at he
  · rename_i he
    simp at he
  · rename_i hne _ _
    exact absurd rfl (hne _)

/-! ## Gaps -/

def IsBlanks (t : Text) : Prop := ∀ c ∈ t, (c == ' ' || c == '\t') = true

instance (t : Text) : Decidable (IsBlanks t) := List.decidableBAll _ t

/-- Nothing, or a comment. -/
def IsNote (t : Text) : Prop := t = [] ∨ ∃ note, t = '#' :: note ∧ ∀ c ∈ note, isPlain c = true

/-- What may stand behind a statement, its line end included. -/
inductive LineRest : Text → Prop
  | mk {pad note eol : Text} (hpad : IsBlanks pad) (hnote : IsNote note)
    (heol : Field.IsLineEnd eol) : LineRest (pad ++ note ++ eol)

/-- What may stand in front of a statement: lines without one, then blanks. -/
inductive Gap : Text → Prop
  | blanks {pad : Text} (hpad : IsBlanks pad) : Gap pad
  | line {rest gap : Text} (hline : LineRest rest) (h : Gap gap) : Gap (rest ++ gap)

theorem eq_of_blank {c : Char} (h : (c == ' ' || c == '\t') = true) : c = ' ' ∨ c = '\t' := by
  simpa using h

theorem skipBlanks_append {pad : Text} (h : IsBlanks pad) (t : Text) :
    skipBlanks (pad ++ t) = skipBlanks t := List.dropWhile_append_of_pos h

theorem skipBlanks_of_head? {t : Text} (h : ∀ c ∈ t.head?, (c == ' ' || c == '\t') = false) :
    skipBlanks t = t := by
  cases t with
  | nil => rfl
  | cons c t => exact List.dropWhile_cons_of_neg (by simp [h c rfl])

/-- No control character ends a comment or stands in one, the tab apart. -/
theorem not_break_of_isPlain {c : Char} (h : isPlain c = true) : c ≠ '\n' ∧ c ≠ '\r' := by
  constructor <;> rintro rfl <;> exact absurd h (by decide)

/-! Blanks and comments are skipped in the same way in front of a statement and behind it. -/

theorem skip_blanks {pad : Text} (h : IsBlanks pad) (t : Text) :
    skipGap false (pad ++ t) = skipGap false t ∧ nextLine false (pad ++ t) = nextLine false t := by
  induction pad with
  | nil => exact ⟨rfl, rfl⟩
  | cons c pad ih =>
    obtain ⟨hc, hpad⟩ := List.forall_mem_cons.1 h
    rw [List.cons_append, ← (ih hpad).1, ← (ih hpad).2]
    rcases eq_of_blank hc with rfl | rfl <;> exact ⟨rfl, rfl⟩

theorem skip_plain {c : Char} (h : isPlain c = true) (t : Text) :
    skipGap true (c :: t) = skipGap true t ∧ nextLine true (c :: t) = nextLine true t := by
  obtain ⟨hn, hr⟩ := not_break_of_isPlain h
  constructor
  · rw [skipGap, if_pos h]
    · simpa using hn
    · simp [hr]
  · rw [nextLine, if_pos h]
    · simpa using hn
    · simp [hr]

theorem skip_note {note : Text} (h : ∀ c ∈ note, isPlain c = true) (t : Text) :
    skipGap true (note ++ t) = skipGap true t ∧ nextLine true (note ++ t) = nextLine true t := by
  induction note with
  | nil => exact ⟨rfl, rfl⟩
  | cons c note ih =>
    obtain ⟨hc, hnote⟩ := List.forall_mem_cons.1 h
    obtain ⟨hskip, hnext⟩ := skip_plain hc (note ++ t)
    rw [List.cons_append, hskip, hnext]
    exact ih hnote

theorem skip_eol {eol : Text} (h : Field.IsLineEnd eol) (comment : Bool) (t : Text) :
    skipGap comment (eol ++ t) = skipGap false t ∧ nextLine comment (eol ++ t) = some t := by
  rcases h with rfl | rfl <;> cases comment <;> exact ⟨rfl, rfl⟩

theorem skip_lineRest {rest : Text} (h : LineRest rest) (t : Text) :
    skipGap false (rest ++ t) = skipGap false t ∧ nextLine false (rest ++ t) = some t := by
  obtain ⟨hpad, hnote, heol⟩ := h
  rw [List.append_assoc, List.append_assoc, (skip_blanks hpad _).1, (skip_blanks hpad _).2]
  rcases hnote with rfl | ⟨note, rfl, hnote⟩
  · exact skip_eol heol false t
  · obtain ⟨hskip, hnext⟩ := skip_eol heol true t
    rw [← hskip, ← hnext]
    exact skip_note hnote _

/-- The last line of a document needs no end. -/
theorem skip_lastLine {pad note : Text} (hpad : IsBlanks pad) (hnote : IsNote note) :
    skipGap false (pad ++ note) = some [] ∧ nextLine false (pad ++ note) = some [] := by
  rw [(skip_blanks hpad _).1, (skip_blanks hpad _).2]
  rcases hnote with rfl | ⟨note, rfl, hnote⟩
  · exact ⟨rfl, rfl⟩
  · have hskip := skip_note hnote []
    rwa [List.append_nil] at hskip

theorem skipGap_append {gap : Text} (h : Gap gap) (t : Text) :
    skipGap false (gap ++ t) = skipGap false t := by
  induction h with
  | blanks hpad => exact (skip_blanks hpad t).1
  | line hline _ ih => rw [List.append_assoc, (skip_lineRest hline _).1, ih]

/-! ## Names -/

/-- The spellings of one part of a key. -/
inductive Key : Text → Text → Prop
  | bare {name : Text} (hne : name ≠ []) (h : ∀ c ∈ name, isBare c = true) : Key name name
  | basic {body name : Text} (h : Basic body name) : Key ('"' :: (body ++ ['"'])) name
  | literal {name : Text} (h : ∀ c ∈ name, (isPlain c && c != '\x27') = true) :
    Key ('\x27' :: (name ++ ['\x27'])) name

theorem literal_append {name : Text} (h : ∀ c ∈ name, (isPlain c && c != '\x27') = true)
    (rest : Text) : literal (name ++ '\x27' :: rest) = some (name, rest) := by
  induction name with
  | nil => rfl
  | cons c name ih =>
    obtain ⟨hc, hname⟩ := List.forall_mem_cons.1 h
    obtain ⟨hplain, hquote⟩ := (Bool.and_eq_true _ _).mp hc
    rw [List.cons_append, literal, if_pos hplain, ih hname]
    · rfl
    · exact bne_iff_ne.1 hquote

theorem not_isQuote_of_isBare {c : Char} (h : isBare c = true) : c ≠ '"' ∧ c ≠ '\x27' := by
  constructor <;> rintro rfl <;> exact absurd h (by decide)

/-- What a key begins with. -/
theorem exists_cons_of_key {written name : Text} (h : Key written name) :
    ∃ c t, written = c :: t ∧ (isBare c || isQuote c) = true := by
  cases h with
  | bare hne h =>
    obtain ⟨c, t, rfl⟩ := List.exists_cons_of_ne_nil hne
    exact ⟨c, t, rfl, by rw [h c List.mem_cons_self]; rfl⟩
  | basic => exact ⟨_, _, rfl, rfl⟩
  | literal => exact ⟨_, _, rfl, rfl⟩

theorem readName_append {written name rest : Text} (h : Key written name)
    (hrest : ∀ c ∈ rest.head?, isBare c = false) :
    readName (written ++ rest) = some (name, rest) := by
  cases h with
  | bare hne h =>
    have hrun : Text.run isBare (written ++ rest) = (written, rest) := Text.run_append h hrest
    obtain ⟨c, more, rfl⟩ := List.exists_cons_of_ne_nil hne
    obtain ⟨hbasic, hliteral⟩ := not_isQuote_of_isBare (h c List.mem_cons_self)
    rw [readName, hrun]
    · exact fun _ he => hbasic (List.cons.inj he).1
    · exact fun _ he => hliteral (List.cons.inj he).1
  | basic h =>
    rw [List.cons_append, List.append_assoc]
    exact basic_of_basic h rest
  | literal h =>
    rw [List.cons_append, List.append_assoc]
    exact literal_append h rest

/-- What begins a key is no blank. -/
theorem skipBlanks_key {pad written name : Text} (hpad : IsBlanks pad) (h : Key written name)
    (t : Text) : skipBlanks (pad ++ (written ++ t)) = written ++ t := by
  obtain ⟨c, more, rfl, hc⟩ := exists_cons_of_key h
  rw [skipBlanks_append hpad]
  refine skipBlanks_of_head? fun d hd => ?_
  obtain rfl : c = d := Option.some.inj hd
  refine Bool.eq_false_iff.2 fun hblank => ?_
  rcases eq_of_blank hblank with rfl | rfl <;> exact absurd hc (by decide)

/-- A key of one part is read up to the character that ends it. -/
theorem readPath_of_key {pad written pad' name : Text} {c : Char} (hpad : IsBlanks pad)
    (h : Key written name) (hpad' : IsBlanks pad') (hc : c = '=' ∨ c = ']') (rest : Text) :
    readPath (pad ++ (written ++ (pad' ++ c :: rest))) = some ([name], c :: rest) := by
  have hends : ∀ d ∈ (pad' ++ c :: rest).head?, isBare d = false := by
    cases pad' with
    | nil =>
      rintro d hd
      obtain rfl : c = d := Option.some.inj hd
      rcases hc with rfl | rfl <;> decide
    | cons b pad' =>
      rintro d hd
      obtain rfl : b = d := Option.some.inj hd
      rcases eq_of_blank (hpad' b List.mem_cons_self) with rfl | rfl <;> decide
  have hskip : skipBlanks (pad' ++ c :: rest) = c :: rest := by
    rw [skipBlanks_append hpad']
    refine skipBlanks_of_head? fun d hd => ?_
    obtain rfl : c = d := Option.some.inj hd
    rcases hc with rfl | rfl <;> decide
  rw [readPath, depthLimit, readNames, skipBlanks_key hpad h, readName_append h hends]
  rcases hc with rfl | rfl <;> simp only [Option.bind_eq_bind, Option.bind_some, hskip] <;> rfl

/-! ## Statements -/

/-- The spellings of a header of one name and of a string under a key of one part. -/
inductive Written : Statement → Text → Prop
  | header {pad written pad' name : Text} (hpad : IsBlanks pad) (hname : Key written name)
    (hpad' : IsBlanks pad') :
    Written (.header [name]) ('[' :: (pad ++ (written ++ (pad' ++ [']']))))
  | entry {written pad pad' body name value : Text} (hname : Key written name)
    (hpad : IsBlanks pad) (hpad' : IsBlanks pad') (hvalue : Basic body value) :
    Written (.entry [name] (.string value))
      (written ++ (pad ++ '=' :: (pad' ++ '"' :: (body ++ ['"']))))

/-- A key does not look like the bracket of a header. -/
theorem ne_bracket_of_key {pad written name t t' : Text} (hpad : IsBlanks pad)
    (h : Key written name) : pad ++ (written ++ t) ≠ '[' :: t' := by
  intro he
  have hskip := skipBlanks_key hpad h t
  obtain ⟨c, more, rfl, hc⟩ := exists_cons_of_key h
  rw [he, skipBlanks_of_head? (by rintro d hd; obtain rfl : '[' = d := Option.some.inj hd; decide)]
    at hskip
  obtain rfl : '[' = c := (List.cons.inj hskip).1
  exact absurd hc (by decide)

/-- A statement is read up to what may stand behind it on its line. -/
theorem readStatement_append {s : Statement} {t rest : Text} (h : Written s t)
    (hrest : rest.head? ≠ some '"') : readStatement (t ++ rest) = some (s, rest) := by
  cases h with
  | header hpad hname hpad' =>
    simp only [List.cons_append, List.append_assoc, List.nil_append]
    rw [readStatement, readPath_of_key hpad hname hpad' (Or.inr rfl) rest]
    · rfl
    · exact fun _ => ne_bracket_of_key hpad hname
  | @entry written pad pad' body name value hname hpad hpad' hvalue =>
    simp only [List.cons_append, List.append_assoc, List.nil_append]
    have hnone : IsBlanks [] := by decide
    have hquoted : quoted? (skipBlanks (pad' ++ '"' :: (body ++ '"' :: rest))) =
        some (some (value, rest)) := by
      rw [skipBlanks_append hpad']
      exact quoted?_of_basic hvalue hrest
    have hpath :=
      readPath_of_key hnone hname hpad (Or.inl rfl) (pad' ++ '"' :: (body ++ '"' :: rest))
    rw [List.nil_append] at hpath
    rw [readStatement, hpath]
    · show (readValue (2 * _ + 2) depthLimit (skipBlanks _) >>= _) = _
      rw [readValue_of_quoted hquoted]
      rfl
    · exact fun _ he => ne_bracket_of_key hnone hname he
    · exact fun _ he => ne_bracket_of_key hnone hname he

/-! ## Beginnings of statements -/

/-- Texts that begin with a key whose first part is a name. -/
inductive BeginsKey (name : Text) : Text → Prop
  | mk {written behind : Text} (hname : Key written name)
    (hbehind : ∀ c ∈ behind.head?, isBare c = false) : BeginsKey name (written ++ behind)

/-- Texts that begin with a header or a double header whose first part is a name. -/
inductive BeginsHeader (name : Text) : Text → Prop
  | single {pad t : Text} (hpad : IsBlanks pad) (h : BeginsKey name t) :
    BeginsHeader name ('[' :: (pad ++ t))
  | double {pad t : Text} (hpad : IsBlanks pad) (h : BeginsKey name t) :
    BeginsHeader name ('[' :: '[' :: (pad ++ t))

variable {name t rest : Text} {s : Statement}

theorem head?_of_readPath {pad : Text} {path : List Text} (hpad : IsBlanks pad)
    (h : BeginsKey name t) (hpath : readPath (pad ++ t) = some (path, rest)) :
    path.head? = some name := by
  obtain ⟨hname, hbehind⟩ := h
  rw [readPath, depthLimit, readNames, skipBlanks_key hpad hname, readName_append hname hbehind]
    at hpath
  simp only [Option.bind_eq_bind, Option.bind_some] at hpath
  split at hpath
  · obtain ⟨found, -, hfound⟩ := Option.bind_eq_some_iff.1 hpath
    rw [← (Prod.mk.inj (Option.some.inj hfound)).1]
    rfl
  · rw [← (Prod.mk.inj (Option.some.inj hpath)).1]
    rfl

theorem sets_of_readStatement (h : BeginsKey name t) (hread : readStatement t = some (s, rest)) :
    s.Sets name := by
  have hnone : IsBlanks [] := by decide
  have hbracket : ∀ u, t ≠ '[' :: u := fun u => by
    obtain ⟨hname, -⟩ := h
    exact ne_bracket_of_key hnone hname
  rw [readStatement] at hread
  · obtain ⟨⟨path, u⟩, hpath, hread⟩ := Option.bind_eq_some_iff.1 hread
    have hhead := head?_of_readPath hnone h hpath
    split at hread
    · rename_i he
      obtain ⟨rfl, rfl⟩ := Prod.mk.inj he
      obtain ⟨v, -, hv⟩ := Option.bind_eq_some_iff.1 hread
      rw [← (Prod.mk.inj (Option.some.inj hv)).1]
      exact hhead
    · cases hread
  · exact fun u => hbracket _
  · exact hbracket

theorem opens_of_readStatement (h : BeginsHeader name t)
    (hread : readStatement t = some (s, rest)) : s.Opens name := by
  cases h with
  | single hpad h =>
    rw [readStatement] at hread
    · obtain ⟨⟨path, u⟩, hpath, hread⟩ := Option.bind_eq_some_iff.1 hread
      have hhead := head?_of_readPath hpad h hpath
      split at hread
      · rename_i he
        obtain ⟨rfl, rfl⟩ := Prod.mk.inj he
        rw [← (Prod.mk.inj (Option.some.inj hread)).1]
        exact hhead
      · cases hread
    · obtain ⟨hname, -⟩ := h
      exact fun _ => ne_bracket_of_key hpad hname
  | double hpad h =>
    rw [readStatement] at hread
    obtain ⟨⟨path, u⟩, hpath, hread⟩ := Option.bind_eq_some_iff.1 hread
    have hhead := head?_of_readPath hpad h hpath
    split at hread
    · rename_i he
      obtain ⟨rfl, rfl⟩ := Prod.mk.inj he
      rw [← (Prod.mk.inj (Option.some.inj hread)).1]
      exact hhead
    · cases hread

/-! ## Documents -/

/-- Texts of which nothing is skipped in front of a statement. -/
def Visible (t : Text) : Prop :=
  ∃ c u, t = c :: u ∧ (isBare c || isQuote c || c == '[') = true

theorem visible_of_key {written : Text} (h : Key written name) (t : Text) :
    Visible (written ++ t) := by
  obtain ⟨c, u, rfl, hc⟩ := exists_cons_of_key h
  exact ⟨c, u ++ t, rfl, by rw [hc]; rfl⟩

theorem visible_of_written (h : Written s t) (rest : Text) : Visible (t ++ rest) := by
  cases h with
  | header => exact ⟨_, _, rfl, by decide⟩
  | entry hname =>
    rw [List.append_assoc]
    exact visible_of_key hname _

theorem visible_of_beginsKey (h : BeginsKey name t) : Visible t := by
  obtain ⟨hname, -⟩ := h
  exact visible_of_key hname _

theorem visible_of_beginsHeader (h : BeginsHeader name t) : Visible t := by
  cases h <;> exact ⟨_, _, rfl, by decide⟩

theorem skipGap_of_visible (h : Visible t) : skipGap false t = some t := by
  obtain ⟨c, u, rfl, hc⟩ := h
  have hblank : ¬ (c == ' ' || c == '\t') = true := fun hb => by
    rcases eq_of_blank hb with rfl | rfl <;> exact absurd hc (by decide)
  rw [skipGap, if_neg hblank]
  · rintro rfl
    exact absurd hc (by decide)
  · rintro _ rfl
    exact absurd hc (by decide)
  · rintro rfl
    exact absurd hc (by decide)

theorem skipMark_cons {c : Char} (h : c ≠ '\uFEFF') (t : Text) : skipMark (c :: t) = c :: t := by
  rw [skipMark]
  exact fun _ he => h (List.cons.inj he).1

theorem skipMark_of_visible (h : Visible t) : skipMark t = t := by
  obtain ⟨c, u, rfl, hc⟩ := h
  refine skipMark_cons ?_ u
  rintro rfl
  exact absurd hc (by decide)

theorem skipMark_of_nextLine (h : nextLine false t = some rest) : skipMark t = t := by
  cases t with
  | nil => rfl
  | cons c t =>
    refine skipMark_cons ?_ t
    rintro rfl
    cases h

theorem skipMark_gap {gap : Text} (h : Gap gap) (ht : skipMark t = t) :
    skipMark (gap ++ t) = gap ++ t := by
  induction h with
  | @blanks pad hpad =>
    cases pad with
    | nil => exact ht
    | cons c pad =>
      refine skipMark_cons ?_ _
      rintro rfl
      exact absurd (hpad _ List.mem_cons_self) (by decide)
  | line hline _ ih =>
    rw [List.append_assoc]
    exact skipMark_of_nextLine (skip_lineRest hline _).2

/-- Statements, each with a gap in front of it and the rest of its line behind it. -/
inductive Lines : List Statement → Text → Prop
  | nil : Lines [] []
  | cons {gap written rest t : Text} {s : Statement} {statements : List Statement}
    (hgap : Gap gap) (hs : Written s written) (hrest : LineRest rest) (h : Lines statements t) :
    Lines (s :: statements) (gap ++ (written ++ (rest ++ t)))

/-- The texts of a document, the last line of which needs no end. -/
inductive Shows : List Statement → Text → Prop
  | closed {statements : List Statement} {t gap note : Text} (h : Lines statements t)
    (hgap : Gap gap) (hnote : IsNote note) : Shows statements (t ++ (gap ++ note))
  | unclosed {statements : List Statement} {s : Statement} {t gap written pad note : Text}
    (h : Lines statements t) (hgap : Gap gap) (hs : Written s written) (hpad : IsBlanks pad)
    (hnote : IsNote note) : Shows (statements ++ [s]) (t ++ (gap ++ (written ++ (pad ++ note))))

variable {statements : List Statement}

theorem lines_append {more : List Statement} {t' : Text} (h : Lines statements t)
    (h' : Lines more t') : Lines (statements ++ more) (t ++ t') := by
  induction h with
  | nil => exact h'
  | cons hgap hs hrest _ ih =>
    rw [List.append_assoc, List.append_assoc, List.append_assoc]
    exact .cons hgap hs hrest ih

theorem lineRest_lineFeed : LineRest "\n" := by
  have hnone : IsBlanks [] := by decide
  exact .mk hnone (Or.inl rfl) (Or.inl rfl)

/-- A statement with a line feed right behind it. -/
theorem lines_written {written : Text} (h : Written s written) :
    Lines [s] (written ++ "\n".toList) := by
  have hnone : IsBlanks [] := by decide
  have hline : Lines [s] ([] ++ (written ++ ("\n".toList ++ []))) :=
    .cons (.blanks hnone) h lineRest_lineFeed .nil
  rwa [List.append_nil, List.nil_append] at hline

theorem readStatements_of_visible {gap : Text} (hgap : Gap gap) (ht : Visible t) (fuel : Nat) :
    readStatements (fuel + 1) (gap ++ t) = do
      let (s, rest) ← readStatement t
      return s :: (← readStatements fuel (← nextLine false rest)) := by
  rw [readStatements, skipGap_append hgap, skipGap_of_visible ht]
  obtain ⟨c, u, rfl, -⟩ := ht
  rfl

/-- A statement on its line is read, whatever stands on the lines behind it. -/
theorem readStatements_written {gap written rest : Text} (hgap : Gap gap)
    (hs : Written s written) (hnext : nextLine false rest = some t) (fuel : Nat) :
    readStatements (fuel + 1) (gap ++ (written ++ rest)) =
      (readStatements fuel t).map (s :: ·) := by
  -- A line that can be left here does not go on with a quote.
  have hquote : rest.head? ≠ some '"' := by
    intro hhead
    cases rest with
    | nil => cases hhead
    | cons c rest =>
      obtain rfl : c = '"' := Option.some.inj hhead
      cases hnext
  rw [readStatements_of_visible hgap (visible_of_written hs rest), readStatement_append hs hquote]
  simp only [Option.bind_eq_bind, Option.bind_some, hnext]
  rw [Option.map_eq_bind]
  rfl

theorem readStatements_lines (h : Lines statements t) (fuel : Nat) (rest : Text) :
    readStatements (fuel + statements.length) (t ++ rest) =
      (readStatements fuel rest).map (statements ++ ·) := by
  induction h with
  | nil => exact Option.map_id'.symm
  | cons hgap hs hrest _ ih =>
    simp only [List.append_assoc]
    rw [List.length_cons, ← Nat.add_assoc,
      readStatements_written hgap hs (skip_lineRest hrest _).2, ih, Option.map_map]
    rfl

theorem length_le_of_lines (h : Lines statements t) : statements.length ≤ t.length := by
  induction h with
  | nil => exact Nat.le_refl _
  | cons _ hs _ _ ih =>
    obtain ⟨c, u, he, -⟩ := visible_of_written hs []
    rw [List.append_nil] at he
    rw [he]
    simp only [List.length_cons, List.length_append]
    omega

theorem skipMark_lines (h : Lines statements t) (hrest : skipMark rest = rest) :
    skipMark (t ++ rest) = t ++ rest := by
  cases h with
  | nil => exact hrest
  | cons hgap hs _ _ =>
    rw [List.append_assoc, List.append_assoc]
    exact skipMark_gap hgap (skipMark_of_visible (visible_of_written hs _))

/-- The lines that a text begins with leave fuel for what stands behind them. -/
theorem exists_read_lines (h : Lines statements t) (hrest : skipMark rest = rest) :
    ∃ fuel, rest.length ≤ fuel ∧ read (t ++ rest) =
      (readStatements (fuel + 1) rest).bind fun more =>
        Document.ofStatements (statements ++ more) := by
  have hlength := length_le_of_lines h
  -- Every statement takes a character at least.
  have hfuel : (t ++ rest).length + 1 =
      t.length - statements.length + rest.length + 1 + statements.length := by
    rw [List.length_append]
    omega
  refine ⟨t.length - statements.length + rest.length, Nat.le_add_left _ _, ?_⟩
  rw [read, skipMark_lines h hrest, hfuel, readStatements_lines h]
  cases readStatements (t.length - statements.length + rest.length + 1) rest <;> rfl

/-- A document is read as its statements, however it is laid out. -/
theorem read_of_shows (h : Shows statements t) : read t = Document.ofStatements statements := by
  cases h with
  | @closed _ t gap note hlines hgap hnote =>
    have hnone : IsBlanks [] := by decide
    obtain ⟨hskip, hnext⟩ := skip_lastLine hnone hnote
    rw [List.nil_append] at hskip hnext
    obtain ⟨fuel, -, hread⟩ :=
      exists_read_lines hlines (skipMark_gap hgap (skipMark_of_nextLine hnext))
    have hend : readStatements (fuel + 1) (gap ++ note) = some [] := by
      rw [readStatements, skipGap_append hgap, hskip]
      rfl
    rw [hread, hend, Option.bind_some, List.append_nil]
  | @unclosed before s t gap written pad note hlines hgap hs hpad hnote =>
    obtain ⟨-, hnext⟩ := skip_lastLine hpad hnote
    have hvisible := visible_of_written hs (pad ++ note)
    obtain ⟨fuel, hfuel, hread⟩ :=
      exists_read_lines hlines (skipMark_gap hgap (skipMark_of_visible hvisible))
    obtain ⟨fuel, rfl⟩ : ∃ k, fuel = k + 1 := by
      obtain ⟨c, u, he, -⟩ := hvisible
      rw [he, List.length_append, List.length_cons] at hfuel
      exact ⟨fuel - 1, by omega⟩
    rw [hread, readStatements_written hgap hs hnext]
    rfl

/-- Behind lines of statements, whatever begins a statement of some kind makes one of that
kind in every document that the text is read as. -/
theorem exists_of_read {P : Statement → Prop} {gap : Text} {members : List (Text × Toml)}
    (hlines : Lines statements t) (hgap : Gap gap) (hvisible : Visible rest)
    (hP : ∀ {s u}, readStatement rest = some (s, u) → P s)
    (h : read (t ++ (gap ++ rest)) = some members) :
    ∃ s after, P s ∧ Document.ofStatements (statements ++ s :: after) = some members := by
  obtain ⟨fuel, -, hread⟩ :=
    exists_read_lines hlines (skipMark_gap hgap (skipMark_of_visible hvisible))
  rw [hread, readStatements_of_visible hgap hvisible] at h
  obtain ⟨tail, htail, hdocument⟩ := Option.bind_eq_some_iff.1 h
  obtain ⟨⟨s, u⟩, hs, htail⟩ := Option.bind_eq_some_iff.1 htail
  obtain ⟨u', -, htail⟩ := Option.bind_eq_some_iff.1 htail
  obtain ⟨after, -, htail⟩ := Option.bind_eq_some_iff.1 htail
  obtain rfl := Option.some.inj htail
  exact ⟨s, after, hP hs, hdocument⟩

end Toml
end RoverMission
