/-
JSON documents.

`SpelledBy` says which texts spell a value, white space wherever it may stand
included.  The reader reads every text that spells a value as that value
(`read_of_spelledBy`), so no text spells two, and what is written of a value whose
literals are literals spells it in either style (`spelledBy_write`).
-/
import RoverMission.Proofs.Literals

namespace RoverMission
namespace Json

/-! ## White space -/

def IsSpacing (t : Text) : Prop := ∀ c ∈ t, isSpace c = true

instance (t : Text) : Decidable (IsSpacing t) := List.decidableBAll _ t

theorem isSpacing_nil : IsSpacing [] := List.forall_mem_nil _

theorem skipSpace_append {s : Text} (h : IsSpacing s) (t : Text) :
    skipSpace (s ++ t) = skipSpace t := List.dropWhile_append_of_pos h

theorem skipSpace_cons {c : Char} (h : isSpace c = false) (t : Text) :
    skipSpace (c :: t) = c :: t := by
  rw [skipSpace, List.dropWhile_cons, h]
  rfl

theorem skipSpace_skipSpace (t : Text) : skipSpace (skipSpace t) = skipSpace t := by
  induction t with
  | nil => rfl
  | cons c t ih =>
    cases h : isSpace c with
    | true =>
      have hspace : IsSpacing [c] := List.forall_mem_singleton.2 h
      have hc : skipSpace (c :: t) = skipSpace t := skipSpace_append hspace t
      rw [hc, ih]
    | false => rw [skipSpace_cons h, skipSpace_cons h]

theorem readValue_skipSpace (fuel : Nat) (t : Text) :
    readValue fuel (skipSpace t) = readValue fuel t := by
  cases fuel with
  | zero => rfl
  | succ fuel => rw [readValue, readValue, skipSpace_skipSpace]

theorem readItems_skipSpace (fuel : Nat) (t : Text) :
    readItems fuel (skipSpace t) = readItems fuel t := by
  cases fuel with
  | zero => rfl
  | succ fuel => rw [readItems, readItems, readValue_skipSpace]

theorem readMembers_skipSpace (fuel : Nat) (t : Text) :
    readMembers fuel (skipSpace t) = readMembers fuel t := by
  cases fuel with
  | zero => rfl
  | succ fuel => rw [readMembers, readMembers, skipSpace_skipSpace]

theorem readValue_spacing_append {s : Text} (h : IsSpacing s) (fuel : Nat) (t : Text) :
    readValue fuel (s ++ t) = readValue fuel t := by
  rw [← readValue_skipSpace, skipSpace_append h, readValue_skipSpace]

theorem follows_spacing_append {s t : Text} (hs : IsSpacing s) (ht : Follows t) :
    Follows (s ++ t) := by
  cases s with
  | nil => exact ht
  | cons d s =>
    intro c hc
    cases hc
    have hspace : isSpace d = true := hs d List.mem_cons_self
    simp only [isSpace, Bool.or_eq_true, beq_iff_eq] at hspace
    rcases hspace with ((rfl | rfl) | rfl) | rfl <;> decide

/-! ## The grammar -/

/-- A member of an object as it stands in a text. -/
structure Entry where
  front : Text
  name : Text
  gap : Text
  value : Json
  /-- What stands behind the colon. -/
  spelling : Text

namespace Entry

def text (e : Entry) : Text := e.front ++ '"' :: (e.name ++ '"' :: (e.gap ++ ':' :: e.spelling))

def member (e : Entry) : Text × Json := (e.name, e.value)

end Entry

/-- The texts that spell a value. -/
inductive SpelledBy : Json → Text → Prop
  | null : SpelledBy null "null".toList
  | true : SpelledBy (bool true) "true".toList
  | false : SpelledBy (bool false) "false".toList
  | number {literal : Text} (h : IsNumber literal) : SpelledBy (number literal) literal
  | string {inside : Text} (h : Inside inside) :
    SpelledBy (string inside) ('"' :: (inside ++ ['"']))
  | emptyArray {s : Text} (hs : IsSpacing s) : SpelledBy (array []) ('[' :: (s ++ [']']))
  | array {items : List (Json × Text)} (hne : items ≠ [])
    (h : ∀ item ∈ items, SpelledBy item.1 item.2) :
    SpelledBy (array (items.map Prod.fst))
      ('[' :: (Text.joined [','] (items.map Prod.snd) ++ [']']))
  | emptyObject {s : Text} (hs : IsSpacing s) :
    SpelledBy (object []) ('\x7b' :: (s ++ ['\x7d']))
  | object {entries : List Entry} (hne : entries ≠ [])
    (hspace : ∀ e ∈ entries, IsSpacing e.front ∧ IsSpacing e.gap)
    (hname : ∀ e ∈ entries, Inside e.name) (h : ∀ e ∈ entries, SpelledBy e.value e.spelling) :
    SpelledBy (object (entries.map Entry.member))
      ('\x7b' :: (Text.joined [','] (entries.map Entry.text) ++ ['\x7d']))
  | padded {v : Json} {front t back : Text} (hfront : IsSpacing front) (hback : IsSpacing back)
    (h : SpelledBy v t) : SpelledBy v (front ++ t ++ back)

/-! ## Reading what is spelled -/

/-- Of a text with something behind it the reader takes a value, and maybe leaves
white space. -/
def Reads (v : Json) (t : Text) : Prop :=
  ∀ fuel rest, t.length ≤ fuel → Follows rest →
    ∃ rest', readValue fuel (t ++ rest) = some (v, rest') ∧ skipSpace rest' = skipSpace rest

/-- The first character that is not white space begins a value. -/
def Begins (t : Text) : Prop :=
  ∃ c u, skipSpace t = c :: u ∧ c ≠ ']' ∧ ∀ rest, skipSpace (t ++ rest) = c :: (u ++ rest)

theorem begins_cons {c : Char} (hs : isSpace c = false) (hc : c ≠ ']') (t : Text) :
    Begins (c :: t) :=
  ⟨c, t, skipSpace_cons hs t, hc, fun rest => skipSpace_cons hs (t ++ rest)⟩

theorem exists_head_of_isNumber {t : Text} (h : IsNumber t) :
    ∃ c u, t = c :: u ∧ (c = '-' ∨ c.isDigit = true) := by
  obtain @⟨minus, whole, fraction, exponent, hm, hw, hf, he⟩ := h
  rcases hm with rfl | rfl
  · have hd := isDigits_of_isWhole hw
    obtain ⟨c, more, rfl⟩ := List.exists_cons_of_ne_nil hd.1
    exact ⟨c, _, rfl, Or.inr (hd.2 c List.mem_cons_self)⟩
  · exact ⟨'-', _, rfl, Or.inl rfl⟩

/-- A number begins with none of the characters that begin another value. -/
theorem head_number {c : Char} (h : c = '-' ∨ c.isDigit = true) :
    isSpace c = false ∧ c ∉ [']', '"', '[', '\x7b', 'n', 't', 'f'] := by
  rcases h with rfl | h
  · decide
  · constructor
    · cases hs : isSpace c with
      | false => rfl
      | true =>
        simp only [isSpace, Bool.or_eq_true, beq_iff_eq] at hs
        rcases hs with ((rfl | rfl) | rfl) | rfl <;> cases h
    · intro hmem
      simp only [List.mem_cons, List.not_mem_nil, or_false] at hmem
      rcases hmem with rfl | rfl | rfl | rfl | rfl | rfl | rfl <;> cases h

theorem begins_of_spelledBy {v : Json} {t : Text} (h : SpelledBy v t) : Begins t := by
  induction h with
  | null => exact begins_cons (by decide) (by decide) _
  | true => exact begins_cons (by decide) (by decide) _
  | false => exact begins_cons (by decide) (by decide) _
  | number h =>
    obtain ⟨c, u, rfl, hc⟩ := exists_head_of_isNumber h
    obtain ⟨hs, hne⟩ := head_number hc
    exact begins_cons hs (fun he => hne (by simp [he])) u
  | string _ => exact begins_cons (by decide) (by decide) _
  | emptyArray _ => exact begins_cons (by decide) (by decide) _
  | array _ _ _ => exact begins_cons (by decide) (by decide) _
  | emptyObject _ => exact begins_cons (by decide) (by decide) _
  | object _ _ _ _ _ => exact begins_cons (by decide) (by decide) _
  | @padded v front t back hfront _ _ ih =>
    obtain ⟨c, u, -, hc, happend⟩ := ih
    refine ⟨c, u ++ back, ?_, hc, fun rest => ?_⟩
    · rw [List.append_assoc, skipSpace_append hfront, happend]
    · rw [List.append_assoc, List.append_assoc, skipSpace_append hfront, happend,
        List.append_assoc]

theorem follows_cons {c : Char} (h : c = ',' ∨ c = ']' ∨ c = '\x7d') (t : Text) :
    Follows (c :: t) := by
  intro d hd
  cases hd
  rcases h with rfl | rfl | rfl <;> decide

theorem skipSpace_entry {e : Entry} (h : IsSpacing e.front) (t : Text) :
    skipSpace (e.text ++ t) = '"' :: (e.name ++ '"' :: (e.gap ++ ':' :: (e.spelling ++ t))) := by
  have htext : e.text ++ t =
      e.front ++ '"' :: (e.name ++ '"' :: (e.gap ++ ':' :: (e.spelling ++ t))) := by
    simp [Entry.text]
  rw [htext, skipSpace_append h, skipSpace_cons (by decide)]

theorem skipSpace_gap {gap : Text} (h : IsSpacing gap) (t : Text) :
    skipSpace (gap ++ ':' :: t) = ':' :: t := by
  rw [skipSpace_append h, skipSpace_cons (by decide)]

theorem joined_cons_cons (a b : Text) (l : List Text) :
    Text.joined [','] (a :: b :: l) = a ++ ',' :: Text.joined [','] (b :: l) := by
  simp [Text.joined]

theorem readItems_joined {items : List (Json × Text)} (hne : items ≠ [])
    (h : ∀ item ∈ items, Reads item.1 item.2) {fuel : Nat} (rest : Text)
    (hfuel : (Text.joined [','] (items.map Prod.snd)).length < fuel) :
    readItems fuel (Text.joined [','] (items.map Prod.snd) ++ ']' :: rest) =
      some (items.map Prod.fst, rest) := by
  induction items generalizing fuel with
  | nil => exact absurd rfl hne
  | cons item items ih =>
    obtain ⟨hitem, hitems⟩ := List.forall_mem_cons.1 h
    obtain ⟨fuel, rfl⟩ : ∃ n, fuel = n + 1 := ⟨fuel - 1, by omega⟩
    cases items with
    | nil =>
      have hlen : item.2.length ≤ fuel := Nat.le_of_lt_succ hfuel
      obtain ⟨rest', hread, hskip⟩ :=
        hitem fuel (']' :: rest) hlen (follows_cons (Or.inr (Or.inl rfl)) rest)
      have hclose : skipSpace rest' = ']' :: rest := by rw [hskip, skipSpace_cons (by decide)]
      exact readItems_last hread hclose
    | cons next items =>
      rw [List.map_cons, List.map_cons, joined_cons_cons] at hfuel ⊢
      rw [List.length_append, List.length_cons] at hfuel
      obtain ⟨rest', hread, hskip⟩ := hitem fuel
        (',' :: (Text.joined [','] ((next :: items).map Prod.snd) ++ ']' :: rest)) (by omega)
        (follows_cons (Or.inl rfl) _)
      have hcomma := hskip.trans (skipSpace_cons (by decide) _)
      have hlength : (Text.joined [','] ((next :: items).map Prod.snd)).length < fuel := by
        rw [List.map_cons]
        omega
      have hrest := ih (List.cons_ne_nil next items) hitems hlength
      rw [List.append_assoc, List.cons_append, ← List.map_cons, readItems_next hread hcomma, hrest]
      rfl

theorem readMembers_joined {entries : List Entry} (hne : entries ≠ [])
    (hspace : ∀ e ∈ entries, IsSpacing e.front ∧ IsSpacing e.gap)
    (hname : ∀ e ∈ entries, Inside e.name) (h : ∀ e ∈ entries, Reads e.value e.spelling)
    {fuel : Nat} (rest : Text)
    (hfuel : (Text.joined [','] (entries.map Entry.text)).length < fuel) :
    readMembers fuel (Text.joined [','] (entries.map Entry.text) ++ '\x7d' :: rest) =
      some (entries.map Entry.member, rest) := by
  induction entries generalizing fuel with
  | nil => exact absurd rfl hne
  | cons e entries ih =>
    obtain ⟨he, hentries⟩ := List.forall_mem_cons.1 h
    obtain ⟨hspaceHere, hspaces⟩ := List.forall_mem_cons.1 hspace
    obtain ⟨hnameHere, hnames⟩ := List.forall_mem_cons.1 hname
    obtain ⟨fuel, rfl⟩ : ∃ n, fuel = n + 1 := ⟨fuel - 1, by omega⟩
    have hspelling : e.spelling.length ≤ e.text.length := by
      simp only [Entry.text, List.length_append, List.length_cons]
      omega
    cases entries with
    | nil =>
      have hlen : e.text.length ≤ fuel := Nat.le_of_lt_succ hfuel
      obtain ⟨rest', hread, hskip⟩ :=
        he fuel ('\x7d' :: rest) (by omega) (follows_cons (Or.inr (Or.inr rfl)) rest)
      have hclose : skipSpace rest' = '\x7d' :: rest := by rw [hskip, skipSpace_cons (by decide)]
      exact readMembers_last (skipSpace_entry hspaceHere.1 _) (scan_of_inside hnameHere _)
        (skipSpace_gap hspaceHere.2 _) hread hclose
    | cons next entries =>
      rw [List.map_cons, List.map_cons, joined_cons_cons] at hfuel ⊢
      rw [List.length_append, List.length_cons] at hfuel
      obtain ⟨rest', hread, hskip⟩ := he fuel
        (',' :: (Text.joined [','] ((next :: entries).map Entry.text) ++ '\x7d' :: rest))
        (by omega) (follows_cons (Or.inl rfl) _)
      have hcomma := hskip.trans (skipSpace_cons (by decide) _)
      have hlength : (Text.joined [','] ((next :: entries).map Entry.text)).length < fuel := by
        rw [List.map_cons]
        omega
      have hrest := ih (List.cons_ne_nil next entries) hspaces hnames hentries hlength
      rw [List.append_assoc, List.cons_append, ← List.map_cons,
        readMembers_next (skipSpace_entry hspaceHere.1 _) (scan_of_inside hnameHere _)
          (skipSpace_gap hspaceHere.2 _) hread hcomma, hrest]
      rfl

theorem begins_joined {t : Text} (h : Begins t) (l : List Text) :
    Begins (Text.joined [','] (t :: l)) := by
  cases l with
  | nil => exact h
  | cons s l =>
    obtain ⟨c, u, -, hc, happend⟩ := h
    rw [joined_cons_cons]
    refine ⟨c, _, happend _, hc, fun rest => ?_⟩
    rw [List.append_assoc, happend, List.append_assoc]

theorem readValue_number {t rest : Text} (h : IsNumber t) (hrest : Follows rest) (fuel : Nat) :
    readValue (fuel + 1) (t ++ rest) = some (number t, rest) := by
  have hscan := scanNumber_append h hrest
  obtain ⟨c, u, rfl, hc⟩ := exists_head_of_isNumber h
  obtain ⟨hs, hne⟩ := head_number hc
  simp only [List.mem_cons, List.not_mem_nil, or_false, not_or] at hne
  obtain ⟨-, hquote, hbracket, hbrace, hnull, htrue, hfalse⟩ := hne
  rw [List.cons_append] at hscan ⊢
  rw [readValue, skipSpace_cons hs]
  split
  · rename_i heq
    exact absurd (List.cons.inj heq).1 hquote
  · rename_i heq
    exact absurd (List.cons.inj heq).1 hbracket
  · rename_i heq
    exact absurd (List.cons.inj heq).1 hbrace
  · rename_i heq
    exact absurd (List.cons.inj heq).1 hnull
  · rename_i heq
    exact absurd (List.cons.inj heq).1 htrue
  · rename_i heq
    exact absurd (List.cons.inj heq).1 hfalse
  · rw [hscan]
    rfl

theorem skipSpace_entries {e : Entry} (h : IsSpacing e.front) (l : List Text) (rest : Text) :
    ∃ u, skipSpace (Text.joined [','] (e.text :: l) ++ rest) = '"' :: u := by
  cases l with
  | nil => exact ⟨_, skipSpace_entry h rest⟩
  | cons s l =>
    rw [joined_cons_cons, List.append_assoc]
    exact ⟨_, skipSpace_entry h _⟩

/-- The reader takes what a text spells. -/
theorem reads_of_spelledBy {v : Json} {t : Text} (h : SpelledBy v t) : Reads v t := by
  induction h with
  | null | true | false =>
    intro fuel rest hfuel _
    obtain ⟨fuel, rfl⟩ : ∃ n, fuel = n + 1 := ⟨fuel - 1, by simp at hfuel; omega⟩
    exact ⟨rest, rfl, rfl⟩
  | @number literal h =>
    intro fuel rest hfuel hrest
    have hpos : literal.length ≠ 0 := by
      obtain ⟨c, u, rfl, -⟩ := exists_head_of_isNumber h
      simp
    obtain ⟨fuel, rfl⟩ : ∃ n, fuel = n + 1 := ⟨fuel - 1, by omega⟩
    exact ⟨rest, readValue_number h hrest fuel, rfl⟩
  | @string inside h =>
    intro fuel rest hfuel _
    obtain ⟨fuel, rfl⟩ : ∃ n, fuel = n + 1 := ⟨fuel - 1, by simp at hfuel; omega⟩
    refine ⟨rest, ?_, rfl⟩
    rw [List.cons_append, List.append_assoc]
    exact readValue_string (skipSpace_cons (by decide) _) (scan_of_inside h rest)
  | @emptyArray s hs =>
    intro fuel rest hfuel _
    obtain ⟨fuel, rfl⟩ : ∃ n, fuel = n + 1 := ⟨fuel - 1, by simp at hfuel; omega⟩
    refine ⟨rest, ?_, rfl⟩
    have hclose : skipSpace (s ++ ']' :: rest) = ']' :: rest := by
      rw [skipSpace_append hs, skipSpace_cons (by decide)]
    rw [List.cons_append, List.append_assoc]
    exact readValue_emptyArray (skipSpace_cons (by decide) _) hclose
  | @array items hne h ih =>
    intro fuel rest hfuel _
    obtain ⟨fuel, rfl⟩ : ∃ n, fuel = n + 1 := ⟨fuel - 1, by simp at hfuel; omega⟩
    simp only [List.length_cons, List.length_append, List.length_nil] at hfuel
    obtain ⟨item, items, rfl⟩ := List.exists_cons_of_ne_nil hne
    obtain ⟨c, u, -, hc, happend⟩ : Begins (Text.joined [','] ((item :: items).map Prod.snd)) :=
      begins_joined (begins_of_spelledBy (h item List.mem_cons_self)) _
    refine ⟨rest, ?_, rfl⟩
    rw [List.cons_append, List.append_assoc, List.singleton_append,
      readValue_array (skipSpace_cons (by decide) _) (happend (']' :: rest)) hc, ← happend,
      readItems_skipSpace, readItems_joined hne ih rest (by omega)]
    rfl
  | @emptyObject s hs =>
    intro fuel rest hfuel _
    obtain ⟨fuel, rfl⟩ : ∃ n, fuel = n + 1 := ⟨fuel - 1, by simp at hfuel; omega⟩
    refine ⟨rest, ?_, rfl⟩
    have hclose : skipSpace (s ++ '\x7d' :: rest) = '\x7d' :: rest := by
      rw [skipSpace_append hs, skipSpace_cons (by decide)]
    rw [List.cons_append, List.append_assoc]
    exact readValue_emptyObject (skipSpace_cons (by decide) _) hclose
  | @object entries hne hspace hname h ih =>
    intro fuel rest hfuel _
    obtain ⟨fuel, rfl⟩ : ∃ n, fuel = n + 1 := ⟨fuel - 1, by simp at hfuel; omega⟩
    simp only [List.length_cons, List.length_append, List.length_nil] at hfuel
    obtain ⟨e, entries, rfl⟩ := List.exists_cons_of_ne_nil hne
    obtain ⟨u, hu⟩ := skipSpace_entries (hspace e List.mem_cons_self).1 (entries.map Entry.text)
      ('\x7d' :: rest)
    refine ⟨rest, ?_, rfl⟩
    rw [List.cons_append, List.append_assoc, List.singleton_append, List.map_cons,
      readValue_object (skipSpace_cons (by decide) _) hu (by decide), ← hu, readMembers_skipSpace,
      ← List.map_cons, readMembers_joined hne hspace hname ih rest (by omega)]
    rfl
  | @padded v front t back hfront hback h ih =>
    intro fuel rest hfuel hrest
    simp only [List.length_append] at hfuel
    obtain ⟨rest', hread, hskip⟩ :=
      ih fuel (back ++ rest) (by omega) (follows_spacing_append hback hrest)
    refine ⟨rest', ?_, ?_⟩
    · rw [List.append_assoc, List.append_assoc, readValue_spacing_append hfront, hread]
    · rw [hskip, skipSpace_append hback]

/-- A text that spells a value is read as this value. -/
theorem read_of_spelledBy {v : Json} {t : Text} (h : SpelledBy v t) : read t = some v := by
  have hfollows : Follows [] := fun c hc => by cases hc
  obtain ⟨rest, hread, hskip⟩ := reads_of_spelledBy h (2 * t.length + 2) [] (by omega) hfollows
  rw [List.append_nil] at hread
  rw [read, hread]
  show (if skipSpace rest = [] then some v else none) = some v
  rw [hskip]
  rfl

/-- A text spells one value at most. -/
theorem eq_of_spelledBy {v v' : Json} {t : Text} (h : SpelledBy v t) (h' : SpelledBy v' t) :
    v = v' := by
  have hread := read_of_spelledBy h
  rw [read_of_spelledBy h'] at hread
  exact (Option.some.inj hread).symm

/-! ## What is written -/

/-- A value made of literals. -/
inductive Valid : Json → Prop
  | null : Valid null
  | bool (b : Bool) : Valid (bool b)
  | number {literal : Text} (h : IsNumber literal) : Valid (number literal)
  | string {inside : Text} (h : Inside inside) : Valid (string inside)
  | array {items : List Json} (h : ∀ v ∈ items, Valid v) : Valid (array items)
  | object {members : List (Text × Json)} (hname : ∀ m ∈ members, Inside m.1)
    (h : ∀ m ∈ members, Valid m.2) : Valid (object members)

theorem isSpacing_lineBreak (style : Style) (depth : Nat) : IsSpacing (style.lineBreak depth) := by
  rw [Style.lineBreak]
  split
  · intro c hc
    rcases List.mem_cons.1 hc with rfl | hc
    · rfl
    · rw [List.eq_of_mem_replicate hc]
      rfl
  · exact isSpacing_nil

section

variable {style : Style} {depth : Nat}

theorem write_array_cons (v : Json) (items : List Json) :
    write style depth (array (v :: items)) =
      '[' :: (style.lineBreak (depth + 1) ++ write style (depth + 1) v ++
        writeItems style (depth + 1) items ++ style.lineBreak depth ++ [']']) := rfl

theorem write_object_cons (m : Text × Json) (members : List (Text × Json)) :
    write style depth (object (m :: members)) =
      '\x7b' :: (style.lineBreak (depth + 1) ++ "\"".toList ++ m.1 ++ "\"".toList ++ style.colon ++
        write style (depth + 1) m.2 ++ writeMembers style (depth + 1) members ++
          style.lineBreak depth ++ ['\x7d']) := rfl

theorem writeItems_nil : writeItems style depth [] = [] := rfl

theorem writeItems_cons (v : Json) (items : List Json) :
    writeItems style depth (v :: items) =
      ',' :: (style.lineBreak depth ++ write style depth v ++ writeItems style depth items) := rfl

theorem writeMembers_nil : writeMembers style depth [] = [] := rfl

theorem writeMembers_cons (m : Text × Json) (members : List (Text × Json)) :
    writeMembers style depth (m :: members) =
      ',' :: (style.lineBreak depth ++ "\"".toList ++ m.1 ++ "\"".toList ++ style.colon ++
        write style depth m.2 ++ writeMembers style depth members) := rfl

theorem exists_items_of_write {front back : Text} (hfront : IsSpacing front)
    (hback : IsSpacing back) {v : Json} {items : List Json}
    (h : ∀ v' ∈ v :: items, SpelledBy v' (write style depth v')) :
    ∃ parts : List (Json × Text), parts.map Prod.fst = v :: items ∧
      (∀ p ∈ parts, SpelledBy p.1 p.2) ∧
      Text.joined [','] (parts.map Prod.snd) =
        front ++ write style depth v ++ writeItems style depth items ++ back := by
  induction items generalizing front v with
  | nil =>
    refine ⟨[(v, front ++ write style depth v ++ back)], rfl, ?_, ?_⟩
    · intro p hp
      rw [List.mem_singleton.1 hp]
      exact .padded hfront hback (h v List.mem_cons_self)
    · simp [Text.joined, writeItems_nil]
  | cons next items ih =>
    obtain ⟨hv, hitems⟩ := List.forall_mem_cons.1 h
    obtain ⟨parts, hfst, hspelled, hjoined⟩ := ih (isSpacing_lineBreak style depth) hitems
    refine ⟨(v, front ++ write style depth v ++ []) :: parts, ?_, ?_, ?_⟩
    · rw [List.map_cons, hfst]
    · exact List.forall_mem_cons.2 ⟨.padded hfront isSpacing_nil hv, hspelled⟩
    · cases parts with
      | nil => cases hfst
      | cons p parts =>
        rw [List.map_cons] at hjoined
        rw [List.map_cons, List.map_cons, joined_cons_cons, hjoined]
        simp [writeItems_cons]

theorem exists_entries_of_write (hcolon : ∃ s, IsSpacing s ∧ style.colon = ':' :: s)
    {front back : Text} (hfront : IsSpacing front) (hback : IsSpacing back) {m : Text × Json}
    {members : List (Text × Json)} (hname : ∀ m' ∈ m :: members, Inside m'.1)
    (h : ∀ m' ∈ m :: members, SpelledBy m'.2 (write style depth m'.2)) :
    ∃ entries : List Entry, entries.map Entry.member = m :: members ∧
      (∀ e ∈ entries, IsSpacing e.front ∧ IsSpacing e.gap) ∧
      (∀ e ∈ entries, Inside e.name) ∧ (∀ e ∈ entries, SpelledBy e.value e.spelling) ∧
      Text.joined [','] (entries.map Entry.text) =
        front ++ "\"".toList ++ m.1 ++ "\"".toList ++ style.colon ++ write style depth m.2 ++
          writeMembers style depth members ++ back := by
  obtain ⟨s, hs, hstyle⟩ := hcolon
  induction members generalizing front m with
  | nil =>
    have hspelling := SpelledBy.padded hs hback (h m List.mem_cons_self)
    refine ⟨[{ front, name := m.1, gap := [], value := m.2
               spelling := s ++ write style depth m.2 ++ back }], rfl, ?_, ?_, ?_, ?_⟩
    · simp [hfront, isSpacing_nil]
    · simpa using hname
    · simpa using hspelling
    · simp [Text.joined, Entry.text, writeMembers_nil, hstyle]
  | cons next members ih =>
    obtain ⟨hm, hmembers⟩ := List.forall_mem_cons.1 h
    obtain ⟨hnameHere, hnames⟩ := List.forall_mem_cons.1 hname
    obtain ⟨entries, hmember, hspace, hinside, hspelled, hjoined⟩ :=
      ih (isSpacing_lineBreak style depth) hnames hmembers
    refine ⟨{ front, name := m.1, gap := [], value := m.2
              spelling := s ++ write style depth m.2 ++ [] } :: entries, ?_, ?_, ?_, ?_, ?_⟩
    · rw [List.map_cons, hmember]
      rfl
    · exact List.forall_mem_cons.2 ⟨⟨hfront, isSpacing_nil⟩, hspace⟩
    · exact List.forall_mem_cons.2 ⟨hnameHere, hinside⟩
    · exact List.forall_mem_cons.2 ⟨.padded hs isSpacing_nil hm, hspelled⟩
    · cases entries with
      | nil => cases hmember
      | cons e entries =>
        rw [List.map_cons] at hjoined
        rw [List.map_cons, List.map_cons, joined_cons_cons, hjoined]
        simp [Entry.text, writeMembers_cons, hstyle]

/-- What is written of a value spells it. -/
theorem spelledBy_write (hcolon : ∃ s, IsSpacing s ∧ style.colon = ':' :: s) {v : Json}
    (h : Valid v) (depth : Nat) : SpelledBy v (write style depth v) := by
  induction h generalizing depth with
  | null => exact .null
  | bool b =>
    cases b with
    | false => exact .false
    | true => exact .true
  | number h => exact .number h
  | string h => exact .string h
  | @array items _ ih =>
    cases items with
    | nil => exact .emptyArray isSpacing_nil
    | cons v items =>
      obtain ⟨parts, hfst, hspelled, hjoined⟩ :=
        exists_items_of_write (isSpacing_lineBreak style (depth + 1))
          (isSpacing_lineBreak style depth) fun v' hv' => ih v' hv' (depth + 1)
      have hne : parts ≠ [] := by
        rintro rfl
        cases hfst
      have harray := SpelledBy.array hne hspelled
      rw [hfst, hjoined] at harray
      rwa [write_array_cons]
  | @object members hname _ ih =>
    cases members with
    | nil => exact .emptyObject isSpacing_nil
    | cons m members =>
      obtain ⟨entries, hmember, hspace, hinside, hspelled, hjoined⟩ :=
        exists_entries_of_write hcolon (isSpacing_lineBreak style (depth + 1))
          (isSpacing_lineBreak style depth) hname fun m' hm' => ih m' hm' (depth + 1)
      have hne : entries ≠ [] := by
        rintro rfl
        cases hmember
      have hobject := SpelledBy.object hne hspace hinside hspelled
      rw [hmember, hjoined] at hobject
      rwa [write_object_cons]

end

theorem spelledBy_compact {v : Json} (h : Valid v) : SpelledBy v (compact v) :=
  spelledBy_write ⟨[], isSpacing_nil, rfl⟩ h 0

theorem spelledBy_pretty {v : Json} (h : Valid v) : SpelledBy v (pretty v) :=
  spelledBy_write ⟨[' '], by decide, rfl⟩ h 0

end Json
end RoverMission
