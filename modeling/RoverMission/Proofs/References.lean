/-
Where references stand.

Every text falls into pieces: plain text, references, references without a name, and behind
them at most one that is never closed (`exists_pieces`).  Replacing goes piece by piece, so
what is put in is never looked at, whatever it looks like together with what stands around
it (`apply_by_pieces`).  What is never closed is open for more: the next closing brace makes a
name of all that stands in front of it, a reference among it (`apply_around_reference`).
-/
import RoverMission.Config.Substitution

namespace RoverMission
namespace Substitution

variable {lookup lookup' : Text → Option Text} {t name rest : Text}

/-! ## Names -/

theorem name?_append (hne : name ≠ []) (h : '\x7d' ∉ name) (rest : Text) :
    name? (name ++ '\x7d' :: rest) = some (name, rest) := by
  obtain ⟨c, more, rfl⟩ := List.exists_cons_of_ne_nil hne
  have hrun : Text.run (· != '\x7d') (c :: more ++ '\x7d' :: rest) = (c :: more, '\x7d' :: rest) :=
    Text.run_until h fun d hd => (Option.some.inj hd).symm
  rw [name?, hrun]

theorem name?_of_not_mem (h : '\x7d' ∉ t) : name? t = none := by
  cases hn : name? t with
  | none => rfl
  | some found =>
    obtain ⟨name, rest⟩ := found
    rw [(eq_of_name? hn).1] at h
    exact absurd (List.mem_append_right _ List.mem_cons_self) h

theorem name?_closing (rest : Text) : name? ('\x7d' :: rest) = none := rfl

/-! ## Replacing -/

/-- A character that begins no reference stays. -/
theorem apply_cons {c : Char} (h : c = '$' → t.head? ≠ some '\x7b')
    (lookup : Text → Option Text) : apply lookup (c :: t) = c :: apply lookup t := by
  rw [apply]
  rintro u rfl rfl
  exact h rfl rfl

/-- A text depends on its references only. -/
theorem apply_congr (h : ∀ name ∈ names t, lookup name = lookup' name) :
    apply lookup t = apply lookup' t := by
  fun_induction names t with
  | case1 t name rest hname ih =>
    obtain ⟨hfirst, hrest⟩ := List.forall_mem_cons.1 h
    rw [apply_reference hname, apply_reference hname, hfirst, ih hrest]
  | case2 t hnone ih => rw [apply_unclosed hnone, apply_unclosed hnone, ih h]
  | case3 c t hc ih =>
    rw [apply, apply, ih h]
    · exact hc
    · exact hc
  | case4 => rw [apply, apply]

theorem isInfix_of_mem_names {t name : Text} (h : name ∈ names t) : name <:+: t := by
  fun_induction names t with
  | case1 t found rest hname ih =>
    obtain ⟨rfl, -, -⟩ := eq_of_name? hname
    rcases List.mem_cons.1 h with rfl | h
    · exact ⟨['$', '\x7b'], '\x7d' :: rest, by simp⟩
    · obtain ⟨before, after, rfl⟩ := ih h
      exact ⟨'$' :: '\x7b' :: (found ++ '\x7d' :: before), after, by simp⟩
  | case2 t hnone ih => exact (ih h).trans (List.suffix_cons _ _).isInfix
  | case3 c t hc ih => exact (ih h).trans (List.suffix_cons _ _).isInfix
  | case4 => cases h

/-- Without a closing brace there is nothing to replace. -/
theorem apply_of_closing_not_mem (h : '\x7d' ∉ t) (lookup : Text → Option Text) :
    apply lookup t = t := by
  induction t with
  | nil => rw [apply]
  | cons c t ih =>
    obtain ⟨-, ht⟩ := not_or.1 (mt List.mem_cons.2 h)
    by_cases hopens : c = '$' ∧ t.head? = some '\x7b'
    · obtain ⟨rfl, hhead⟩ := hopens
      obtain ⟨u, rfl⟩ := List.head?_eq_some_iff.1 hhead
      have hnone := name?_of_not_mem (not_or.1 (mt List.mem_cons.2 ht)).2
      rw [apply_unclosed hnone, ih ht]
    · rw [apply_cons (fun hc hhead => hopens ⟨hc, hhead⟩), ih ht]

/-! ## Pieces -/

/-- A part of a text in which nothing is left open. -/
inductive Piece
  | plain (t : Text)
  | nameless
  | reference (name : Text)

namespace Piece

def text : Piece → Text
  | plain t => t
  | nameless => "$\x7b\x7d"
  | reference name => Substitution.reference name

/-- The text of a piece with the value of a name that is known in place of a reference
to it. -/
def filled (lookup : Text → Option Text) : Piece → Text
  | reference name => (lookup name).getD (Substitution.reference name)
  | piece => piece.text

def isPlain : Piece → Bool
  | plain _ => true
  | _ => false

def textOf (pieces : List Piece) : Text := pieces.flatMap text

def filledOf (lookup : Text → Option Text) (pieces : List Piece) : Text :=
  pieces.flatMap (filled lookup)

/-- Pieces of which no two plain ones stand together.  Nothing opens in a plain one, and a
name is made of one or more characters that close nothing. -/
inductive Proper : List Piece → Prop
  | nil : Proper []
  | plain {t : Text} {pieces : List Piece} (ht : ¬ "$\x7b".toList <:+: t)
    (hnext : ∀ piece ∈ pieces.head?, piece.isPlain = false) (h : Proper pieces) :
    Proper (plain t :: pieces)
  | nameless {pieces : List Piece} (h : Proper pieces) : Proper (nameless :: pieces)
  | reference {name : Text} {pieces : List Piece} (hne : name ≠ []) (hname : '\x7d' ∉ name)
    (h : Proper pieces) : Proper (reference name :: pieces)

/-- What may stand behind the pieces of a text: nothing, or what opens and never closes. -/
def Unclosed (tail : Text) : Prop := tail = [] ∨ ∃ t, tail = "$\x7b" ++ t ∧ '\x7d' ∉ t

end Piece

open Piece

variable {pieces : List Piece} {tail : Text}

theorem head?_dollar_ne (t : Text) : ('$' :: t).head? ≠ some '\x7b' := by
  simp

theorem apply_plain_append (ht : ¬ "$\x7b".toList <:+: t) (hrest : rest.head? ≠ some '\x7b') :
    apply lookup (t ++ rest) = t ++ apply lookup rest := by
  induction t with
  | nil => rfl
  | cons c t ih =>
    have hopens : c = '$' → (t ++ rest).head? ≠ some '\x7b' := by
      rintro rfl hhead
      -- The brace would stand in `t` itself, or be the one that `rest` does not begin with.
      cases t with
      | nil => exact hrest hhead
      | cons d t =>
        obtain rfl : d = '\x7b' := Option.some.inj hhead
        exact ht ⟨[], t, rfl⟩
    have ht' : ¬ "$\x7b".toList <:+: t := fun h => ht (h.trans (List.suffix_cons c t).isInfix)
    rw [List.cons_append, apply_cons hopens, ih ht', List.cons_append]

theorem apply_nameless_append (rest : Text) :
    apply lookup ("$\x7b\x7d" ++ rest) = "$\x7b\x7d" ++ apply lookup rest := by
  show apply lookup ('$' :: '\x7b' :: '\x7d' :: rest) = _
  rw [apply_unclosed (name?_closing rest), apply_cons (fun h => absurd h (by decide)),
    apply_cons (fun h => absurd h (by decide))]
  rfl

theorem apply_reference_append (hne : name ≠ []) (hname : '\x7d' ∉ name) (rest : Text) :
    apply lookup (reference name ++ rest) =
      (lookup name).getD (reference name) ++ apply lookup rest := by
  have htext : reference name ++ rest = '$' :: '\x7b' :: (name ++ '\x7d' :: rest) := by
    simp [reference]
  rw [htext, apply_reference (name?_append hne hname rest)]

/-- Pieces are replaced one by one, and what stands behind them on its own, as long as it
does not go on with an opening brace. -/
theorem apply_textOf_append (h : Proper pieces) (hrest : rest.head? ≠ some '\x7b') :
    apply lookup (textOf pieces ++ rest) = filledOf lookup pieces ++ apply lookup rest := by
  induction h with
  | nil => rfl
  | @plain t pieces ht hnext _ ih =>
    have hhead : (textOf pieces ++ rest).head? ≠ some '\x7b' := by
      cases pieces with
      | nil => exact hrest
      | cons piece pieces =>
        cases piece with
        | plain u => cases hnext (.plain u) rfl
        | nameless => exact head?_dollar_ne _
        | reference name => exact head?_dollar_ne _
    rw [textOf, List.flatMap_cons, List.append_assoc, text, ← textOf, apply_plain_append ht hhead,
      ih, ← List.append_assoc]
    rfl
  | nameless _ ih =>
    rw [textOf, List.flatMap_cons, List.append_assoc, text, ← textOf, apply_nameless_append, ih,
      ← List.append_assoc]
    rfl
  | reference hne hname _ ih =>
    rw [textOf, List.flatMap_cons, List.append_assoc, text, ← textOf,
      apply_reference_append hne hname, ih, ← List.append_assoc]
    rfl

theorem apply_of_unclosed (h : Unclosed tail) (lookup : Text → Option Text) :
    apply lookup tail = tail := by
  rcases h with rfl | ⟨t, rfl, ht⟩
  · rw [apply]
  · refine apply_of_closing_not_mem (fun hmem => ?_) lookup
    rcases List.mem_append.1 hmem with hmem | hmem
    · exact absurd hmem (by decide)
    · exact ht hmem

theorem head?_of_unclosed (h : Unclosed tail) : tail.head? ≠ some '\x7b' := by
  rcases h with rfl | ⟨t, rfl, -⟩
  · exact fun h => by cases h
  · exact head?_dollar_ne _

/-- Text in front of pieces is a plain piece, or it belongs to the first one. -/
theorem exists_cons_pieces {c : Char} (h : Proper pieces)
    (hc : c = '$' → (textOf pieces).head? ≠ some '\x7b') :
    ∃ pieces', Proper pieces' ∧ textOf pieces' = c :: textOf pieces := by
  have hsingle : ¬ "$\x7b".toList <:+: [c] := fun hi => absurd hi.length_le (by simp)
  cases h with
  | nil => exact ⟨[.plain [c]], .plain hsingle (by simp) .nil, rfl⟩
  | @plain t pieces ht hnext h =>
    refine ⟨.plain (c :: t) :: pieces, .plain (fun hi => ?_) hnext h, rfl⟩
    rcases List.infix_cons_iff.1 hi with ⟨u, hu⟩ | hi
    · obtain ⟨rfl, rfl⟩ : '$' = c ∧ '\x7b' :: u = t := by simpa using hu
      exact hc rfl rfl
    · exact ht hi
  | @nameless pieces h =>
    exact ⟨.plain [c] :: .nameless :: pieces, .plain hsingle (by simp [isPlain]) (.nameless h), rfl⟩
  | @reference name pieces hne hname h =>
    exact ⟨.plain [c] :: .reference name :: pieces,
      .plain hsingle (by simp [isPlain]) (.reference hne hname h), rfl⟩

/-- Every text falls into pieces and what is never closed. -/
theorem exists_pieces (t : Text) :
    ∃ pieces tail, Proper pieces ∧ Unclosed tail ∧ t = textOf pieces ++ tail := by
  induction hn : t.length using Nat.strongRecOn generalizing t with
  | _ n ih =>
    rcases t with _ | ⟨c, t⟩
    · exact ⟨[], [], .nil, Or.inl rfl, rfl⟩
    rw [List.length_cons] at hn
    by_cases hopens : c = '$' ∧ t.head? = some '\x7b'
    · obtain ⟨rfl, hhead⟩ := hopens
      obtain ⟨u, rfl⟩ := List.head?_eq_some_iff.1 hhead
      rw [List.length_cons] at hn
      -- What opens here goes on to the first closing brace, over anything in between.
      by_cases hmem : '\x7d' ∈ u
      · obtain ⟨name, rest, rfl, hname⟩ := List.eq_append_cons_of_mem hmem
        rw [List.length_append, List.length_cons] at hn
        obtain ⟨pieces, tail, hproper, htail, rfl⟩ := ih rest.length (by omega) rest rfl
        by_cases hne : name = []
        · subst hne
          exact ⟨.nameless :: pieces, tail, .nameless hproper, htail, rfl⟩
        · refine ⟨.reference name :: pieces, tail, .reference hne hname hproper, htail, ?_⟩
          simp [textOf, text, reference]
      · exact ⟨[], _, .nil, Or.inr ⟨u, rfl, hmem⟩, rfl⟩
    · obtain ⟨pieces, tail, hproper, htail, rfl⟩ := ih t.length (by omega) t rfl
      have hc : c = '$' → (textOf pieces).head? ≠ some '\x7b' := fun hc hhead =>
        hopens ⟨hc, by rw [List.head?_append, hhead]; rfl⟩
      obtain ⟨pieces', hproper', htext⟩ := exists_cons_pieces hproper hc
      exact ⟨pieces', tail, hproper', htail, by rw [htext]; rfl⟩

theorem apply_pieces (h : Proper pieces) (htail : Unclosed tail) (lookup : Text → Option Text) :
    apply lookup (textOf pieces ++ tail) = filledOf lookup pieces ++ tail := by
  rw [apply_textOf_append h (head?_of_unclosed htail), apply_of_unclosed htail]

theorem apply_of_unknown (h : ∀ name ∈ names t, lookup name = none) : apply lookup t = t := by
  have hnone : ∀ pieces, filledOf (fun _ => none) pieces = textOf pieces := fun pieces => by
    have hpiece : filled (fun _ => none) = text := by
      funext piece
      cases piece <;> rfl
    rw [filledOf, hpiece, textOf]
  obtain ⟨pieces, tail, hproper, htail, ht⟩ := exists_pieces t
  have hunknown : apply lookup t = apply (fun _ => none) t := apply_congr h
  rw [hunknown, ht, apply_pieces hproper htail, hnone]

/-- A text falls into pieces, whatever it is, and is replaced piece by piece, whatever the
values are.  A text of which no name is known stays as it is. -/
theorem apply_by_pieces :
    (∀ t : Text, ∃ pieces tail, Proper pieces ∧ Unclosed tail ∧ t = textOf pieces ++ tail) ∧
      (∀ (lookup : Text → Option Text) (pieces : List Piece) (tail : Text),
        Proper pieces → Unclosed tail →
        apply lookup (textOf pieces ++ tail) = filledOf lookup pieces ++ tail) ∧
      ∀ (lookup : Text → Option Text) (t : Text),
        (∀ name ∈ names t, lookup name = none) → apply lookup t = t :=
  ⟨exists_pieces, fun lookup _ _ h htail => apply_pieces h htail lookup,
    fun _ _ h => apply_of_unknown h⟩

/-- A value that names a variable, and one that becomes a reference with the brace behind
it.  Neither is replaced.  A name may hold what opens a reference, or a line feed. -/
theorem apply_by_pieces_lookalikes :
    let lookup : Text → Option Text := fun name =>
      if name = "A" then some "$\x7bB" else if name = "$\x7b\n" then some "$\x7bB\x7d"
      else if name = "B" then some "x" else none
    let pieces : List Piece :=
      [.plain "$", .reference "A", .plain "\x7d", .nameless, .reference "$\x7b\n", .reference "C"]
    Proper pieces ∧ Unclosed "$\x7bB" ∧
      apply lookup "$$\x7bA\x7d\x7d$\x7b\x7d$\x7b$\x7b\n\x7d$\x7bC\x7d$\x7bB" =
        "$$\x7bB\x7d$\x7b\x7d$\x7bB\x7d$\x7bC\x7d$\x7bB".toList ∧
      (∀ name ∈ names "$$\x7bA\x7d\x7d$\x7bB\x7d",
        (fun _ => none : Text → Option Text) name = none) ∧
      apply (fun _ => none) "$$\x7bA\x7d\x7d$\x7bB\x7d" = "$$\x7bA\x7d\x7d$\x7bB\x7d".toList := by
  intro lookup pieces
  have hproper : Proper pieces :=
    .plain (by decide) (by decide) <| .reference (by decide) (by decide) <|
      .plain (by decide) (by decide) <| .nameless <| .reference (by decide) (by decide) <|
        .reference (by decide) (by decide) .nil
  have htail : Unclosed "$\x7bB" := Or.inr ⟨"B".toList, rfl, by decide⟩
  exact ⟨hproper, htail, apply_by_pieces.2.1 lookup pieces _ hproper htail, fun _ _ => rfl,
    apply_by_pieces.2.2 _ _ fun _ _ => rfl⟩

/-! ## A reference among other text -/

/-- A text that leaves nothing open. -/
def Closed (t : Text) : Prop := ∃ pieces, Proper pieces ∧ textOf pieces = t

theorem not_opens_of_not_mem (h : '\x7b' ∉ t) : ¬ "$\x7b".toList <:+: t := fun hi =>
  h (hi.subset (List.mem_cons_of_mem _ List.mem_cons_self))

theorem closed_of_not_mem (h : '\x7b' ∉ t) : Closed t :=
  ⟨[.plain t], .plain (not_opens_of_not_mem h) (by simp) .nil, List.append_nil t⟩

theorem head?_reference_append (name b : Text) : (reference name ++ b).head? ≠ some '\x7b' :=
  head?_dollar_ne _

theorem apply_closed_append {a : Text} (ha : Closed a) (hrest : rest.head? ≠ some '\x7b') :
    apply lookup (a ++ rest) = apply lookup a ++ apply lookup rest := by
  obtain ⟨pieces, hproper, rfl⟩ := ha
  have hnil : apply lookup [] = [] := by rw [apply]
  have hself : apply lookup (textOf pieces ++ []) = filledOf lookup pieces ++ apply lookup [] :=
    apply_textOf_append hproper (fun h => by cases h)
  rw [List.append_nil, hnil, List.append_nil] at hself
  rw [apply_textOf_append hproper hrest, hself]

/-- What is open when a reference begins ends with it. -/
theorem apply_swallowed {front opened b : Text} (hfront : Closed front) (hopened : '\x7d' ∉ opened)
    (hname : '\x7d' ∉ name) (lookup : Text → Option Text) :
    apply lookup (front ++ ("$\x7b" ++ opened) ++ reference name ++ b) =
      apply lookup front ++
        ((lookup (opened ++ "$\x7b" ++ name)).getD (reference (opened ++ "$\x7b" ++ name)) ++
          apply lookup b) := by
  have hne : opened ++ "$\x7b".toList ++ name ≠ [] := by simp
  have hnone : '\x7d' ∉ opened ++ "$\x7b".toList ++ name := by
    simp [hopened, hname]
  have htext : front ++ ("$\x7b".toList ++ opened) ++ reference name ++ b =
      front ++ (reference (opened ++ "$\x7b".toList ++ name) ++ b) := by
    simp [reference]
  rw [htext, apply_closed_append hfront (head?_reference_append _ b),
    apply_reference_append hne hnone]

/-- A reference to a known name is replaced, wherever it stands behind text that leaves
nothing open.  Any other text ends with something that is open, and this goes on to the
closing brace of the reference: all of it is one name, and it is replaced only if that name
is known. -/
theorem apply_around_reference (lookup : Text → Option Text) (name v b : Text) (hne : name ≠ [])
    (hname : '\x7d' ∉ name) (hv : lookup name = some v) :
    (∀ a, Closed a →
        apply lookup (a ++ reference name ++ b) = apply lookup a ++ v ++ apply lookup b) ∧
      (∀ front opened, Closed front → '\x7d' ∉ opened →
        apply lookup (front ++ ("$\x7b" ++ opened) ++ reference name ++ b) =
          apply lookup front ++
            ((lookup (opened ++ "$\x7b" ++ name)).getD (reference (opened ++ "$\x7b" ++ name)) ++
              apply lookup b)) ∧
      ∀ a, Closed a ∨ ∃ front opened, a = front ++ ("$\x7b" ++ opened) ∧ Closed front ∧
        '\x7d' ∉ opened := by
  refine ⟨fun a ha => ?_, fun front opened hfront hopened =>
    apply_swallowed hfront hopened hname lookup, fun a => ?_⟩
  · rw [List.append_assoc, apply_closed_append ha (head?_reference_append name b),
      apply_reference_append hne hname, hv, List.append_assoc]
    rfl
  · obtain ⟨pieces, tail, hproper, htail, rfl⟩ := exists_pieces a
    rcases htail with rfl | ⟨opened, rfl, hopened⟩
    · exact Or.inl ⟨pieces, hproper, (List.append_nil _).symm⟩
    · exact Or.inr ⟨textOf pieces, opened, rfl, ⟨pieces, hproper, rfl⟩, hopened⟩

/-- A level from a variable, with a dollar sign in front of the reference, and with a comment
that opens a reference two lines above. -/
theorem apply_around_reference_level :
    let lookup : Text → Option Text := fun name => if name = "LEVEL" then some "debug" else none
    let comment : Text := "# "
    let opened : Text := "\n[logging]\nlevel = \""
    lookup "LEVEL" = some "debug".toList ∧ Closed "level = \"$" ∧ Closed comment ∧
      apply lookup ("level = \"$" ++ reference "LEVEL" ++ "\"") =
        apply lookup "level = \"$" ++ "debug" ++ apply lookup "\"" ∧
      apply lookup (comment ++ ("$\x7b" ++ opened) ++ reference "LEVEL" ++ "\"") =
        apply lookup comment ++
          ((lookup (opened ++ "$\x7b" ++ "LEVEL")).getD
            (reference (opened ++ "$\x7b" ++ "LEVEL")) ++ apply lookup "\"") := by
  intro lookup comment opened
  have hlevel : Closed "level = \"$" := closed_of_not_mem (by decide)
  have hcomment : Closed comment := closed_of_not_mem (by decide)
  have hv : lookup "LEVEL" = some "debug".toList := if_pos rfl
  have haround := apply_around_reference lookup "LEVEL" "debug" "\"" (by decide) (by decide) hv
  exact ⟨hv, hlevel, hcomment, haround.1 _ hlevel, haround.2.1 comment opened hcomment (by decide)⟩

/-- Not every reference to a known name is replaced: one in a comment that is left open takes
the next one with it. -/
theorem exists_known_reference_kept :
    ∃ (lookup : Text → Option Text) (name v a b : Text), name ≠ [] ∧
      (∀ c ∈ name, (c.isAlphanum || c == '_') = true) ∧ lookup name = some v ∧
      apply lookup (a ++ reference name ++ b) ≠ apply lookup a ++ v ++ apply lookup b := by
  let lookup : Text → Option Text := fun name => if name = "LEVEL" then some "debug" else none
  let opened : Text := "\n[logging]\nlevel = \""
  refine ⟨lookup, "LEVEL", "debug", "# " ++ ("$\x7b" ++ opened), "\"", by decide,
    List.all_eq_true.1 (by decide), if_pos rfl, ?_⟩
  have hcomment : Closed "# " := closed_of_not_mem (by decide)
  have hfront : apply lookup "# " = "# ".toList := apply_of_closing_not_mem (by decide) lookup
  have hbehind : apply lookup "\"" = "\"".toList := apply_of_closing_not_mem (by decide) lookup
  have hall : apply lookup ("# " ++ ("$\x7b" ++ opened)) =
      "# ".toList ++ ("$\x7b".toList ++ opened) :=
    apply_of_closing_not_mem (by decide) lookup
  rw [apply_swallowed hcomment (by decide) (by decide), hfront, hbehind, hall]
  decide

end Substitution
end RoverMission
