/-
Literals of JSON.

What may stand between the quotes of a string, and what is a number, is said here
as a grammar.  A scanner takes a whole literal and stops behind it, as long as what
follows a number does not go on with it (`Follows`).  A text that is escaped and an
integer that is written are literals, and unescaping gives the text back.
-/
import RoverMission.Json.Reader
import RoverMission.Proofs.Layout

namespace RoverMission
namespace Json

/-! ## Strings -/

/-- What may stand between the quotes of a string. -/
inductive Inside : Text → Prop
  | nil : Inside []
  | plain {c : Char} {t : Text} (hc : 0x20 ≤ c.toNat) (hq : c ≠ '"') (hb : c ≠ '\\')
    (ht : Inside t) : Inside (c :: t)
  | named {e c : Char} {t : Text} (he : named? e = some c) (ht : Inside t) :
    Inside ('\\' :: e :: t)
  | unit {a b c d : Char} {n : Nat} {t : Text} (hn : Hexadecimal.toNat? [a, b, c, d] = some n)
    (ht : Inside t) : Inside ('\\' :: 'u' :: a :: b :: c :: d :: t)

theorem ne_unit_of_named? {e c : Char} (h : named? e = some c) : e ≠ 'u' := by
  rintro rfl
  cases h

theorem scan_named {e c : Char} (h : named? e = some c) (t : Text) :
    scan ('\\' :: e :: t) = (scan t).map fun p => ('\\' :: e :: p.1, p.2) := by
  have hu := ne_unit_of_named? h
  rw [scan, h]
  · cases scan t <;> rfl
  · exact fun _ _ _ _ _ he _ => hu he

theorem scan_plain {c : Char} (hc : 0x20 ≤ c.toNat) (hq : c ≠ '"') (hb : c ≠ '\\') (t : Text) :
    scan (c :: t) = (scan t).map fun p => (c :: p.1, p.2) := by
  have hn : ¬ (c.toNat < 0x20 ∨ c = '\\') := by
    rintro (hlt | he)
    · omega
    · exact hb he
  rw [scan, if_neg hn]
  · cases scan t <;> rfl
  · exact hq
  · exact fun _ _ _ _ _ he _ => hb he
  · exact fun _ _ he _ => hb he

/-- The scanner of strings stops at the closing quote. -/
theorem scan_of_inside {t : Text} (h : Inside t) (rest : Text) :
    scan (t ++ '"' :: rest) = some (t, rest) := by
  induction h with
  | nil => rfl
  | plain hc hq hb _ ih =>
    rw [List.cons_append, scan_plain hc hq hb, ih]
    rfl
  | named he _ ih =>
    rw [List.cons_append, List.cons_append, scan_named he, ih]
    rfl
  | unit hn _ ih =>
    simp only [List.cons_append]
    rw [scan, hn, ih]
    rfl

/-- The three ways to write a character. -/
theorem escapeChar_cases (c : Char) :
    (∃ e, named? e = some c ∧ escapeChar c = ['\\', e]) ∨
      (∃ x y, Hexadecimal.toNat? ['0', '0', x, y] = some c.toNat ∧ c.toNat < 0x20 ∧
        escapeChar c = ['\\', 'u', '0', '0', x, y]) ∨
      (0x20 ≤ c.toNat ∧ c ≠ '"' ∧ c ≠ '\\' ∧ escapeChar c = [c]) := by
  rw [escapeChar]
  split
  · subst_vars
    exact Or.inl ⟨'"', rfl, rfl⟩
  split
  · subst_vars
    exact Or.inl ⟨'\\', rfl, rfl⟩
  split
  · subst_vars
    exact Or.inl ⟨'n', rfl, rfl⟩
  split
  · subst_vars
    exact Or.inl ⟨'t', rfl, rfl⟩
  split
  · subst_vars
    exact Or.inl ⟨'r', rfl, rfl⟩
  split
  · subst_vars
    exact Or.inl ⟨'b', rfl, rfl⟩
  split
  · subst_vars
    exact Or.inl ⟨'f', rfl, rfl⟩
  rename_i hq hb _ _ _ _ _
  split
  · rename_i hlt
    obtain ⟨x, y, hpair, hn⟩ := Hexadecimal.toNat?_pair (Nat.lt_trans hlt (by decide))
    rw [hpair]
    exact Or.inr (Or.inl ⟨x, y, hn, hlt, rfl⟩)
  · rename_i hlt
    exact Or.inr (Or.inr ⟨Nat.le_of_not_lt hlt, hq, hb, rfl⟩)

theorem escape_cons (c : Char) (t : Text) : escape (c :: t) = escapeChar c ++ escape t :=
  List.flatMap_cons

/-- Escaping makes a literal of any text. -/
theorem inside_escape (t : Text) : Inside (escape t) := by
  induction t with
  | nil => exact .nil
  | cons c t ih =>
    rw [escape_cons]
    rcases escapeChar_cases c with ⟨e, he, hw⟩ | ⟨x, y, hn, -, hw⟩ | ⟨hc, hq, hb, hw⟩
    · rw [hw]
      exact .named he ih
    · rw [hw]
      exact .unit hn ih
    · rw [hw]
      exact .plain hc hq hb ih

theorem unescape_named {e c : Char} (h : named? e = some c) (t : Text) :
    unescape ('\\' :: e :: t) = (unescape t).map (c :: ·) := by
  have hu := ne_unit_of_named? h
  rw [unescape, h]
  · cases unescape t <;> rfl
  · exact fun _ _ _ _ _ he _ => hu he

theorem unescape_plain {c : Char} (hb : c ≠ '\\') (t : Text) :
    unescape (c :: t) = (unescape t).map (c :: ·) := by
  rw [unescape]
  · cases unescape t <;> rfl
  · exact fun _ _ _ _ _ he _ => hb he
  · exact fun _ _ he _ => hb he
  · exact fun he _ => hb he

theorem unescape_unit {a b c d : Char} {n : Nat} (hn : Hexadecimal.toNat? [a, b, c, d] = some n)
    (hlt : n < 0xd800) (t : Text) :
    unescape ('\\' :: 'u' :: a :: b :: c :: d :: t) = (unescape t).map (Char.ofNat n :: ·) := by
  have hhigh : ¬ (0xd800 ≤ n ∧ n < 0xdc00) := by omega
  have hlow : ¬ (0xdc00 ≤ n ∧ n < 0xe000) := by omega
  rw [unescape, hn]
  show (if 0xd800 ≤ n ∧ n < 0xdc00 then _ else if 0xdc00 ≤ n ∧ n < 0xe000 then none else _) = _
  rw [if_neg hhigh, if_neg hlow]
  cases unescape t <;> rfl

/-- Nothing is lost by escaping. -/
theorem unescape_escape (t : Text) : unescape (escape t) = some t := by
  induction t with
  | nil => rfl
  | cons c t ih =>
    rw [escape_cons]
    rcases escapeChar_cases c with ⟨e, he, hw⟩ | ⟨x, y, hn, hlt, hw⟩ | ⟨-, -, hb, hw⟩
    · rw [hw]
      show unescape ('\\' :: e :: escape t) = _
      rw [unescape_named he, ih]
      rfl
    · have hunit := unescape_unit hn (by omega) (escape t)
      rw [Char.ofNat_toNat, ih] at hunit
      rw [hw]
      exact hunit
    · rw [hw, List.singleton_append, unescape_plain hb, ih]
      rfl

/-! ## Numbers -/

open Numeral (IsDigits)

/-- An integer part, without superfluous zeros in front. -/
def IsWhole (t : Text) : Prop := t = ['0'] ∨ (IsDigits t ∧ t.head? ≠ some '0')

def IsFraction (t : Text) : Prop := t = [] ∨ ∃ digits, IsDigits digits ∧ t = '.' :: digits

def IsExponent (t : Text) : Prop :=
  t = [] ∨ ∃ e sign digits, (e = 'e' ∨ e = 'E') ∧ (sign = [] ∨ sign = ['+'] ∨ sign = ['-']) ∧
    IsDigits digits ∧ t = e :: (sign ++ digits)

inductive IsNumber : Text → Prop
  | parts {minus whole fraction exponent : Text} (hm : minus = [] ∨ minus = ['-'])
    (hw : IsWhole whole) (hf : IsFraction fraction) (he : IsExponent exponent) :
    IsNumber (minus ++ whole ++ fraction ++ exponent)

/-- A text in front of which a number may end. -/
def Follows (t : Text) : Prop :=
  ∀ c, t.head? = some c → c.isDigit = false ∧ c ≠ '.' ∧ c ≠ 'e' ∧ c ≠ 'E'

/-- A text that does not begin with a digit. -/
def EndsDigits (t : Text) : Prop := ∀ c, t.head? = some c → c.isDigit = false

theorem endsDigits_of_follows {t : Text} (h : Follows t) : EndsDigits t := fun c hc => (h c hc).1

theorem isDigits_of_isWhole {t : Text} (h : IsWhole t) : IsDigits t := by
  rcases h with rfl | ⟨h, -⟩
  · have hzero : Char.isDigit '0' = true := by decide
    exact ⟨List.cons_ne_nil _ _, List.forall_mem_singleton.2 hzero⟩
  · exact h

theorem scanDigits_append {digits rest : Text} (hd : IsDigits digits) (hr : EndsDigits rest) :
    scanDigits (digits ++ rest) = some (digits, rest) := by
  have hrun : Text.run Char.isDigit (digits ++ rest) = (digits, rest) := Text.run_append hd.2 hr
  obtain ⟨c, more, rfl⟩ := List.exists_cons_of_ne_nil hd.1
  rw [scanDigits, hrun]

theorem scanInteger_append {whole rest : Text} (hw : IsWhole whole) (hr : EndsDigits rest) :
    scanInteger (whole ++ rest) = some (whole, rest) := by
  rcases hw with rfl | ⟨hd, hzero⟩
  · rfl
  · obtain ⟨c, more, rfl⟩ := List.exists_cons_of_ne_nil hd.1
    have hc : c ≠ '0' := fun he => hzero (congrArg some he)
    rw [scanInteger]
    · exact scanDigits_append hd hr
    · intro t ht
      exact hc (List.cons.inj ht).1

theorem scanFraction_append {fraction rest : Text} (hf : IsFraction fraction)
    (hdot : ∀ c, rest.head? = some c → c ≠ '.') (hr : EndsDigits rest) :
    scanFraction (fraction ++ rest) = some (fraction, rest) := by
  rcases hf with rfl | ⟨digits, hd, rfl⟩
  · cases rest with
    | nil => rfl
    | cons c rest =>
      have hc := hdot c rfl
      rw [List.nil_append, scanFraction]
      intro t ht
      exact hc (List.cons.inj ht).1
  · rw [List.cons_append, scanFraction, scanDigits_append hd hr]
    rfl

theorem scanSign_append {sign digits : Text} (hs : sign = [] ∨ sign = ['+'] ∨ sign = ['-'])
    (hd : IsDigits digits) (rest : Text) :
    scanSign (sign ++ (digits ++ rest)) = (sign, digits ++ rest) := by
  rcases hs with rfl | rfl | rfl
  · obtain ⟨c, more, rfl⟩ := List.exists_cons_of_ne_nil hd.1
    have hc : c.isDigit = true := hd.2 c List.mem_cons_self
    have hminus : c ≠ '-' := by
      rintro rfl
      cases hc
    have hplus : c ≠ '+' := by
      rintro rfl
      cases hc
    rw [List.nil_append, scanSign]
    · intro t ht
      exact hminus (List.cons.inj ht).1
    · intro t ht
      exact hplus (List.cons.inj ht).1
  · rfl
  · rfl

theorem scanExponent_append {exponent rest : Text} (he : IsExponent exponent)
    (hr : Follows rest) : scanExponent (exponent ++ rest) = some (exponent, rest) := by
  rcases he with rfl | ⟨e, sign, digits, he, hs, hd, rfl⟩
  · cases rest with
    | nil => rfl
    | cons c rest =>
      obtain ⟨-, -, hlower, hupper⟩ := hr c rfl
      have hc : ¬ (c = 'e' ∨ c = 'E') := not_or.2 ⟨hlower, hupper⟩
      rw [List.nil_append, scanExponent, if_neg hc]
  · rw [List.cons_append, List.append_assoc, scanExponent, if_pos he, scanSign_append hs hd]
    show (scanDigits (digits ++ rest) >>= _) = _
    rw [scanDigits_append hd (endsDigits_of_follows hr)]
    rfl

/-- What follows a fraction does not go on with it. -/
theorem head_exponent {exponent rest : Text} (he : IsExponent exponent) (hr : Follows rest)
    {c : Char} (hc : (exponent ++ rest).head? = some c) : c.isDigit = false ∧ c ≠ '.' := by
  rcases he with rfl | ⟨e, sign, digits, he, -, -, rfl⟩
  · exact ⟨(hr c hc).1, (hr c hc).2.1⟩
  · cases hc
    rcases he with rfl | rfl <;> decide

theorem endsDigits_fraction {fraction rest : Text} (hf : IsFraction fraction)
    (hr : EndsDigits rest) : EndsDigits (fraction ++ rest) := by
  rcases hf with rfl | ⟨digits, -, rfl⟩
  · exact hr
  · intro c hc
    cases hc
    rfl

theorem scanNumber_append {t rest : Text} (h : IsNumber t) (hr : Follows rest) :
    scanNumber (t ++ rest) = some (t, rest) := by
  obtain @⟨minus, whole, fraction, exponent, hm, hw, hf, he⟩ := h
  have hends : EndsDigits (exponent ++ rest) := fun c hc => (head_exponent he hr hc).1
  have hdot : ∀ c, (exponent ++ rest).head? = some c → c ≠ '.' :=
    fun c hc => (head_exponent he hr hc).2
  have hwhole : scanInteger (whole ++ (fraction ++ (exponent ++ rest))) =
      some (whole, fraction ++ (exponent ++ rest)) :=
    scanInteger_append hw (endsDigits_fraction hf hends)
  have hfraction := scanFraction_append hf hdot hends
  have hexponent := scanExponent_append he hr
  have hsplit : minus ++ whole ++ fraction ++ exponent ++ rest =
      minus ++ (whole ++ (fraction ++ (exponent ++ rest))) := by
    simp only [List.append_assoc]
  rw [hsplit]
  rcases hm with rfl | rfl
  · obtain ⟨c, more, hcons⟩ := List.exists_cons_of_ne_nil (isDigits_of_isWhole hw).1
    have hc : c.isDigit = true := (isDigits_of_isWhole hw).2 c (hcons ▸ List.mem_cons_self)
    rw [List.nil_append, scanNumber]
    · simp [hwhole, hfraction, hexponent]
    · intro t ht
      rw [hcons] at ht
      cases (List.cons.inj ht).1
      cases hc
  · rw [List.singleton_append, scanNumber]
    simp [hwhole, hfraction, hexponent]

/-! ## Written integers -/

theorem head?_ofNat {n : Nat} (h : n ≠ 0) : (Numeral.ofNat n).head? ≠ some '0' := by
  induction n using Nat.strongRecOn with
  | ind n ih =>
    rw [Numeral.ofNat, Nat.toDigits_eq_if (by decide)]
    split
    · simp [h]
    · have hten : (Numeral.ofNat (n / 10)).head? ≠ some '0' := ih (n / 10) (by omega) (by omega)
      obtain ⟨c, more, hc⟩ := List.exists_cons_of_ne_nil (Numeral.ofNat_ne_nil (n / 10))
      rw [Numeral.ofNat] at hc hten
      rw [hc] at hten ⊢
      exact hten

theorem isDigits_ofNat (n : Nat) : IsDigits (Numeral.ofNat n) :=
  ⟨Numeral.ofNat_ne_nil n, fun _ => Numeral.isDigit_of_mem_ofNat⟩

theorem isWhole_ofNat (n : Nat) : IsWhole (Numeral.ofNat n) := by
  by_cases h : n = 0
  · subst h
    exact Or.inl rfl
  · exact Or.inr ⟨isDigits_ofNat n, head?_ofNat h⟩

theorem isNumber_ofNat (n : Nat) : IsNumber (Numeral.ofNat n) := by
  have h : IsNumber ([] ++ Numeral.ofNat n ++ [] ++ []) :=
    .parts (Or.inl rfl) (isWhole_ofNat n) (Or.inl rfl) (Or.inl rfl)
  rwa [List.append_nil, List.append_nil] at h

theorem isNumber_ofInt (n : Int) : IsNumber (Numeral.ofInt n) := by
  cases n with
  | ofNat n => exact isNumber_ofNat n
  | negSucc n =>
    have h : IsNumber (['-'] ++ Numeral.ofNat (n + 1) ++ [] ++ []) :=
      .parts (Or.inr rfl) (isWhole_ofNat (n + 1)) (Or.inl rfl) (Or.inl rfl)
    rwa [List.append_nil, List.append_nil] at h

end Json
end RoverMission
