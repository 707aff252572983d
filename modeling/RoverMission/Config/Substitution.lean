/-
Variable references in configuration texts.

A reference is a dollar sign and a name between braces; a name is one or more
characters other than a closing brace.  References are found from left to right
and replaced once: a value is never looked at again, and a reference to an
unknown name stays as it is.
-/
import RoverMission.Text

namespace RoverMission
namespace Substitution

/-- The name and the rest of a text that continues a reference after its opening
brace. -/
def name? (t : Text) : Option (Text × Text) :=
  match Text.run (· != '\x7d') t with
  | (c :: name, _ :: rest) => some (c :: name, rest)
  | _ => none

theorem eq_of_name? {t name rest : Text} (h : name? t = some (name, rest)) :
    t = name ++ '\x7d' :: rest ∧ name ≠ [] ∧ '\x7d' ∉ name := by
  rw [name?] at h
  split at h
  · rename_i c more d rest' hs
    obtain ⟨rfl, rfl⟩ : c :: more = name ∧ rest' = rest := by simpa using h
    rw [Text.run, Prod.mk.injEq] at hs
    obtain ⟨ht, hd⟩ := hs
    have hdot : d = '\x7d' := by
      have := List.head?_dropWhile_not (· != '\x7d') t
      rw [hd] at this
      simpa using this
    refine ⟨?_, by simp, ?_⟩
    · rw [← hdot, ← hd, ← ht, List.takeWhile_append_dropWhile]
    · intro hm
      rw [← ht] at hm
      have := List.all_takeWhile (p := (· != '\x7d')) (l := t)
      simpa using List.all_eq_true.1 this _ hm
  · cases h

theorem length_lt_of_name? {t name rest : Text} (h : name? t = some (name, rest)) :
    rest.length < t.length := by
  rw [(eq_of_name? h).1, List.length_append, List.length_cons]
  omega

/-- The text of a reference to a name. -/
def reference (name : Text) : Text := "$\x7b" ++ name ++ "\x7d"

/-- A text with its references replaced by what a lookup gives for them. -/
def apply (lookup : Text → Option Text) : Text → Text
  | '$' :: '\x7b' :: t =>
    match _h : name? t with
    | some (name, rest) => (lookup name).getD (reference name) ++ apply lookup rest
    | none => '$' :: apply lookup ('\x7b' :: t)
  | c :: t => c :: apply lookup t
  | [] => []
termination_by t => t.length
decreasing_by
  · have := length_lt_of_name? _h
    simp only [List.length_cons]
    omega
  · simp
  · simp

theorem apply_reference {t name rest : Text} (h : name? t = some (name, rest))
    (lookup : Text → Option Text) :
    apply lookup ('$' :: '\x7b' :: t) =
      (lookup name).getD (reference name) ++ apply lookup rest := by
  rw [apply]
  split
  · rename_i he
    rw [h] at he
    cases he
    rfl
  · rename_i he
    rw [h] at he
    cases he

/-- A brace that is not closed makes no reference. -/
theorem apply_unclosed {t : Text} (h : name? t = none) (lookup : Text → Option Text) :
    apply lookup ('$' :: '\x7b' :: t) = '$' :: apply lookup ('\x7b' :: t) := by
  rw [apply]
  split
  · rename_i he
    rw [h] at he
    cases he
  · rfl

/-- A text without a dollar sign stays as it is. -/
theorem apply_of_not_mem {t : Text} (h : '$' ∉ t) (lookup : Text → Option Text) :
    apply lookup t = t := by
  induction t with
  | nil => rw [apply]
  | cons c t ih =>
    obtain ⟨hc, ht⟩ := not_or.1 (mt List.mem_cons.2 h)
    rw [apply, ih ht]
    exact fun _ he => absurd he.symm hc

/-- The names of the references in a text. -/
def names : Text → List Text
  | '$' :: '\x7b' :: t =>
    match _h : name? t with
    | some (name, rest) => name :: names rest
    | none => names ('\x7b' :: t)
  | _ :: t => names t
  | [] => []
termination_by t => t.length
decreasing_by
  · have := length_lt_of_name? _h
    simp only [List.length_cons]
    omega
  · simp
  · simp

end Substitution
end RoverMission
