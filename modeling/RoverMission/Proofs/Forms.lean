/-
The JSON forms of values.

A value has many forms: a name is a string or a key, a structure is a list or an object with its
members in any order, a setting may be left out.  Reading accepts the forms of a value and
nothing else (`Kind.ofJson?_eq_some_iff`), and what is written is one of them.  So writing
loses nothing, and a text that is read and written again says the same as before.
-/
import Mathlib.Data.List.Forall2
import Mathlib.Data.List.Nodup
import RoverMission.Proofs.Records

namespace RoverMission
namespace Interchange

variable {names : List Text} {name : Text} {v : Json}

/-! ## Names -/

/-- The forms of a name: a string, or the only key of an object with null behind it. -/
inductive NameForm (name : Text) : Json → Prop
  | string {inside : Text} (h : Json.unescape inside = some name) : NameForm name (.string inside)
  | key {inside : Text} (h : Json.unescape inside = some name) :
    NameForm name (.object [(inside, .null)])

theorem choiceName?_eq_some_iff : choiceName? v = some name ↔ NameForm name v := by
  constructor
  · intro h
    unfold choiceName? at h
    split at h
    · exact .string h
    · exact .key h
    · cases h
  · rintro (h | h) <;> exact h

theorem choice?_eq_some_iff {α : Type} {ofName? : Text → Option α} {nameOf : α → Text}
    (h : ∀ {t a}, ofName? t = some a ↔ t = nameOf a) {a : α} :
    choice? ofName? v = some a ↔ NameForm (nameOf a) v := by
  rw [choice?, Option.bind_eq_some_iff]
  constructor
  · rintro ⟨t, ht, ha⟩
    rw [← h.1 ha]
    exact choiceName?_eq_some_iff.1 ht
  · exact fun hform => ⟨nameOf a, choiceName?_eq_some_iff.2 hform, h.2 rfl⟩

theorem nameForm_ofText (t : Text) : NameForm t (.ofText t) := .string (Json.unescape_escape t)

/-! ## Members -/

/-- The members under names, as far as they are there. -/
def present (names : List Text) (values : List (Option Json)) : List (Text × Json) :=
  (names.zip values).filterMap fun p => p.2.map (Prod.mk p.1)

theorem present_cons (name : Text) (names : List Text) (value : Option Json)
    (values : List (Option Json)) :
    present (name :: names) (value :: values) =
      (value.map (Prod.mk name)).toList ++ present names values := by
  cases value <;> rfl

theorem mem_names_of_mem_present {values : List (Option Json)} {m : Text × Json}
    (h : m ∈ present names values) : m.1 ∈ names := by
  obtain ⟨⟨name, value⟩, hzip, hm⟩ := List.mem_filterMap.1 h
  obtain ⟨w, -, rfl⟩ := Option.map_eq_some_iff.1 hm
  exact (List.of_mem_zip hzip).1

theorem present_map_some (names : List Text) (values : List Json) :
    present names (values.map some) = names.zip values := by
  induction names generalizing values with
  | nil => rfl
  | cons name names ih =>
    cases values with
    | nil => rfl
    | cons value values =>
      rw [List.map_cons, present_cons, ih]
      rfl

/-- Whether a name stands in front of a value and of no other, or is not there. -/
def Stands (members : List (Text × Json)) (name : Text) (value : Option Json) : Prop :=
  members.filter (·.1 == name) = (value.map (Prod.mk name)).toList

variable {members others : List (Text × Json)} {values : List (Option Json)}

theorem filter_present_of_not_mem (h : name ∉ names) :
    (present names values).filter (·.1 == name) = [] := by
  refine List.filter_eq_nil_iff.2 fun m hm he => ?_
  have hname : m.1 = name := by simpa using he
  exact h (hname ▸ mem_names_of_mem_present hm)

/-- In whatever order the members come, each name stands where it should. -/
theorem stands_of_perm (hnames : names.Nodup) (hlength : values.length = names.length)
    (hperm : members.Perm (present names values ++ others))
    (hothers : ∀ m ∈ others, m.1 ∉ names) : List.Forall₂ (Stands members) names values := by
  induction names generalizing values others with
  | nil =>
    rw [List.length_nil, List.length_eq_zero_iff] at hlength
    rw [hlength]
    exact .nil
  | cons name names ih =>
    obtain ⟨value, values, rfl⟩ := List.exists_cons_of_length_eq_add_one hlength
    obtain ⟨hname, hnodup⟩ := List.nodup_cons.1 hnames
    rw [present_cons, List.append_assoc] at hperm
    have htail : members.Perm
        (present names values ++ ((value.map (Prod.mk name)).toList ++ others)) := by
      refine hperm.trans ?_
      rw [← List.append_assoc, ← List.append_assoc]
      exact List.perm_append_comm.append_right others
    have hbehind : ∀ m ∈ (value.map (Prod.mk name)).toList ++ others, m.1 ∉ names := by
      intro m hm
      rcases List.mem_append.1 hm with hm | hm
      · obtain ⟨w, -, rfl⟩ := Option.map_eq_some_iff.1 (Option.mem_toList.1 hm)
        exact hname
      · exact fun hmem => hothers m hm (List.mem_cons_of_mem name hmem)
    refine .cons ?_ (ih hnodup (by simpa using hlength) htail hbehind)
    have hfilter := hperm.filter (·.1 == name)
    have hother : others.filter (·.1 == name) = [] := by
      refine List.filter_eq_nil_iff.2 fun m hm he => ?_
      have hmname : m.1 = name := by simpa using he
      exact hothers m hm (hmname ▸ List.mem_cons_self)
    rw [List.filter_append, List.filter_append, filter_present_of_not_mem hname, hother,
      List.append_nil, List.append_nil] at hfilter
    cases value with
    | none => exact List.perm_nil.1 hfilter
    | some w =>
      refine List.perm_singleton.1 ?_
      simpa using hfilter

theorem perm_of_stands (hnames : names.Nodup) (h : List.Forall₂ (Stands members) names values) :
    (members.filter (·.1 ∈ names)).Perm (present names values) := by
  induction h with
  | nil => simp [present]
  | @cons name value names values hstands _ ih =>
    obtain ⟨hname, hnodup⟩ := List.nodup_cons.1 hnames
    have hfirst : (members.filter (·.1 ∈ name :: names)).filter (·.1 == name) =
        (value.map (Prod.mk name)).toList := by
      rw [List.filter_filter, ← hstands]
      refine List.filter_congr fun m _ => ?_
      by_cases hm : m.1 = name <;> simp [hm]
    have hrest : (members.filter (·.1 ∈ name :: names)).filter (fun m => !(m.1 == name)) =
        members.filter (·.1 ∈ names) := by
      rw [List.filter_filter]
      refine List.filter_congr fun m _ => ?_
      by_cases hm : m.1 = name <;> simp [hm, hname]
    have hsplit := List.filter_append_perm (·.1 == name) (members.filter (·.1 ∈ name :: names))
    rw [hfirst, hrest] at hsplit
    rw [present_cons]
    exact hsplit.symm.trans ((ih hnodup).append_left _)

/-- Names stand where they should exactly if members of theirs and others, in any order, are
all there is. -/
theorem forall₂_stands_iff (hnames : names.Nodup) :
    List.Forall₂ (Stands members) names values ↔ values.length = names.length ∧
      ∃ others, members.Perm (present names values ++ others) ∧ ∀ m ∈ others, m.1 ∉ names := by
  constructor
  · intro h
    refine ⟨h.length_eq.symm, members.filter (fun m => !decide (m.1 ∈ names)), ?_, ?_⟩
    · have hsplit := List.filter_append_perm (fun m => decide (m.1 ∈ names)) members
      exact hsplit.symm.trans ((perm_of_stands hnames h).append_right _)
    · intro m hm
      simpa using (List.mem_filter.1 hm).2
  · rintro ⟨hlength, others, hperm, hothers⟩
    exact stands_of_perm hnames hlength hperm hothers

/-! ## Structures -/

theorem mapM_eq_some_iff {α β : Type} {f : α → Option β} {l : List α} {l' : List β} :
    l.mapM f = some l' ↔ List.Forall₂ (fun a b => f a = some b) l l' := by
  induction l generalizing l' with
  | nil => simp [eq_comm]
  | cons a l ih =>
    simp only [List.mapM_cons, List.forall₂_cons_left_iff, ← ih, Option.bind_eq_bind,
      Option.bind_eq_some_iff, Option.pure_def, Option.some.injEq]
    constructor
    · rintro ⟨b, hb, bs, hbs, rfl⟩
      exact ⟨b, bs, hb, hbs, rfl⟩
    · rintro ⟨b, bs, hb, hbs, rfl⟩
      exact ⟨b, hb, bs, hbs, rfl⟩

/-- The value that stands alone under a name. -/
def single? (members : List (Text × Json)) (name : Text) : Option Json :=
  match members.filter (·.1 == name) with
  | [m] => some m.2
  | _ => none

/-- The value that stands alone under a name, if the name is there. -/
def optional? (members : List (Text × Json)) (name : Text) : Option (Option Json) :=
  match members.filter (·.1 == name) with
  | [] => some none
  | [m] => some (some m.2)
  | _ => none

theorem fields?_object (names : List Text) (members : List (Text × Json)) :
    fields? names (.object members) =
      (members? members).bind fun read => names.mapM (single? read) := rfl

theorem optionalFields?_object (names : List Text) (members : List (Text × Json)) :
    optionalFields? names (.object members) = (members? members).bind fun read =>
      if read.all fun m => names.contains m.1 then names.mapM (optional? read) else none := rfl

theorem eq_of_filter_eq_singleton {m : Text × Json} (h : members.filter (·.1 == name) = [m]) :
    m = (name, m.2) := by
  have hm : m ∈ members.filter (·.1 == name) := by
    rw [h]
    exact List.mem_singleton_self m
  have hname : m.1 = name := by simpa using (List.mem_filter.1 hm).2
  rw [← hname]

theorem single?_eq_some_iff {w : Json} :
    single? members name = some w ↔ Stands members name (some w) := by
  rw [single?, Stands]
  constructor
  · intro h
    split at h
    · rename_i m hm
      rw [hm, eq_of_filter_eq_singleton hm, Option.some.inj h]
      rfl
    · cases h
  · intro h
    rw [h]
    rfl

theorem optional?_eq_some_iff {value : Option Json} :
    optional? members name = some value ↔ Stands members name value := by
  rw [optional?, Stands]
  constructor
  · intro h
    split at h
    · rename_i hm
      cases h
      exact hm
    · rename_i m hm
      cases h
      rw [hm, eq_of_filter_eq_singleton hm]
      rfl
    · cases h
  · intro h
    rw [h]
    cases value <;> rfl

/-- The forms of a structure that needs all its fields: the list of their values, or an
object of them in any order, among members that are ignored. -/
inductive FieldsForm (names : List Text) (values : List Json) : Json → Prop
  | list (hlength : values.length = names.length) : FieldsForm names values (.array values)
  | object {members read others : List (Text × Json)} (hread : members? members = some read)
    (hlength : values.length = names.length) (horder : read.Perm (names.zip values ++ others))
    (hothers : ∀ m ∈ others, m.1 ∉ names) : FieldsForm names values (.object members)

theorem fields?_eq_some_iff (hnames : names.Nodup) {values : List Json} :
    fields? names v = some values ↔ FieldsForm names values v := by
  cases v with
  | array items =>
    rw [fields?]
    constructor
    · intro h
      split at h
      · rename_i hlength
        cases h
        exact .list hlength
      · cases h
    · rintro ⟨hlength⟩
      exact if_pos hlength
  | object members =>
    have hstands : ∀ read : List (Text × Json), names.mapM (single? read) = some values ↔
        List.Forall₂ (Stands read) names (values.map some) := fun read => by
      rw [mapM_eq_some_iff, List.forall₂_map_right_iff]
      exact ⟨.imp fun _ _ => single?_eq_some_iff.1, .imp fun _ _ => single?_eq_some_iff.2⟩
    rw [fields?_object, Option.bind_eq_some_iff]
    simp only [hstands, forall₂_stands_iff hnames, present_map_some, List.length_map]
    constructor
    · rintro ⟨read, hread, hlength, others, horder, hothers⟩
      exact .object hread hlength horder hothers
    · rintro (_ | ⟨hread, hlength, horder, hothers⟩)
      exact ⟨_, hread, hlength, _, horder, hothers⟩
  | _ => exact iff_of_false (fun h => by cases h) (fun h => by cases h)

/-- The forms of a structure whose fields may be left out: the list of their values up to some
field, or an object of those that are there, in any order. -/
inductive OptionalForm (names : List Text) (values : List (Option Json)) : Json → Prop
  | list {items : List Json} {missing : Nat}
    (hvalues : values = items.map some ++ List.replicate missing none)
    (hlength : values.length = names.length) : OptionalForm names values (.array items)
  | object {members read : List (Text × Json)} (hread : members? members = some read)
    (hlength : values.length = names.length) (horder : read.Perm (present names values)) :
    OptionalForm names values (.object members)

theorem optionalFields?_eq_some_iff (hnames : names.Nodup) :
    optionalFields? names v = some values ↔ OptionalForm names values v := by
  cases v with
  | array items =>
    rw [optionalFields?]
    constructor
    · intro h
      split at h
      · cases h
        refine .list rfl ?_
        simp
        omega
      · cases h
    · rintro ⟨rfl, hlength⟩
      simp only [List.length_append, List.length_map, List.length_replicate] at hlength
      rw [if_pos (by omega)]
      congr 3
      omega
  | object members =>
    have hstands : ∀ read : List (Text × Json), names.mapM (optional? read) = some values ↔
        List.Forall₂ (Stands read) names values := fun read => by
      rw [mapM_eq_some_iff]
      exact ⟨.imp fun _ _ => optional?_eq_some_iff.1, .imp fun _ _ => optional?_eq_some_iff.2⟩
    rw [optionalFields?_object, Option.bind_eq_some_iff]
    constructor
    · rintro ⟨read, hread, h⟩
      split at h
      · rename_i hall
        obtain ⟨hlength, others, horder, hothers⟩ :=
          (forall₂_stands_iff hnames).1 ((hstands read).1 h)
        have hnone : others = [] := by
          refine List.eq_nil_iff_forall_not_mem.2 fun m hm => hothers m hm ?_
          have hmem := horder.symm.subset (List.mem_append_right _ hm)
          simpa using List.all_eq_true.1 hall m hmem
        rw [hnone, List.append_nil] at horder
        exact .object hread hlength horder
      · cases h
    · rintro (_ | ⟨hread, hlength, horder⟩)
      refine ⟨_, hread, ?_⟩
      rw [if_pos, hstands, forall₂_stands_iff hnames]
      · refine ⟨hlength, [], ?_, List.forall_mem_nil _⟩
        rwa [List.append_nil]
      · refine List.all_eq_true.2 fun m hm => ?_
        simpa using mem_names_of_mem_present (horder.subset hm)
  | _ => exact iff_of_false (fun h => by cases h) (fun h => by cases h)

/-- What a structure of two fields is read as. -/
theorem bind_fields?_eq_some_iff {α β γ : Type} {first : Json → Option α}
    {second : Json → Option β} {make : α → β → γ} {c : γ} (hnames : names.Nodup) :
    ((fields? names v).bind fun
      | [x, y] => (first x).bind fun a => (second y).bind fun b => some (make a b)
      | _ => none) = some c ↔
    ∃ x y a b, FieldsForm names [x, y] v ∧ first x = some a ∧ second y = some b ∧
      make a b = c := by
  rw [Option.bind_eq_some_iff]
  constructor
  · rintro ⟨values, hvalues, h⟩
    split at h
    · rename_i x y
      simp only [Option.bind_eq_some_iff, Option.some.injEq] at h
      obtain ⟨a, ha, b, hb, hc⟩ := h
      exact ⟨x, y, a, b, (fields?_eq_some_iff hnames).1 hvalues, ha, hb, hc⟩
    · cases h
  · rintro ⟨x, y, a, b, hform, ha, hb, hc⟩
    refine ⟨[x, y], (fields?_eq_some_iff hnames).2 hform, ?_⟩
    simp [ha, hb, hc]

/-- An object of all fields in their own order. -/
theorem fieldsForm_record {fields : List (Text × Json)} {values : List Json}
    (hnames : fields.map Prod.fst = names) (hvalues : fields.map Prod.snd = values) :
    FieldsForm names values (.record fields) := by
  subst hnames hvalues
  have horder : fields.Perm ((fields.map Prod.fst).zip (fields.map Prod.snd) ++ []) := by
    rw [List.append_nil]
    exact .of_eq (List.zip_of_prod rfl rfl)
  exact .object (Json.members?_record fields) (by simp) horder (List.forall_mem_nil _)

theorem optionalForm_record {fields : List (Text × Json)}
    (hnames : fields.map Prod.fst = names) (hvalues : (fields.map Prod.snd).map some = values) :
    OptionalForm names values (.record fields) := by
  subst hnames hvalues
  have horder : fields.Perm (present (fields.map Prod.fst) ((fields.map Prod.snd).map some)) := by
    rw [present_map_some]
    exact .of_eq (List.zip_of_prod rfl rfl)
  exact .object (Json.members?_record fields) (by simp) horder

/-! ## Settings -/

/-- The forms of a setting: it is left out or null, or it has a form of its value. -/
inductive SettingForm {α : Type} (Form : α → Json → Prop) : Option α → Option Json → Prop
  | absent : SettingForm Form none none
  | null : SettingForm Form none (some .null)
  | given {a : α} {v : Json} (h : Form a v) : SettingForm Form (some a) (some v)

theorem setting?_eq_some_iff {α : Type} {read : Json → Option α} {Form : α → Json → Prop}
    (hread : ∀ {v a}, read v = some a ↔ Form a v) (hnull : read .null = none) {w : Option Json}
    {a : Option α} : setting? read w = some a ↔ SettingForm Form a w := by
  constructor
  · intro h
    unfold setting? at h
    split at h
    · cases h
      exact .absent
    · cases h
      exact .null
    · obtain ⟨b, hb, rfl⟩ := Option.map_eq_some_iff.1 h
      exact .given (hread.1 hb)
  · rintro (_ | _ | @⟨a, v, h⟩)
    · rfl
    · rfl
    · have ha := hread.2 h
      have hv : v ≠ .null := by
        rintro rfl
        rw [hnull] at ha
        cases ha
      rw [setting?, ha]
      · rfl
      · exact hv

theorem settingForm_ofOption {α : Type} {Form : α → Json → Prop} {write : α → Json}
    (h : ∀ a, Form a (write a)) (a : Option α) :
    SettingForm Form a (some (.ofOption (a.map write))) := by
  cases a with
  | none => exact .null
  | some a => exact .given (h a)

/-- The forms of a section: it is left out, or it is a structure of settings. -/
inductive SectionForm (names : List Text) : List (Option Json) → Option Json → Prop
  | absent : SectionForm names (names.map fun _ => none) none
  | given {values : List (Option Json)} {v : Json} (h : OptionalForm names values v) :
    SectionForm names values (some v)

theorem section?_eq_some_iff (hnames : names.Nodup) {w : Option Json} :
    Config.section? names w = some values ↔ SectionForm names values w := by
  cases w with
  | none =>
    rw [Config.section?, Option.some.injEq]
    constructor
    · rintro rfl
      exact .absent
    · rintro ⟨⟩
      rfl
  | some v =>
    rw [Config.section?, optionalFields?_eq_some_iff hnames]
    constructor
    · exact .given
    · rintro (_ | h)
      exact h

/-- The forms of a text: the literals that denote it. -/
inductive TextForm (t : Text) : Json → Prop
  | mk {inside : Text} (h : Json.unescape inside = some t) : TextForm t (.string inside)

theorem textForm_ofText (t : Text) : TextForm t (.ofText t) := .mk (Json.unescape_escape t)

theorem text?_eq_some_iff {t : Text} : v.text? = some t ↔ TextForm t v := by
  constructor
  · intro h
    unfold Json.text? at h
    split at h
    · exact .mk h
    · cases h
  · rintro ⟨h⟩
    exact h

/-- A coordinate has one form. -/
theorem coordinate?_eq_some_iff {c : Coordinate} :
    v.coordinate? = some c ↔ v = .ofInt c.toInt := by
  constructor
  · intro h
    obtain ⟨n, hn, hc⟩ := Option.bind_eq_some_iff.1 h
    rw [Coordinate.toInt_of_ofInt? hc]
    unfold Json.int? at hn
    split at hn
    · split at hn
      · split at hn
        · rename_i hcanonical
          cases hn
          rw [Json.ofInt, hcanonical]
        · cases hn
      · cases hn
    · cases hn
  · rintro rfl
    exact Json.coordinate?_ofInt c

end Interchange
end RoverMission
