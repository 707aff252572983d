/-
Configuration files.

A configuration makes settings, each of which has its section and its key there.  A file
lists them when its tables are sections, in any order, and hold the settings in any order
(`Lists`); what it says is then exactly the configuration.  A name that the format does not
have makes a file nothing, whatever stands behind it (`Stray`).
-/
import Mathlib.Data.List.Nodup
import RoverMission.Config.Loading
import RoverMission.Config.Printer
import RoverMission.Proofs.References
import RoverMission.Proofs.Statements

namespace RoverMission

/-! ## Refusals of the schema -/

namespace Schema

/-- A member that is refused whatever the configuration is refuses all of them. -/
theorem exists_error_of_readMembers {fields : List Field} {members : List (Text × Toml)}
    {m : Text × Toml} (hm : m ∈ members)
    (h : ∀ config, ∃ complaint, setMember fields config m = .error complaint) (config : Config) :
    ∃ complaint, readMembers fields config members = .error complaint := by
  have hsorted : m ∈ sorted members := List.mem_mergeSort.2 hm
  rw [readMembers]
  generalize sorted members = all at hsorted
  induction all generalizing config with
  | nil => cases hsorted
  | cons first rest ih =>
    rw [List.foldlM_cons]
    cases hfirst : setMember fields config first with
    | error complaint => exact ⟨complaint, rfl⟩
    | ok config' =>
      rcases List.mem_cons.1 hsorted with rfl | hrest
      · obtain ⟨complaint, hrefused⟩ := h config
        rw [hfirst] at hrefused
        cases hrefused
      · exact ih config' hrest

theorem setMember_of_not_mem {fields : List Field} {name : Text}
    (h : name ∉ fieldNames fields) (config : Config) (v : Toml) :
    setMember fields config (name, v) =
      .error (some (.unknownField name (fieldNames fields))) := by
  have hnone : fields.find? (·.name == name) = none := by
    rw [List.find?_eq_none]
    intro field hfield he
    exact h (List.mem_map.2 ⟨field, hfield, beq_iff_eq.1 he⟩)
  rw [setMember, hnone]

end Schema

namespace Config

/-! ## Settings -/

/-- The tables that a file may have. -/
inductive Section
  | mission
  | output
  | logging
  deriving DecidableEq

namespace Section

def name : Section → Text
  | mission => "mission"
  | output => "output"
  | logging => "logging"

def fields : Section → List Schema.Field
  | mission => Schema.missionFields
  | output => Schema.outputFields
  | logging => Schema.loggingFields

theorem name_injective {s s' : Section} (h : s.name = s'.name) : s = s' := by
  cases s <;> cases s' <;> first | rfl | exact absurd h (by decide)

theorem exists_of_mem_fieldNames {name : Text} (h : name ∈ Schema.fieldNames Schema.sections) :
    ∃ s : Section, name = s.name := by
  rcases List.mem_cons.1 h with rfl | h
  · exact ⟨.mission, rfl⟩
  rcases List.mem_cons.1 h with rfl | h
  · exact ⟨.output, rfl⟩
  · exact ⟨.logging, List.mem_singleton.1 h⟩

theorem setMember_table (s : Section) (config : Config) (members : List (Text × Toml)) :
    Schema.setMember Schema.sections config (s.name, .table members) =
      Schema.readMembers s.fields config members := by
  cases s <;> rfl

end Section

/-- The keys that a file may have. -/
inductive Slot
  | policy
  | errorMode
  | format
  | logLevel
  | logFormat
  deriving DecidableEq

namespace Slot

def home : Slot → Section
  | policy => .mission
  | errorMode => .mission
  | format => .output
  | logLevel => .logging
  | logFormat => .logging

def key : Slot → Text
  | policy => "boundary_policy"
  | errorMode => "error_mode"
  | format => "format"
  | logLevel => "level"
  | logFormat => "format"

def all : List Slot := [policy, errorMode, format, logLevel, logFormat]

theorem eq_of_key_eq {s s' : Slot} (hhome : s.home = s'.home) (hkey : s.key = s'.key) : s = s' := by
  cases s <;> cases s' <;>
    first
    | rfl
    | exact absurd hhome (by decide)
    | exact absurd hkey (by decide)

end Slot

/-- The keys of a section. -/
def Section.slots : Section → List Slot
  | mission => [.policy, .errorMode]
  | output => [.format]
  | logging => [.logLevel, .logFormat]

theorem Section.fieldNames_fields (s : Section) :
    Schema.fieldNames s.fields = s.slots.map Slot.key := by
  cases s <;> rfl

theorem Section.home_of_mem_slots {s : Section} {slot : Slot} (h : slot ∈ s.slots) :
    slot.home = s := by
  cases s <;> cases slot <;> first | rfl | exact absurd h (by decide)

/-- Something that a configuration says. -/
inductive Setting
  | policy (p : BoundaryPolicy)
  | errorMode (m : ErrorMode)
  | format (f : OutputFormat)
  | logLevel (t : Text)
  | logFormat (t : Text)
  deriving DecidableEq

namespace Setting

def slot : Setting → Slot
  | policy _ => .policy
  | errorMode _ => .errorMode
  | format _ => .format
  | logLevel _ => .logLevel
  | logFormat _ => .logFormat

def value : Setting → Text
  | policy p => p.name
  | errorMode m => m.name
  | format f => f.name
  | logLevel t => t
  | logFormat t => t

/-- A configuration with a setting made. -/
def make (c : Config) : Setting → Config
  | policy p => { c with policy := some p }
  | errorMode m => { c with errorMode := some m }
  | format f => { c with format := some f }
  | logLevel t => { c with logLevel := some t }
  | logFormat t => { c with logFormat := some t }

def member (x : Setting) : Text × Toml := (x.slot.key, .string x.value)

theorem setMember_member (x : Setting) (c : Config) :
    Schema.setMember x.slot.home.fields c x.member = .ok (x.make c) := by
  cases x with
  | policy p => cases p <;> rfl
  | errorMode m => cases m <;> rfl
  | format f => cases f <;> rfl
  | logLevel t => rfl
  | logFormat t => rfl

/-- Settings under different keys can be made in either order. -/
theorem slot_eq_or_make_comm (x y : Setting) :
    x.slot = y.slot ∨ ∀ c, make (make c x) y = make (make c y) x := by
  cases x <;> cases y <;> first | exact Or.inr fun _ => rfl | exact Or.inl rfl

end Setting

/-- What a configuration says under a key, if anything. -/
def setting? (c : Config) : Slot → Option Setting
  | .policy => c.policy.map .policy
  | .errorMode => c.errorMode.map .errorMode
  | .format => c.format.map .format
  | .logLevel => c.logLevel.map .logLevel
  | .logFormat => c.logFormat.map .logFormat

theorem slot_of_setting? {c : Config} {slot : Slot} {x : Setting} (h : c.setting? slot = some x) :
    x.slot = slot := by
  cases slot <;> obtain ⟨v, -, rfl⟩ := Option.map_eq_some_iff.1 h <;> rfl

/-- Everything that a configuration says. -/
def settings (c : Config) : List Setting := Slot.all.filterMap c.setting?

theorem foldl_make_settings (c : Config) : c.settings.foldl Setting.make {} = c := by
  rcases c with ⟨_ | _, _ | _, _ | _, _ | _, _ | _⟩ <;> rfl

theorem nodup_settings (c : Config) : c.settings.Nodup := by
  have hall : Slot.all.Nodup := by decide
  refine hall.filterMap fun slot slot' x hx hx' => ?_
  rw [← slot_of_setting? hx, slot_of_setting? hx']

theorem eq_of_mem_settings {c : Config} {x y : Setting} (hx : x ∈ c.settings)
    (hy : y ∈ c.settings) (h : x.slot = y.slot) : x = y := by
  obtain ⟨slot, -, hslot⟩ := List.mem_filterMap.1 hx
  obtain ⟨slot', -, hslot'⟩ := List.mem_filterMap.1 hy
  rw [slot_of_setting? hslot, slot_of_setting? hslot'] at h
  rw [h, hslot'] at hslot
  exact (Option.some.inj hslot).symm

/-- It does not matter in which order the settings of a configuration are made. -/
theorem foldl_make_of_perm {c : Config} {xs : List Setting} (h : xs.Perm c.settings) :
    xs.foldl Setting.make {} = c := by
  have hcomm : ∀ x ∈ xs, ∀ y ∈ xs, ∀ start,
      Setting.make (Setting.make start x) y = Setting.make (Setting.make start y) x := by
    intro x hx y hy start
    -- Under one key a configuration says one thing.
    rcases Setting.slot_eq_or_make_comm x y with hslot | hcomm
    · rw [eq_of_mem_settings (h.subset hx) (h.subset hy) hslot]
    · exact hcomm start
  rw [h.foldl_eq' hcomm, foldl_make_settings]

/-! ## Files -/

/-- Whether tables make up a configuration: each section is there at most once, and
everything that the configuration says stands in its section, in any order. -/
structure Lists (c : Config) (file : List (Section × List Setting)) : Prop where
  sections : (file.map Prod.fst).Nodup
  placed : ∀ table ∈ file, ∀ x ∈ table.2, x.slot.home = table.1
  settings : (file.flatMap Prod.snd).Perm c.settings

def membersOf (table : Section × List Setting) : Text × List (Text × Toml) :=
  (table.1.name, table.2.map Setting.member)

/-- The statements of tables, each with its header. -/
def statements (file : List (Section × List Setting)) : List Toml.Statement :=
  (file.map membersOf).flatMap Toml.Document.tableStatements

variable {c : Config} {file : List (Section × List Setting)}

theorem nodup_names (h : Lists c file) : ((file.map membersOf).map Prod.fst).Nodup := by
  have hnames : (file.map membersOf).map Prod.fst = (file.map Prod.fst).map Section.name := by
    rw [List.map_map, List.map_map]
    rfl
  rw [hnames]
  exact h.sections.map_on fun _ _ _ _ he => Section.name_injective he

theorem nodup_keys (h : Lists c file) :
    ∀ table ∈ file.map membersOf, (table.2.map Prod.fst).Nodup := by
  intro table htable
  obtain ⟨⟨home, xs⟩, hmem, rfl⟩ := List.mem_map.1 htable
  have hkeys : (xs.map Setting.member).map Prod.fst = xs.map fun x => x.slot.key := by
    rw [List.map_map]
    rfl
  have hsub : ∀ x ∈ xs, x ∈ c.settings := fun x hx =>
    h.settings.subset (List.mem_flatMap.2 ⟨_, hmem, hx⟩)
  have hnodup : xs.Nodup :=
    (List.nodup_flatMap.1 (h.settings.nodup_iff.2 c.nodup_settings)).1 _ hmem
  rw [membersOf, hkeys]
  refine hnodup.map_on fun x hx y hy hkey => ?_
  have hhome := (h.placed _ hmem x hx).trans (h.placed _ hmem y hy).symm
  exact eq_of_mem_settings (hsub x hx) (hsub y hy) (Slot.eq_of_key_eq hhome hkey)

/-- The tables that a configuration is written as. -/
def tables (c : Config) : List (Section × List Setting) :=
  [.mission, .output, .logging].map fun s => (s, s.slots.filterMap c.setting?)

theorem lists_tables (c : Config) : Lists c c.tables := by
  refine ⟨?_, ?_, ?_⟩
  · show [Section.mission, Section.output, Section.logging].Nodup
    decide
  · intro table htable x hx
    obtain ⟨s, -, rfl⟩ := List.mem_map.1 htable
    obtain ⟨slot, hmem, hslot⟩ := List.mem_filterMap.1 hx
    rw [slot_of_setting? hslot]
    exact Section.home_of_mem_slots hmem
  · rcases c with ⟨_ | _, _ | _, _ | _, _ | _, _ | _⟩ <;> exact List.Perm.refl _

/-- The members of the document that a file is. -/
theorem ofStatements_statements (h : Lists c file) :
    Toml.Document.ofStatements (statements file) =
      some (file.map fun table => (table.1.name, .table (table.2.map Setting.member))) := by
  rw [statements, Toml.Document.ofStatements_tables (nodup_names h) (nodup_keys h), List.map_map]
  rfl

/-! ## Reading -/

theorem foldlM_ok {α β ε : Type} {f : β → α → Except ε β} {g : β → α → β} {xs : List α}
    (h : ∀ x ∈ xs, ∀ b, f b x = .ok (g b x)) (b : β) : xs.foldlM f b = .ok (xs.foldl g b) := by
  induction xs generalizing b with
  | nil => rfl
  | cons x xs ih =>
    obtain ⟨hx, hxs⟩ := List.forall_mem_cons.1 h
    rw [List.foldlM_cons, hx b]
    exact ih hxs _

/-- Settings of one section are made in the order of their keys. -/
theorem exists_readMembers (s : Section) {xs : List Setting} (h : ∀ x ∈ xs, x.slot.home = s)
    (config : Config) :
    ∃ ys : List Setting, ys.Perm xs ∧
      Schema.readMembers s.fields config (xs.map Setting.member) =
        .ok (ys.foldl Setting.make config) := by
  let before (x y : Setting) : Bool := !decide (y.slot.key < x.slot.key)
  have hsorted : (xs.mergeSort before).map Setting.member = Schema.sorted (xs.map Setting.member) :=
    List.map_mergeSort fun _ _ _ _ => rfl
  refine ⟨xs.mergeSort before, List.mergeSort_perm xs before, ?_⟩
  rw [Schema.readMembers, ← hsorted, List.foldlM_map]
  refine foldlM_ok (fun x hx c => ?_) config
  rw [← h x ((List.mergeSort_perm xs before).subset hx)]
  exact x.setMember_member c

/-- Sections are read in the order of their names. -/
theorem exists_readDocument (h : ∀ table ∈ file, ∀ x ∈ table.2, x.slot.home = table.1) :
    ∃ ys : List Setting, ys.Perm (file.flatMap Prod.snd) ∧
      Schema.readDocument
          (file.map fun table => (table.1.name, .table (table.2.map Setting.member))) =
        .ok (ys.foldl Setting.make {}) := by
  let before (a b : Section × List Setting) : Bool := !decide (b.1.name < a.1.name)
  let member (table : Section × List Setting) : Text × Toml :=
    (table.1.name, .table (table.2.map Setting.member))
  -- Sorting moves whole tables, so it is the settings of any list of them that are made.
  have hread : ∀ all : List (Section × List Setting),
      (∀ table ∈ all, ∀ x ∈ table.2, x.slot.home = table.1) → ∀ config,
        ∃ ys : List Setting, ys.Perm (all.flatMap Prod.snd) ∧
          (all.map member).foldlM (Schema.setMember Schema.sections) config =
            .ok (ys.foldl Setting.make config) := by
    intro all hall
    induction all with
    | nil => exact fun config => ⟨[], List.Perm.refl _, rfl⟩
    | cons table rest ih =>
      intro config
      obtain ⟨htable, hrest⟩ := List.forall_mem_cons.1 hall
      obtain ⟨ys, hys, hfirst⟩ := exists_readMembers table.1 htable config
      obtain ⟨zs, hzs, hmore⟩ := ih hrest (ys.foldl Setting.make config)
      refine ⟨ys ++ zs, hys.append hzs, ?_⟩
      rw [List.map_cons, List.foldlM_cons, Section.setMember_table, hfirst, List.foldl_append]
      exact hmore
  have hsorted : (file.mergeSort before).map member = Schema.sorted (file.map member) :=
    List.map_mergeSort fun _ _ _ _ => rfl
  have hperm := List.mergeSort_perm file before
  obtain ⟨ys, hys, hok⟩ :=
    hread (file.mergeSort before) (fun table htable => h table (hperm.subset htable)) {}
  refine ⟨ys, hys.trans (hperm.flatMap_right Prod.snd), ?_⟩
  rw [Schema.readDocument, Schema.readMembers, ← hsorted, hok]

theorem ofDocument_of_shows {t : Text} (hlists : Lists c file)
    (hshows : Toml.Shows (statements file) t) : ofDocument t = .ok c := by
  obtain ⟨ys, hys, hread⟩ := exists_readDocument hlists.placed
  rw [ofDocument, Toml.read_of_shows hshows, ofStatements_statements hlists]
  show (Schema.readDocument _).mapError _ = _
  rw [hread, foldl_make_of_perm (hys.trans hlists.settings)]
  rfl

/-! ## Strange names -/

open Toml (Gap Lines BeginsKey BeginsHeader)

/-- Texts in which a name turns up that the format does not have: a key in front of every
table, a table, or a key under the header of a section.  In front of it stand lines that the
format may have; behind it may stand anything. -/
inductive Stray : Text → Prop
  | key {gap t name : Text} (hgap : Gap gap) (ht : BeginsKey name t)
    (hname : ∀ s : Section, name ≠ s.name) : Stray (gap ++ t)
  | table {front gap t name : Text} {before : List Toml.Statement} (hfront : Lines before front)
    (hgap : Gap gap) (ht : BeginsHeader name t) (hname : ∀ s : Section, name ≠ s.name) :
    Stray (front ++ (gap ++ t))
  | setting {front gap t name : Text} {s : Section} {before entries : List Toml.Statement}
    (hfront : Lines (before ++ .header [s.name] :: entries) front)
    (hentries : ∀ e ∈ entries, ∃ path v, e = .entry path v) (hgap : Gap gap)
    (ht : BeginsKey name t) (hname : ∀ slot ∈ s.slots, name ≠ slot.key) :
    Stray (front ++ (gap ++ t))

theorem exists_error_of_name {members : List (Text × Toml)} {name : Text} {v : Toml}
    (hmem : (name, v) ∈ members) (hname : ∀ s : Section, name ≠ s.name) :
    ∃ complaint, Schema.readDocument members = .error complaint := by
  have hfields : name ∉ Schema.fieldNames Schema.sections := fun h => by
    obtain ⟨s, hs⟩ := Section.exists_of_mem_fieldNames h
    exact hname s hs
  exact Schema.exists_error_of_readMembers hmem
    (fun config => ⟨_, Schema.setMember_of_not_mem hfields config v⟩) {}

theorem exists_error_of_key {members inner : List (Text × Toml)} {s : Section} {name : Text}
    {v : Toml} (htable : (s.name, .table inner) ∈ members) (hmem : (name, v) ∈ inner)
    (hname : ∀ slot ∈ s.slots, name ≠ slot.key) :
    ∃ complaint, Schema.readDocument members = .error complaint := by
  have hfields : name ∉ Schema.fieldNames s.fields := fun h => by
    rw [s.fieldNames_fields] at h
    obtain ⟨slot, hslot, he⟩ := List.mem_map.1 h
    exact hname slot hslot he.symm
  refine Schema.exists_error_of_readMembers htable (fun config => ?_) {}
  rw [Section.setMember_table]
  exact Schema.exists_error_of_readMembers hmem
    (fun config => ⟨_, Schema.setMember_of_not_mem hfields config v⟩) config

/-- A strange name shows in every document that its text is read as. -/
theorem exists_error_of_stray {t : Text} {members : List (Text × Toml)} (h : Stray t)
    (hread : Toml.read t = some members) :
    ∃ complaint, Schema.readDocument members = .error complaint := by
  cases h with
  | key hgap ht hname =>
    obtain ⟨s, after, hsets, hmembers⟩ := Toml.exists_of_read .nil hgap
      (Toml.visible_of_beginsKey ht) (Toml.sets_of_readStatement ht) hread
    obtain ⟨v, hv⟩ := Toml.Document.exists_of_sets hsets hmembers
    exact exists_error_of_name hv hname
  | table hfront hgap ht hname =>
    obtain ⟨s, after, hopens, hmembers⟩ := Toml.exists_of_read hfront hgap
      (Toml.visible_of_beginsHeader ht) (Toml.opens_of_readStatement ht) hread
    obtain ⟨v, hv⟩ := Toml.Document.exists_of_opens hopens hmembers
    exact exists_error_of_name hv hname
  | setting hfront hentries hgap ht hname =>
    obtain ⟨s, after, hsets, hmembers⟩ := Toml.exists_of_read hfront hgap
      (Toml.visible_of_beginsKey ht) (Toml.sets_of_readStatement ht) hread
    rw [List.append_assoc] at hmembers
    obtain ⟨inner, v, htable, hv⟩ := Toml.Document.exists_of_sets_in hentries hsets hmembers
    exact exists_error_of_key htable hv hname

theorem exists_error_of_ofDocument {t : Text} (h : Stray t) :
    ∃ complaint, ofDocument t = .error (.config (.malformed complaint)) := by
  rw [ofDocument]
  cases hread : Toml.read t with
  | none => exact ⟨none, rfl⟩
  | some members =>
    obtain ⟨complaint, hrefused⟩ := exists_error_of_stray h hread
    refine ⟨complaint, ?_⟩
    show (Schema.readDocument members).mapError _ = _
    rw [hrefused]
    rfl

/-! ## Canonical files -/

/-- The names of the format are written bare. -/
theorem key_name (s : Section) : Toml.Key s.name s.name := by
  cases s <;> exact .bare (by decide) (List.all_eq_true.1 rfl)

theorem key_key (slot : Slot) : Toml.Key slot.key slot.key := by
  cases slot <;> exact .bare (by decide) (List.all_eq_true.1 rfl)

theorem lines_header (s : Section) : Lines [.header [s.name]] (header s.name) := by
  have hnone : Toml.IsBlanks [] := by decide
  have hline := Toml.lines_written (.header hnone (key_name s) hnone)
  simpa [header] using hline

theorem lines_entry (slot : Slot) (value : Text) :
    Lines [.entry [slot.key] (.string value)] (entry slot.key value) := by
  have hspace : Toml.IsBlanks [' '] := by decide
  have hline := Toml.lines_written (.entry (key_key slot) hspace hspace (Toml.basic_escape value))
  simpa [entry] using hline

theorem lines_slots (c : Config) (slots : List Slot) :
    Lines ((slots.filterMap c.setting?).map fun x => .entry [x.slot.key] (.string x.value))
      (slots.flatMap fun slot => optionalEntry slot.key ((c.setting? slot).map Setting.value)) := by
  induction slots with
  | nil => exact .nil
  | cons slot slots ih =>
    rw [List.flatMap_cons]
    cases hslot : c.setting? slot with
    | none =>
      rw [List.filterMap_cons_none hslot]
      exact ih
    | some x =>
      obtain rfl := slot_of_setting? hslot
      rw [List.filterMap_cons_some hslot]
      exact Toml.lines_append (lines_entry x.slot x.value) ih

theorem lines_table (c : Config) (s : Section) :
    Lines (Toml.Document.tableStatements (membersOf (s, s.slots.filterMap c.setting?)))
      (header s.name ++ s.slots.flatMap fun slot =>
        optionalEntry slot.key ((c.setting? slot).map Setting.value)) := by
  rw [membersOf, Toml.Document.tableStatements, List.map_map]
  exact Toml.lines_append (lines_header s) (lines_slots c s.slots)

theorem text_eq (c : Config) :
    c.text = [Section.mission, .output, .logging].flatMap fun s =>
      header s.name ++ s.slots.flatMap fun slot =>
        optionalEntry slot.key ((c.setting? slot).map Setting.value) := by
  have hpolicy : (c.setting? .policy).map Setting.value = c.policy.map BoundaryPolicy.name :=
    Option.map_map _ _ _
  have herrorMode : (c.setting? .errorMode).map Setting.value = c.errorMode.map ErrorMode.name :=
    Option.map_map _ _ _
  have hformat : (c.setting? .format).map Setting.value = c.format.map OutputFormat.name :=
    Option.map_map _ _ _
  have hlogLevel : (c.setting? .logLevel).map Setting.value = c.logLevel :=
    (Option.map_map _ _ _).trans Option.map_id'
  have hlogFormat : (c.setting? .logFormat).map Setting.value = c.logFormat :=
    (Option.map_map _ _ _).trans Option.map_id'
  simp only [text, List.flatMap_cons, List.flatMap_nil, Section.slots, hpolicy, herrorMode, hformat,
    hlogLevel, hlogFormat, List.append_assoc, List.append_nil]
  rfl

/-- The text of a configuration is a file that lists it. -/
theorem shows_text (c : Config) : Toml.Shows (statements c.tables) c.text := by
  have hnone : Toml.IsBlanks [] := by decide
  have hlines : ∀ all : List Section,
      Lines (statements (all.map fun s => (s, s.slots.filterMap c.setting?)))
        (all.flatMap fun s => header s.name ++ s.slots.flatMap fun slot =>
          optionalEntry slot.key ((c.setting? slot).map Setting.value)) := by
    intro all
    induction all with
    | nil => exact .nil
    | cons s all ih => exact Toml.lines_append (lines_table c s) ih
  have htext :=
    Toml.Shows.closed (hlines [.mission, .output, .logging]) (.blanks hnone) (Or.inl rfl)
  rw [List.append_nil, List.append_nil, ← text_eq] at htext
  exact htext

/-! ## The format -/

/-- Every configuration is listed by a file, and every file that lists it, however it is
laid out, is read as that configuration.  A file with a strange name is refused, whatever it
lists in front of the name and behind it.  References to unknown names change nothing. -/
theorem ofText_of_lists (c : Config) (lookup : Text → Option Text) :
    (∃ file, Lists c file ∧ Toml.Shows (statements file) c.text) ∧
      (∀ file t, Lists c file → Toml.Shows (statements file) t →
        (∀ name ∈ Substitution.names t, lookup name = none) → ofText lookup t = .ok c) ∧
      ∀ t, Stray t → (∀ name ∈ Substitution.names t, lookup name = none) →
        ∃ complaint, ofText lookup t = .error (.config (.malformed complaint)) := by
  refine ⟨⟨c.tables, lists_tables c, shows_text c⟩, ?_, ?_⟩
  · intro file t hlists hshows hunknown
    rw [ofText, Substitution.apply_of_unknown hunknown]
    exact ofDocument_of_shows hlists hshows
  · intro t hstray hunknown
    rw [ofText, Substitution.apply_of_unknown hunknown]
    exact exists_error_of_ofDocument hstray

/-- A file in an order of its own, with an escape and a reference to an unknown name, and one
with a misspelt key. -/
theorem ofText_of_lists_reordered :
    let level : Text := "$$\x7bLEVEL\x7d"
    let c : Config := { policy := some .wrap, logLevel := some level }
    let file : List (Section × List Setting) :=
      [(.logging, [.logLevel level]), (.mission, [.policy .wrap])]
    let t : Text := "# defaults\n[logging]\n\x27level\x27 = \"\\u0024$\x7bLEVEL\x7d\"\n" ++
      "[ mission ]\r\nboundary_policy=\"wrap\""
    let misspelt : Text := "[mission]\npolicy = \"wrap\"\n"
    Lists c file ∧ Toml.Shows (statements file) t ∧ Stray misspelt ∧
      ofText (fun _ => none) t = .ok c ∧
      ∃ complaint, ofText (fun _ => none) misspelt = .error (.config (.malformed complaint)) := by
  intro level c file t misspelt
  have hnone : Toml.IsBlanks [] := by decide
  have hspace : Toml.IsBlanks [' '] := by decide
  have hlevel : Toml.Basic "\\u0024$\x7bLEVEL\x7d" level :=
    .short (by rfl) (Toml.basic_escape "$\x7bLEVEL\x7d")
  have hwrap : Toml.Basic "wrap" "wrap" := Toml.basic_escape "wrap"
  have hlevelKey : Toml.Key ('\x27' :: ("level".toList ++ ['\x27'])) "level" :=
    .literal (List.all_eq_true.1 rfl)
  have hnote : Toml.IsNote "# defaults" := Or.inr ⟨" defaults", rfl, List.all_eq_true.1 rfl⟩
  have hgap : Gap "# defaults\n" := .line (.mk hnone hnote (Or.inl rfl)) (.blanks hnone)
  have hlists : Lists c file := ⟨by decide, by decide, by decide⟩
  have hshows : Toml.Shows (statements file) t :=
    .unclosed
      (.cons hgap (.header hnone (key_name .logging) hnone) Toml.lineRest_lineFeed
        (.cons (.blanks hnone) (.entry hlevelKey hspace hspace hlevel) Toml.lineRest_lineFeed
          (.cons (.blanks hnone) (.header hspace (key_name .mission) hspace)
            (.mk hnone (Or.inl rfl) (Or.inr rfl)) .nil)))
      (.blanks hnone) (.entry (key_key .policy) hnone hnone hwrap) hnone (Or.inl rfl)
  have hpolicy : BeginsKey "policy" "policy = \"wrap\"\n" :=
    .mk (.bare (by decide) (List.all_eq_true.1 rfl)) (fun c hc => by cases hc; decide)
  have hfront : Lines ([] ++ .header [Section.mission.name] :: []) "[mission]\n" :=
    lines_header .mission
  have hstray : Stray misspelt :=
    .setting hfront (by simp) (.blanks hnone) hpolicy (by decide)
  obtain ⟨-, hread, hrefused⟩ := ofText_of_lists c fun _ => none
  exact ⟨hlists, hshows, hstray, hread file t hlists hshows fun _ _ => rfl,
    hrefused misspelt hstray fun _ _ => rfl⟩

end Config
end RoverMission
