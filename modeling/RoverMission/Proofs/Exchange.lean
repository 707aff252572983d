/-
Values exchanged as JSON.

Each of the types that JSON texts can be read as has its forms there, and reading accepts
those of a value as that value and nothing else (`Kind.ofJson?_eq_some_iff`).  What is
written is one of the forms and a valid document.  So writing loses nothing, and a text
that is accepted and written again is accepted as the same value.
-/
import RoverMission.Proofs.Corners
import RoverMission.Proofs.Forms
import RoverMission.Proofs.Spellings

namespace RoverMission

open Interchange

variable {v : Json}

/-! ## Documents -/

namespace Json

theorem valid_ofText (t : Text) : (ofText t).Valid := .string (inside_escape t)

theorem valid_ofInt (n : Int) : (ofInt n).Valid := .number (isNumber_ofInt n)

theorem valid_ofOption {α : Type} {write : α → Json} (h : ∀ a, (write a).Valid) (a : Option α) :
    (ofOption (a.map write)).Valid := by
  cases a with
  | none => exact .null
  | some a => exact h a

end Json

/-! ## Enumerations -/

namespace Heading

def Form (h : Heading) (v : Json) : Prop := NameForm [h.letter] v

theorem ofText?_eq_some_iff {t : Text} {h : Heading} : ofText? t = some h ↔ t = [h.letter] := by
  constructor
  · exact eq_letter_of_ofText?
  · rintro rfl
    exact ofText?_letter h

theorem ofJson?_eq_some_iff {h : Heading} : ofJson? v = some h ↔ h.Form v :=
  choice?_eq_some_iff ofText?_eq_some_iff

theorem form_toJson (h : Heading) : h.Form h.toJson := nameForm_ofText [h.letter]

theorem valid_toJson (h : Heading) : h.toJson.Valid := Json.valid_ofText [h.letter]

end Heading

/-- A name that is looked up is that of what is found. -/
theorem find?_name_eq_some_iff {α : Type} {all : List α} {name : α → Text}
    (hname : ∀ a, all.find? (name · == name a) = some a) {t : Text} {a : α} :
    all.find? (name · == t) = some a ↔ t = name a := by
  constructor
  · exact fun h => (name_of_find? h).symm
  · rintro rfl
    exact hname a

namespace BoundaryPolicy

def Form (policy : BoundaryPolicy) (v : Json) : Prop := NameForm policy.name v

theorem ofJson?_eq_some_iff {policy : BoundaryPolicy} : ofJson? v = some policy ↔ policy.Form v :=
  choice?_eq_some_iff (find?_name_eq_some_iff ofName?_name)

theorem form_toJson (policy : BoundaryPolicy) : policy.Form policy.toJson :=
  nameForm_ofText policy.name

theorem valid_toJson (policy : BoundaryPolicy) : policy.toJson.Valid :=
  Json.valid_ofText policy.name

end BoundaryPolicy

namespace ErrorMode

def Form (mode : ErrorMode) (v : Json) : Prop := NameForm mode.name v

theorem ofJson?_eq_some_iff {mode : ErrorMode} : ofJson? v = some mode ↔ mode.Form v :=
  choice?_eq_some_iff (find?_name_eq_some_iff ofName?_name)

theorem form_toJson (mode : ErrorMode) : mode.Form mode.toJson := nameForm_ofText mode.name

theorem valid_toJson (mode : ErrorMode) : mode.toJson.Valid := Json.valid_ofText mode.name

end ErrorMode

namespace OutputFormat

def Form (format : OutputFormat) (v : Json) : Prop := NameForm format.name v

theorem ofJson?_eq_some_iff {format : OutputFormat} : ofJson? v = some format ↔ format.Form v :=
  choice?_eq_some_iff (find?_name_eq_some_iff ofName?_name)

theorem form_toJson (format : OutputFormat) : format.Form format.toJson :=
  nameForm_ofText format.name

theorem valid_toJson (format : OutputFormat) : format.toJson.Valid := Json.valid_ofText format.name

end OutputFormat

/-! ## Structures -/

namespace Position

def Form (p : Position) (v : Json) : Prop :=
  FieldsForm ["x", "y"] [.ofInt p.x.toInt, .ofInt p.y.toInt] v

theorem ofJson?_eq_some_iff {p : Position} : ofJson? v = some p ↔ p.Form v := by
  have hnames : (["x", "y"] : List Text).Nodup := by decide
  refine (bind_fields?_eq_some_iff hnames).trans ?_
  simp only [coordinate?_eq_some_iff]
  constructor
  · rintro ⟨_, _, x, y, hform, rfl, rfl, rfl⟩
    exact hform
  · exact fun hform => ⟨_, _, p.x, p.y, hform, rfl, rfl, rfl⟩

theorem form_toJson (p : Position) : p.Form p.toJson := fieldsForm_record rfl rfl

theorem valid_toJson (p : Position) : p.toJson.Valid :=
  Json.valid_record (by simp [Json.valid_ofInt])

end Position

namespace Plateau

def Form (plateau : Plateau) (v : Json) : Prop :=
  FieldsForm ["max_x", "max_y"] [.ofInt plateau.maxX.toInt, .ofInt plateau.maxY.toInt] v

theorem ofJson?_eq_some_iff {plateau : Plateau} : ofJson? v = some plateau ↔ plateau.Form v := by
  have hnames : (["max_x", "max_y"] : List Text).Nodup := by decide
  refine (bind_fields?_eq_some_iff hnames).trans ?_
  simp only [coordinate?_eq_some_iff]
  constructor
  · rintro ⟨_, _, x, y, hform, rfl, rfl, rfl⟩
    exact hform
  · exact fun hform => ⟨_, _, plateau.maxX, plateau.maxY, hform, rfl, rfl, rfl⟩

theorem form_toJson (plateau : Plateau) : plateau.Form plateau.toJson := fieldsForm_record rfl rfl

end Plateau

namespace Pose

inductive Form (p : Pose) (v : Json) : Prop
  | mk {position heading : Json}
    (hfields : FieldsForm ["position", "heading"] [position, heading] v)
    (hposition : p.position.Form position) (hheading : p.heading.Form heading) : Form p v

theorem ofJson?_eq_some_iff {p : Pose} : ofJson? v = some p ↔ p.Form v := by
  have hnames : (["position", "heading"] : List Text).Nodup := by decide
  refine (bind_fields?_eq_some_iff hnames).trans ?_
  simp only [Position.ofJson?_eq_some_iff, Heading.ofJson?_eq_some_iff]
  constructor
  · rintro ⟨position, heading, q, h, hfields, hposition, hheading, rfl⟩
    exact ⟨hfields, hposition, hheading⟩
  · rintro ⟨hfields, hposition, hheading⟩
    exact ⟨_, _, p.position, p.heading, hfields, hposition, hheading, rfl⟩

theorem form_toJson (p : Pose) : p.Form p.toJson :=
  ⟨fieldsForm_record rfl rfl, p.position.form_toJson, p.heading.form_toJson⟩

theorem valid_toJson (p : Pose) : p.toJson.Valid :=
  Json.valid_record (by simp [p.position.valid_toJson, p.heading.valid_toJson])

end Pose

namespace Config

/-- The forms of a configuration: a structure of sections, each a structure of settings. -/
inductive Form (c : Config) (v : Json) : Prop
  | mk {mission output logging policy errorMode format logLevel logFormat : Option Json}
    (hsections : OptionalForm ["mission", "output", "logging"] [mission, output, logging] v)
    (hmission : SectionForm ["boundary_policy", "error_mode"] [policy, errorMode] mission)
    (houtput : SectionForm ["format"] [format] output)
    (hlogging : SectionForm ["level", "format"] [logLevel, logFormat] logging)
    (hpolicy : SettingForm BoundaryPolicy.Form c.policy policy)
    (herrorMode : SettingForm ErrorMode.Form c.errorMode errorMode)
    (hformat : SettingForm OutputFormat.Form c.format format)
    (hlogLevel : SettingForm TextForm c.logLevel logLevel)
    (hlogFormat : SettingForm TextForm c.logFormat logFormat) : Form c v

theorem ofJson?_eq_some_iff {c : Config} : ofJson? v = some c ↔ c.Form v := by
  have hsections : (["mission", "output", "logging"] : List Text).Nodup := by decide
  have hmission : (["boundary_policy", "error_mode"] : List Text).Nodup := by decide
  have houtput : (["format"] : List Text).Nodup := by decide
  have hlogging : (["level", "format"] : List Text).Nodup := by decide
  constructor
  · intro h
    simp only [ofJson?, Option.bind_eq_bind, Option.bind_eq_some_iff] at h
    obtain ⟨sections, hv, h⟩ := h
    split at h
    · simp only [Option.bind_eq_some_iff] at h
      obtain ⟨missionSettings, hm, outputSettings, ho, loggingSettings, hl, h⟩ := h
      split at h
      · simp only [Option.bind_eq_some_iff, Option.pure_def, Option.some.injEq] at h
        obtain ⟨policy, hpolicy, errorMode, herrorMode, format, hformat, logLevel, hlogLevel,
          logFormat, hlogFormat, rfl⟩ := h
        exact ⟨(optionalFields?_eq_some_iff hsections).1 hv, (section?_eq_some_iff hmission).1 hm,
          (section?_eq_some_iff houtput).1 ho, (section?_eq_some_iff hlogging).1 hl,
          (setting?_eq_some_iff BoundaryPolicy.ofJson?_eq_some_iff rfl).1 hpolicy,
          (setting?_eq_some_iff ErrorMode.ofJson?_eq_some_iff rfl).1 herrorMode,
          (setting?_eq_some_iff OutputFormat.ofJson?_eq_some_iff rfl).1 hformat,
          (setting?_eq_some_iff text?_eq_some_iff rfl).1 hlogLevel,
          (setting?_eq_some_iff text?_eq_some_iff rfl).1 hlogFormat⟩
      · cases h
    · cases h
  · rintro ⟨hv, hm, ho, hl, hpolicy, herrorMode, hformat, hlogLevel, hlogFormat⟩
    rw [← optionalFields?_eq_some_iff hsections] at hv
    rw [← section?_eq_some_iff hmission] at hm
    rw [← section?_eq_some_iff houtput] at ho
    rw [← section?_eq_some_iff hlogging] at hl
    rw [← setting?_eq_some_iff BoundaryPolicy.ofJson?_eq_some_iff rfl] at hpolicy
    rw [← setting?_eq_some_iff ErrorMode.ofJson?_eq_some_iff rfl] at herrorMode
    rw [← setting?_eq_some_iff OutputFormat.ofJson?_eq_some_iff rfl] at hformat
    rw [← setting?_eq_some_iff text?_eq_some_iff rfl] at hlogLevel hlogFormat
    simp only [ofJson?, hv, hm, ho, hl, hpolicy, herrorMode, hformat, hlogLevel, hlogFormat,
      Option.bind_eq_bind, Option.bind_some, Option.pure_def]

/-- What is written as a configuration has all fields. -/
theorem form_toJson (c : Config) : c.Form c.toJson := by
  refine ⟨optionalForm_record rfl rfl, .given (optionalForm_record rfl rfl),
    .given (optionalForm_record rfl rfl), .given (optionalForm_record rfl rfl), ?_, ?_, ?_, ?_, ?_⟩
  · exact settingForm_ofOption (fun policy => nameForm_ofText policy.name) c.policy
  · exact settingForm_ofOption (fun mode => nameForm_ofText mode.name) c.errorMode
  · exact settingForm_ofOption (fun format => nameForm_ofText format.name) c.format
  · exact settingForm_ofOption textForm_ofText c.logLevel
  · exact settingForm_ofOption textForm_ofText c.logFormat

theorem valid_toJson (c : Config) : c.toJson.Valid := by
  have hpolicy := Json.valid_ofOption BoundaryPolicy.valid_toJson c.policy
  have herrorMode := Json.valid_ofOption ErrorMode.valid_toJson c.errorMode
  have hformat := Json.valid_ofOption OutputFormat.valid_toJson c.format
  have hlogLevel := Json.valid_ofOption Json.valid_ofText c.logLevel
  have hlogFormat := Json.valid_ofOption Json.valid_ofText c.logFormat
  refine Json.valid_record (List.forall_mem_cons.2 ⟨?_, List.forall_mem_cons.2 ⟨?_, ?_⟩⟩)
  · exact Json.valid_record (by simp [hpolicy, herrorMode])
  · exact Json.valid_record (by simp [hformat])
  · exact List.forall_mem_singleton.2 (Json.valid_record (by simp [hlogLevel, hlogFormat]))

end Config

/-! ## Exchange -/

namespace Interchange

/-- The types that texts can be read as. -/
inductive Kind
  | heading
  | position
  | pose
  | plateau
  | policy
  | errorMode
  | format
  | config

namespace Kind

@[reducible] def Value : Kind → Type
  | heading => Heading
  | position => Position
  | pose => Pose
  | plateau => Plateau
  | policy => BoundaryPolicy
  | errorMode => ErrorMode
  | format => OutputFormat
  | config => Config

def toJson : (kind : Kind) → kind.Value → Json
  | heading => Heading.toJson
  | position => Position.toJson
  | pose => Pose.toJson
  | plateau => Plateau.toJson
  | policy => BoundaryPolicy.toJson
  | errorMode => ErrorMode.toJson
  | format => OutputFormat.toJson
  | config => Config.toJson

def ofJson? : (kind : Kind) → Json → Option kind.Value
  | heading => Heading.ofJson?
  | position => Position.ofJson?
  | pose => Pose.ofJson?
  | plateau => Plateau.ofJson?
  | policy => BoundaryPolicy.ofJson?
  | errorMode => ErrorMode.ofJson?
  | format => OutputFormat.ofJson?
  | config => Config.ofJson?

def Form : (kind : Kind) → kind.Value → Json → Prop
  | heading => Heading.Form
  | position => Position.Form
  | pose => Pose.Form
  | plateau => Plateau.Form
  | policy => BoundaryPolicy.Form
  | errorMode => ErrorMode.Form
  | format => OutputFormat.Form
  | config => Config.Form

/-- The text that a value is written as. -/
def text (kind : Kind) (a : kind.Value) : Text := (kind.toJson a).compact

/-- The value that a text is read as. -/
def ofText? (kind : Kind) (t : Text) : Option kind.Value := (Json.read t).bind kind.ofJson?

variable {kind : Kind} {a : kind.Value} {t : Text}

/-- Reading accepts the forms of a value as that value, and nothing else. -/
theorem ofJson?_eq_some_iff : kind.ofJson? v = some a ↔ kind.Form a v := by
  cases kind with
  | heading => exact Heading.ofJson?_eq_some_iff
  | position => exact Position.ofJson?_eq_some_iff
  | pose => exact Pose.ofJson?_eq_some_iff
  | plateau => exact Plateau.ofJson?_eq_some_iff
  | policy => exact BoundaryPolicy.ofJson?_eq_some_iff
  | errorMode => exact ErrorMode.ofJson?_eq_some_iff
  | format => exact OutputFormat.ofJson?_eq_some_iff
  | config => exact Config.ofJson?_eq_some_iff

theorem form_toJson (kind : Kind) (a : kind.Value) : kind.Form a (kind.toJson a) := by
  cases kind with
  | heading => exact Heading.form_toJson a
  | position => exact Position.form_toJson a
  | pose => exact Pose.form_toJson a
  | plateau => exact Plateau.form_toJson a
  | policy => exact BoundaryPolicy.form_toJson a
  | errorMode => exact ErrorMode.form_toJson a
  | format => exact OutputFormat.form_toJson a
  | config => exact Config.form_toJson a

theorem valid_toJson (kind : Kind) (a : kind.Value) : (kind.toJson a).Valid := by
  cases kind with
  | heading => exact Heading.valid_toJson a
  | position => exact Position.valid_toJson a
  | pose => exact Pose.valid_toJson a
  | plateau => exact Plateau.valid_toJson a
  | policy => exact BoundaryPolicy.valid_toJson a
  | errorMode => exact ErrorMode.valid_toJson a
  | format => exact OutputFormat.valid_toJson a
  | config => exact Config.valid_toJson a

theorem ofText?_eq_some_iff :
    kind.ofText? t = some a ↔ ∃ v, Json.read t = some v ∧ kind.Form a v := by
  rw [ofText?, Option.bind_eq_some_iff]
  simp only [ofJson?_eq_some_iff]

/-- However a form of a value is laid out, it is read as that value. -/
theorem ofText?_of_spelledBy (hspelled : v.SpelledBy t) (hform : kind.Form a v) :
    kind.ofText? t = some a :=
  ofText?_eq_some_iff.2 ⟨v, Json.read_of_spelledBy hspelled, hform⟩

theorem ofText?_text (kind : Kind) (a : kind.Value) : kind.ofText? (kind.text a) = some a :=
  ofText?_of_spelledBy (Json.spelledBy_compact (kind.valid_toJson a)) (kind.form_toJson a)

/-- Writing loses nothing.  A text is read as a value exactly if it is a document in one of
the forms of that value, whatever the form and the layout; and a text that is read and
written again is read as before, and written as it is. -/
theorem reads_back (kind : Kind) (t : Text) (a : kind.Value) :
    kind.ofText? (kind.text a) = some a ∧
      (kind.ofText? t = some a ↔ ∃ v, Json.read t = some v ∧ kind.Form a v) ∧
      (∀ v : Json, v.SpelledBy t → kind.Form a v → kind.ofText? t = some a) ∧
      ∀ u, (kind.ofText? t).map kind.text = some u →
        kind.ofText? u = kind.ofText? t ∧ (kind.ofText? u).map kind.text = some u := by
  refine ⟨kind.ofText?_text a, ofText?_eq_some_iff, fun v => ofText?_of_spelledBy, ?_⟩
  intro u hu
  obtain ⟨b, hb, rfl⟩ := Option.map_eq_some_iff.1 hu
  have hagain : kind.ofText? (kind.text b) = kind.ofText? t := by
    rw [ofText?_text, hb]
  refine ⟨hagain, ?_⟩
  rw [hagain]
  exact hu

/-- Sections in an order of their own, one of them a list and one left out, a policy as a key,
and a level with an escape. -/
theorem reads_back_config :
    let t : Text :=
      " \x7b\"logging\" : \x7b\"format\":null, \"level\":\"a\\u000ab\"\x7d,\n" ++
        "\"mission\":[\x7b\"wrap\":null\x7d]\x7d"
    let c : Config := { policy := some .wrap, logLevel := some "a\nb" }
    config.ofText? t = some c ∧ config.ofText? (config.text c) = some c ∧
      (config.ofText? (config.text c)).map config.text = some (config.text c) := by
  intro t c
  have hread : config.ofText? t = some c := by
    show (Json.read t).bind Config.ofJson? = some c
    decide +kernel
  obtain ⟨hback, -, -, hagain⟩ := reads_back config t c
  have hwritten : (config.ofText? t).map config.text = some (config.text c) := by
    rw [hread]
    rfl
  exact ⟨hread, hback, (hagain _ hwritten).2⟩

end Kind
end Interchange
end RoverMission
