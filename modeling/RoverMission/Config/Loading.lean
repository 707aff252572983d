/-
Loading configurations.

References to variables are replaced first, in comments too; then the text is
read as a document, and the document against the schema.  A text that is no
document is refused before the schema is looked at.
-/
import RoverMission.Config.Schema
import RoverMission.Config.Substitution
import RoverMission.Toml.Reader
import RoverMission.Source

namespace RoverMission
namespace Config

/-- The configuration that a document's text gives. -/
def ofDocument (t : Text) : Except Fault Config :=
  match Toml.read t with
  | none => .error (.config (.malformed none))
  | some members => (Schema.readDocument members).mapError fun c => .config (.malformed c)

/-- The configuration that a text gives, with the values of its variables. -/
def ofText (lookup : Text → Option Text) (t : Text) : Except Fault Config :=
  ofDocument (Substitution.apply lookup t)

/-- The configuration in the file at a path. -/
def load (files : Text → Except IoFault ByteArray) (lookup : Text → Option Text) (path : Text) :
    Except Fault Config :=
  match files path >>= Source.decode with
  | .ok t => ofText lookup t
  | .error cause => .error (.config (.unreadable path cause))

/-- A configuration of one statement, which makes one section. -/
theorem ofText_of_statement {t : Text} {statement : Toml.Statement} {member : Text × Toml}
    (hmark : Toml.skipMark t = t) (hgap : Toml.skipGap false t = some t) (hplain : '$' ∉ t)
    (h : Toml.readStatement t = some (statement, []))
    (hmember : Toml.Document.ofStatements [statement] = some [member])
    (lookup : Text → Option Text) :
    ofText lookup t = (Schema.setMember Schema.sections {} member).mapError fun c =>
      .config (.malformed c) := by
  rw [ofText, Substitution.apply_of_not_mem hplain, ofDocument, Toml.read_of_statement hmark hgap h,
    hmember]
  show (Schema.readMembers Schema.sections {} [member]).mapError _ = _
  rw [Schema.readMembers_singleton]

/-- A file that holds a text is loaded as that text. -/
theorem load_of_utf8 {files : Text → Except IoFault ByteArray} {path t : Text}
    (h : files path = .ok ⟨(Text.utf8 t).toArray⟩) (lookup : Text → Option Text) :
    load files lookup path = ofText lookup t := by
  have hread : (files path >>= Source.decode) = .ok t := by
    rw [h]
    exact Source.decode_utf8 t
  rw [load, hread]

end Config
end RoverMission
