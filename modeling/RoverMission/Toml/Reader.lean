/-
Reading TOML documents.

The reader follows version 1.1 of the format: line breaks and a comma at the end
are welcome between braces, and times need no seconds.  Values nest at most
eighty deep, and a key has at most eighty parts.  What is read is a list of
statements, of which `Toml.Document` makes the tables.
-/
import RoverMission.Toml
import RoverMission.Toml.Scalar
import RoverMission.Toml.Quoted

namespace RoverMission
namespace Toml

def skipBlanks (t : Text) : Text := t.dropWhile fun c => c == ' ' || c == '\t'

/-- Skip to the next line, over blanks and a comment. -/
def nextLine : (comment : Bool) → Text → Option Text
  | _, [] => some []
  | _, '\n' :: t => some t
  | _, '\r' :: '\n' :: t => some t
  | true, c :: t => if isPlain c then nextLine true t else none
  | false, '#' :: t => nextLine true t
  | false, c :: t => if c == ' ' || c == '\t' then nextLine false t else none

/-- Skip blanks, line breaks and comments. -/
def skipGap : (comment : Bool) → Text → Option Text
  | _, [] => some []
  | _, '\n' :: t => skipGap false t
  | _, '\r' :: '\n' :: t => skipGap false t
  | true, c :: t => if isPlain c then skipGap true t else none
  | false, '#' :: t => skipGap true t
  | false, c :: t => if c == ' ' || c == '\t' then skipGap false t else some (c :: t)

def isBare (c : Char) : Bool := c.isAlphanum || c == '_' || c == '-'

/-- One part of a key, and the rest. -/
def readName (t : Text) : Option (Text × Text) :=
  match t with
  | '"' :: t => basic t
  | '\x27' :: t => literal t
  | t =>
    match Text.run isBare t with
    | ([], _) => none
    | name => some name

/-- The names that a text begins with, with dots between them, and the rest. -/
def readNames : (fuel : Nat) → Text → Option (List Text × Text)
  | 0, _ => none
  | fuel + 1, t => do
    let (name, t) ← readName (skipBlanks t)
    match skipBlanks t with
    | '.' :: t =>
      let (names, t) ← readNames fuel t
      return (name :: names, t)
    | t => return ([name], t)

/-- How deep values may nest, and how many parts a key may have. -/
def depthLimit : Nat := 80

/-- The parts of a key, and the rest. -/
def readPath (t : Text) : Option (List Text × Text) := readNames depthLimit t

/-- Characters that a scalar cannot contain; points and blanks are joined to it
by rules of their own. -/
def isDelimiter (c : Char) : Bool :=
  ['.', '=', ',', '[', ']', '\x7b', '\x7d', ' ', '\t', '#', '\r', '\n'].contains c

def isQuote (c : Char) : Bool := c == '"' || c == '\x27'

/-- Whether a text goes on, behind blanks, with a character that is neither a
delimiter nor a quote. -/
def goesOn (t : Text) : Bool :=
  match skipBlanks t with
  | c :: _ => !isDelimiter c && !isQuote c
  | [] => false

/-- The characters of a scalar without quotes, and the rest.  Blanks belong to it
as long as it goes on behind them; a quote belongs to it unless it stands behind
a point or at the start, which `inside` tells. -/
def scalarText : (inside : Bool) → Text → Text × Text
  | _, [] => ([], [])
  | inside, c :: t =>
    if c == '.' then
      let (literal, rest) := scalarText false t
      (c :: literal, rest)
    else if c == ' ' || c == '\t' then
      if goesOn t then
        let (literal, rest) := scalarText false t
        (c :: literal, rest)
      else
        ([], c :: t)
    else if isDelimiter c || (!inside && isQuote c) then
      ([], c :: t)
    else
      let (literal, rest) := scalarText true t
      (c :: literal, rest)

def readScalar (t : Text) : Option (Toml × Text) :=
  let (literal, t) := scalarText false t
  if literal == "true".toList || literal == "false".toList || isInteger literal || isFloat literal then
    some (scalar literal, t)
  else if isDateTime literal then
    some (dateTime literal, t)
  else
    none

mutual

/-- The value that a text begins with, and the rest; `room` is how deep values
may still nest. -/
def readValue : (fuel room : Nat) → Text → Option (Toml × Text)
  | 0, _, _ => none
  | fuel + 1, room, t =>
    match quoted? t with
    | some found => found.map fun (s, t) => (string s, t)
    | none =>
      match t, room with
      | '[' :: t, room + 1 => do
        let (items, t) ← readItems fuel room (← skipGap false t)
        return (array items, t)
      | '\x7b' :: t, room + 1 => do
        let (entries, t) ← readEntries fuel room (← skipGap false t)
        return (← inline entries, t)
      | t, _ => readScalar t

/-- The items up to a closing bracket; a comma may follow the last one. -/
def readItems : (fuel room : Nat) → Text → Option (List Toml × Text)
  | 0, _, _ => none
  | _ + 1, _, ']' :: t => some ([], t)
  | fuel + 1, room, t => do
    let (v, t) ← readValue fuel room t
    match ← skipGap false t with
    | ',' :: t =>
      let (items, t) ← readItems fuel room (← skipGap false t)
      return (v :: items, t)
    | ']' :: t => return ([v], t)
    | _ => none

/-- The entries up to a closing brace; a comma may follow the last one. -/
def readEntries : (fuel room : Nat) → Text → Option (List (List Text × Toml) × Text)
  | 0, _, _ => none
  | _ + 1, _, '\x7d' :: t => some ([], t)
  | fuel + 1, room, t => do
    let (entry, t) ← readEntry fuel room t
    match ← skipGap false t with
    | ',' :: t =>
      let (entries, t) ← readEntries fuel room (← skipGap false t)
      return (entry :: entries, t)
    | '\x7d' :: t => return ([entry], t)
    | _ => none

/-- A key, an equals sign and a value, with gaps around the equals sign. -/
def readEntry : (fuel room : Nat) → Text → Option ((List Text × Toml) × Text)
  | 0, _, _ => none
  | fuel + 1, room, t => do
    let (path, t) ← readPath t
    match ← skipGap false t with
    | '=' :: t =>
      let (v, t) ← readValue fuel room (← skipGap false t)
      return ((path, v), t)
    | _ => none

end

/-- The statement that a line begins with, and the rest. -/
def readStatement (t : Text) : Option (Statement × Text) :=
  match t with
  | '[' :: '[' :: t => do
    match ← readPath t with
    | (path, ']' :: ']' :: t) => return (.arrayHeader path, t)
    | _ => none
  | '[' :: t => do
    match ← readPath t with
    | (path, ']' :: t) => return (.header path, t)
    | _ => none
  | t => do
    match ← readPath t with
    | (path, '=' :: t) =>
      let (v, t) ← readValue (2 * t.length + 2) depthLimit (skipBlanks t)
      return (.entry path v, t)
    | _ => none

/-- The statements of a document, one to a line. -/
def readStatements : (fuel : Nat) → Text → Option (List Statement)
  | 0, _ => none
  | fuel + 1, t => do
    match ← skipGap false t with
    | [] => return []
    | t =>
      let (statement, t) ← readStatement t
      return statement :: (← readStatements fuel (← nextLine false t))

/-- A byte order mark in front of a document does not count. -/
def skipMark : Text → Text
  | '\uFEFF' :: t => t
  | t => t

/-- The members of the document that a text consists of. -/
def read (t : Text) : Option (List (Text × Toml)) := do
  Document.ofStatements (← readStatements (t.length + 1) (skipMark t))

theorem readValue_of_quoted {t s rest : Text} (h : quoted? t = some (some (s, rest)))
    (fuel room : Nat) : readValue (fuel + 1) room t = some (.string s, rest) := by
  unfold readValue
  rw [h]
  rfl

/-- A key with a quoted value. -/
theorem readStatement_of_quoted {t value s : Text} {path : List Text}
    (hhead : t.head? ≠ some '[') (hpath : readPath t = some (path, '=' :: value))
    (hvalue : quoted? (skipBlanks value) = some (some (s, []))) :
    readStatement t = some (.entry path (.string s), []) := by
  unfold readStatement
  split
  · exact absurd rfl hhead
  · exact absurd rfl hhead
  · rw [hpath]
    show (readValue (2 * value.length + 2) depthLimit (skipBlanks value) >>= _) = _
    rw [readValue_of_quoted hvalue]
    rfl

/-- A document of one statement. -/
theorem read_of_statement {t : Text} {statement : Statement} (hmark : skipMark t = t)
    (hgap : skipGap false t = some t) (h : readStatement t = some (statement, [])) :
    read t = Document.ofStatements [statement] := by
  rcases t with _ | ⟨c, t⟩
  · cases h
  have hread : readStatements ((c :: t).length + 1) (c :: t) = some [statement] := by
    rw [readStatements, hgap]
    show (readStatement (c :: t) >>= _) = _
    rw [h]
    rfl
  rw [read, hmark, hread]
  rfl

end Toml
end RoverMission
