/-
Log filters.

A filter is a list of directives.  A directive lets events up to a level pass,
either all of them or those of the origins whose target begins with a given
text.  It may ask for fields that an event must have, or speak of spans; an
event has no field but its message and stands in no span.  Of the directives
that speak of an event the most specific one decides.

Reading directives is up to the library that keeps the log, of which this is
assumed: it finds the parts of a directive in the text without the blanks around
it, by places counted in bytes, and takes them from the text with the blanks.  So
blanks in front move every part (`Directive.partOf_append` is the case without
them), and a place may come to lie inside of a character, as in " é=info".  There
the library may stop the program, which is not modelled: it is assumed that no
directive that is given has such a place, and one that has is refused here like
any other that cannot be read.  The directive in force when none is given has none
(`Filter.ofText_defaultDirective`).
-/
import RoverMission.Event
import RoverMission.Pattern

namespace RoverMission

structure Directive where
  /-- Beginning of the targets meant; `none` is every target. -/
  target : Option Text := none
  /-- The fields that an event must have. -/
  fields : List Text := []
  /-- Whether only spans, and what happens inside of them, are meant. -/
  spansOnly : Bool := false
  /-- The greatest detail that passes, zero for none. -/
  detail : Nat
  deriving DecidableEq

/-- Why a text is no directive. -/
inductive DirectiveFault
  | form
  | level
  | field
  deriving DecidableEq

def DirectiveFault.message : DirectiveFault → Text
  | form => "invalid filter directive"
  | level =>
    "error parsing level filter: expected one of \"off\", \"error\", \"warn\", \"info\", "
      ++ "\"debug\", \"trace\", or a number 0-5"
  | field => "invalid field filter"

namespace Directive

/-- The level that lets everything pass. -/
def everything : Nat := 5

/-- A number may have a plus sign and leading zeros. -/
def number? : Text → Option Nat
  | '+' :: t => Numeral.toNat? t
  | t => Numeral.toNat? t

/-- A level by its name in any case, or by its number; `off` is level zero. -/
def detail? (t : Text) : Option Nat :=
  match number? t with
  | some n => if n ≤ everything then some n else none
  | none => levels.lookup (Text.lower t)
where
  levels : List (Text × Nat) :=
    [("off", 0), ("error", 1), ("warn", 2), ("info", 3), ("debug", 4), ("trace", 5)]

/-- A directive with the level that follows an equals sign; no level lets
everything pass. -/
def withLevel (d : Directive) (level : Text) : Except DirectiveFault Directive :=
  if level = [] then .ok { d with detail := everything }
  else
    match detail? level with
    | some detail => .ok { d with detail }
    | none => .error .level

def areDigits (t : Text) : Bool := t.all Char.isDigit

/-- Digits with at most one point among or beside them. -/
def isMantissa (t : Text) : Bool :=
  match Text.cut (· == '.') t with
  | [whole] => !whole.isEmpty && areDigits whole
  | [whole, fraction] => !(whole ++ fraction).isEmpty && areDigits (whole ++ fraction)
  | _ => false

/-- Whether a value is a number, with an exponent or without. -/
def isNumber (t : Text) : Bool :=
  let value := Text.lower (Numeral.withoutSign t)
  ["inf".toList, "infinity".toList, "nan".toList].contains value ||
    match Text.cut (· == 'e') value with
    | [mantissa] => isMantissa mantissa
    | [mantissa, exponent] =>
      let digits := Numeral.withoutSign exponent
      isMantissa mantissa && !digits.isEmpty && areDigits digits
    | _ => false

/-- A field is a name, or a name and a value that only spans can have: a number
or a pattern.  What follows a second equals sign does not count. -/
def withField (d : Directive) (field : Text) : Except DirectiveFault Directive :=
  match Text.cut (· == '=') field with
  | _ :: value :: _ =>
    if isNumber value || Pattern.isPattern value then .ok { d with spansOnly := true }
    else .error .field
  | [name] => if name = [] then .error .form else .ok { d with fields := [name] }
  | [] => .error .form

/-- What is read as a part of a directive.  The part is found behind `before`, which
does not count the blanks in front, and taken from the whole text, which does. -/
def partOf (whole before part : Text) : Except DirectiveFault Text :=
  match Text.cutAt? (Text.size before) whole with
  | some (_, rest) =>
    match Text.cutAt? (Text.size part) rest with
    | some (part, _) => .ok part
    | none => .error .form
  | none => .error .form

/-- What is read as the last part of a directive, which is taken up to the end of the
whole text. -/
def restOf (whole before : Text) : Except DirectiveFault Text :=
  match Text.cutAt? (Text.size before) whole with
  | some (_, rest) => .ok rest
  | none => .error .form

theorem partOf_append (before part rest : Text) :
    partOf (before ++ (part ++ rest)) before part = .ok part := by
  simp only [partOf, Text.cutAt?_append]

theorem restOf_append (before rest : Text) : restOf (before ++ rest) before = .ok rest := by
  simp only [restOf, Text.cutAt?_append]

/-- What may follow a closing bracket: blanks, or a level. -/
def afterBracket (d : Directive) (whole before : Text) : Text → Except DirectiveFault Directive
  | '=' :: _ => do d.withLevel (← restOf whole (before ++ ['=']))
  | rest => if Text.trim rest = [] then .ok d else .error .form

/-- The part of a directive behind its opening bracket: the name of a span, a
field between braces, or both. -/
def ofBracket (d : Directive) (whole before t : Text) : Except DirectiveFault Directive :=
  match Text.run (fun c => c != ']' && c != '\x7b') t with
  | (name, ']' :: rest) => do
    -- Any name will do, as long as it can be taken.
    let _ ← partOf whole before name
    afterBracket { d with spansOnly := true } whole (before ++ name ++ [']']) rest
  | (name, '\x7b' :: t) => do
    let span ← partOf whole before name
    let before := before ++ name ++ ['\x7b']
    match Text.run (· != '\x7d') t with
    | (field, '\x7d' :: rest) => do
      let d ← d.withField (← partOf whole before field)
      match rest with
      | ']' :: rest =>
        afterBracket { d with spansOnly := d.spansOnly || !span.isEmpty } whole
          (before ++ field ++ ['\x7d', ']']) rest
      | _ => .error .form
    | _ => .error .form
  | _ => .error .form

/-- A level, a target, or a target with a level.  Alone, a level or a target is the
whole text; without a target there is a bracket at once. -/
def ofWords (whole t : Text) : Except DirectiveFault Directive :=
  match Text.run (fun c => c != '=' && c != '[') t with
  | (_, []) =>
    match detail? whole with
    | some detail => .ok { detail }
    | none => .ok { target := some whole, detail := everything }
  | (target, '=' :: _) => do
    let d : Directive := { target := some (← partOf whole [] target), detail := everything }
    d.withLevel (← restOf whole (target ++ ['=']))
  | ([], _ :: t) => ofBracket { detail := everything } whole ['['] t
  | (target, _ :: t) => do
    let d : Directive := { target := some (← partOf whole [] target), detail := everything }
    ofBracket d whole (target ++ ['[']) t

/-- A target and a level with no blanks in front are read as they stand. -/
theorem ofWords_append_level {target : Text}
    (htarget : ∀ c ∈ target, (c != '=' && c != '[') = true) (level : Text) :
    ofWords (target ++ '=' :: level) (target ++ '=' :: level) =
      withLevel { target := some target, detail := everything } level := by
  have hrun : Text.run (fun c => c != '=' && c != '[') (target ++ '=' :: level) =
      (target, '=' :: level) :=
    Text.run_append htarget fun c hc => by
      cases hc
      rfl
  have hpart : partOf (target ++ '=' :: level) [] target = .ok target :=
    partOf_append [] target ('=' :: level)
  have hrest : restOf (target ++ '=' :: level) (target ++ ['=']) = .ok level := by
    rw [← restOf_append (target ++ ['=']) level, List.append_assoc, List.singleton_append]
  rw [ofWords, hrun]
  simp only [hpart, hrest]
  rfl

/-- A directive begins with a letter, a digit, a dash, a colon, an underscore or
an opening bracket. -/
def mayBegin (c : Char) : Bool :=
  Text.isAlphanumeric c || c == '-' || c == ':' || c == '_' || c == '['

def ofText (whole : Text) : Except DirectiveFault Directive :=
  match Text.run Text.isBlank whole with
  | (_, c :: t) => if mayBegin c then ofWords whole (c :: t) else .error .form
  | (_, []) => .error .form

/-- How specifically a directive speaks of an event, if it does: by the length
of its target, then by the number of its fields. -/
def specificity? (d : Directive) (e : Event) : Option (Nat × Nat) :=
  if d.spansOnly || !d.fields.all (Event.fields.contains ·) then none
  else
    match d.target with
    | none => some (0, d.fields.length)
    | some part =>
      (Text.after? part e.origin.target).map fun _ => (part.length + 1, d.fields.length)

end Directive

/-- Directives, a later one standing in for earlier ones that are as specific. -/
abbrev Filter := List Directive

namespace Filter

/-- The filter that is in force when no directive is given: errors pass. -/
def errorsOnly : Filter := [{ detail := 1 }]

/-- The directives between commas. -/
def directives (t : Text) : List Text := (Text.cut (· == ',') t).filter (!·.isEmpty)

def orErrors : List Directive → Filter
  | [] => errorsOnly
  | ds => ds

/-- A filter given by an operator: every directive has to be readable. -/
def ofText? (t : Text) : Option Filter :=
  ((directives t).mapM fun d => (Directive.ofText d).toOption).map orErrors

/-- A filter from a setting: directives that cannot be read are left out. -/
def ofSetting (t : Text) : Filter :=
  orErrors ((directives t).filterMap fun d => (Directive.ofText d).toOption)

/-- What is said about the directives of a setting that are left out. -/
def noticesOf (t : Text) : List Text :=
  (directives t).filterMap fun d =>
    match Directive.ofText d with
    | .ok _ => none
    | .error fault => some ("ignoring `" ++ d ++ "`: " ++ fault.message)

/-- Whether one degree of being specific is at least another. -/
def atLeast (a b : Nat × Nat) : Bool := b.1 < a.1 || (b.1 == a.1 && b.2 ≤ a.2)

/-- The level of detail that passes for an event, by the most specific
directive. -/
def detailFor (filter : Filter) (e : Event) : Nat :=
  (filter.foldl
    (fun (best : Option ((Nat × Nat) × Nat)) d =>
      match d.specificity? e, best with
      | some s, some (most, detail) =>
        if atLeast s most then some (s, d.detail) else some (most, detail)
      | some s, none => some (s, d.detail)
      | none, _ => best)
    none).elim 0 Prod.snd

def passes (filter : Filter) (e : Event) : Bool := e.level.detail ≤ filter.detailFor e

/-- The directive in force when the operator gives none. -/
def defaultDirective (verbose : Bool) (level : Option Text) : Text :=
  match verbose, level with
  | true, _ => "mars_rover=debug"
  | false, some level => "mars_rover=" ++ level
  | false, none => "mars_rover=warn"

/-- The directive in force when none is given has no blanks in front. -/
theorem ofText_defaultDirective (verbose : Bool) (level : Option Text) :
    Directive.ofText (defaultDirective verbose level) =
      Directive.withLevel { target := some "mars_rover", detail := Directive.everything }
        (if verbose then "debug" else level.getD "warn") := by
  have htarget : ∀ c ∈ "mars_rover".toList, (c != '=' && c != '[') = true := by simp
  have hread := Directive.ofWords_append_level htarget
  cases verbose with
  | true => exact hread "debug"
  | false =>
    cases level with
    | none => exact hread "warn"
    | some level => exact hread level

/-- The filter of a run: the operator's, if there is one that can be read. -/
def inForce (operator : Option Text) (verbose : Bool) (level : Option Text) : Filter :=
  (operator.bind ofText?).getD (ofSetting (defaultDirective verbose level))

/-- What is said about the filter of a run. -/
def notices (operator : Option Text) (verbose : Bool) (level : Option Text) : List Text :=
  match operator.bind ofText? with
  | some _ => []
  | none => noticesOf (defaultDirective verbose level)

end Filter
end RoverMission
