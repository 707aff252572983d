/-
Logs.

A log shows its events either as JSON or as plain lines.  Plain lines may end up
on a terminal, so the characters that a terminal could take for a command are
spelled out there; JSON has escapes of its own.
-/
import RoverMission.Event
import RoverMission.Json

namespace RoverMission

structure Log where
  json : Bool
  /-- What is said about the log itself, in front of the events. -/
  notices : List Text := []
  events : List Event
  deriving DecidableEq

namespace Log

/-- Whether terminals may act on a character: bell, backspace, form feed, escape,
delete and the control characters behind it. -/
def isTerminalControl (c : Char) : Bool :=
  [0x7, 0x8, 0xc, 0x1b, 0x7f].contains c.toNat || (0x80 ≤ c.toNat && c.toNat ≤ 0x9f)

/-- A character on a plain line. -/
def plainCharacter (c : Char) : Text :=
  if !isTerminalControl c then [c]
  else if c.toNat < 0x80 then "\\x" ++ Hexadecimal.pair c.toNat
  else "\\u\x7b" ++ Hexadecimal.pair c.toNat ++ "\x7d"

def plain (t : Text) : Text := t.flatMap plainCharacter

theorem plain_append (s t : Text) : plain (s ++ t) = plain s ++ plain t := by
  simp [plain]

/-- The message that the log shows of an event. -/
def message (log : Log) (e : Event) : Text :=
  if log.json then e.message else plain e.message

/-- The line of an event. -/
def line (log : Log) (e : Event) : Text :=
  if log.json then
    Json.compact (.record
      [("level", .ofText e.level.name),
       ("fields", .record [("message", .ofText (log.message e))])])
  else
    e.level.name ++ " " ++ log.message e

end Log
end RoverMission
