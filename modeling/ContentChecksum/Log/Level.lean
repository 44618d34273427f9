/-!
# Levels of events

Events are graded from errors down to traces of every step.  A threshold lets through the events of
one level and of all that are graver; there is also one that lets nothing through.
-/

namespace ContentChecksum.Log

/-- How much an event matters. -/
inductive Level
  | error
  | warn
  | info
  | debug
  | trace
deriving DecidableEq, Repr

/-- The place of a level, the gravest first. -/
def Level.rank : Level → Nat
  | error => 1
  | warn => 2
  | info => 3
  | debug => 4
  | trace => 5

/-- The name of a level, set to the right of five columns. -/
def Level.column : Level → String
  | error => "ERROR"
  | warn => " WARN"
  | info => " INFO"
  | debug => "DEBUG"
  | trace => "TRACE"

/-- The least grave level that is let through, if any is. -/
abbrev Threshold := Option Level

/-- Whether an event of a level is let through. -/
def Threshold.admits (t : Threshold) (l : Level) : Bool :=
  match t with
  | none => false
  | some least => l.rank ≤ least.rank

/-- All thresholds by their names, the one that lets nothing through first. -/
def Threshold.named : List (String × Threshold) := [
  ("off", none), ("error", some .error), ("warn", some .warn), ("info", some .info),
  ("debug", some .debug), ("trace", some .trace)]

/-- The threshold that a text stands for: by its name in any case, or by its place, which may have a
plus sign and zeros in front. -/
def Threshold.ofText? (text : List Char) : Option Threshold :=
  let digits := match text with
    | '+' :: rest => rest
    | _ => text
  if digits ≠ [] ∧ digits.all Char.isDigit then
    (named[digits.foldl (fun n c => n * 10 + (c.toNat - '0'.toNat)) 0]?).map Prod.snd
  else (named.find? fun entry => entry.1.toList = text.map Char.toLower).map Prod.snd

end ContentChecksum.Log
