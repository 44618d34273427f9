import ContentChecksum.Log.Directive

/-!
# Which events are logged

A filter is a list of directives with commas between them.  Of the directives that an event meets,
the one with the longest target decides, and of several for one target the one with the condition;
of several that are alike the last.  Where an event meets none, it is not logged.
-/

namespace ContentChecksum.Log

/-- Directives in the order in which they were given. -/
abbrev Filter := List Directive

namespace Filter

/-- The pieces of a text between commas, without the empty ones. -/
def pieces (text : List Char) : List (List Char) :=
  (text.foldr (fun c pieces =>
    if c = ',' then [] :: pieces
    else match pieces with
      | piece :: pieces => (c :: piece) :: pieces
      | [] => [[c]]) [[]]).filter (· ≠ [])

/-- The filter that a text gives, unless one of its directives is malformed.  A text without
directives lets errors through. -/
def ofText? (text : List Char) : Option Filter :=
  match pieces text with
  | [] => some [⟨[], .always, some .error⟩]
  | pieces => pieces.mapM Directive.ofText?

/-- What is logged where nothing is said about it. -/
def default : Filter :=
  [⟨[], .always, some .info⟩, ⟨"changesum".toList, .always, some .debug⟩]

/-- The filter that the environment asks for; one that is malformed is as good as none. -/
def ofVariable (value : Option String) : Filter :=
  match value with
  | none => default
  | some text => (ofText? text.toList).getD default

/-- The directive that decides about the events of a target that have values of the given names. -/
def deciding? (f : Filter) (target : String) (values : List String) : Option Directive :=
  (f.filter (·.meets target values)).foldl (fun best d =>
    match best with
    | some e => if e.yieldsTo d then some d else some e
    | none => some d) none

/-- Whether an event of a level is logged, given its target and the names of its values. -/
def admits (f : Filter) (level : Level) (target : String) (values : List String) : Bool :=
  match f.deciding? target values with
  | none => false
  | some d => d.threshold.admits level

end Filter

end ContentChecksum.Log
