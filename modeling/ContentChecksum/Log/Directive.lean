import ContentChecksum.Log.Level
import ContentChecksum.Number.Numeral
import ContentChecksum.Pattern.Group
import ContentChecksum.Text.Utf8

/-!
# Directives of a log filter

A directive is a threshold, a target, or a target and its threshold with an equals sign between
them; a target alone stands for everything below it.  Behind the target may stand a condition in
brackets: the name of a span of work that the event lies in, or in braces the name of a value, or
one behind the other.  An equals sign behind the name of a value asks for more: a number that it
should be, or a pattern that its text should match.

The places of these parts are counted from the first character that is not blank, but each part is
what stands between its places in the whole text.  So space in front of a directive makes it one
for no event, and malformed if it has a threshold.
-/

namespace ContentChecksum.Log

/-! ### Directives and their order -/

/-- What a directive asks of an event besides its target. -/
inductive Condition
  | always
  /-- The event has a value of this name. -/
  | having (name : List Char)
  /-- The event lies in a span of work, or such a span has a certain value.  There are no spans. -/
  | never
deriving DecidableEq, Repr

namespace Condition

/-- Whether an event with values of the given names meets a condition. -/
def holds : Condition → List String → Bool
  | always, _ => true
  | having name, values => values.any (·.toList = name)
  | never, _ => false

/-- Whether the second of two conditions on one event decides. -/
def yieldsTo : Condition → Condition → Bool
  | having a, having b => !decide (b < a)
  | having _, _ => false
  | _, _ => true

end Condition

/-- A threshold for the events that have a target and meet a condition. -/
structure Directive where
  target : List Char
  condition : Condition
  threshold : Threshold
deriving DecidableEq, Repr

namespace Directive

/-- Whether a directive is for the events of a target that have values of the given names. -/
def meets (d : Directive) (target : String) (values : List String) : Bool :=
  d.target.isPrefixOf target.toList && d.condition.holds values

/-- Whether the second of two directives for one event decides. -/
def yieldsTo (d e : Directive) : Bool :=
  d.target.length < e.target.length ||
    (d.target.length = e.target.length && d.condition.yieldsTo e.condition)

/-! ### The parts of a directive -/

/-- The places where a part of a text begins and ends, in bytes. -/
structure Stretch where
  start : Nat
  stop : Nat
deriving DecidableEq, Repr

/-- What stands there in a text. -/
def Stretch.of? (s : Stretch) (text : List Char) : Option (List Char) :=
  Utf8.slice? text s.start s.stop

/-- The places of the parts of a condition in brackets. -/
structure Brackets where
  span : Stretch
  field : Option Stretch
deriving DecidableEq, Repr

/-- The places of the parts of a directive: where its target ends, what is in brackets behind it,
and where its threshold begins. -/
structure Layout where
  target : Nat
  brackets : Option Brackets
  threshold : Option Nat
deriving DecidableEq, Repr

/-- The condition in brackets, read behind the opening one at the given place, and what is left
behind the closing one.  There must be something between braces. -/
def brackets? (start : Nat) (text : List Char) : Option (Brackets × List Char) :=
  let (span, rest) := text.span fun c => c ≠ ']' && c ≠ '\x7b'
  let stop := start + Utf8.size span
  match rest with
  | ']' :: rest => some (⟨⟨start, stop⟩, none⟩, rest)
  | '\x7b' :: rest =>
    match rest.span (· ≠ '\x7d') with
    | (c :: field, '\x7d' :: ']' :: rest) =>
      some (⟨⟨start, stop⟩, some ⟨stop + 1, stop + 1 + Utf8.size (c :: field)⟩⟩, rest)
    | _ => none
  | _ => none

/-- Whether a directive may begin with a character. -/
def isOpening (c : Char) : Bool :=
  Unicode.isAlphanumeric c || c = '-' || c = ':' || c = '_' || c = '['

/-- The layout of a directive without space around it. -/
def layout? (text : List Char) : Option Layout :=
  if text.head?.any isOpening then
    let (target, rest) := text.span fun c => c ≠ '=' && c ≠ '['
    let stop := Utf8.size target
    match rest with
    | '=' :: _ => some ⟨stop, none, some (stop + 1)⟩
    | '[' :: rest => do
      let (brackets, rest) ← brackets? (stop + 1) rest
      match rest with
      | [] => return ⟨stop, some brackets, none⟩
      | '=' :: level => return ⟨stop, some brackets, some (Utf8.size text - Utf8.size level)⟩
      | _ => none
    | _ => some ⟨stop, none, none⟩
  else none

/-! ### What the parts say -/

/-- Whether a text may be asked of a value: it is a number, or a pattern. -/
def isWanted (text : List Char) : Bool :=
  Numeral.isNumber text || Pattern.isWellFormed text

/-- The condition on a field in a span of the given name.  What is asked of its value ends at the
next equals sign, and only values of spans are asked for more than their name. -/
def fieldCondition? (span field : List Char) : Option Condition :=
  match field.span (· ≠ '=') with
  | (name, []) => some (if span = [] then .having name else .never)
  | (_, _ :: rest) => if isWanted (rest.takeWhile (· ≠ '=')) then some .never else none

/-- The condition that stands between its places in a text. -/
def Brackets.condition? (b : Brackets) (text : List Char) : Option Condition := do
  let span ← b.span.of? text
  match b.field with
  | none => return .never
  | some field => fieldCondition? span (← field.of? text)

/-- The threshold that stands behind the equals sign of a directive; where nothing does, all is let
through. -/
def threshold? : List Char → Option Threshold
  | [] => some (some .trace)
  | level => Threshold.ofText? level

/-- The directive that a text is if it has but one part: a threshold for all events, or a target. -/
def single (text : List Char) : Directive :=
  match Threshold.ofText? text with
  | some threshold => ⟨[], .always, threshold⟩
  | none => ⟨text, .always, some .trace⟩

/-- The parts of a text by the layout of what is in it. -/
def ofLayout? (text : List Char) : Layout → Option Directive
  | ⟨_, none, none⟩ => some (single text)
  | ⟨stop, brackets, level⟩ => do
    let target ← Utf8.slice? text 0 stop
    let condition ← match brackets with
      | none => some .always
      | some brackets => brackets.condition? text
    let threshold ← match level with
      | none => some (some .trace)
      | some start => (Utf8.slice? text start (Utf8.size text)).bind threshold?
    return ⟨target, condition, threshold⟩

/-- A text without the space around it. -/
def trim (text : List Char) : List Char :=
  ((text.dropWhile Unicode.isBlank).reverse.dropWhile Unicode.isBlank).reverse

/-- The directive that a text gives. -/
def ofText? (text : List Char) : Option Directive :=
  (layout? (trim text)).bind (ofLayout? text)

end Directive

end ContentChecksum.Log
