import TypedConfig.Decimal.Integer
import TypedConfig.Text.Alphanumeric
import TypedConfig.Text.Blank

/-!
Log filters. A filter is a list of rules between commas. A rule is a level, the name of a target, or a
target or a span in brackets (or both) with a level after an equals sign; a span may have fields in
braces.
-/

namespace TypedConfig.LogFilter

/-- What is wrong with a rule. -/
inductive Fault where
  | rule
  | level
  deriving DecidableEq, Repr

/-- The fault in words. -/
def Fault.message : Fault → String
  | .rule => "invalid filter directive"
  | .level =>
    "error parsing level filter: expected one of \"off\", \"error\", \"warn\", \"info\", " ++
      "\"debug\", \"trace\", or a number 0-5"

/-- The levels that have a name. -/
def levelNames : List String := ["error", "warn", "info", "debug", "trace", "off"]

/-- Whether a text is a level: nothing, a name in any case, or a number up to five. -/
def isLevel (cs : List Char) : Bool :=
  cs.isEmpty || levelNames.contains (String.ofList (cs.map Char.toLower)) ||
    (cs.head? != some '-' && (Decimal.readInteger 0 5 cs).isOk)

/-- Whether a rule may begin with the character. -/
def startsRule (c : Char) : Bool := ['[', '-', ':', '_'].contains c || Text.isAlphanumeric c

/-- What is wrong with a level. -/
def checkLevel (level : List Char) : Option Fault :=
  if isLevel level then none else some .level

/-- What is wrong with a rule after its target and its span. -/
def checkTail (levelOf : List Char → List Char) : List Char → Option Fault
  | [] => none
  | '=' :: tail => checkLevel (levelOf tail)
  | _ => some .rule

/-- What is wrong with a rule after the bracket that opens its span. -/
def checkSpan (levelOf : List Char → List Char) (span : List Char) : Option Fault :=
  match span.dropWhile fun c => c != ']' && c != '\x7b' with
  | ']' :: tail => checkTail levelOf tail
  | '\x7b' :: fields =>
    match fields.dropWhile (· != '\x7d') with
    | '\x7d' :: ']' :: tail =>
      if fields.head? = some '\x7d' then some .rule else checkTail levelOf tail
    | _ => some .rule
  | _ => some .rule

/-- What is wrong with a rule. Blanks around it count for nothing when it is taken apart, but its
level is looked up at the same distance from its start with them. -/
def checkRule (rule : List Char) : Option Fault :=
  let text := Text.trim rule
  let levelOf (tail : List Char) : List Char := rule.drop (text.length - tail.length)
  match text with
  | [] => some .rule
  | c :: _ =>
    if !startsRule c then some .rule
    else
      match text.dropWhile fun c => c != '=' && c != '[' with
      | '[' :: span => checkSpan levelOf span
      | tail => checkTail levelOf tail

/-- What is wrong with the first rule that is not acceptable. Empty rules are passed over. -/
def check (filter : List Char) : Option Fault :=
  ((filter.splitOnP (· == ',')).filter fun rule => !rule.isEmpty).findSome? checkRule

end TypedConfig.LogFilter
