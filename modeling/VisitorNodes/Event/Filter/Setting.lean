import VisitorNodes.Event.Filter
import VisitorNodes.Text.Cut
import VisitorNodes.Text.Pattern

/-!
# Settings: filters as text

A setting lists parts between commas; empty parts say nothing. A part is

* a level, for all components;
* a component, for all of its events;
* a component or nothing, then a scope in brackets or nothing, then `=` and a level or nothing.

The scope `[{field}]` asks events for a field. Any other scope, such as `[span]` or
`[{field=value}]`, is about spans of work. There are none, so such a part gives no rule. A value is
a pattern or a number; a truth value is a pattern too.

A level is a word in upper or lower case, or the number of levels that are admitted. Nothing behind
`=`, or no `=` at all, stands for all of them.

Blanks around a part do not count when its marks are looked for, but they do when it is cut: a piece
between two marks lies as far from the start of the part as it would without the blanks. So blanks
around a name make it the name of nothing, and a part that begins with blanks cannot have a level.

A setting with a part that cannot be read describes no filter.
-/

namespace VisitorNodes

open Text

/-! ## 1. Levels -/

namespace LogRule

/-- The depth that admits every level. -/
def full : Nat := 5

/-- The number that decimal digits write. A plus sign before them is allowed. -/
def number? (text : List Char) : Option Nat :=
  let digits := if text.head? = some '+' then text.tail else text
  if digits ≠ [] && digits.all Char.isDigit then
    some (digits.foldl (fun n d => 10 * n + (d.toNat - '0'.toNat)) 0)
  else none

/-- The words for the depths. -/
def depthWords : List (String × Nat) :=
  [("off", 0), ("error", 1), ("warn", 2), ("info", 3), ("debug", 4), ("trace", full)]

/-- The depth that a number or a word stands for. The case of letters does not count. -/
def depth? (word : List Char) : Option Nat :=
  match number? word with
  | some n => if n ≤ full then some n else none
  | none => depthWords.lookup (String.ofList (word.map Char.toLower))

/-! ## 2. Values -/

/-- Whether a text is the exponent of a decimal number, or nothing. -/
def isExponent : List Char → Bool
  | [] => true
  | e :: text =>
    let digits := if text.head? = some '+' ∨ text.head? = some '-' then text.tail else text
    (e == 'e' || e == 'E') && digits ≠ [] && digits.all Char.isDigit

/-- Whether a text is a decimal number, which has a digit before or behind the point. -/
def isDecimal (text : List Char) : Bool :=
  let behind := text.dropWhile Char.isDigit
  let fraction := if behind.head? = some '.' then behind.tail.takeWhile Char.isDigit else []
  let rest := if behind.head? = some '.' then behind.tail.dropWhile Char.isDigit else behind
  (text.takeWhile Char.isDigit ≠ [] || fraction ≠ []) && isExponent rest

/-- The words for numbers that have no digits. -/
def numberWords : List String := ["inf", "infinity", "nan"]

/-- Whether a text is a value. Of the numbers those without a plus sign are patterns anyway. -/
def isValue : List Char → Bool
  | '+' :: text => isDecimal text || String.ofList (text.map Char.toLower) ∈ numberWords
  | text => isPattern text

/-! ## 3. Scopes -/

/-- What the brackets in a part narrow it to. -/
inductive Scope where
  /-- The events that carry a field. -/
  | events (field : String)
  /-- Nothing that is an event. -/
  | spans
  deriving Repr, DecidableEq

/-- The scope of a field in braces, maybe with a value, where `hasSpan` says whether a span is named
before it. What stands behind a second `=` is left out. -/
def Scope.ofField? (hasSpan : Bool) (field : List Char) : Option Scope :=
  match cut '=' field with
  | none => some (if hasSpan then .spans else .events (.ofList field))
  | some (_, behind) => if isValue (behind.takeWhile (· != '=')) then some .spans else none

/-- The rules of a component within a scope. -/
def Scope.rules (scope : Scope) (component : String) (depth : Nat) : List LogRule :=
  match scope with
  | .events field => [⟨component, some field, depth⟩]
  | .spans => []

/-! ## 4. Parts -/

/-- The text of a part from where `rest` is left of the text without blanks around it. -/
def cutFrom (part rest : List Char) : List Char :=
  part.drop ((trim part).length - rest.length)

/-- A scope and the text behind it, where `text` is what is left of the part behind the opening
bracket. -/
def scope? (part text : List Char) : Option (Scope × List Char) :=
  let inSpan (c : Char) : Bool := c != ']' && c != '\x7b'
  match text.dropWhile inSpan with
  | ']' :: behind => some (.spans, behind)
  | '\x7b' :: inner =>
    match cut '\x7d' inner with
    | some (field, ']' :: behind) =>
      if field = [] then none
      else
        (Scope.ofField? (text.takeWhile inSpan ≠ []) ((cutFrom part inner).take field.length)).map
          fun scope => (scope, behind)
    | _ => none
  | _ => none

/-- The depth that the rest of a part sets. -/
def depthAt? (part rest : List Char) : Option Nat :=
  match rest with
  | [] => some full
  | '=' :: word => if cutFrom part word = [] then some full else depth? (cutFrom part word)
  | _ => none

/-- Whether a part can begin with a character. -/
def isPartStart (c : Char) : Bool :=
  isAlphanumeric c || c == '-' || c == ':' || c == '_' || c == '['

/-- The rules that a part of a setting describes. -/
def parse? (part : List Char) : Option (List LogRule) :=
  let text := trim part
  let inName (c : Char) : Bool := c != '=' && c != '['
  let component := String.ofList (part.take (text.takeWhile inName).length)
  if text.head?.any isPartStart then
    match text.dropWhile inName with
    | [] =>
      match depth? part with
      | some depth => some [.all depth]
      | none => some [⟨.ofList part, none, full⟩]
    | '[' :: inner =>
      match scope? part inner with
      | none => none
      | some (scope, rest) => (depthAt? part rest).map (scope.rules component)
    | rest => (depthAt? part rest).map fun depth => [⟨component, none, depth⟩]
  else none

end LogRule

/-! ## 5. Settings -/

namespace LogFilter

/-- The filter that a setting describes. -/
def parse? (setting : String) : Option LogFilter :=
  (((setting.toList.splitOn ',').filter (· ≠ [])).mapM LogRule.parse?).map (⟨·.flatten⟩)

/-- The filter of a setting. Without one, or with one that describes none, it is the default. -/
def ofSetting (setting : Option String) : LogFilter := (setting.bind parse?).getD default

end LogFilter

example : LogFilter.parse? "Info,visitgen::emit=OFF,[\x7bvariant\x7d]=+04" =
    some ⟨[.all 3, ⟨"visitgen::emit", none, 0⟩, ⟨"", some "variant", 4⟩]⟩ := by decide +kernel

example : LogFilter.parse? "" = some .off ∧ LogFilter.parse? "[span]=info" = some .off ∧
    LogFilter.parse? "[\x7ba=x*\x7d]" = some .off ∧ LogFilter.parse? "[\x7ba=*\x7d]" = none ∧
    LogFilter.parse? "a=verbose" = none ∧ LogFilter.parse? " a=info" = none := by decide +kernel

end VisitorNodes
