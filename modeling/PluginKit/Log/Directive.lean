import PluginKit.Log.Level
import PluginKit.Log.Pattern

/-!
# `PluginKit.Log.Directive`: which messages to let through, and up to which level

A directive reads `level`, `target` or `target=level`. In place of the target, or behind it, brackets
may name a span, a field in braces, or both: `target[span{field=pattern}]=level`. A span is a part
of a program that is named while it runs. Plugins and tools name none, so a directive for the inside
of a span waits in vain, and so does one for the value of a field, which only spans remember.

* `Directive.parse`: reads a directive.
* `Directive.covers`: whether it is about a message.
* `Directive.outranks`: which of two directives is more specific.
-/

set_option autoImplicit false

namespace PluginKit

namespace Log

/-- A field that a directive asks for. -/
structure FieldTest where
  name : String
  /-- A pattern for the value, if the name is not enough. -/
  value : Option String
  deriving DecidableEq, Repr

/-- Lets messages through up to a level. A comma ends a directive, so it names at most one field. -/
structure Directive where
  /-- What the target of the message starts with. -/
  target : Option String
  /-- The span that the message comes from. -/
  span : Option String
  /-- A field that the message has. -/
  field : Option FieldTest
  most : Threshold
  deriving DecidableEq, Repr

namespace Directive

/-- A directive for everything. -/
def everything (most : Threshold) : Directive := ⟨none, none, none, most⟩

/-! ### Reading -/

/-- Why a text is no directive. -/
inductive Refusal where
  | malformed
  | pattern
  | level
  deriving DecidableEq, Repr

def Refusal.message : Refusal → String
  | .malformed => "invalid filter directive"
  | .pattern => "invalid field filter: error building NFA"
  | .level => "error parsing level filter: expected one of \"off\", \"error\", \"warn\", " ++
      "\"info\", \"debug\", \"trace\", or a number 0-5"

/-- A directive without brackets starts with a letter, a numeral or one of `-`, `:`, `_`. -/
def startsWell (c : Char) : Bool := c == '-' || c == ':' || c == '_' || Text.isAlphanumeric c

/-- Reads what stands behind the equals sign. Without a level everything is let through, and no
level has blanks around it, not even where they stand around the whole directive. -/
def parseLevel (bare : Bool) (level : List Char) : Except Refusal Threshold :=
  if !bare then .error .level
  else if level.isEmpty then .ok (some .trace)
  else
    match Threshold.parse (String.ofList level) with
    | some most => .ok most
    | none => .error .level

/-- Reads a field: its name, and a pattern between one equals sign and the next. -/
def parseField (cs : List Char) : Except Refusal FieldTest :=
  let name := String.ofList (cs.takeWhile (· ≠ '='))
  match cs.dropWhile (· ≠ '=') with
  | [] => .ok ⟨name, none⟩
  | _ :: rest =>
    let pattern := String.ofList (rest.takeWhile (· ≠ '='))
    if Pattern.wellFormed pattern then .ok ⟨name, some pattern⟩ else .error .pattern

/-- What brackets say, and what follows them. -/
structure Brackets where
  span : Option String
  field : Option FieldTest
  rest : List Char

/-- Reads from behind the opening bracket to behind the closing one. Empty brackets are about a span
without a name; empty braces are about nothing. -/
def parseBrackets (cs : List Char) : Except Refusal Brackets :=
  let span := cs.takeWhile fun c => c != ']' && c != '\x7b'
  match cs.dropWhile fun c => c != ']' && c != '\x7b' with
  | [] => .error .malformed
  | ']' :: rest => .ok ⟨some (String.ofList span), none, rest⟩
  | _ :: rest =>
    let field := rest.takeWhile (· ≠ '\x7d')
    match rest.dropWhile (· ≠ '\x7d') with
    | [] => .error .malformed
    | _ :: rest =>
      if field.isEmpty then .error .malformed
      else do
        let field ← parseField field
        match rest with
        | ']' :: rest =>
          .ok ⟨if span.isEmpty then none else some (String.ofList span), some field, rest⟩
        | _ => .error .malformed

/-- Reads a directive. Blanks around it become part of what stands there: of a target or a level, or
of what the brackets say, which then is about nothing that exists. -/
def parse (s : String) : Except Refusal Directive :=
  let cs := Text.trimChars s.toList
  let bare := cs == s.toList
  match cs with
  | [] => .error .malformed
  | first :: _ =>
    if !(first == '[' || startsWell first) then .error .malformed
    else
      let head := cs.takeWhile fun c => c != '=' && c != '['
      let target := if head.isEmpty then none else some (String.ofList head)
      match cs.dropWhile fun c => c != '=' && c != '[' with
      | [] =>
        match Threshold.parse s with
        | some most => .ok (everything most)
        | none => .ok ⟨some s, none, none, some .trace⟩
      | '[' :: inner => do
        let brackets ← parseBrackets inner
        let most ← match brackets.rest with
          | [] => .ok (some .trace)
          | '=' :: level => parseLevel bare level
          | _ => .error .malformed
        let displaced := !cs.isPrefixOf s.toList
        .ok ⟨target, if displaced then some "" else brackets.span, brackets.field, most⟩
      | _ :: level => do .ok ⟨target, none, none, ← parseLevel bare level⟩

/-- The texts between commas that are not empty. -/
def parts (s : String) : List String :=
  ((s.toList.splitOnP (· = ',')).filter (· ≠ [])).map String.ofList

/-- Reads directives between commas; what is blank or malformed is skipped. -/
def parseList (s : String) : List Directive :=
  (parts s).filterMap fun part => (parse (Text.trim part)).toOption

/-! ### Matching -/

/-- Whether a directive is for the inside of spans. -/
def needsSpan (d : Directive) : Bool :=
  d.span.isSome || d.field.any fun f => f.value.isSome

/-- The name of the field that a message must have. -/
def fieldName (d : Directive) : Option String := d.field.map (·.name)

/-- Whether a directive is about a target. -/
def coversTarget (d : Directive) (target : String) : Bool :=
  match d.target with
  | none => true
  | some t => t.toList.isPrefixOf target.toList

/-- Whether a directive is about a message with some fields. -/
def covers (d : Directive) (target : String) (fields : List String) : Bool :=
  d.coversTarget target && d.fieldName.all (· ∈ fields)

/-- Whether two directives are about the same messages. -/
def sameScope (d e : Directive) : Bool := d.target == e.target && d.fieldName == e.fieldName

/-- How much of a target a directive names. -/
def weight (d : Directive) : Nat :=
  match d.target with
  | none => 0
  | some t => t.utf8ByteSize + 1

/-- Whether the first of two directives is more specific: it names more of the target, or as much
and a field that the other one does not. Of two fields the later in the alphabet comes first. -/
def outranks (d e : Directive) : Bool :=
  e.weight < d.weight ||
    (d.weight == e.weight &&
      match d.fieldName, e.fieldName with
      | some _, none => true
      | some f, some g => g < f
      | none, _ => false)

end Directive

end Log

end PluginKit
