import PluginKit.Number.Hex
import PluginKit.Text.Alphanumeric

/-!
# `PluginKit.Log.Pattern`: patterns for the values of fields

A directive may ask for the value of a field, by a number or by a regular expression. As directives
end at commas, and what they say of a field ends at a closing brace, no pattern has either; so there
are no counted repetitions and no classes by name.

* `Pattern.Token`: the parts of a pattern.
* `Pattern.tokens?`: takes a pattern apart.
* `Pattern.isBalanced`: whether groups are closed and what is repeated is there.
* `Pattern.wellFormed`: whether a text is a pattern.
-/

set_option autoImplicit false

namespace PluginKit

namespace Log

namespace Pattern

/-! ### Escapes -/

/-- What an escape stands for. -/
inductive Atom where
  | literal (c : Char)
  /-- Any of several characters. -/
  | oneOf
  /-- A place, such as the beginning of the text. -/
  | place
  deriving DecidableEq, Repr

/-- The general categories that go by one letter. -/
def categories : List Char := "CLMNPSZclmnpsz".toList

/-- What stands after a backslash. Marks stand for themselves; a boundary between words is not
supported, and neither is going back to a group by its number. -/
def escape? : List Char → Option (Atom × List Char)
  | [] => none
  | 'x' :: rest => (Hex.codePoint? 2 rest).map fun r => (.literal r.1, r.2)
  | 'u' :: rest => (Hex.codePoint? 4 rest).map fun r => (.literal r.1, r.2)
  | 'U' :: rest => (Hex.codePoint? 8 rest).map fun r => (.literal r.1, r.2)
  | 'a' :: rest => some (.literal '\x07', rest)
  | 'f' :: rest => some (.literal '\x0c', rest)
  | 't' :: rest => some (.literal '\t', rest)
  | 'n' :: rest => some (.literal '\n', rest)
  | 'r' :: rest => some (.literal '\r', rest)
  | 'v' :: rest => some (.literal '\x0b', rest)
  | 'A' :: rest => some (.place, rest)
  | 'z' :: rest => some (.place, rest)
  | c :: rest =>
    if c ∈ "dDsSwW".toList then some (.oneOf, rest)
    else if c = 'p' ∨ c = 'P' then
      match rest with
      | category :: rest => if category ∈ categories then some (.oneOf, rest) else none
      | [] => none
    else if c.isAlphanum || c == '<' || c == '>' || 0x80 ≤ c.toNat then none
    else some (.literal c, rest)

/-! ### Classes -/

/-- The names of classes within classes. -/
def classNames : List String :=
  ["alnum", "alpha", "ascii", "blank", "cntrl", "digit", "graph", "lower", "print", "punct",
   "space", "upper", "word", "xdigit"]

/-- The end of a class by name, such as `:digit:]` or `:^digit:]`. -/
def named? (cs : List Char) : Option (List Char) :=
  match cs with
  | ':' :: rest =>
    let rest := match rest with
      | '^' :: rest => rest
      | rest => rest
    match rest.dropWhile (· ≠ ':') with
    | ':' :: ']' :: after =>
      if String.ofList (rest.takeWhile (· ≠ ':')) ∈ classNames then some after else none
    | _ => none
  | _ => none

/-- What may stand at the beginning of a class: a negation, then dashes or else one closing bracket
that belongs to the class. -/
def opened (cs : List Char) : List Char :=
  let cs := match cs with
    | '^' :: rest => rest
    | cs => cs
  match cs with
  | ']' :: rest => rest
  | cs => cs.dropWhile (· = '-')

/-- A member of a class. -/
def member? : List Char → Option (Atom × List Char)
  | [] => none
  | '\\' :: rest => (escape? rest).filter fun r => r.1 ≠ .place
  | c :: rest => some (.literal c, rest)

/-- A member of a class, or all between two of them. -/
def range? (cs : List Char) : Option (List Char) :=
  match member? cs with
  | none => none
  | some (first, '-' :: c :: rest) =>
    if c = ']' ∨ c = '-' then some ('-' :: c :: rest)
    else
      match first, member? (c :: rest) with
      | .literal a, some (.literal b, rest) => if a ≤ b then some rest else none
      | _, _ => none
  | some (_, rest) => some rest

/-- The members of a class up to its closing bracket, inside so many further classes. `fuel` bounds
the number of members. -/
def members? : Nat → Nat → List Char → Option (List Char)
  | 0, _, _ => none
  | fuel + 1, depth, cs =>
    match cs with
    | [] => none
    | ']' :: rest =>
      match depth with
      | 0 => some rest
      | depth + 1 => members? fuel depth rest
    | '[' :: rest =>
      match named? rest with
      | some rest => members? fuel depth rest
      | none => members? fuel (depth + 1) (opened rest)
    | '&' :: '&' :: rest => members? fuel depth rest
    | '-' :: '-' :: rest => members? fuel depth rest
    | '~' :: '~' :: rest => members? fuel depth rest
    | cs => (range? cs).bind (members? fuel depth)

/-! ### Tokens -/

/-- The parts of a pattern. -/
inductive Token where
  /-- Something that may be repeated. -/
  | item
  | repetition
  | alternative
  | opening
  | closing
  /-- Changes how the rest is read. -/
  | options
  deriving DecidableEq, Repr

/-- A group's options: letters, each at most once, and a dash before those that are turned off. -/
def areOptions (cs : List Char) : Bool :=
  cs.all (· ∈ "imsUuRx-".toList) && cs.eraseDups.length == cs.length && cs.getLast? != some '-'

/-- What stands after the question mark of a group: options, for the group or for what follows. -/
def options? (cs : List Char) : Option (Token × List Char) :=
  let options := cs.takeWhile fun c => c != ':' && c != ')'
  if areOptions options then
    match cs.dropWhile fun c => c != ':' && c != ')' with
    | ':' :: rest => some (.opening, rest)
    | ')' :: rest => if options.isEmpty then none else some (.options, rest)
    | _ => none
  else none

/-- Whether a text can be a group's name. -/
def isGroupName : List Char → Bool
  | [] => false
  | c :: cs =>
    (c == '_' || (Text.isAlphanumeric c && !c.isDigit)) &&
      cs.all fun c => c ∈ "_.[]".toList || Text.isAlphanumeric c

/-- A group's name up to the bracket behind it. -/
def groupName? (cs : List Char) : Option (Token × List Char) :=
  match cs.dropWhile (· ≠ '>') with
  | _ :: rest => if isGroupName (cs.takeWhile (· ≠ '>')) then some (.opening, rest) else none
  | [] => none

/-- The first part of a pattern, and what follows it. -/
def token? : List Char → Option (Token × List Char)
  | [] => none
  | '(' :: '?' :: 'P' :: '<' :: rest => groupName? rest
  | '(' :: '?' :: '<' :: rest => groupName? rest
  | '(' :: '?' :: rest => options? rest
  | '(' :: rest => some (.opening, rest)
  | ')' :: rest => some (.closing, rest)
  | '|' :: rest => some (.alternative, rest)
  | '*' :: rest => some (.repetition, rest)
  | '+' :: rest => some (.repetition, rest)
  | '?' :: rest => some (.repetition, rest)
  | '\x7b' :: _ => none
  | '[' :: rest => (members? (rest.length + 1) 0 (opened rest)).map fun rest => (.item, rest)
  | '\\' :: rest => (escape? rest).map fun r => (.item, r.2)
  | _ :: rest => some (.item, rest)

/-- The parts of a pattern. `fuel` bounds their number. -/
def tokensUpTo? : Nat → List Char → Option (List Token)
  | _, [] => some []
  | 0, _ :: _ => none
  | fuel + 1, c :: cs => do
    let (token, rest) ← token? (c :: cs)
    return token :: (← tokensUpTo? fuel rest)

def tokens? (cs : List Char) : Option (List Token) := tokensUpTo? cs.length cs

/-! ### Patterns -/

/-- Whether all groups are closed, `depth` of them being open, and everything repeated is there;
`repeatable` says whether something that may be repeated stands before. -/
def isBalanced : Nat → Bool → List Token → Bool
  | depth, _, [] => depth == 0
  | depth, _, .item :: rest => isBalanced depth true rest
  | depth, repeatable, .repetition :: rest => repeatable && isBalanced depth true rest
  | depth, _, .alternative :: rest => isBalanced depth false rest
  | depth, _, .opening :: rest => isBalanced (depth + 1) false rest
  | 0, _, .closing :: _ => false
  | depth + 1, _, .closing :: rest => isBalanced depth true rest
  | depth, _, .options :: rest => isBalanced depth false rest

/-- Whether a text is a row of digits, if only an empty one. -/
def areDigits (cs : List Char) : Bool := cs.all Char.isDigit

/-- Whether a text is a number without a sign. -/
def isUnsigned (cs : List Char) : Bool :=
  let mantissa := cs.takeWhile fun c => c != 'e' && c != 'E'
  let whole := mantissa.takeWhile (· ≠ '.')
  let fraction := (mantissa.dropWhile (· ≠ '.')).drop 1
  let exponent := match cs.dropWhile fun c => c != 'e' && c != 'E' with
    | [] => true
    | [_] => false
    | _ :: sign :: digits =>
      if sign = '+' ∨ sign = '-' then areDigits digits && !digits.isEmpty
      else areDigits (sign :: digits)
  Text.upperAscii (String.ofList cs) ∈ ["INF", "INFINITY", "NAN"] ||
    (areDigits whole && areDigits fraction && !(whole ++ fraction).isEmpty && exponent)

/-- Whether a text is a number. -/
def isNumber : List Char → Bool
  | '+' :: cs => isUnsigned cs
  | '-' :: cs => isUnsigned cs
  | cs => isUnsigned cs

/-- Whether a text is a pattern. -/
def wellFormed (s : String) : Bool :=
  isNumber s.toList || (tokens? s.toList).any (isBalanced 0 false)

end Pattern

end Log

end PluginKit
