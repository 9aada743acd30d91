import PluginKit.Log.Directive

/-!
# `PluginKit.Log.Filter`: which messages are let through

A filter is a list of directives; of several that are about a message the most specific decides.

* `Filter.add`: a directive replaces an earlier one about the same messages.
* `Filter.parse?`, `Filter.parse`: reads directives between commas.
* `Filter.enabled`: whether a message is let through.
* `Filter.expects`: whether messages of a target may be let through.
-/

set_option autoImplicit false

namespace PluginKit

namespace Log

/-- Directives, at most one for the same messages. -/
structure Filter where
  directives : List Directive
  /-- Whether directives for the inside of spans were given. -/
  watchesSpans : Bool
  /-- The most detailed level that a directive was ever given for. -/
  most : Threshold
  deriving DecidableEq, Repr

namespace Filter

/-- Lets nothing through. -/
def nothing : Filter := ⟨[], false, none⟩

/-- The level up to which messages might be let through because of a directive. Values are only
compared once they are there, so a directive for one might let any message through. -/
def reach (d : Directive) : Threshold :=
  if d.field.any fun f => f.value.isSome then some .trace else d.most

/-- A directive takes the place of an earlier one about the same messages. Those for the inside of
spans are not kept, as no message comes from there. -/
def add (f : Filter) (d : Directive) : Filter where
  directives :=
    if d.needsSpan then f.directives
    else f.directives.filter (fun e => !e.sameScope d) ++ [d]
  watchesSpans := f.watchesSpans || d.needsSpan
  most := f.most.max (reach d)

/-- A level for everything, refined by directives. -/
def ofDirectives (level : Threshold) (ds : List Directive) : Filter :=
  ds.foldl add (nothing.add (.everything level))

/-- Directives for all that is let through; without any, errors are. -/
def ofList (ds : List Directive) : Filter :=
  if ds.isEmpty then ofDirectives (some .error) [] else ds.foldl add nothing

/-- Reads a filter; none if any of its directives is refused. -/
def parse? (s : String) : Option Filter :=
  match (Directive.parts s).mapM Directive.parse with
  | .ok ds => some (ofList ds)
  | .error _ => none

/-- Reads a filter without the directives that are refused. -/
def parse (s : String) : Filter :=
  ofList ((Directive.parts s).filterMap fun part => (Directive.parse part).toOption)

/-- The directives that `parse` leaves out, and why. -/
def refused (s : String) : List (String × Directive.Refusal) :=
  (Directive.parts s).filterMap fun part =>
    match Directive.parse part with
    | .ok _ => none
    | .error e => some (part, e)

/-- The more specific of two directives. -/
def decisive (best : Option Directive) (d : Directive) : Option Directive :=
  match best with
  | none => some d
  | some b => if d.outranks b then some d else some b

/-- Whether the most specific of some directives lets a level through. -/
def allows (ds : List Directive) (level : Level) : Bool :=
  (ds.foldl decisive none).any (·.most.allows level)

/-- Whether a message is let through, with its target, the names of its fields and its level. -/
def enabled (f : Filter) (target : String) (fields : List String) (level : Level) : Bool :=
  allows (f.directives.filter (·.covers target fields)) level

/-- Whether messages of a target and level may be let through. Their fields are not known yet, so
they are taken to have all that directives ask for. -/
def expects (f : Filter) (target : String) (level : Level) : Bool :=
  allows (f.directives.filter (·.coversTarget target)) level

end Filter

end Log

end PluginKit
