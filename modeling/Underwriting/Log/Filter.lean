import Underwriting.Log.Directive
import Underwriting.Text.Split

/-!
Filters for log entries. Of the standing directives that apply to a topic the one with the longest
target counts; topics without a directive are not shown, and a span that is not shown leaves its
events in place. A directive about spans shows these spans, and sets how much is shown of everything
inside. Of directives that concern the same thing only the last is in force.
-/

namespace Underwriting.Log

structure Filter where
  directives : List Directive
deriving DecidableEq

namespace Filter

def lastOfEach : List Directive → List Directive
  | [] => []
  | directive :: rest =>
      if rest.any (·.concernsSame directive) then lastOfEach rest
      else directive :: lastOfEach rest

def inForce (filter : Filter) : List Directive := lastOfEach filter.directives

def shownBy (applying : List Directive) : Verbosity :=
  match applying.filter Directive.isStanding with
  | [] => .off
  | first :: rest => (rest.foldl Directive.prefer first).verbosity

def verbosityOfEvent (filter : Filter) (event : Event) : Verbosity :=
  shownBy (filter.inForce.filter (·.appliesToEvent event))

def verbosityOfSpan (filter : Filter) (span : Span) : Verbosity :=
  shownBy (filter.inForce.filter (·.appliesTo span.topic))

/-- Whether spans are seen at all. As long as no directive admits their level and none asks for the
value of a field, there are none to be about. -/
def seesSpans (filter : Filter) : Bool :=
  filter.directives.any fun directive =>
    directive.comparesValue || directive.verbosity.admits .info

def isAbout (filter : Filter) (span : Span) : Bool :=
  filter.seesSpans && filter.inForce.any (·.isAbout span)

def admitsInside (filter : Filter) (scopes : List Span) (level : Level) : Bool :=
  filter.seesSpans && scopes.any fun span =>
    filter.inForce.any fun directive =>
      directive.holdsInside span && directive.verbosity.admits level

def admits (filter : Filter) (scopes : List Span) (event : Event) : Bool :=
  (filter.verbosityOfEvent event).admits event.level || filter.admitsInside scopes event.level

def admitsSpan (filter : Filter) (scopes : List Span) (span : Span) : Bool :=
  filter.isAbout span || (filter.verbosityOfSpan span).admits .info ||
    filter.admitsInside scopes .info

def shownSpans (filter : Filter) (outer : List Span) : List Span → List Span
  | [] => []
  | span :: rest =>
      let shown := filter.shownSpans (outer ++ [span]) rest
      if filter.admitsSpan outer span then span :: shown else shown

def applyTo (filter : Filter) : Entry → Option Entry
  | .event event scopes =>
      if filter.admits scopes event then some (.event event (filter.shownSpans [] scopes))
      else none
  | .closed span scopes =>
      if filter.admitsSpan scopes span then some (.closed span (filter.shownSpans [] scopes))
      else none

def apply (filter : Filter) (entries : List Entry) : List Entry :=
  entries.filterMap filter.applyTo

def topics : List String :=
  ["coverage_cli", "coverage_model", "coverage_rules", "coverage_validate"]

def ofVerbosity (verbosity : Verbosity) : Filter :=
  let others := if verbosity.rank ≤ Level.error.rank then verbosity else .upTo .warn
  ⟨⟨[], none, none, others⟩ ::
    topics.map fun topic => ⟨topic.toList, none, none, verbosity⟩⟩

def toText (filter : Filter) : String :=
  ",".intercalate (filter.directives.map Directive.toText)

def ofText (text : String) : Except DirectiveFault Filter :=
  let parts := (Text.splitAt ',' text.toList).filter (!·.isEmpty)
  (parts.mapM Directive.ofChars).map fun directives =>
    if directives.isEmpty then ⟨[⟨[], none, none, .upTo .error⟩]⟩ else ⟨directives⟩

end Filter

end Underwriting.Log
