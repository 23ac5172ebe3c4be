import Workload.Log.Directive

/-! Which events are shown. A filter is a list of directives, separated by commas. -/
namespace Workload.Log

structure Filter where
  directives : List Directive := []
  /-- Nothing of a level with a greater rank is shown. -/
  maxRank : Nat := 0

namespace Filter

/-- A directive takes the place of an earlier one that differs in the level alone. One that tests
what fields hold lets every activity through, so that the fields can be seen. -/
def add (f : Filter) (d : Directive) : Filter where
  directives := f.directives.filter (fun e => { e with rank := d.rank } ≠ d) ++ [d]
  maxRank := max f.maxRank (if d.testsValue then Level.trace.rank else d.rank)

def ofList (ds : List Directive) : Filter := ds.foldl add {}

def parse (s : String) : Except DirectiveError Filter := do
  let ds ← ((splitAtChar ',' s).filter (!·.isEmpty)).mapM Directive.parse
  return ofList (if ds.isEmpty then [{ rank := Level.error.rank }] else ds)

/-- The rank shown of a target: that of the general directive which describes it most closely. A
condition on fields is not `met` by every event. -/
def rankFor (f : Filter) (target : String) (met : FieldCondition → Bool) : Nat :=
  let fitting := f.directives.filter fun d => d.isGeneral && d.matchesTarget target && d.field.all met
  let closest (best : Option Directive) (d : Directive) : Option Directive :=
    if best.all fun b => (Directive.order b d).isLE then some d else best
  (fitting.foldl closest none).elim 0 (·.rank)

def showsWithin (f : Filter) (level : Level) (s : Span) : Bool :=
  f.directives.any fun d => d.selects s && d.acceptsFields s && decide (level.rank ≤ d.rank)

/-- The activities that are shown, which are of level `info`. One that a directive is about is shown
if anything of that level may be. -/
def shownSpans (f : Filter) (outer : List Span) : List Span → List Span
  | [] => []
  | s :: ss =>
    let named := f.directives.any (·.selects s) && decide (Level.info.rank ≤ f.maxRank)
    if named || outer.any (f.showsWithin .info) ||
        decide (Level.info.rank ≤ f.rankFor s.target fun _ => true) then
      s :: f.shownSpans (outer ++ [s]) ss
    else f.shownSpans outer ss

def shows (f : Filter) (e : Event) (spans : List Span) : Bool :=
  spans.any (f.showsWithin e.level) ||
    decide (e.level.rank ≤ f.rankFor e.target fun c =>
      c.name == "message" || e.fields.any (·.1 == c.name))

def apply (f : Filter) (events : List Event) : List Event :=
  events.filterMap fun e =>
    let spans := f.shownSpans [] e.spans
    if f.shows e spans then some { e with spans } else none

end Filter
end Workload.Log
