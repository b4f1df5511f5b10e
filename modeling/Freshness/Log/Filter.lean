import Freshness.Log.Directive

/-!
# Filters for the log

A filter applies directives. Of the directives about a record alone, the one that is most particular
decides: the one with the longest target, then the one with the most fields. Directives about spans
let a span be entered, and inside it records up to their threshold are let through. Spans that no
directive lets through are not entered: they do not show up in the log.
-/

namespace Freshness.Log

/-- Directives about different things. The highest threshold is that of all directives which were ever
put in, of those too that others have replaced. -/
structure DirectiveSet where
  directives : List Directive := []
  highest : Threshold := Threshold.off
  deriving Repr

namespace DirectiveSet

/-- The set with one more directive, in place of one about the same. -/
def insert (ds : DirectiveSet) (d : Directive) : DirectiveSet :=
  ⟨ds.directives.filter (!·.isAboutSame d) ++ [d], max ds.highest d.threshold⟩

/-- The set into which directives are put one after the other. -/
def ofList (ds : List Directive) : DirectiveSet := ds.foldl insert {}

end DirectiveSet

/-- The directives of a filter: about records alone, and about spans. -/
structure Filter where
  statics : DirectiveSet
  dynamics : DirectiveSet
  deriving Repr

namespace Filter

/-- The filter that lets through records up to a threshold. -/
def upTo (t : Threshold) : Filter := ⟨.ofList [{ threshold := t }], {}⟩

/-- The filter that lets nothing through. -/
def nothing : Filter := upTo Threshold.off

/-- The filter with directives. -/
def ofDirectives (ds : List Directive) : Filter :=
  if ds.isEmpty then nothing
  else
    { statics := .ofList (ds.filter (!·.isDynamic) ++ ds.filter fun d => d.isDynamic && d.isStatic)
      dynamics := .ofList (ds.filter (·.isDynamic)) }

/-- The filter that lets informing and graver records through. -/
def informing : Filter := upTo Level.info.verbosity

/-- The filter that a text describes. Without a text, and with one that cannot be read, informing and
graver records are let through. -/
def ofText (s : Option String) : Filter :=
  match s.bind Directive.readAll? with
  | some ds => ofDirectives ds
  | none => informing

/-! ## Records alone -/

/-- Whether one of two directives is more particular than the other. -/
def isMoreParticular (d e : Directive) : Bool :=
  let size (d : Directive) : Nat := (d.target.map (·.utf8ByteSize + 1)).getD 0
  let names (d : Directive) : List String := d.fields.map (·.name)
  if size d ≠ size e then size d > size e
  else if (names d).length ≠ (names e).length then (names d).length > (names e).length
  else decide (names e < names d)

/-- The most particular of several directives. -/
def mostParticular? : List Directive → Option Directive
  | [] => none
  | d :: ds =>
    match mostParticular? ds with
    | none => some d
    | some e => if isMoreParticular e d then some e else some d

/-- How much the directives about records alone let through from a target, where `fields` are the names
of the fields of a record, and a span has none to be asked for. -/
def staticThreshold (f : Filter) (target : String) (fields : Option (List String)) : Threshold :=
  let about := f.statics.directives.filter fun d =>
    d.covers target && fields.all fun names => d.fields.all fun t => names.contains t.name
  ((mostParticular? about).map (·.threshold)).getD Threshold.off

/-! ## Spans -/

/-- The part of the program that spans come from. -/
def spanOrigin : Origin := .reconciler

/-- The level of spans. -/
def spanLevel : Level := .info

/-- The directives about a span. -/
def aboutSpan (f : Filter) (s : Span) : List Directive :=
  f.dynamics.directives.filter fun d =>
    d.covers spanOrigin.target && d.span.all (· == s.name)
      && d.fields.all fun t => s.fields.any (·.1 == t.name)

/-- How much is let through inside a span by the directives about it. -/
def scopeThreshold (f : Filter) (s : Span) : Threshold :=
  ((f.aboutSpan s).filter fun d => d.fields.all (·.passes s.fields)).foldl
    (fun t d => max t d.threshold) Threshold.off

/-- The most that the filter can let through at all. -/
def ceiling (f : Filter) : Threshold :=
  if f.dynamics.directives.any fun d => d.fields.any (·.form.isSome) then Threshold.all
  else max f.statics.highest f.dynamics.highest

/-- Whether something of a level is let through by the scopes of spans around it. -/
def scopesAllow (f : Filter) (level : Level) (scopes : List Threshold) : Bool :=
  decide (level.verbosity ≤ f.dynamics.highest) && scopes.any (level.verbosity ≤ ·)

/-- The spans that are entered, and the scopes that they open, from the outermost span in. -/
def entered (f : Filter) (spans : List Span) : List Span × List Threshold :=
  spans.foldl
    (fun (kept, scopes) s =>
      let isAsked := !(f.aboutSpan s).isEmpty
      let isLet := spanLevel.verbosity ≤ f.staticThreshold spanOrigin.target none
      if spanLevel.verbosity ≤ f.ceiling && (isAsked || isLet || f.scopesAllow spanLevel scopes) then
        (kept ++ [s], if isAsked then scopes ++ [f.scopeThreshold s] else scopes)
      else (kept, scopes))
    ([], [])

/-- The names of the fields of a record. The message is one of them. -/
def fieldNames (r : Record) : List String := "message" :: r.fields.map (·.1)

/-- Whether a record is let through inside scopes. -/
def lets (f : Filter) (r : Record) (scopes : List Threshold) : Bool :=
  r.level.verbosity ≤ f.ceiling
    && (f.scopesAllow r.level scopes
      || r.level.verbosity ≤ f.staticThreshold r.origin.target (some (fieldNames r)))

/-- A record within spans as the filter lets it through: with the spans that are entered. -/
def pass? (f : Filter) (spans : List Span) (r : Record) : Option (List Span × Record) :=
  let (kept, scopes) := f.entered spans
  if f.lets r scopes then some (kept, r) else none

end Filter

end Freshness.Log
