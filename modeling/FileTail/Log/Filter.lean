import FileTail.Log.Directive

/-!
# FileTail.Log.Filter

Which messages are written. A filter is a comma-separated list of directives. Of those that cover a
message the most specific decides, and of two that say the same of it the later one. A message that
no directive covers is not written.

* `LogFilter.ofText` — the filter that a text stands for, or what is wrong with it.
* `LogFilter.allows` — whether a message is written.
-/

namespace FileTail

structure LogFilter where
  directives : List Directive
deriving Repr, DecidableEq, Inhabited

namespace LogFilter

/-- The filter that lets everything pass but debugging. -/
def default : LogFilter := ⟨[{ Directive.everything with verbosity := .info }]⟩

/-- The pieces of a text between commas. -/
def pieces (text : String) : List (List Char) :=
  (text.toList.splitOn ',').filter (· != [])

def ofText (text : String) : Except FilterFault LogFilter :=
  match (pieces text).mapM Directive.ofChars with
  | .error e => .error e
  | .ok [] => .ok default
  | .ok ds => .ok ⟨ds⟩

def allows (f : LogFilter) (e : LogEntry) : Bool :=
  match (f.directives.filter (·.covers e)).foldl Directive.moreSpecific none with
  | none => false
  | some d => e.severity.verbosity.rank ≤ d.verbosity.rank

def keep (f : LogFilter) (es : List LogEntry) : List LogEntry := es.filter f.allows

end LogFilter
end FileTail
