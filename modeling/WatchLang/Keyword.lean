/-!
# Reserved words

The nine reserved words of the rule language, by what each of them is for. A word that opens a statement
names the subject of the rule, adds a test or publishes; `CONTAINS` compares; the last two name the places
where matches go. Reserved words are spelled in capitals and are told apart from identifiers by their
exact spelling alone.
-/

set_option autoImplicit false

namespace WatchLang

/-- What a rule looks at: the source that it reads from, or the event or field that it watches. -/
inductive Role
  | source
  | watch
  deriving DecidableEq

/-- How a test joins the tests before it: it opens the gate, it must hold as well, or it may hold instead. -/
inductive Connective
  | gate
  | and
  | or
  deriving DecidableEq

/-- Where matches go: to a live socket feed or to the log. -/
inductive Target
  | websockets
  | log
  deriving DecidableEq

/-- A reserved word. -/
inductive Keyword
  | subject (role : Role)
  | test (connective : Connective)
  | publish
  | contains
  | target (target : Target)
  deriving DecidableEq

namespace Keyword

/-- The text of a reserved word. -/
def spelling : Keyword → String
  | subject .source => "SOURCE"
  | subject .watch => "WATCH"
  | test .gate => "WHERE"
  | test .and => "AND"
  | test .or => "OR"
  | publish => "PUBLISH"
  | contains => "CONTAINS"
  | target .websockets => "WEBSOCKETS"
  | target .log => "LOG_PUBLISHER"

/-- All reserved words. -/
def all : List Keyword :=
  [subject .source, subject .watch, test .gate, test .and, test .or, publish, contains,
    target .websockets, target .log]

/-- The reserved word with a given text. -/
def ofText? : String → Option Keyword
  | "SOURCE" => some (subject .source)
  | "WATCH" => some (subject .watch)
  | "WHERE" => some (test .gate)
  | "PUBLISH" => some publish
  | "AND" => some (test .and)
  | "OR" => some (test .or)
  | "CONTAINS" => some contains
  | "WEBSOCKETS" => some (target .websockets)
  | "LOG_PUBLISHER" => some (target .log)
  | _ => none

/-- Every reserved word is listed. -/
theorem mem_all (k : Keyword) : k ∈ all := by
  rcases k with r | c | _ | _ | t
  · cases r <;> decide
  · cases c <;> decide
  · decide
  · decide
  · cases t <;> decide

/-- A text is looked up as a reserved word exactly when it is the spelling of that word. -/
theorem ofText?_eq_some_iff {text : String} {k : Keyword} :
    ofText? text = some k ↔ k.spelling = text := by
  constructor
  · intro found
    unfold ofText? at found
    split at found <;> cases found <;> rfl
  · rintro rfl
    -- one case for each row of the table
    have listed : ∀ k ∈ all, ofText? k.spelling = some k := by decide
    exact listed k (mem_all k)

end Keyword

end WatchLang
