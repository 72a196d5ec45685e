import WatchLang.Keyword

/-!
# Kinds of tokens

The grammar sees a token only through its kind. Each reserved word is a kind of its own, the seven
comparison symbols share one, and the end of the input is a kind too, so that a reader can expect it like
any other.
-/

set_option autoImplicit false

namespace WatchLang

/-- What a token is to the grammar. -/
inductive Kind
  | symbol
  | keyword (keyword : Keyword)
  | word
  | digits
  | address
  | endOfInput
  deriving DecidableEq

namespace Kind

/-- The name of a kind in messages. -/
def label : Kind → String
  | symbol => "arithmetic symbol"
  | keyword k => "'" ++ k.spelling ++ "'"
  | word => "word"
  | digits => "digit"
  | address => "address"
  | endOfInput => "end of input"

/-- The kinds that can begin a statement, in the order of the grammar. -/
def statementStarts : List Kind :=
  [keyword (.subject .source), keyword (.subject .watch), keyword (.test .gate), keyword .publish,
    keyword (.test .and), keyword (.test .or)]

/-- Whether a statement can begin with this kind. -/
def startsStatement : Kind → Bool
  | keyword (.subject _) | keyword (.test _) | keyword .publish => true
  | _ => false

/-- The kinds that start a statement are those on the list of them. -/
theorem startsStatement_iff_mem (k : Kind) : k.startsStatement = true ↔ k ∈ statementStarts := by
  rcases k with _ | (r | c | _ | _ | t) | _ | _ | _ | _
  case keyword.subject => cases r <;> decide
  case keyword.test => cases c <;> decide
  case keyword.target => cases t <;> decide
  all_goals decide

/-- The kind of an identifier: reserved if its text is, an ordinary word otherwise. -/
def ofIdentifier (text : String) : Kind :=
  match Keyword.ofText? text with
  | some k => keyword k
  | none => word

end Kind

end WatchLang
