import WatchLang.Program.Basic
import WatchLang.Token.Basic

/-!
# The grammar

Which tokens spell which tree, said without reading. A relation between tokens and a tree holds exactly when the
tokens are a phrase of the grammar and the tree is what the phrase denotes; positions do not matter to it.
-/

set_option autoImplicit false

namespace WatchLang

/-- The texts of symbols with the comparisons that they stand for. -/
def symbolMeanings : List (String × Comparison) :=
  [("==", .equal), ("=", .equal), ("!=", .notEqual), (">", .greater), (">=", .greaterOrEqual),
    ("<", .less), ("<=", .lessOrEqual)]

/-- A token that spells a comparison: a symbol of known text, or the reserved word for containment. -/
inductive Comparison.Spelled : Token → Comparison → Prop
  | symbol {t : Token} {c : Comparison} (kind : t.kind = .symbol)
      (meaning : (t.lexeme, c) ∈ symbolMeanings) : Spelled t c
  | contains {t : Token} (kind : t.kind = .keyword .contains) : Spelled t .contains

/-- A token that spells an operand: its kind gives the class, and its text is kept. -/
inductive Operand.Spelled : Token → Operand → Prop
  | identifier {t : Token} (kind : t.kind = .word) : Spelled t (.identifier t.lexeme)
  | number {t : Token} (kind : t.kind = .digits) : Spelled t (.number t.lexeme)
  | address {t : Token} (kind : t.kind = .address) : Spelled t (.address t.lexeme)

/-- Tokens that spell a condition: a word, a comparison and an operand. -/
inductive Condition.Spelled : List Token → Condition → Prop
  | mk {left sign right : Token} {c : Comparison} {o : Operand} (word : left.kind = .word)
      (comparison : Comparison.Spelled sign c) (operand : Operand.Spelled right o) :
      Spelled [left, sign, right] ⟨left.lexeme, c, o⟩

/-- Tokens that spell a statement: its reserved word and what belongs to it. -/
inductive Statement.Spelled : List Token → Statement → Prop
  | subject {opening name : Token} {role : Role} (keyword : opening.kind = .keyword (.subject role))
      (word : name.kind = .word) : Spelled [opening, name] (.subject role name.lexeme)
  | test {opening : Token} {tokens : List Token} {connective : Connective} {c : Condition}
      (keyword : opening.kind = .keyword (.test connective)) (condition : c.Spelled tokens) :
      Spelled (opening :: tokens) (.test connective c)
  | publish {opening place channel : Token} {target : Target}
      (keyword : opening.kind = .keyword .publish) (goal : place.kind = .keyword (.target target))
      (word : channel.kind = .word) :
      Spelled [opening, place, channel] (.publish target channel.lexeme)

/-- Tokens that spell statements one after the other. -/
inductive Statement.SpelledAll : List Token → List Statement → Prop
  | nil : SpelledAll [] []
  | cons {first later : List Token} {s : Statement} {ss : List Statement} (head : s.Spelled first)
      (tail : SpelledAll later ss) : SpelledAll (first ++ later) (s :: ss)

/-- Tokens that spell a program. -/
def Program.Spelled (tokens : List Token) (p : Program) : Prop :=
  Statement.SpelledAll tokens p.statements

end WatchLang
