import DialectSql.Condition.Operator

/-!
# Reading a Boolean expression

A database reads predicates with `AND` and `OR` between them: what stands in parentheses first,
`AND` before `OR`, and equal connectives from left to right. `readExpression` does so in one pass
over the lexemes and gives the truth value. A predicate is an atom, whose text is not looked into.

The reader does not know how conditions are written.
-/

set_option autoImplicit false

namespace DialectSql

/-- The truth value of two conditions that are joined. -/
def Connective.combine : Connective → Bool → Bool → Bool
  | and => (· && ·)
  | or => (· || ·)

theorem Connective.combine_self (k : Connective) (b : Bool) : k.combine b b = b := by
  cases k with
  | and => exact Bool.and_self b
  | or => exact Bool.or_self b

/-- The value that leaves the other one as it is. -/
def Connective.neutral : Connective → Bool
  | and => true
  | or => false

theorem Connective.combine_neutral (k : Connective) (b : Bool) : k.combine b k.neutral = b := by
  cases k with
  | and => exact Bool.and_true b
  | or => exact Bool.or_false b

theorem Connective.neutral_combine (k : Connective) (b : Bool) : k.combine k.neutral b = b := by
  cases k with
  | and => exact Bool.true_and b
  | or => exact Bool.false_or b

namespace BooleanReader

/-- What an expression consists of. -/
inductive Lexeme where
  /-- A predicate with its truth value. -/
  | atom (text : String) (value : Bool)
  | connective (k : Connective)
  | opening
  | closing
deriving DecidableEq, Repr

/-- The text of a lexeme. A connective is a word, so it stands between blanks. -/
def Lexeme.text : Lexeme → String
  | atom s _ => s
  | connective k => " " ++ k.keyword ++ " "
  | opening => "("
  | closing => ")"

/-- An expression as far as it has been read: the value of what stands before its last `OR`, and
the value of the conjunction that has been read since. -/
structure Reading where
  alternatives : Bool := false
  conjunction : Bool := true
deriving DecidableEq, Repr

namespace Reading

/-- The value of an expression that ends here. -/
def value (s : Reading) : Bool := s.alternatives || s.conjunction

/-- After an operand of the given value. -/
def operand (s : Reading) (b : Bool) : Reading := { s with conjunction := s.conjunction && b }

/-- After a connective. An `OR` closes the conjunction, an `AND` goes on with it. -/
def connective (s : Reading) : Connective → Reading
  | .and => s
  | .or => { alternatives := s.value }

/-- With one more alternative in front. -/
def withAlternative (b : Bool) (s : Reading) : Reading :=
  { s with alternatives := b || s.alternatives }

theorem value_withAlternative (b : Bool) (s : Reading) :
    (s.withAlternative b).value = (b || s.value) := Bool.or_assoc _ _ _

/-- A connective leaves an earlier alternative alone. -/
theorem connective_withAlternative (b : Bool) (s : Reading) (k : Connective) :
    (s.withAlternative b).connective k = (s.connective k).withAlternative b := by
  cases k with
  | and => rfl
  | or =>
    rw [connective, value_withAlternative]
    rfl

end Reading

mutual

/-- Goes on where an operand has to come next. The expressions around the one that is being read are
still open, the innermost first. -/
def readOperand (around : List Reading) (s : Reading) : List Lexeme → Option Bool
  | .atom _ b :: rest => readConnective around (s.operand b) rest
  | .opening :: rest => readOperand (s :: around) {} rest
  | _ => none

/-- Goes on behind an operand. -/
def readConnective (around : List Reading) (s : Reading) : List Lexeme → Option Bool
  | .connective k :: rest => readOperand around (s.connective k) rest
  | .closing :: rest =>
      match around with
      | outer :: around => readConnective around (outer.operand s.value) rest
      | [] => none
  | [] => if around = [] then some s.value else none
  | _ => none

end

/-- The truth value of an expression. -/
def readExpression (ls : List Lexeme) : Option Bool := readOperand [] {} ls

end BooleanReader

end DialectSql
