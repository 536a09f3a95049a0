/-
  Counting placeholders. A `?` inside a quoted name or a text literal is not one.
-/
import WorkbookQuery.Statement.Emission

namespace WorkbookQuery

/-- Where a character of a statement stands. Right after a closing character it is not yet
clear whether the quotation is over: the same character again would stand for itself. -/
inductive Place where
  | outside
  | inside (close : Char)
  | leaving (close : Char)
  deriving DecidableEq

namespace Place

/-- The character that closes what this one opens. -/
def closer? (c : Char) : Option Char :=
  if c = '[' then some ']'
  else if c = '"' then some '"'
  else if c = '\'' then some '\''
  else none

/-- The place after a character that is not part of a quotation. -/
def opened (c : Char) : Place :=
  match closer? c with
  | some close => inside close
  | none => outside

def next : Place → Char → Place
  | outside, c => opened c
  | inside close, c => if c = close then leaving close else inside close
  | leaving close, c => if c = close then inside close else opened c

/-- The character stands for itself and not for a part of a quotation. -/
def exposes : Place → Char → Bool
  | outside, _ => true
  | inside _, _ => false
  | leaving close, c => c != close

/-- The placeholders of a text that starts at this place. -/
def countPlaceholders : Place → List Char → Nat
  | _, [] => 0
  | p, c :: s => (if c = '?' ∧ p.exposes c then 1 else 0) + (p.next c).countPlaceholders s

end Place

def Statement.placeholderCount (s : Statement) : Nat :=
  Place.outside.countPlaceholders s.text.toList

end WorkbookQuery
