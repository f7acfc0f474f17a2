import SiteSurvey.Script.Grammar.Statement

set_option autoImplicit false

namespace SiteSurvey.Script

namespace Grammar

open SiteSurvey.Script.Parser

def rule (inner : Inner) : Inner
  | .statement => statement inner
  | .block => block inner
  | .expression mode => expressionRule inner mode
  | .binary level mode => binary inner level mode
  | .operand => operand inner
  | .target => target inner
  | .binding => binding inner
  | .type => type inner
  | .markup => element inner (do
      if (← typed) && (← atMark "<") then one (typeArguments inner) else pure [])

/-- The grammar unrolled to a given depth of nesting. -/
def reader : Nat → Inner
  | 0, _ => stop
  | depth + 1, goal => rule (reader depth) goal

def hashBang : Parser (List Node) := do
  let s ← source
  let c ← here
  guard (c.pos == 0 && s.startsWith 0 ['#', '!'])
  let j := s.spanWhile (fun c => c != '\n' && c != '\r') 0
  take j
  one (leaf .hashBangLine 0 j)

def program (depth : Nat) : Parser (List Node) := do
  let bang ← perhaps hashBang
  let items ← many (reader depth .statement)
  let c ← here
  guard (c.shape == .finish)
  pure (bang ++ items)

end Grammar

structure Tree where
  source : Source
  root : Node

namespace Tree

def language (t : Tree) : Language :=
  t.source.language

def textOf (t : Tree) (n : Node) : String :=
  t.source.slice n.start n.stop

def hasErrors (t : Tree) : Bool :=
  t.root.hasFault

/-- The line, counted from one, of the first faulty node. -/
def firstErrorLine (t : Tree) : Option Nat :=
  t.root.firstFault.map (·.row + 1)

end Tree

/-- A fault is shown at the token that fits nowhere, or, where the source ends too early, at its
last token. -/
def faultAt (s : Source) (r : Reach) : Nat :=
  if (s.gap r.token).stop < s.size then r.token else r.before - 1

/-- The tree of a source. A source outside the grammar gets a tree that holds an error node. -/
def parse (language : Language) (text : String) : Tree :=
  let s := Source.ofString language text
  let start := s.spanWhile isBlank 0
  let program (children : List Node) : Node :=
    .node .program none start s.size (s.row start) "" false children
  match Grammar.program (16 * s.size + 64) s (Parser.first s) with
  | .done items c =>
      { source := s, root := (program items).placeRemarks ((c.pending ++ c.settled).reverse.map s.remark) }
  | .stuck r =>
      let i := faultAt s r
      { source := s, root := program [.node .error none i s.size (s.row i) "" false []] }

end SiteSurvey.Script
