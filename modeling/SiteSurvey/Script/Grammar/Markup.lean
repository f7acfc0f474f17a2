import SiteSurvey.Script.Grammar.Literal

set_option autoImplicit false

namespace SiteSurvey.Script.Grammar

open SiteSurvey.Script.Parser

def markupName (kind : Kind) : Parser Node := do
  let c ← here
  let s ← source
  guard (c.shape == .word)
  let j := c.pos + c.head.length
  let k := if s.is j '-' then
      s.spanWhile (fun c => c.isAlphanum || c == '_' || c == '$' || c == '-') j
    else j
  take k
  leaf kind c.pos k

/-- The name of an element: plain, with a namespace, or the property of another name. -/
def elementName : Parser Node := do
  let start ← pos
  let name ← markupName .identifier
  if ← atMark ":" then
    mark ":"
    let tail ← markupName .identifier
    close .jsxNamespaceName start [name, tail]
  else
    grow name fun left => do
      mark "."
      let property ← anyNameAs .propertyIdentifier
      close .memberExpression start [left.asRole .object, property.asRole .property]

/-- The end of a character reference such as `&amp;`. -/
def referenceEnd (s : Source) (i : Nat) : Option Nat :=
  if s.is i '&' then
    let j :=
      if s.is (i + 1) '#' then
        if s.is (i + 2) 'x' || s.is (i + 2) 'X' then
          let j := s.spanWhile isHexDigit (i + 3)
          if i + 3 < j && j ≤ i + 9 then j else i
        else
          let j := s.spanWhile Char.isDigit (i + 2)
          if i + 2 < j && j ≤ i + 7 then j else i
      else
        let j := s.spanWhile Char.isAlpha (i + 1)
        if i + 1 < j && j ≤ i + 31 then j else i
    if i < j && s.is j ';' then some (j + 1) else none
  else none

/-- Text up to a character that ends it, cut at the character references in it. -/
def referencedText (s : Source) (kind : Kind) (ends : Char → Bool) :
    Nat → Nat → Nat → Array Node → List Node × Nat
  | 0, start, _, acc => (acc.toList, start)
  | fuel + 1, start, i, acc =>
      let flushed := if start < i then acc.push (leafOf s kind start i) else acc
      if s.test i fun c => !ends c then
        match referenceEnd s i with
        | some j => referencedText s kind ends fuel j j (flushed.push (leafOf s .htmlCharacterReference i j))
        | none => referencedText s kind ends fuel start (i + 1) acc
      else (flushed.toList, i)

/-- A quoted attribute value: no escapes, line breaks allowed. -/
def attributeString : Parser Node := do
  let c ← here
  let s ← source
  guard (c.shape == .quote)
  let quote := (s.get? c.pos).getD '"'
  let (parts, j) := referencedText s .stringFragment (· == quote) (s.size - c.pos + 1)
    (c.pos + 1) (c.pos + 1) #[]
  guard (s.is j quote)
  take (j + 1)
  close .string c.pos parts

def bracedExpression (inner : Inner) : Parser Node :=
  node .jsxExpression do
    mark "\x7b"
    let inside ← perhaps do
      if ← atMark "..." then
        let spread ← node .spreadElement do
          mark "..."
          let e ← expression inner
          pure [e]
        pure [spread]
      else
        let e ← expressions inner
        pure [e]
    mark "\x7d"
    pure inside

def elementAttribute (inner : Inner) : Parser Node :=
  or (bracedExpression inner) <|
    node .jsxAttribute do
      let start ← pos
      let name ← markupName .propertyIdentifier
      let name ← if ← atMark ":" then do
          mark ":"
          let tail ← markupName .propertyIdentifier
          close .jsxNamespaceName start [name.asKind .identifier, tail.asKind .identifier]
        else pure name
      if ← atMark "=" then
        mark "="
        let value ← or attributeString (or (bracedExpression inner) (inner .markup))
        pure [name, value]
      else pure [name]

def markupChild (inner : Inner) : Parser (List Node) := do
  let i ← tight
  let s ← source
  match s.get? i with
  | none => stop
  | some '<' =>
      take i
      guard !(← ahead (angle '<' *> mark "/"))
      let element ← inner .markup
      pure [element]
  | some '\x7b' =>
      take i
      let e ← bracedExpression inner
      pure [e]
  | some _ =>
      let (parts, j) := referencedText s .jsxText (fun c => "<>\x7b\x7d".toList.contains c)
        (s.size - i + 1) i i #[]
      guard (i < j)
      take j
      pure (parts.filter fun n =>
        !(n.kind == .jsxText && n.text.toList.all isBlank && n.text.toList.any isBreak))

/-- An element or a fragment, from its first tag to its last. `typeArguments` may follow a name. -/
def element (inner : Inner) (typeArguments : Parser (List Node)) : Parser Node := do
  let start ← pos
  angle '<'
  let head ← perhaps do
    let name ← elementName
    let types ← typeArguments
    let attributes ← many (elementAttribute inner)
    pure (name.asRole .name :: types ++ attributes)
  if ← atMark "/" then
    guard !head.isEmpty
    mark "/"
    angle '>'
    close .jsxSelfClosingElement start head
  else
    angle '>'
    let opening ← close .jsxOpeningElement start head
    let children ← many (markupChild inner)
    let i ← tight
    take i
    let closing ← node .jsxClosingElement do
      angle '<'
      mark "/"
      let name ← perhaps ((fun n => [n]) <$> elementName)
      angle '>'
      pure name
    close .jsxElement start (opening :: children.flatten ++ [closing])

end SiteSurvey.Script.Grammar
