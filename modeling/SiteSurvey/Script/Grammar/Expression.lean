import SiteSurvey.Script.Grammar.Definition
import SiteSurvey.Script.Grammar.Markup

set_option autoImplicit false

namespace SiteSurvey.Script.Grammar

open SiteSurvey.Script.Parser

def parenthesized (inner : Inner) : Parser Node :=
  node .parenthesizedExpression do
    mark "("
    let e ← expressions inner
    let type ← maybeAscription inner
    mark ")"
    pure (e :: type)

def array (inner : Inner) : Parser Node :=
  node .array do
    mark "["
    let items ← commaPlaces (do
      if ← atMark "..." then spread inner else expression inner)
    mark "]"
    pure items

/-- The word `import`, alone in a call or with `.meta` behind it. -/
def importExpression : Parser Node := do
  let start ← pos
  let head ← wordAs .importWord "import"
  if ← atMark "." then
    mark "."
    let c ← here
    if c.head == "meta" then
      word "meta"
      close .metaProperty start []
    else
      let property ← anyNameAs .propertyIdentifier
      close .memberExpression start [head.asRole .object, property.asRole .property]
  else
    guard (← atMark "(")
    pure head

def memberStep (inner : Inner) (start : Nat) (left : Node) : Parser Node := do
  let dot : Parser Node := do
    mark "."
    let property ← or privateName (anyNameAs .propertyIdentifier)
    close .memberExpression start [left.asRole .object, property.asRole .property]
  let index : Parser Node := do
    mark "["
    let e ← expressions inner
    mark "]"
    close .subscriptExpression start [left.asRole .object, e]
  let sure : Parser Node := do
    whenTyped
    guard !(← here).breaks
    mark "!"
    close .nonNullExpression start [left]
  or dot (or index sure)

def newExpression (inner : Inner) : Parser Node := do
  let start ← pos
  word "new"
  if ← atMark "." then
    mark "."
    word "target"
    close .metaProperty start []
  else
    let made ← pos
    let head ← inner (.binary 100 .plain)
    let maker ← grow head fun left =>
      or (memberStep inner made left) (do
        let text ← template inner
        close .callExpression made [left.asRole .function, text.asRole .arguments])
    let types ← perhaps (do
      whenTyped
      let types ← typeArguments inner
      guard (← atMark "(")
      pure [types])
    let args ← perhaps ((fun n => [n.asRole .arguments]) <$> arguments inner)
    close .newExpression start (maker.asRole .constructor :: types ++ args)

def primary (inner : Inner) : Parser Node := do
  let c ← here
  match c.shape with
  | .word =>
      match c.head with
      | "this" => wordAs .thisWord "this"
      | "super" => wordAs .superWord "super"
      | "null" => wordAs .nullWord "null"
      | "true" => wordAs .trueWord "true"
      | "false" => wordAs .falseWord "false"
      | "undefined" => wordAs .undefined "undefined"
      | "function" => functionExpression inner
      | "class" => classExpression inner
      | "import" => importExpression
      | "new" => newExpression inner
      | "async" => or (functionExpression inner) identifier
      | _ => identifier
  | .number => number
  | .quote => string
  | .backtick => template inner
  | .mark =>
      match c.head with
      | "(" => parenthesized inner
      | "[" => array inner
      | "\x7b" => object inner
      | "/" | "/=" => regex
      | "@" => classExpression inner
      | "#" => privateName
      | "<" => do
          let s ← source
          guard s.language.hasMarkup
          inner .markup
      | _ => stop
  | _ => stop

def chainStep (inner : Inner) (start : Nat) (left : Node) : Parser Node := do
  let c ← here
  if c.shape == .backtick then
    let text ← template inner
    close .callExpression start [left.asRole .function, text.asRole .arguments]
  else
    guard (c.shape == .mark)
    match c.head with
    | "(" =>
        let args ← arguments inner
        close .callExpression start [left.asRole .function, args.asRole .arguments]
    | "?." =>
        mark "?."
        let chain ← leaf .optionalChain c.pos (c.pos + 2)
        let types ← perhaps (do
          whenTyped
          one (typeArguments inner))
        if ← atMark "(" then
          let args ← arguments inner
          close .callExpression start (left.asRole .function :: chain :: types ++ [args.asRole .arguments])
        else if ← atMark "[" then
          mark "["
          let e ← expressions inner
          mark "]"
          close .subscriptExpression start [left.asRole .object, chain, e]
        else
          let property ← or privateName (anyNameAs .propertyIdentifier)
          close .memberExpression start [left.asRole .object, chain, property.asRole .property]
    | "<" | "<<" =>
        whenTyped
        let types ← typeArguments inner
        let c ← here
        if c.shape == .backtick then
          let text ← template inner
          close .callExpression start [left.asRole .function, types, text.asRole .arguments]
        else
          let args ← arguments inner
          close .callExpression start [left.asRole .function, types, args.asRole .arguments]
    | _ => memberStep inner start left

def postfixOperand (inner : Inner) : Parser Node := do
  let start ← pos
  let head ← primary inner
  let whole ← grow head (chainStep inner start)
  let c ← here
  if c.shape == .mark && (c.head == "++" || c.head == "--") && !c.breaks then
    take (c.pos + 2)
    close .updateExpression start [whole]
  else pure whole

def typeAssertion (inner : Inner) : Parser Node :=
  node .typeAssertion do
    let types ← typeArguments inner
    let e ← inner .operand
    pure [types, e]

def operand (inner : Inner) : Parser Node := do
  let c ← here
  match c.shape with
  | .mark =>
      match c.head with
      | "!" | "~" | "-" | "+" =>
          node .unaryExpression do
            take (c.pos + 1)
            one (inner .operand)
      | "++" | "--" =>
          node .updateExpression do
            take (c.pos + 2)
            one (inner .operand)
      | "<" => do
          let s ← source
          if s.language.hasMarkup then postfixOperand inner else typeAssertion inner
      | _ => postfixOperand inner
  | .word =>
      match c.head with
      | "typeof" | "void" | "delete" =>
          node .unaryExpression do
            word c.head
            one (inner .operand)
      | "await" =>
          node .awaitExpression do
            word "await"
            one (inner .operand)
      | _ => postfixOperand inner
  | _ => postfixOperand inner

/-- The rank of an infix operator; a higher one binds tighter. -/
def rank (m : String) : Nat :=
  match m with
  | "??" => 1
  | "||" => 2
  | "&&" => 3
  | "|" => 4
  | "^" => 5
  | "&" => 6
  | "==" | "!=" | "===" | "!==" => 7
  | "<" | ">" | "<=" | ">=" | "in" | "instanceof" => 8
  | "<<" | ">>" | ">>>" => 9
  | "+" | "-" => 10
  | "*" | "/" | "%" => 11
  | "**" => 12
  | _ => 0

/-- Marks before which an expression with type arguments can end. -/
def endsInstantiation (c : Cursor) : Bool :=
  c.breaks || c.shape == .finish ||
    (c.shape == .mark && [")", "]", ",", ";", ":", "\x7d", ".", "?.", "==", "===", "!=", "!==", "&&",
      "||", "??", "=>"].contains c.head)

/-- One infix operator of at least the given rank with its right operand. -/
def infixStep (inner : Inner) (level : Nat) (mode : Mode) (start : Nat) (left : Node) : Parser Node := do
  let c ← here
  let isTyped ← typed
  if c.shape == .word && isTyped && !c.breaks && (c.head == "as" || c.head == "satisfies") then
    guard (level ≤ 8)
    if c.head == "as" then
      word "as"
      if ← atWord "const" then
        word "const"
        close .asExpression start [left]
      else
        let t ← inner .type
        close .asExpression start [left, t]
    else
      word "satisfies"
      let t ← inner .type
      close .satisfiesExpression start [left, t]
  else
    let infixed : Parser Node := do
      guard (c.shape == .mark || c.shape == .word)
      guard (c.head != "in" || mode.relations)
      let r := rank c.head
      guard (0 < r && level ≤ r)
      take (c.pos + c.head.length)
      let right ← inner (.binary (if r == 12 then 12 else r + 1) mode)
      close .binaryExpression start [left.asRole .left, right.asRole .right]
    if isTyped && c.shape == .mark && c.head == "<" then
      or (do
        let types ← typeArguments inner
        guard (endsInstantiation (← here))
        close .instantiationExpression start [left, types]) infixed
    else infixed

/-- Operands joined by operators of at least the given rank; rank 100 asks for a bare operand. -/
def binary (inner : Inner) (level : Nat) (mode : Mode) : Parser Node := do
  if level == 100 then primary inner
  else
    let start ← pos
    let left ← inner .operand
    guard (left.kind != .privatePropertyIdentifier || (← atWord "in"))
    grow left (infixStep inner level mode start)

def conditional (inner : Inner) (mode : Mode) : Parser Node := do
  let start ← pos
  let test ← binary inner 1 mode
  if ← atMark "?" then
    mark "?"
    let rest (middle : Mode) : Parser Node := do
      let yes ← inner (.expression middle)
      mark ":"
      let no ← inner (.expression mode)
      close .ternaryExpression start [test, yes, no]
    if ← typed then or (rest .plain) (rest { Mode.plain with returns := false })
    else rest .plain
  else pure test

def yieldExpression (inner : Inner) (mode : Mode) : Parser Node :=
  node .yieldExpression do
    word "yield"
    if ← atMark "*" then
      mark "*"
      one (inner (.expression mode))
    else if (← here).breaks then pure []
    else perhaps (one (inner (.expression mode)))

def augmented : List String :=
  ["+=", "-=", "*=", "/=", "%=", "^=", "&=", "|=", ">>=", ">>>=", "<<=", "**=", "&&=", "||=", "??="]

def patternAssignment (inner : Inner) (mode : Mode) : Parser Node := do
  let start ← pos
  let left ← destructuring inner (inner .target)
  mark "="
  let right ← inner (.expression mode)
  close .assignmentExpression start [left.asRole .left, right.asRole .right]

def assignment (inner : Inner) (mode : Mode) : Parser Node := do
  let start ← pos
  let left ← conditional inner mode
  if ← atMark "=" then
    guard ([Kind.identifier, .undefined, .memberExpression, .subscriptExpression,
      .parenthesizedExpression, .nonNullExpression].contains left.kind)
    mark "="
    let right ← inner (.expression mode)
    close .assignmentExpression start [left.asRole .left, right.asRole .right]
  else
    let c ← here
    if c.shape == .mark && augmented.contains c.head then
      guard ([Kind.identifier, .memberExpression, .subscriptExpression, .parenthesizedExpression,
        .nonNullExpression].contains left.kind)
      take (c.pos + c.head.length)
      let right ← inner (.expression mode)
      close .augmentedAssignmentExpression start [left.asRole .left, right.asRole .right]
    else pure left

/-- The next tokens may start an arrow function. -/
def maybeArrow : Parser Bool := do
  let c ← here
  match c.shape with
  | .mark => pure (c.head == "(" || (c.head == "<" && (← typed)))
  | .word =>
      if c.head == "async" then pure true
      else ahead (identifier *> mark "=>")
  | _ => pure false

def expressionRule (inner : Inner) (mode : Mode) : Parser Node := do
  if (← atWord "yield") then yieldExpression inner mode
  else if ← maybeArrow then or (arrowFunction inner mode) (assignment inner mode)
  else if (← atMark "[") || (← atMark "\x7b") then
    or (assignment inner mode) (patternAssignment inner mode)
  else assignment inner mode

end SiteSurvey.Script.Grammar
