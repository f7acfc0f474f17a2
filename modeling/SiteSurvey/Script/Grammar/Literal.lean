import SiteSurvey.Script.Grammar.Goal

set_option autoImplicit false

namespace SiteSurvey.Script.Grammar

open SiteSurvey.Script.Parser

/-- The end of the escape that starts with the backslash at an offset: a backslash before any
character but `x`, `u` and the octal digits, up to three octal digits, `\xHH`, `\uHHHH`, `\u{H…}`,
or a line end, where a carriage return takes the line break behind it along. -/
def escapeEnd (s : Source) (i : Nat) : Option Nat :=
  match s.get? (i + 1) with
  | none => none
  | some 'x' =>
      if s.test (i + 2) isHexDigit && s.test (i + 3) isHexDigit then some (i + 4) else none
  | some 'u' =>
      if s.is (i + 2) '\x7b' then
        let j := s.spanWhile isHexDigit (i + 3)
        if i + 3 < j && s.is j '\x7d' then some (j + 1) else none
      else if s.test (i + 2) isHexDigit && s.test (i + 3) isHexDigit && s.test (i + 4) isHexDigit &&
          s.test (i + 5) isHexDigit then some (i + 6)
      else none
  | some '\r' => some (if s.test (i + 2) isBreak then i + 3 else i + 2)
  | some c =>
      if isOctalDigit c then
        if s.test (i + 2) isOctalDigit then
          some (if s.test (i + 3) isOctalDigit then i + 4 else i + 3)
        else some (i + 2)
      else some (i + 2)

def leafOf (s : Source) (kind : Kind) (start stop : Nat) : Node :=
  .node kind none start stop (s.row start) (s.slice start stop) false []

/-- The parts of a quoted text from `i` on and the offset of the closing quote. -/
def quotedParts (s : Source) (quote : Char) : Nat → Nat → Array Node → Option (List Node × Nat)
  | 0, _, _ => none
  | fuel + 1, i, acc =>
      match s.get? i with
      | none => none
      | some c =>
          if c == quote then some (acc.toList, i)
          else if c == '\\' then
            match escapeEnd s i with
            | some j => quotedParts s quote fuel j (acc.push (leafOf s .escapeSequence i j))
            | none => none
          else if c == '\n' || c == '\r' then none
          else
            let j := s.spanWhile (fun c => c != quote && c != '\\' && c != '\n' && c != '\r') i
            quotedParts s quote fuel j (acc.push (leafOf s .stringFragment i j))

def string : Parser Node := do
  let c ← here
  let s ← source
  guard (c.shape == .quote)
  match quotedParts s ((s.get? c.pos).getD '"') (s.size - c.pos + 1) (c.pos + 1) #[] with
  | none => stop
  | some (parts, quote) =>
      take (quote + 1)
      close .string c.pos parts

def number : Parser Node := do
  let c ← here
  let s ← source
  guard (c.shape == .number)
  match s.numberEnd c.pos with
  | none => stop
  | some j =>
      take j
      leaf .number c.pos j

/-- One stretch of template text: its parts and the offset of the backtick or the `$` of a
substitution that ends it. -/
def templateText (s : Source) (escapes : Bool) : Nat → Nat → Array Node → Option (List Node × Nat)
  | 0, _, _ => none
  | fuel + 1, i, acc =>
      match s.get? i with
      | none => none
      | some '`' => some (acc.toList, i)
      | some c =>
          if c == '$' && s.is (i + 1) '\x7b' then some (acc.toList, i)
          else if c == '\\' && escapes then
            match escapeEnd s i with
            | some j => templateText s escapes fuel j (acc.push (leafOf s .escapeSequence i j))
            | none => none
          else
            let rec plain : Nat → Nat → Nat
              | 0, j => j
              | fuel + 1, j =>
                  match s.get? j with
                  | none => j
                  | some c =>
                      if c == '`' || (c == '\\' && escapes) || (c == '$' && s.is (j + 1) '\x7b') then j
                      else plain fuel (j + 1)
            let j := plain (s.size - i + 1) i
            templateText s escapes fuel j (acc.push (leafOf s .stringFragment i j))

/-- The substitutions and texts of a template after its opening backtick. -/
def templateParts (escapes : Bool) (hole : Parser Node) : Parser (List Node) := do
  let text : Parser (List Node × Bool) := do
    let i ← tight
    let s ← source
    match templateText s escapes (s.size - i + 1) i #[] with
    | none => stop
    | some (parts, j) =>
        if s.is j '`' then
          take (j + 1)
          pure (parts, true)
        else
          take (j + 2)
          let inside ← hole
          guard (← atMark "\x7d")
          let c ← here
          take (c.pos + 1)
          let s ← source
          let substitution := Node.node (if escapes then .templateSubstitution else .templateType)
            none j (c.pos + 1) (s.row j) "" false [inside]
          pure (parts ++ [substitution], false)
  let start ← text
  let all ← grow start fun (parts, finished) => do
    guard !finished
    let (more, finished) ← text
    pure (parts ++ more, finished)
  guard all.2
  pure all.1

def template (inner : Inner) : Parser Node := do
  let c ← here
  guard (c.shape == .backtick)
  take (c.pos + 1)
  let parts ← templateParts true (expressions inner)
  close .templateString c.pos parts

/-- The offset of the slash that closes a regular expression. -/
def regexBody (s : Source) : Nat → Nat → Bool → Option Nat
  | 0, _, _ => none
  | fuel + 1, i, inClass =>
      match s.get? i with
      | none => none
      | some c =>
          if c == '\n' then none
          else if c == '\\' then
            if s.test (i + 1) (· != '\n') then regexBody s fuel (i + 2) inClass else none
          else if inClass then regexBody s fuel (i + 1) (c != ']')
          else if c == '[' then regexBody s fuel (i + 1) true
          else if c == '/' then some i
          else regexBody s fuel (i + 1) false

def regex : Parser Node := do
  let c ← here
  let s ← source
  guard (c.shape == .mark && s.is c.pos '/')
  match regexBody s (s.size - c.pos + 1) (c.pos + 1) false with
  | none => stop
  | some j =>
      guard (c.pos + 1 < j)
      let k := s.spanWhile Char.isLower (j + 1)
      take k
      let flags := if j + 1 < k then [leafOf s .regexFlags (j + 1) k] else []
      close .regex c.pos (leafOf s .regexPattern (c.pos + 1) j :: flags)

end SiteSurvey.Script.Grammar
