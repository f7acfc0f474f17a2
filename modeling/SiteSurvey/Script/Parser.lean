import SiteSurvey.Script.Source

set_option autoImplicit false

namespace SiteSurvey.Script

/-- The furthest place at which reading got stuck: the token there and the end of the one before. -/
structure Reach where
  token : Nat
  before : Nat
  deriving Inhabited

def Reach.max (a b : Reach) : Reach :=
  if a.token < b.token then b else a

/-- A place between two tokens. `pos` is where the next token starts, `last` where the one before
ended, `breaks` tells of a line break between them, and `shape` and `head` describe the next token.
Comments before `last` are settled; those of the gap after it are pending, because the text there
may still be read as something else than a gap. -/
structure Cursor where
  pos : Nat
  last : Nat
  breaks : Bool
  shape : Shape
  head : String
  settled : List Source.Remark
  pending : List Source.Remark
  reach : Reach

inductive Outcome (α : Type) where
  | done (value : α) (rest : Cursor)
  | stuck (reach : Reach)

/-- Reads something at a place of a source, or gets stuck; a choice may then go on from the same
place with something else. -/
def Parser (α : Type) : Type :=
  Source → Cursor → Outcome α

namespace Parser

def pure' {α : Type} (a : α) : Parser α :=
  fun _ c => .done a c

def bind' {α β : Type} (p : Parser α) (f : α → Parser β) : Parser β :=
  fun s c =>
    match p s c with
    | .done a c' => f a s c'
    | .stuck r => .stuck r

instance : Monad Parser where
  pure := pure'
  bind := bind'

def stop {α : Type} : Parser α :=
  fun _ c => .stuck (c.reach.max { token := c.pos, before := c.last })

/-- Reads `q` from the same place if `p` gets stuck. -/
def or {α : Type} (p q : Parser α) : Parser α :=
  fun s c =>
    match p s c with
    | .done a c' => .done a c'
    | .stuck r => q s { c with reach := c.reach.max r }

instance {α : Type} : OrElse (Parser α) where
  orElse p q := p.or (q ())

def maybe {α : Type} (p : Parser α) : Parser (Option α) :=
  or (some <$> p) (pure none)

def perhaps (p : Parser (List Node)) : Parser (List Node) :=
  or p (pure [])

def manyFrom {α : Type} (p : Parser α) (s : Source) : Nat → Cursor → Array α → Outcome (List α)
  | 0, c, acc => .done acc.toList c
  | fuel + 1, c, acc =>
      match p s c with
      | .done a c' => if c.last < c'.last then manyFrom p s fuel c' (acc.push a) else .done acc.toList c
      | .stuck r => .done acc.toList { c with reach := c.reach.max r }

/-- Reads `p` as often as it succeeds and moves on. -/
def many {α : Type} (p : Parser α) : Parser (List α) :=
  fun s c => manyFrom p s (s.size + 1) c #[]

def foldFrom {α : Type} (step : α → Parser α) (s : Source) : Nat → Cursor → α → Outcome α
  | 0, c, a => .done a c
  | fuel + 1, c, a =>
      match step a s c with
      | .done a' c' => if c.last < c'.last then foldFrom step s fuel c' a' else .done a c
      | .stuck r => .done a { c with reach := c.reach.max r }

/-- Extends what has been read for as long as `step` succeeds and moves on. -/
def grow {α : Type} (a : α) (step : α → Parser α) : Parser α :=
  fun s c => foldFrom step s (s.size + 1) c a

def source : Parser Source :=
  fun s c => .done s c

def here : Parser Cursor :=
  fun _ c => .done c c

def pos : Parser Nat :=
  fun _ c => .done c.pos c

def guard (b : Bool) : Parser Unit :=
  if b then pure () else stop

def typed : Parser Bool :=
  fun s c => .done s.language.hasTypes c

def whenTyped : Parser Unit := do
  guard (← typed)

/-- The place after a token that ends at `stop`, with the gap behind it skipped. -/
def Cursor.after (s : Source) (c : Cursor) (stop : Nat) : Cursor :=
  let gap := s.gap stop
  let (shape, head) := s.headAt gap.stop
  { pos := gap.stop, last := stop, breaks := gap.breaks, shape := shape, head := head,
    settled := c.pending ++ c.settled, pending := gap.remarks, reach := c.reach }

def first (s : Source) : Cursor :=
  Cursor.after s
    { pos := 0, last := 0, breaks := false, shape := .unknown, head := "", settled := [],
      pending := [], reach := { token := 0, before := 0 } } 0

def take (stop : Nat) : Parser Unit :=
  fun s c => .done () (Cursor.after s c stop)

/-- Goes back to the end of the last token, to read what follows it without skipping a gap. -/
def tight : Parser Nat :=
  fun _ c => .done c.last { c with pos := c.last, breaks := false, pending := [] }

def leaf (kind : Kind) (start stop : Nat) : Parser Node :=
  fun s c => .done (.node kind none start stop (s.row start) (s.slice start stop) false []) c

def close (kind : Kind) (start : Nat) (children : List Node) : Parser Node :=
  fun s c => .done (.node kind none start c.last (s.row start) "" false children) c

def node (kind : Kind) (p : Parser (List Node)) : Parser Node := do
  let start ← pos
  let children ← p
  close kind start children

def atMark (m : String) : Parser Bool :=
  fun _ c => .done (c.shape == .mark && c.head == m) c

def atWord (w : String) : Parser Bool :=
  fun _ c => .done (c.shape == .word && c.head == w) c

def mark (m : String) : Parser Unit :=
  fun s c =>
    if c.shape == .mark && c.head == m then .done () (Cursor.after s c (c.pos + m.length))
    else stop s c

def word (w : String) : Parser Unit :=
  fun s c =>
    if c.shape == .word && c.head == w then .done () (Cursor.after s c (c.pos + w.length))
    else stop s c

/-- A word written as one piece with no line break after it. -/
def wordHere (w : String) : Parser Unit := do
  word w
  guard !(← here).breaks

/-- Takes one `<` or `>`, also where it starts a longer mark. -/
def angle (m : Char) : Parser Unit :=
  fun s c =>
    if c.shape == .mark && s.is c.pos m then .done () (Cursor.after s c (c.pos + 1))
    else stop s c

def oneMark (ms : List String) : Parser String := do
  let c ← here
  guard (c.shape == .mark && ms.contains c.head)
  take (c.pos + c.head.length)
  pure c.head

def oneWord (ws : List String) : Parser String := do
  let c ← here
  guard (c.shape == .word && ws.contains c.head)
  take (c.pos + c.head.length)
  pure c.head

/-- Succeeds without moving if `p` would succeed. -/
def ahead {α : Type} (p : Parser α) : Parser Bool :=
  fun s c =>
    match p s c with
    | .done _ _ => .done true c
    | .stuck _ => .done false c

/-- Items `p` between and around commas, where places may be left empty. -/
def commaPlaces (p : Parser Node) : Parser (List Node) := do
  let lists ← many (or (mark "," *> pure []) ((fun n => [n]) <$> (do
    let n ← p
    guard ((← atMark ",") || (← atMark ")") || (← atMark "]") || (← atMark "\x7d"))
    pure n)))
  pure lists.flatten

def commaSep (p : Parser Node) : Parser (List Node) := do
  let head ← p
  let tail ← many (mark "," *> p)
  pure (head :: tail)

def commaList (p : Parser Node) : Parser (List Node) :=
  or (do
    let items ← commaSep p
    let _ ← maybe (mark ",")
    pure items) (pure [])

/-- The end of a statement: a semicolon, the end of the block or of the source, or a line break
before a token that cannot continue the statement. -/
def semicolon : Parser Unit :=
  or (mark ";") do
    let c ← here
    let s ← source
    if c.shape == .finish || (c.shape == .mark && c.head == "\x7d") then pure ()
    else
      guard (c.breaks && !(c.shape == .backtick) &&
        !(c.shape == .mark &&
          ("`,:;*%><=[(?^|&/".toList.any (s.is c.pos ·) || (c.head == "." || c.head == "...") ||
            (s.is c.pos '+' && c.head != "++") || (s.is c.pos '-' && c.head != "--") ||
            (s.is c.pos '!' && s.is (c.pos + 1) '='))) &&
        !(c.shape == .word && (c.head == "in" || c.head == "instanceof")))

end Parser

end SiteSurvey.Script
