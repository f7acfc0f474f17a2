import SiteSurvey.Proofs.Script.Template
import SiteSurvey.Request.Extract

set_option autoImplicit false

namespace SiteSurvey.Script

section Marks

/-- The offsets of a text at which a placeholder stands. -/
def marks (t : Text) : List Nat :=
  (List.range t.length).filter fun i => Request.placeholder.isPrefixOf (t.drop i)

def endsClear (t : Text) : Bool :=
  (t.reverse.takeWhile (·.is '\\')).length % 2 == 0

def isBare (t : Text) (i : Nat) : Bool :=
  endsClear (t.take i)

-- The marks in one pass, each with whether it is bare. `clear` is what is known of the text before.
def marksFrom (offset : Nat) (clear : Bool) : Text → List (Nat × Bool)
  | [] => []
  | c :: rest =>
      let later := marksFrom (offset + 1) (!(clear && c.is '\\')) rest
      if Request.placeholder.isPrefixOf (c :: rest) then (offset, clear) :: later else later

theorem endsClear_concat (before : Text) (c : CodePoint) :
    endsClear (before ++ [c]) = !(endsClear before && c.is '\\') := by
  rw [endsClear, endsClear, List.reverse_concat, List.takeWhile_cons]
  cases c.is '\\' with
  | false => simp
  | true =>
    simp only [if_true, List.length_cons, Bool.and_true]
    rw [Bool.eq_iff_iff]
    simp only [beq_iff_eq, Bool.not_eq_true', beq_eq_false_iff_ne]
    omega

theorem marksFrom_eq (before t : Text) : marksFrom before.length (endsClear before) t =
    ((List.range' before.length t.length).filter fun i => Request.placeholder.isPrefixOf ((before ++ t).drop i)).map
      fun i => (i, isBare (before ++ t) i) := by
  induction t generalizing before with
  | nil => simp [marksFrom]
  | cons c rest ih =>
    have later := ih (before ++ [c])
    have here : isBare (before ++ c :: rest) before.length = endsClear before := by simp [isBare]
    rw [List.append_assoc, List.singleton_append, List.length_append, List.length_singleton, endsClear_concat] at later
    rw [marksFrom, List.length_cons, List.range'_succ, List.filter_cons, List.drop_left, later]
    split
    next => rw [List.map_cons, here]
    next => rfl

theorem map_marks (t : Text) : (marks t).map (fun i => (i, isBare t i)) = marksFrom 0 true t := by
  have whole := marksFrom_eq [] t
  rw [List.nil_append] at whole
  rw [marks, List.range_eq_range']
  exact whole.symm

theorem marks_bare (t : Text) (bare : Bool) :
    (marks t).filter (fun i => isBare t i == bare) = ((marksFrom 0 true t).filter fun m => m.2 == bare).map (·.1) := by
  rw [← map_marks, List.filter_map, List.map_map]
  simp [Function.comp_def]

end Marks

section Parts

def braces : List Char :=
  ['\x7b', '\x7d']

theorem placeholder_eq : Request.placeholder = CodePoint.ofChar '$' :: Text.ofChars braces := by
  decide

def skeletonOf (parts : List Node) : Text :=
  parts.flatMap (skeletonPart Request.placeholder)

def isHole (part : Node) : Bool :=
  part.kind == .templateSubstitution

/-- A dollar behind a backslash, before a stretch of text that starts with braces. -/
def isDisguise (part : Node) (rest : List Node) : Bool :=
  part.kind == .escapeSequence && part.text.toList == ['\\', '$'] &&
    rest.head?.any fun next => next.kind == .stringFragment && braces.isPrefixOf next.text.toList

/-- The offsets in a skeleton at which its substitutions stand. -/
def holesFrom (offset : Nat) : List Node → List Nat
  | [] => []
  | part :: rest =>
      let later := holesFrom (offset + (skeletonPart Request.placeholder part).length) rest
      if isHole part then offset :: later else later

/-- The offsets in a skeleton of the escaped dollars that look like substitutions. -/
def disguisesFrom (offset : Nat) : List Node → List Nat
  | [] => []
  | part :: rest =>
      let later := disguisesFrom (offset + (skeletonPart Request.placeholder part).length) rest
      if isDisguise part rest then (offset + 1) :: later else later

variable {part : Node} {rest parts : List Node}

theorem skeletonOf_cons : skeletonOf (part :: rest) = skeletonPart Request.placeholder part ++ skeletonOf rest :=
  List.flatMap_cons

theorem length_holesFrom (offset : Nat) (parts : List Node) :
    (holesFrom offset parts).length = parts.countP isHole := by
  induction parts generalizing offset with
  | nil => rfl
  | cons part rest ih =>
    rw [holesFrom, List.countP_cons]
    split
    next => rw [List.length_cons, ih]
    next => rw [ih, Nat.add_zero]

-- A stretch of text and an escape are both kept as they are written.
theorem skeletonPart_text (kind : part.kind = .stringFragment ∨ part.kind = .escapeSequence) :
    skeletonPart Request.placeholder part = Text.ofChars part.text.toList := by
  rw [skeletonPart]
  rcases kind with kind | kind
  · rw [kind]
    rfl
  · rw [kind]
    rfl

theorem length_skeletonPart (kind : part.kind = .stringFragment ∨ part.kind = .escapeSequence) :
    (skeletonPart Request.placeholder part).length = part.text.toList.length := by
  rw [skeletonPart_text kind, Text.ofChars, List.length_map]

theorem skeletonPart_hole (kind : part.kind = .templateSubstitution) :
    skeletonPart Request.placeholder part = Request.placeholder := by
  rw [skeletonPart, kind]

theorem ofChar_beq_ofChar (c d : Char) : (CodePoint.ofChar c == CodePoint.ofChar d) = (c == d) := by
  rw [← CodePoint.is_ofChar, Bool.eq_iff_iff, beq_iff_eq, CodePoint.is_iff]

theorem isPrefixOf_ofChar (c : Char) (rest : Text) : Request.placeholder.isPrefixOf (CodePoint.ofChar c :: rest) =
    (c == '$' && (Text.ofChars braces).isPrefixOf rest) := by
  rw [placeholder_eq, List.isPrefixOf, ofChar_beq_ofChar, BEq.comm]

theorem marksFrom_ofChar (offset : Nat) (clear : Bool) (c : Char) (rest : Text) :
    marksFrom offset clear (CodePoint.ofChar c :: rest) =
      (if c = '$' ∧ (Text.ofChars braces).isPrefixOf rest then [(offset, clear)] else []) ++
        marksFrom (offset + 1) (!(clear && c == '\\')) rest := by
  rw [marksFrom, isPrefixOf_ofChar, CodePoint.is_ofChar]
  simp only [Bool.and_eq_true, beq_iff_eq]
  split <;> rfl

theorem not_braces_of_head {rest : Text} (ends : rest.head? ≠ some (CodePoint.ofChar '\x7b')) :
    (Text.ofChars braces).isPrefixOf rest = false := by
  cases rest with
  | nil => rfl
  | cons c rest =>
    have other : CodePoint.ofChar '\x7b' ≠ c := fun same => ends (by rw [same]; rfl)
    simp [Text.ofChars, braces, List.isPrefixOf, other]

-- A text in which no placeholder can start and that leaves nothing open for what follows it.
theorem marksFrom_plain {cs : List Char} {rest : Text} (offset : Nat) (plain : '\\' ∉ cs)
    (closed : ¬['$', '\x7b'] <:+: cs) (ends : '$' ∈ cs → rest.head? ≠ some (CodePoint.ofChar '\x7b')) :
    marksFrom offset true (Text.ofChars cs ++ rest) = marksFrom (offset + cs.length) true rest := by
  induction cs generalizing offset with
  | nil => rfl
  | cons c cs ih =>
    have unmarked : ¬(c = '$' ∧ (Text.ofChars braces).isPrefixOf (Text.ofChars cs ++ rest) = true) := by
      rintro ⟨rfl, opened⟩
      suffices other : (Text.ofChars cs ++ rest).head? ≠ some (CodePoint.ofChar '\x7b') by
        simp [not_braces_of_head other] at opened
      cases cs with
      | nil => exact ends List.mem_cons_self
      | cons d cs =>
        intro same
        obtain rfl : d = '\x7b' := by simpa [CodePoint.is_ofChar] using CodePoint.is_iff.mpr (Option.some.inj same)
        exact closed ⟨[], cs, rfl⟩
    have other : (c == '\\') = false := by
      rw [beq_eq_false_iff_ne]
      exact fun same => plain (same ▸ List.mem_cons_self)
    have later := ih (offset + 1) (fun found => plain (List.mem_cons_of_mem c found))
      (fun found => closed (found.trans (List.suffix_cons c cs).isInfix))
      (fun found => ends (List.mem_cons_of_mem c found))
    rw [Text.ofChars_cons, List.cons_append, marksFrom_ofChar, if_neg unmarked, other]
    simp only [Bool.and_false, Bool.not_false, List.nil_append]
    rw [later, List.length_cons]
    congr 1
    omega

theorem plain_of_all {p : Char → Bool} {cs : List Char} (all : cs.all p = true) (slash : p '\\' = false)
    (dollar : p '$' = false) : ∀ d ∈ cs, d ≠ '\\' ∧ d ≠ '$' := by
  intro d found
  have fits := List.all_eq_true.mp all d found
  constructor <;> rintro rfl <;> simp_all

theorem escape_shape {escape : List Char} (cut : Escape escape []) : ∃ c more, escape = '\\' :: c :: more ∧
    (c = '$' → more = []) ∧ ∀ d ∈ more, d ≠ '\\' ∧ d ≠ '$' := by
  cases cut with
  | single other ends => exact ⟨_, [], rfl, fun _ => rfl, by simp⟩
  | carriage lineBreak =>
    exact ⟨_, [_], rfl, by simp, plain_of_all (p := isBreak) (by simp [lineBreak]) (by decide) (by decide)⟩
  | octal nonempty few digit ends =>
    obtain ⟨c, more, rfl⟩ := List.exists_cons_of_ne_nil nonempty
    have apart := plain_of_all digit (by decide) (by decide)
    exact ⟨c, more, rfl, fun dollar => absurd dollar (apart c List.mem_cons_self).2,
      fun d found => apart d (List.mem_cons_of_mem c found)⟩
  | hex two digit => exact ⟨_, _, rfl, by simp, plain_of_all digit (by decide) (by decide)⟩
  | unicode four digit => exact ⟨_, _, rfl, by simp, plain_of_all digit (by decide) (by decide)⟩
  | braced nonempty digit =>
    refine ⟨_, _, rfl, by simp, ?_⟩
    refine plain_of_all (p := fun d => isHexDigit d || d == '\x7b' || d == '\x7d') ?_ (by decide) (by decide)
    simp only [List.all_eq_true] at digit
    simp +contextual [digit]

theorem marksFrom_escape {escape : List Char} (offset : Nat) (cut : Escape escape []) (rest : Text) :
    marksFrom offset true (Text.ofChars escape ++ rest) =
      (if escape = ['\\', '$'] ∧ (Text.ofChars braces).isPrefixOf rest then [(offset + 1, false)] else []) ++
        marksFrom (offset + escape.length) true rest := by
  obtain ⟨c, more, rfl, alone, apart⟩ := escape_shape cut
  have slash : '\\' ∉ more := fun found => (apart _ found).1 rfl
  have dollar : '$' ∉ more := fun found => (apart _ found).2 rfl
  have later : marksFrom _ true (Text.ofChars more ++ rest) = _ := marksFrom_plain (offset + 1 + 1) slash
    (fun found => dollar (found.subset List.mem_cons_self)) (fun found => absurd found dollar)
  -- The backslash takes hold of the next character only, so the text is clear again behind the two.
  have same : (c = '$' ∧ (Text.ofChars braces).isPrefixOf (Text.ofChars more ++ rest) = true) ↔
      ('\\' :: c :: more = ['\\', '$'] ∧ (Text.ofChars braces).isPrefixOf rest = true) := by
    constructor
    · rintro ⟨rfl, found⟩
      obtain rfl := alone rfl
      exact ⟨rfl, found⟩
    · rintro ⟨whole, found⟩
      obtain ⟨rfl, rfl⟩ : c = '$' ∧ more = [] := by simpa using whole
      exact ⟨rfl, found⟩
  have first (rest : Text) :
      marksFrom offset true (CodePoint.ofChar '\\' :: rest) = marksFrom (offset + 1) false rest := by
    rw [marksFrom_ofChar, if_neg (fun found => absurd found.1 (by decide))]
    rfl
  rw [Text.ofChars_cons, Text.ofChars_cons, List.cons_append, List.cons_append, first, marksFrom_ofChar, Bool.false_and,
    Bool.not_false, later, List.length_cons, List.length_cons]
  simp only [same]
  congr 2
  omega

theorem marksFrom_hole (offset : Nat) (rest : Text) : marksFrom offset true (Request.placeholder ++ rest) =
    (offset, true) :: marksFrom (offset + Request.placeholder.length) true rest := by
  simp [placeholder_eq, braces, Text.ofChars, marksFrom_ofChar, List.isPrefixOf]

namespace Laid

theorem head_skeletonOf (laid : Laid parts) (ends : ∀ next ∈ parts.head?, next.kind ≠ .stringFragment) :
    ∀ c ∈ (skeletonOf parts).head?, c = CodePoint.ofChar '\\' ∨ c = CodePoint.ofChar '$' := by
  cases laid with
  | done => simp [skeletonOf]
  | fragment kind => exact absurd kind (ends _ rfl)
  | escape kind escape laid =>
    obtain ⟨c, more, shape, _⟩ := escape_shape escape
    rw [skeletonOf_cons, skeletonPart_text (.inr kind), shape]
    simp [Text.ofChars_cons]
  | hole kind laid =>
    rw [skeletonOf_cons, skeletonPart_hole kind, placeholder_eq]
    simp

theorem braces_isPrefixOf (laid : Laid parts) : (Text.ofChars braces).isPrefixOf (skeletonOf parts) =
    parts.head?.any fun next => next.kind == .stringFragment && braces.isPrefixOf next.text.toList := by
  cases laid with
  | done => rfl
  | @fragment part rest kind plain closed ends laid =>
    -- Braces that are cut in two would need a stretch right behind the first one.
    have apart := laid.head_skeletonOf ends
    rw [skeletonOf_cons, skeletonPart_text (.inl kind)]
    simp only [List.head?_cons, Option.any_some, kind, beq_self_eq_true, Bool.true_and]
    rcases part.text.toList with _ | ⟨c, _ | ⟨d, more⟩⟩
    · refine not_braces_of_head fun opened => ?_
      exact absurd (apart _ opened) (by decide)
    · cases follows : skeletonOf rest with
      | nil => simp [braces, Text.ofChars, List.isPrefixOf]
      | cons e more =>
        have other : CodePoint.ofChar '\x7d' ≠ e := by
          rintro rfl
          rw [follows] at apart
          exact absurd (apart _ rfl) (by decide)
        simp [braces, Text.ofChars, List.isPrefixOf, other]
    · simp [braces, Text.ofChars, List.isPrefixOf, ofChar_beq_ofChar]
  | @escape part rest kind escape laid =>
    have apart := (Laid.escape kind escape laid).head_skeletonOf (by simp [kind])
    rw [not_braces_of_head fun opened => absurd (apart _ opened) (by decide)]
    simp [kind]
  | @hole part rest kind laid =>
    have apart := (Laid.hole kind laid).head_skeletonOf (by simp [kind])
    rw [not_braces_of_head fun opened => absurd (apart _ opened) (by decide)]
    simp [kind]

/-- The bare marks of a skeleton are its substitutions, and the others its disguises. -/
theorem marks_skeletonOf (laid : Laid parts) (offset : Nat) :
    ((marksFrom offset true (skeletonOf parts)).filter fun m => m.2 == true).map (·.1) = holesFrom offset parts ∧
      ((marksFrom offset true (skeletonOf parts)).filter fun m => m.2 == false).map (·.1) =
        disguisesFrom offset parts := by
  induction laid generalizing offset with
  | done => exact ⟨rfl, rfl⟩
  | @fragment part rest kind plain closed ends laid ih =>
    have apart := laid.head_skeletonOf ends
    have passed := marksFrom_plain offset plain closed fun _ opened => absurd (apart _ opened) (by decide)
    rw [skeletonOf_cons, skeletonPart_text (.inl kind), passed, holesFrom, disguisesFrom,
      length_skeletonPart (.inl kind)]
    simpa [isHole, isDisguise, kind] using ih _
  | @escape part rest kind escape laid ih =>
    have same : isDisguise part rest = true ↔
        part.text.toList = ['\\', '$'] ∧ (Text.ofChars braces).isPrefixOf (skeletonOf rest) = true := by
      rw [laid.braces_isPrefixOf, isDisguise]
      simp [kind]
    have later := ih (offset + part.text.toList.length)
    rw [skeletonOf_cons, skeletonPart_text (.inr kind), marksFrom_escape offset escape, holesFrom, disguisesFrom,
      length_skeletonPart (.inr kind)]
    simp only [← same]
    split <;> simpa [isHole, kind] using later
  | @hole part rest kind laid ih =>
    have later := ih (offset + Request.placeholder.length)
    rw [skeletonOf_cons, skeletonPart_hole kind, marksFrom_hole, holesFrom, disguisesFrom, skeletonPart_hole kind]
    simpa [isHole, isDisguise, kind] using later

end Laid

theorem skeletonOf_operands (n : Node) :
    n.children.flatMap (skeletonPart Request.placeholder) = skeletonOf n.operands := by
  rw [Node.operands, skeletonOf]
  induction n.children with
  | nil => rfl
  | cons part rest ih =>
    rw [List.flatMap_cons, List.filter_cons, ih]
    split
    next => rw [List.flatMap_cons]
    next remark =>
      have kind : part.kind = .comment := by simpa [Node.isRemark] using remark
      rw [skeletonPart, kind, List.nil_append]

theorem countP_operands (n : Node) : n.operands.countP isHole = n.children.countP isHole := by
  rw [Node.operands, List.countP_filter]
  refine List.countP_congr fun part _ => ?_
  simp +contextual [isHole, Node.isRemark]

end Parts

/-- The placeholders of a skeleton that stand behind an even number of backslashes are those of its substitutions, in
their places. Any other one is an escaped dollar before a stretch of text that starts with braces. Every template that
is read from a source is laid out so, whatever comments are put into it. -/
theorem skeleton?_marks (n : Node) :
    (n.kind = .templateString → Laid n.operands → ∃ t, skeleton? Request.placeholder n = some t ∧
      (marks t).filter (isBare t) = holesFrom 0 n.operands ∧
      (marks t).filter (fun i => !isBare t i) = disguisesFrom 0 n.operands ∧
      (marks t).length = n.children.countP isHole + (disguisesFrom 0 n.operands).length) ∧
    ∀ (inner : Inner) (s : Source) (c c' : Cursor) (m : Node) (remarks : List Node),
      Grammar.template inner s c = .done m c' → (∀ r ∈ remarks, r.isRemark = true) → n.kind = m.kind →
        n.children = Node.placeAmong remarks m.children → n.kind = .templateString ∧ Laid n.operands := by
  constructor
  · intro kind laid
    obtain ⟨holes, disguises⟩ := laid.marks_skeletonOf 0
    rw [← marks_bare] at holes disguises
    simp only [beq_true, beq_false] at holes disguises
    refine ⟨skeletonOf n.operands, ?_, holes, disguises, ?_⟩
    · rw [skeleton?, kind, skeletonOf_operands]
      rfl
    · rw [← countP_operands, ← length_holesFrom 0, ← holes, ← disguises]
      exact List.length_eq_length_filter_add _
  · intro inner s c c' m remarks read all kinds children
    obtain ⟨kind, laid⟩ := Grammar.laid_template inner s c m c' read
    refine ⟨kinds.trans kind, ?_⟩
    have whole : m.operands = m.children :=
      List.filter_eq_self.mpr fun part found => by simp [laid.not_remark part found]
    have placed := laid_placeRemarks all (whole ▸ laid)
    cases m
    rwa [Node.operands, children]

section Samples

def mixedSource : Source :=
  .ofString .javascript "`\\$\x7b\x7d$\x7b1\x7d`"

def mixedTemplate : Node :=
  .node .templateString none 0 10 0 "" false
    [.node .escapeSequence none 1 3 0 "\\$" false [], .node .stringFragment none 3 5 0 "\x7b\x7d" false [],
      .node .templateSubstitution none 5 9 0 "" false [.node .number none 7 8 0 "1" false []]]

def mixedSkeleton : Text :=
  "\\$\x7b\x7d$\x7b\x7d"

-- An escaped dollar before braces, and a substitution.
theorem skeleton?_of_mixed :
    (∃ c', Grammar.template (fun _ => Grammar.number) mixedSource (Parser.first mixedSource) = .done mixedTemplate c') ∧
      mixedTemplate.kind = .templateString ∧ Laid mixedTemplate.operands ∧
      skeleton? Request.placeholder mixedTemplate = some mixedSkeleton ∧
      (marks mixedSkeleton).filter (isBare mixedSkeleton) = [4] ∧
      (marks mixedSkeleton).filter (fun i => !isBare mixedSkeleton i) = [1] ∧ (marks mixedSkeleton).length = 2 := by
  obtain ⟨c', done⟩ : ∃ c', Grammar.template (fun _ => Grammar.number) mixedSource (Parser.first mixedSource) =
      .done mixedTemplate c' := ⟨_, rfl⟩
  obtain ⟨shown, reading⟩ := skeleton?_marks mixedTemplate
  obtain ⟨kind, laid⟩ := reading _ mixedSource _ c' mixedTemplate [] done (by simp) rfl rfl
  obtain ⟨t, value, holes, disguises, length⟩ := shown kind laid
  obtain rfl : mixedSkeleton = t := Option.some.inj value
  exact ⟨⟨c', done⟩, kind, laid, value, holes, disguises, length⟩

def escapedSource : Source :=
  .ofString .javascript "`\\$\x7b\x7d`"

-- A template without substitutions may hold a placeholder.
theorem skeleton?_of_escaped : ∃ n c',
    Grammar.template (fun _ => Grammar.number) escapedSource (Parser.first escapedSource) = .done n c' ∧
      n.children.countP isHole = 0 ∧ skeleton? Request.placeholder n = some (Text.ofString "\\$\x7b\x7d") ∧
      marks (Text.ofString "\\$\x7b\x7d") = [1] :=
  ⟨_, _, rfl, rfl, rfl, by decide⟩

end Samples

end SiteSurvey.Script
