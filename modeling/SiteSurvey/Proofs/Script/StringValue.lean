import SiteSurvey.Proofs.Script.Escape

set_option autoImplicit false

namespace SiteSurvey.Script

section Literal

def sourceOf (parts : List Node) : List Char :=
  parts.flatMap fun part => part.text.toList

/-- The parts of a literal between its quotes: stretches of characters that stand for themselves, and escapes. -/
inductive Cut : List Node → Prop
  | done : Cut []
  | fragment {part : Node} {rest : List Node} (kind : part.kind = .stringFragment)
      (plain : ∀ c ∈ part.text.toList, isPlain c = true) (cut : Cut rest) : Cut (part :: rest)
  | escape {part : Node} {rest : List Node} (kind : part.kind = .escapeSequence)
      (escape : Escape part.text.toList (sourceOf rest)) (cut : Cut rest) : Cut (part :: rest)

def unitsOf (parts : List Node) : List UInt16 :=
  Text.units (parts.flatMap fragmentValue)

variable {part : Node} {rest parts : List Node}

theorem sourceOf_cons : sourceOf (part :: rest) = part.text.toList ++ sourceOf rest :=
  List.flatMap_cons

theorem unitsOf_fragment (kind : part.kind = .stringFragment) :
    unitsOf (part :: rest) = (Text.ofChars part.text.toList).units ++ unitsOf rest := by
  rw [unitsOf, List.flatMap_cons, Text.units_append, fragmentValue, kind]
  rfl

theorem unitsOf_escape (kind : part.kind = .escapeSequence) :
    unitsOf (part :: rest) = (decodeEscape part.text.toList).units ++ unitsOf rest := by
  rw [unitsOf, List.flatMap_cons, Text.units_append, fragmentValue, kind]
  rfl

theorem not_prefix_of_longer {read before : List UInt16} (nonempty : before ≠ []) : ¬before ++ read <+: read := by
  intro part
  have fits := part.length_le
  have more := List.length_pos_iff.mpr nonempty
  rw [List.length_append] at fits
  omega

theorem not_prefix_of_apart {read meant : List UInt16} (before : List UInt16) (apart : ¬read <:+: meant) :
    ¬before ++ read <+: meant := fun part =>
  apart ((List.suffix_append before read).isInfix.trans part.isInfix)

-- The lists as far as they have been read and meant: if the one is ahead after a part, it is ahead of all that follows.
theorem ahead_of_append {read meant before later more : List UInt16} (short : ¬before ++ read <+: meant)
    (same : meant ++ later = before ++ (read ++ more)) : ∃ left, left ≠ [] ∧ later = left ++ more := by
  rw [← List.append_assoc] at same
  rcases List.append_eq_append_iff.mp same with ⟨left, split, after⟩ | ⟨left, split, _⟩
  · refine ⟨left, ?_, after⟩
    rintro rfl
    rw [List.append_nil] at split
    exact short (split ▸ List.prefix_refl _)
  · exact absurd ⟨left, split.symm⟩ short

theorem map_ne_of_ahead {read meant before more : List UInt16} {later : Option (List UInt16)}
    (short : ¬before ++ read <+: meant) (behind : ∀ left ≠ [], later ≠ some (left ++ more)) :
    later.map (meant ++ ·) ≠ some (before ++ (read ++ more)) := by
  intro same
  obtain ⟨units, found, whole⟩ := Option.map_eq_some_iff.mp same
  obtain ⟨left, nonempty, rfl⟩ := ahead_of_append short whole
  exact behind left nonempty found

/-- What has been read too much is never made up for. -/
theorem Cut.ne_ahead (cut : Cut parts) :
    ∀ before ≠ [], literalUnits? (sourceOf parts) ≠ some (before ++ unitsOf parts) := by
  induction cut with
  | done => simp [sourceOf, unitsOf, Text.units]
  | fragment kind plain cut ih =>
    intro before nonempty
    rw [sourceOf_cons, unitsOf_fragment kind, literalUnits?_fragment plain]
    exact map_ne_of_ahead (not_prefix_of_longer nonempty) ih
  | escape kind escape cut ih =>
    intro before nonempty
    rw [sourceOf_cons, unitsOf_escape kind]
    cases compared_of_escape escape with
    | settled _ meant =>
      rw [meant]
      exact map_ne_of_ahead (not_prefix_of_longer nonempty) ih
    | amiss _ units apart meant =>
      rw [meant]
      exact map_ne_of_ahead (not_prefix_of_apart before apart) ih
    | void _ meant =>
      rw [meant]
      simp

theorem map_append_eq_iff {units more : List UInt16} {later : Option (List UInt16)} :
    later.map (units ++ ·) = some (units ++ more) ↔ later = some more := by
  simp [Option.map_eq_some_iff]

theorem Cut.units_iff (cut : Cut parts) : literalUnits? (sourceOf parts) = some (unitsOf parts) ↔
    ∀ part ∈ parts, part.kind = .escapeSequence → isSettled part.text.toList = true := by
  induction cut with
  | done => simp [sourceOf, unitsOf, Text.units]
  | fragment kind plain cut ih =>
    rw [sourceOf_cons, unitsOf_fragment kind, literalUnits?_fragment plain, map_append_eq_iff, ih]
    simp [kind]
  | escape kind escape cut ih =>
    rw [sourceOf_cons, unitsOf_escape kind, List.forall_mem_cons]
    cases compared_of_escape escape with
    | settled is meant =>
      rw [meant, map_append_eq_iff, ih]
      simp [is]
    | amiss is units apart meant =>
      have differs := map_ne_of_ahead (not_prefix_of_apart [] apart) cut.ne_ahead
      rw [List.nil_append] at differs
      simp [meant, differs, kind, is]
    | void is meant => simp [meant, kind, is]

end Literal

namespace Source

variable {s : Source} {i : Nat}

def after (s : Source) (i : Nat) : List Char :=
  s.chars.toList.drop i

theorem after_add (k : Nat) : s.after (i + k) = (s.after i).drop k := by
  simp [after]

theorem get?_add (k : Nat) : s.get? (i + k) = (s.after i)[k]? := by
  simp [get?, after]

theorem get?_eq_head? : s.get? i = (s.after i).head? := by
  simp [get?, after]

theorem test_add (k : Nat) (p : Char → Bool) : s.test (i + k) p = (s.after i)[k]?.any p := by
  have here : s.chars[i + k]? = (s.after i)[k]? := get?_add k
  rw [test, here]
  cases (s.after i)[k]? <;> rfl

theorem test_eq_head? (p : Char → Bool) : s.test i p = (s.after i)[0]?.any p :=
  test_add 0 p

theorem is_add (k : Nat) (c : Char) : s.is (i + k) c = (s.after i)[k]?.any (· == c) :=
  test_add k _

theorem is_eq_head? (c : Char) : s.is i c = (s.after i)[0]?.any (· == c) :=
  test_add 0 _

theorem toList_slice (k : Nat) : (s.slice i (i + k)).toList = (s.after i).take k := by
  simp [slice, after, List.extract_eq_take_drop]

theorem skipWhile_eq (p : Char → Bool) (fuel : Nat) (enough : (s.after i).length ≤ fuel) :
    s.skipWhile p fuel i = i + ((s.after i).takeWhile p).length := by
  induction fuel generalizing i with
  | zero =>
    have nothing : s.after i = [] := List.eq_nil_of_length_eq_zero (by omega)
    simp [skipWhile, nothing]
  | succ fuel ih =>
    rw [skipWhile, test_eq_head?]
    cases rest : s.after i with
    | nil => simp
    | cons c cs =>
      have next : s.after (i + 1) = cs := by rw [after_add, rest, List.drop_one, List.tail_cons]
      by_cases fits : p c = true
      · have more := ih (i := i + 1) (by rw [next]; rw [rest] at enough; simpa using enough)
        rw [next] at more
        simp [fits, more]
        omega
      · simp [fits]

theorem spanWhile_eq (p : Char → Bool) : s.spanWhile p i = i + ((s.after i).takeWhile p).length :=
  skipWhile_eq p _ (by simp [after, size])

theorem after_spanWhile (p : Char → Bool) : s.after i = (s.after i).takeWhile p ++ s.after (s.spanWhile p i) := by
  have whole := List.takeWhile_append_dropWhile (p := p) (l := s.after i)
  rw [spanWhile_eq, after_add]
  generalize (s.after i).takeWhile p = taken at whole ⊢
  rw [← whole, List.drop_left]

theorem toList_slice_spanWhile (p : Char → Bool) :
    (s.slice i (s.spanWhile p i)).toList = (s.after i).takeWhile p := by
  rw [spanWhile_eq, toList_slice]
  exact (List.prefix_iff_eq_take.mp (List.takeWhile_prefix p)).symm

end Source

namespace Grammar

open Source

variable {s : Source} {i j : Nat}

/-- An escape stands between two offsets, whatever is taken of the source after it. -/
def EscapeAt (s : Source) (i j : Nat) : Prop :=
  ∃ escape, s.after i = escape ++ s.after j ∧ j = i + escape.length ∧
    ∀ rest, rest <+: s.after j → Escape escape rest

theorem escapeAt_of {left : List Char} (escape : List Char) (whole : s.after i = escape ++ left)
    (stop : j = i + escape.length)
    (cut : ∀ rest, rest <+: left → Escape escape rest) : EscapeAt s i j := by
  subst stop
  have rest : s.after (i + escape.length) = left := by rw [after_add, whole, List.drop_left]
  exact ⟨escape, by rw [rest, whole], rfl, by rwa [rest]⟩

theorem cons_of_any {p : Char → Bool} {cs : List Char} (found : cs[0]?.any p = true) :
    ∃ c rest, cs = c :: rest ∧ p c = true := by
  cases cs with
  | nil => simp at found
  | cons c rest => exact ⟨c, rest, rfl, by simpa using found⟩

theorem getElem?_zero_of_leading {rest left : List Char} (part : rest <+: left) {d : Char} (first : d ∈ rest.head?) :
    left[0]? = some d := by
  obtain ⟨more, rfl⟩ := part
  cases rest with
  | nil => simp at first
  | cons c rest => simpa using first

-- An escape that ends where the test of the next character fails.
theorem not_of_prefix {p : Char → Bool} {rest left : List Char} (part : rest <+: left)
    (fails : ¬left[0]?.any p = true) : ∀ d ∈ rest.head?, p d = false := by
  intro d first
  rw [getElem?_zero_of_leading part first] at fails
  simpa using fails

theorem escapeAt_braced {more : List Char} (here : s.after i = '\\' :: 'u' :: '\x7b' :: more)
    (nonempty : i + 3 < s.spanWhile isHexDigit (i + 3))
    (close : s.is (s.spanWhile isHexDigit (i + 3)) '\x7d' = true) :
    EscapeAt s i (s.spanWhile isHexDigit (i + 3) + 1) := by
  have inside : s.after (i + 3) = more := by simp [after_add, here]
  have whole := after_spanWhile (s := s) (i := i + 3) isHexDigit
  have span := spanWhile_eq (s := s) (i := i + 3) isHexDigit
  rw [is_eq_head?] at close
  obtain ⟨c, left, rest, same⟩ := cons_of_any close
  obtain rfl : c = '\x7d' := by simpa using same
  rw [inside] at span
  rw [rest, inside] at whole
  have digits : more.takeWhile isHexDigit ≠ [] := List.length_pos_iff.mp (by omega)
  have braces : s.after i = ('\\' :: 'u' :: '\x7b' :: (more.takeWhile isHexDigit ++ ['\x7d'])) ++ left := by
    rw [here]
    simpa using whole
  refine escapeAt_of _ braces ?_ ?_
  · simp only [List.length_cons, List.length_append, List.length_nil]
    omega
  · exact fun _ _ => .braced digits List.all_takeWhile

theorem escapeAt_octal {c : Char} {more : List Char} (here : s.after i = '\\' :: c :: more)
    (digit : isOctalDigit c = true)
    (ended : (if more[0]?.any isOctalDigit = true then
      some (if more[1]?.any isOctalDigit = true then i + 4 else i + 3) else some (i + 2)) = some j) :
    EscapeAt s i j := by
  by_cases second : more[0]?.any isOctalDigit = true
  · obtain ⟨d, left, rfl, digit₂⟩ := cons_of_any second
    rw [if_pos second, Option.some.injEq, List.getElem?_cons_succ] at ended
    by_cases third : left[0]?.any isOctalDigit = true
    · obtain ⟨e, left, rfl, digit₃⟩ := cons_of_any third
      rw [if_pos third] at ended
      exact escapeAt_of ['\\', c, d, e] here ended.symm fun rest part =>
        .octal (by simp) (by simp) (by simp [digit, digit₂, digit₃]) (by simp)
    · rw [if_neg third] at ended
      exact escapeAt_of ['\\', c, d] here ended.symm fun rest part =>
        .octal (by simp) (by simp) (by simp [digit, digit₂]) fun _ => not_of_prefix part third
  · rw [if_neg second, Option.some.injEq] at ended
    exact escapeAt_of ['\\', c] here ended.symm fun rest part =>
      .octal (by simp) (by simp) (by simp [digit]) fun _ => not_of_prefix part second

theorem escapeAt_of_escapeEnd {body : List Char} (here : s.after i = '\\' :: body)
    (ended : escapeEnd s i = some j) : EscapeAt s i j := by
  unfold escapeEnd at ended
  simp only [get?_add, is_add, test_add, here, List.getElem?_cons_succ] at ended
  cases body with
  | nil => simp at ended
  | cons c more =>
    simp only [List.getElem?_cons_zero, List.getElem?_cons_succ] at ended
    split at ended
    next absent => cases absent
    next same =>
      cases same
      split at ended
      next digits =>
        rw [Bool.and_eq_true] at digits
        obtain ⟨a, left, rfl, first⟩ := cons_of_any digits.1
        obtain ⟨b, left, rfl, second⟩ := cons_of_any digits.2
        cases ended
        exact escapeAt_of ['\\', 'x', a, b] here rfl fun _ _ =>
          .hex rfl (by simp [first, second])
      next => cases ended
    next same =>
      cases same
      split at ended
      next opened =>
        obtain ⟨d, left, rfl, same⟩ := cons_of_any opened
        obtain rfl : d = '\x7b' := by simpa using same
        split at ended
        next closed =>
          rw [Bool.and_eq_true, decide_eq_true_eq] at closed
          cases ended
          exact escapeAt_braced here closed.1 closed.2
        next => cases ended
      next =>
        split at ended
        next digits =>
          simp only [Bool.and_eq_true] at digits
          obtain ⟨⟨⟨one, two⟩, three⟩, four⟩ := digits
          obtain ⟨a, left, rfl, first⟩ := cons_of_any one
          obtain ⟨b, left, rfl, second⟩ := cons_of_any two
          obtain ⟨c, left, rfl, third⟩ := cons_of_any three
          obtain ⟨d, left, rfl, fourth⟩ := cons_of_any four
          cases ended
          exact escapeAt_of ['\\', 'u', a, b, c, d] here rfl fun _ _ =>
            .unicode rfl (by simp [first, second, third, fourth])
        next => cases ended
    next same =>
      cases same
      cases ended
      by_cases lineBreak : more[0]?.any isBreak = true
      · obtain ⟨d, left, rfl, break_⟩ := cons_of_any lineBreak
        rw [if_pos lineBreak]
        exact escapeAt_of ['\\', '\r', d] here rfl fun _ _ => .carriage break_
      · rw [if_neg lineBreak]
        exact escapeAt_of ['\\', '\r'] here rfl fun rest part =>
          .single (by decide) fun _ => not_of_prefix part lineBreak
    next c' notX notU notR same =>
      cases same
      by_cases octal : isOctalDigit c = true
      · rw [if_pos octal] at ended
        exact escapeAt_octal here octal ended
      · rw [if_neg octal] at ended
        cases ended
        have apart : c ≠ 'x' ∧ c ≠ 'u' ∧ isOctalDigit c = false :=
          ⟨fun x => notX (by rw [x]), fun u => notU (by rw [u]), by simpa using octal⟩
        exact escapeAt_of ['\\', c] here rfl fun rest part =>
          .single apart fun r => absurd (by rw [r]) notR

theorem toList_text_leafOf (kind : Kind) (k : Nat) : (leafOf s kind i (i + k)).text.toList = (s.after i).take k :=
  toList_slice k

theorem cut_quotedParts {quote : Char} {fuel : Nat} {acc : Array Node} {parts : List Node}
    (read : quotedParts s quote fuel i acc = some (parts, j)) :
    ∃ new, parts = acc.toList ++ new ∧ Cut new ∧ s.after i = sourceOf new ++ s.after j := by
  induction fuel generalizing i acc with
  | zero => cases read
  | succ fuel ih =>
    rw [quotedParts, get?_eq_head?] at read
    cases rest : s.after i with
    | nil => simp [rest] at read
    | cons c more =>
      simp only [rest, List.head?_cons] at read
      split at read
      next =>
        cases read
        exact ⟨[], by simp, .done, by simp [sourceOf, rest]⟩
      next other =>
        split at read
        next backslash =>
          obtain rfl : c = '\\' := by simpa using backslash
          split at read
          next j' ended =>
            obtain ⟨escape, whole, rfl, cut⟩ := escapeAt_of_escapeEnd rest ended
            obtain ⟨new, rfl, cuts, source⟩ := ih read
            have text : (leafOf s .escapeSequence i (i + escape.length)).text.toList = escape := by
              rw [toList_text_leafOf, whole, List.take_left]
            refine ⟨leafOf s .escapeSequence i (i + escape.length) :: new, by simp, ?_, ?_⟩
            · refine .escape rfl ?_ cuts
              rw [text]
              exact cut _ (source ▸ List.prefix_append _ _)
            · rw [sourceOf_cons, text, List.append_assoc, ← source, ← rest, whole]
          next => cases read
        next plain =>
          split at read
          next => cases read
          next lines =>
            obtain ⟨new, rfl, cuts, source⟩ := ih read
            have taken := after_spanWhile (s := s) (i := i) fun c => c != quote && c != '\\' && c != '\n' && c != '\r'
            have text := toList_slice_spanWhile (s := s) (i := i) fun c =>
              c != quote && c != '\\' && c != '\n' && c != '\r'
            refine ⟨_ :: new, by rw [Array.toList_push, List.append_assoc, List.singleton_append],
              .fragment rfl (fun d found => ?_) cuts, ?_⟩
            · have fits := List.all_eq_true.mp List.all_takeWhile d (text ▸ found)
              simp only [Bool.and_eq_true] at fits
              simp [isPlain, fits]
            · rw [sourceOf_cons, leafOf, Node.text, text, List.append_assoc, ← source, ← rest, ← taken]

/-- The parts of a string that is read make up the text between its quotes. -/
theorem cut_string {c c' : Cursor} {n : Node} (read : string s c = .done n c') :
    n.kind = .string ∧ Cut n.children ∧ ∃ close, s.after (c.pos + 1) = sourceOf n.children ++ s.after close := by
  simp only [string, bind, Parser.bind', Parser.here, Parser.source, Parser.guard] at read
  by_cases quoted : (c.shape == .quote) = true
  · rw [if_pos quoted] at read
    simp only [pure, Parser.pure'] at read
    cases found : quotedParts s ((s.get? c.pos).getD '"') (s.size - c.pos + 1) (c.pos + 1) #[] with
    | none =>
      rw [found] at read
      cases read
    | some answer =>
      obtain ⟨parts, close⟩ := answer
      obtain ⟨new, rfl, cut, source⟩ := cut_quotedParts found
      rw [found] at read
      cases read
      exact ⟨rfl, by simpa [Node.children] using cut, close, by simpa [Node.children] using source⟩
  · rw [if_neg quoted] at read
    cases read

end Grammar

/-- A string literal has the value that the language gives to its text if and only if each of its escapes is a settled
one. Two wrong escapes never make up for each other. Every string that is read from a source is such a literal, of the
text that follows its opening quote. -/
theorem stringValue?_meant_iff (n : Node) :
    (n.kind = .string → Cut n.children → ∃ t, stringValue? n = some t ∧
      (literalUnits? (sourceOf n.children) = some t.units ↔
        ∀ part ∈ n.children, part.kind = .escapeSequence → isSettled part.text.toList = true)) ∧
    ∀ (s : Source) (c c' : Cursor), Grammar.string s c = .done n c' →
      n.kind = .string ∧ Cut n.children ∧ ∃ close, s.after (c.pos + 1) = sourceOf n.children ++ s.after close := by
  refine ⟨fun kind cut => ⟨n.children.flatMap fragmentValue, ?_, cut.units_iff⟩, ?_⟩
  · simp [stringValue?, kind]
  · exact fun s c c' read => Grammar.cut_string read

section Samples

def quoteSource : Source :=
  .ofString .javascript "'a\\'b\\n'"

-- A quote and a line feed, each behind a backslash.
theorem stringValue?_of_quote : ∃ n c', Grammar.string quoteSource (Parser.first quoteSource) = .done n c' ∧
    n.kind = .string ∧ Cut n.children ∧ stringValue? n = some (Text.ofString "a'b\n") ∧
      literalUnits? (sourceOf n.children) = some (Text.ofString "a'b\n").units := by
  refine ⟨_, _, rfl, ?_⟩
  obtain ⟨meaning, reading⟩ := stringValue?_meant_iff _
  obtain ⟨kind, cut, _⟩ := reading quoteSource (Parser.first quoteSource) _ rfl
  obtain ⟨t, value, meant⟩ := meaning kind cut
  obtain rfl : Text.ofString "a'b\n" = t := Option.some.inj value
  exact ⟨kind, cut, value, meant.mpr (by decide)⟩

def solidusSource : Source :=
  .ofString .javascript "'\\/'"

-- A solidus behind a backslash means the solidus alone, but the backslash is kept.
theorem stringValue?_of_solidus : ∃ n c', Grammar.string solidusSource (Parser.first solidusSource) = .done n c' ∧
    stringValue? n = some (Text.ofString "\\/") ∧
      literalUnits? (sourceOf n.children) = some (Text.ofString "/").units ∧
      (Text.ofString "/").units ≠ (Text.ofString "\\/").units := by
  refine ⟨_, _, rfl, rfl, ?_, by decide⟩
  have escape : readEscape? ['/'] = some ((Text.ofString "/").units, []) := rfl
  have meant : literalUnits? ['\\', '/'] = some (Text.ofString "/").units := by simpa using literalUnits?_escape escape
  exact meant

end Samples

end SiteSurvey.Script
