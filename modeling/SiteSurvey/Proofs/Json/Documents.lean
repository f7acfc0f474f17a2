import SiteSurvey.Proofs.Json.RoundTrip

set_option autoImplicit false

namespace SiteSurvey

namespace Text

theorem whole_of_suffix {t u : Text} (ends : t <:+ u) (whole : u.hasSurrogate = false) : t.hasSurrogate = false := by
  rw [hasSurrogate, List.any_eq_false] at whole ⊢
  exact fun c found => whole c (ends.subset found)

theorem isUnpaired_concat {t : Text} {c : CodePoint} (unpaired : t.isUnpaired = true)
    (apart : ∀ d ∈ t.getLast?, d.isHigh = true → c.isLow = false) : isUnpaired (t ++ [c]) = true := by
  induction t with
  | nil => rfl
  | cons d t ih =>
    cases t with
    | nil =>
      cases high : d.isHigh with
      | false => simp [isUnpaired, high]
      | true => simp [isUnpaired, apart d rfl high]
    | cons e t =>
      obtain ⟨first, others⟩ := Bool.and_eq_true_iff.mp unpaired
      rw [List.cons_append, List.cons_append, isUnpaired, first, Bool.true_and]
      exact ih others fun d last => apart d (by rw [List.getLast?_cons_cons]; exact last)

end Text

namespace Json

/-- A value that some document stands for. In the document itself surrogates are only written as escapes. -/
def IsValue (v : Json) : Prop :=
  ∃ document : Text, document.hasSurrogate = false ∧ read document = .ok v

section Strings

theorem hexValue_lt {c : CodePoint} {n : Nat} (value : hexValue c = some n) : n < 16 := by
  unfold hexValue at value
  split at value
  · rename_i digit
    simp only [Bool.and_eq_true, decide_eq_true_eq] at digit
    cases value
    omega
  · split at value
    · rename_i lower
      simp only [Bool.and_eq_true, decide_eq_true_eq] at lower
      cases value
      omega
    · split at value
      · rename_i upper
        simp only [Bool.and_eq_true, decide_eq_true_eq] at upper
        cases value
        omega
      · cases value

theorem hex4_lt {t : Text} {n : Nat} (value : hex4 t = some n) : n < 0x10000 := by
  unfold hex4 at value
  split at value
  · simp only [Option.bind_eq_bind, Option.bind_eq_some_iff, Option.pure_def, Option.some.injEq] at value
    obtain ⟨a, first, b, second, c, third, d, fourth, rfl⟩ := value
    have := hexValue_lt first
    have := hexValue_lt second
    have := hexValue_lt third
    have := hexValue_lt fourth
    omega
  · cases value

theorem unicodeEscape_cases {t : Text} {offset n taken : Nat} (escape : unicodeEscape t offset = .ok (n, taken)) :
    5 ≤ t.length ∧ ((0x10000 ≤ n ∧ n < 0x110000) ∨
      (hex4 t = some n ∧ taken = 4 ∧ (0xD800 ≤ n ∧ n ≤ 0xDBFF → 6 < (t.drop 4).length → NoLow (t.drop 4)))) := by
  unfold unicodeEscape at escape
  split at escape
  · cases escape
  next long =>
    refine ⟨by omega, ?_⟩
    split at escape
    · cases escape
    next high unit =>
      dsimp only at escape
      split at escape
      next pair =>
        simp only [Bool.and_eq_true, decide_eq_true_eq] at pair
        split at escape
        · cases escape
        next low second =>
          split at escape
          next isLow =>
            simp only [Bool.and_eq_true, decide_eq_true_eq] at isLow
            rw [Except.ok.injEq, Prod.mk.injEq] at escape
            left
            omega
          next apart =>
            simp only [Bool.and_eq_true, decide_eq_true_eq] at apart
            cases escape
            exact .inr ⟨unit, rfl, fun _ _ _ => ⟨low, second, by omega⟩⟩
      -- No second escape was looked for, so one of the reasons to look for it is missing.
      next alone =>
        cases escape
        refine .inr ⟨unit, rfl, fun isHigh long opens => absurd ?_ alone⟩
        simp only [Bool.and_eq_true, decide_eq_true_eq]
        exact ⟨⟨isHigh, long⟩, opens⟩

theorem val_ofNat {n : Nat} (valid : n < 0x110000) : (CodePoint.ofNat n).val = n := by
  rw [CodePoint.ofNat, dif_pos valid]

/-- If the code point read last is the first half of a pair, no escape of a second half can be read next. -/
def Sealed (acc : List CodePoint) (t : Text) : Prop :=
  ∀ c ∈ acc.head?, c.isHigh = true → ∀ more offset n taken,
    t = CodePoint.ofChar '\\' :: CodePoint.ofChar 'u' :: more → unicodeEscape more offset = .ok (n, taken) →
      (CodePoint.ofNat n).isLow = false

theorem sealed_escape {t : Text} {offset n taken : Nat} (acc : List CodePoint)
    (escape : unicodeEscape t offset = .ok (n, taken)) : Sealed (CodePoint.ofNat n :: acc) (t.drop taken) := by
  intro c last high more offset' n' taken' shape second
  cases last
  obtain ⟨_, ⟨astral, valid⟩ | ⟨unit, rfl, alone⟩⟩ := unicodeEscape_cases escape
  · simp only [CodePoint.isHigh, val_ofNat valid, Bool.and_eq_true, decide_eq_true_eq] at high
    omega
  · have small := hex4_lt unit
    rw [CodePoint.isHigh, val_ofNat (by omega), Bool.and_eq_true, decide_eq_true_eq, decide_eq_true_eq] at high
    obtain ⟨long, value⟩ := unicodeEscape_cases second
    have room : 6 < (t.drop 4).length := by
      rw [shape, List.length_cons, List.length_cons]
      omega
    have noLow := alone high room
    rw [shape] at noLow
    obtain ⟨low, found, apart⟩ := noLow rfl
    have found : hex4 more = some low := found
    simp only [CodePoint.isLow, Bool.and_eq_false_iff, decide_eq_false_iff_not]
    rcases value with ⟨astral, valid⟩ | ⟨same, _, _⟩
    · rw [val_ofNat valid]
      omega
    · have bound := hex4_lt same
      rw [val_ofNat (by omega)]
      rw [found, Option.some.injEq] at same
      omega

theorem sealed_of_low {c : CodePoint} (low : c.isHigh = false) (acc : List CodePoint) (t : Text) :
    Sealed (c :: acc) t := by
  intro d last high
  cases last
  rw [low] at high
  cases high

theorem halves_of_whole {c : CodePoint} (whole : c.isSurrogate = false) : c.isHigh = false ∧ c.isLow = false := by
  simp only [CodePoint.isSurrogate, CodePoint.isHigh, CodePoint.isLow, Bool.and_eq_false_iff,
    decide_eq_false_iff_not] at whole ⊢
  omega

theorem isUnpaired_reverse_cons {acc : List CodePoint} {c : CodePoint} (unpaired : Text.isUnpaired acc.reverse = true)
    (apart : ∀ d ∈ acc.head?, d.isHigh = true → c.isLow = false) : Text.isUnpaired (c :: acc).reverse = true := by
  rw [List.reverse_cons]
  refine Text.isUnpaired_concat unpaired ?_
  rw [List.getLast?_reverse]
  exact apart

theorem isUnpaired_readString {opening fuel : Nat} {r r' : Rest} {acc : List CodePoint} {s : Text}
    (whole : r.text.hasSurrogate = false) (unpaired : Text.isUnpaired acc.reverse = true) (sealed : Sealed acc r.text)
    (run : readString opening fuel r acc = .ok (s, r')) : s.isUnpaired = true ∧ r'.text <:+ r.text := by
  -- The induction is on the fuel. Halves can only come from escapes, and what was read last tells whether the next
  -- escape can be a second half.
  induction fuel generalizing r acc with
  | zero => cases run
  | succ fuel ih =>
    rw [readString] at run
    split at run
    · cases run
    next c rest shape =>
      rw [shape, Text.hasSurrogate_cons, Bool.or_eq_false_iff] at whole
      rw [shape] at sealed ⊢
      split at run
      · cases run
        exact ⟨unpaired, List.suffix_cons c rest⟩
      · split at run
        next slash =>
          split at run
          · cases run
          next d more =>
            have whole' : Text.hasSurrogate more = false := by
              have both := whole.2
              rw [Text.hasSurrogate_cons, Bool.or_eq_false_iff] at both
              exact both.2
            have ends : more <:+ c :: d :: more := ⟨[c, d], rfl⟩
            split at run
            next unicode =>
              split at run
              · cases run
              next n taken escape =>
                rw [CodePoint.is_iff] at slash unicode
                subst slash unicode
                have apart : ∀ e ∈ acc.head?, e.isHigh = true → (CodePoint.ofNat n).isLow = false :=
                  fun e last high => sealed e last high _ _ _ _ rfl escape
                have dropped : more.drop taken <:+ more := List.drop_suffix taken more
                obtain ⟨good, after⟩ := ih (Text.whole_of_suffix dropped whole')
                  (isUnpaired_reverse_cons unpaired apart) (sealed_escape acc escape) run
                exact ⟨good, after.trans (dropped.trans ends)⟩
            · split at run
              · cases run
              next e _ =>
                obtain ⟨notHigh, notLow⟩ := halves_of_whole (CodePoint.isSurrogate_ofChar e)
                obtain ⟨good, after⟩ := ih whole' (isUnpaired_reverse_cons unpaired fun _ _ _ => notLow)
                  (sealed_of_low notHigh acc more) run
                exact ⟨good, after.trans ends⟩
        · split at run
          · cases run
          · obtain ⟨notHigh, notLow⟩ := halves_of_whole whole.1
            obtain ⟨good, after⟩ := ih whole.2 (isUnpaired_reverse_cons unpaired fun _ _ _ => notLow)
              (sealed_of_low notHigh acc rest) run
            exact ⟨good, after.trans (List.suffix_cons c rest)⟩

end Strings

section Numbers

theorem digitsValue_lt {ds : Text} (all : ∀ d ∈ ds, isDigit d = true) : digitsValue ds < 10 ^ ds.length := by
  induction ds with
  | nil => decide
  | cons d ds ih =>
    have digit := all d List.mem_cons_self
    simp only [isDigit, Bool.and_eq_true, decide_eq_true_eq] at digit
    have first : digitsValue [d] ≤ 9 := by
      simp only [digitsValue, List.foldl_cons, List.foldl_nil]
      omega
    have others := ih fun c found => all c (List.mem_cons_of_mem d found)
    have split := digitsValue_append [d] ds
    rw [List.singleton_append] at split
    have bound := Nat.mul_le_mul_right (10 ^ ds.length) first
    rw [split, List.length_cons, Nat.pow_succ]
    omega

theorem isDigit_wholeDigits {t : Text} : ∀ d ∈ wholeDigits t, isDigit d = true := by
  intro d found
  cases t with
  | nil => cases found
  | cons c t =>
    rw [wholeDigits] at found
    split at found
    next zero =>
      rw [List.mem_singleton.mp found, CodePoint.is_iff.mp zero]
      rfl
    next => exact List.all_eq_true.mp List.all_takeWhile d found

theorem length_digits_le {ds : Text} (all : ∀ d ∈ ds, isDigit d = true) (some_ : ds ≠ []) :
    (digits (digitsValue ds)).length ≤ ds.length := by
  rw [digits, Text.ofChars, List.length_map]
  exact (Nat.length_toDigits_le_iff (by decide) (List.length_pos_iff.mpr some_)).mpr (digitsValue_lt all)

theorem numberOf_cases (negative : Bool) (whole fraction : Text) (power : Option Int) :
    (∃ x, numberOf negative whole fraction power = .real x) ∨
      fraction = [] ∧ power = none ∧ numberOf negative whole fraction power =
        .int (if negative then -(digitsValue whole : Int) else digitsValue whole) := by
  unfold numberOf
  split
  next bare =>
    rw [Bool.and_eq_true, List.isEmpty_iff, Option.isNone_iff_eq_none] at bare
    exact .inr ⟨bare.1, bare.2, rfl⟩
  next => exact .inl ⟨_, rfl⟩

theorem readNumber_cases {r r' : Rest} {v : Json} (number : readNumber r = some (v, r')) :
    r'.text <:+ r.text ∧ ((∃ x, v = .real x) ∨
      ∃ whole, whole ≠ [] ∧ (∀ d ∈ whole, isDigit d = true) ∧
        v = .int (if r.starts "-" then -(digitsValue whole : Int) else digitsValue whole) ∧
        r'.offset = r.offset + (if r.starts "-" then 1 else 0) + whole.length) := by
  have unsigned : (if r.starts "-" then r.drop 1 else r).text <:+ r.text ∧
      (if r.starts "-" then r.drop 1 else r).offset = r.offset + if r.starts "-" then 1 else 0 := by
    split
    · exact ⟨List.drop_suffix 1 r.text, rfl⟩
    · exact ⟨List.suffix_rfl, rfl⟩
  unfold readNumber at number
  dsimp only at number
  -- From here on the sign is only known by what it leaves to be read.
  generalize (if r.starts "-" then r.drop 1 else r) = r₁ at number unsigned
  by_cases none : (wholeDigits r₁.text).isEmpty = true
  · rw [if_pos none] at number
    cases number
  have after : ∀ fraction : Text, (if fraction.isEmpty then r₁.drop (wholeDigits r₁.text).length
      else (r₁.drop (wholeDigits r₁.text).length).drop (fraction.length + 1)).text <:+ r₁.text := by
    intro fraction
    split
    · exact List.drop_suffix _ _
    · exact (List.drop_suffix _ _).trans (List.drop_suffix _ _)
  rw [if_neg none, Option.some.injEq, Prod.mk.injEq] at number
  obtain ⟨rfl, rfl⟩ := number
  refine ⟨((List.drop_suffix _ _).trans (after _)).trans unsigned.1, ?_⟩
  obtain ⟨x, broken⟩ | ⟨bare, single, value⟩ := numberOf_cases (r.starts "-") (wholeDigits r₁.text)
    (fractionDigits (r₁.drop (wholeDigits r₁.text).length).text) _
  · exact .inl ⟨x, broken⟩
  · refine .inr ⟨wholeDigits r₁.text, by simpa using none, isDigit_wholeDigits, value, ?_⟩
    rw [Option.map_eq_none_iff] at single
    rw [single, bare]
    simp only [List.isEmpty_nil, if_true, Rest.drop, Option.map_none, Option.getD_none, unsigned.2]
    omega

theorem legible_readNumber {l : Layout} {r r' : Rest} {v : Json} (number : readNumber r = some (v, r'))
    (fits : excess? r r' v = none) : Legible l v ∧ r'.text <:+ r.text := by
  obtain ⟨ends, ⟨x, rfl⟩ | ⟨whole, some_, all, rfl, offset⟩⟩ := readNumber_cases number
  · exact ⟨trivial, ends⟩
  · refine ⟨?_, ends⟩
    -- The digits of the text are counted, and those of the number are no more.
    have count : r'.offset - r.offset - (if r.starts "-" then 1 else 0) = whole.length := by omega
    have size : Int.natAbs (if r.starts "-" then -(digitsValue whole : Int) else digitsValue whole) =
        digitsValue whole := by
      split <;> omega
    rw [excess?, count] at fits
    rw [Legible, size]
    split at fits
    · cases fits
    next short => exact Nat.le_trans (length_digits_le all some_) (by omega)

end Numbers

section Values

variable {l : Layout}

theorem legibleItems_iff {items : List Json} : LegibleItems l items ↔ ∀ v ∈ items, Legible l v := by
  induction items with
  | nil => simp [LegibleItems]
  | cons v rest ih => simp [LegibleItems, ih]

theorem legibleMembers_iff {members : List (Text × Json)} :
    LegibleMembers l members ↔ ∀ m ∈ members, Keeps l.ascii m.1 ∧ Legible l m.2 := by
  induction members with
  | nil => simp [LegibleMembers]
  | cons m rest ih => simp [LegibleMembers, ih, and_assoc]

theorem mem_put {α : Type} {members : List (Text × α)} {key : Text} {value : α} {m : Text × α}
    (found : m ∈ put members key value) : m = (key, value) ∨ m ∈ members := by
  induction members with
  | nil => exact .inl (List.mem_singleton.mp found)
  | cons n rest ih =>
    rw [put] at found
    split at found
    next same =>
      rcases List.mem_cons.mp found with rfl | later
      · exact .inl (by rw [same])
      · exact .inr (List.mem_cons_of_mem n later)
    next =>
      rcases List.mem_cons.mp found with rfl | later
      · exact .inr List.mem_cons_self
      · exact (ih later).imp_right (List.mem_cons_of_mem n)

theorem legible_put {acc : List (Text × Json)} {key : Text} {v : Json} (legible : Legible l (.object acc))
    (kept : Keeps l.ascii key) (value : Legible l v) : Legible l (.object (put acc key v)) := by
  obtain ⟨distinct, all⟩ := legible
  refine ⟨?_, legibleMembers_iff.mpr fun m found => ?_⟩
  · rw [map_fst_put]
    split
    · exact distinct
    next new =>
      rw [List.nodup_append]
      refine ⟨distinct, by simp, ?_⟩
      rintro k inside _ (_ | ⟨_, ⟨⟩⟩) rfl
      exact new inside
  · rcases mem_put found with rfl | old
    · exact ⟨kept, value⟩
    · exact legibleMembers_iff.mp all m old

theorem legible_empty : Legible l (.object []) :=
  ⟨List.nodup_nil, trivial⟩

theorem skip_suffix (r : Rest) : r.skip.text <:+ r.text :=
  List.dropWhile_suffix isSpace

theorem drop_suffix (r : Rest) (n : Nat) : (r.drop n).text <:+ r.text :=
  List.drop_suffix n r.text

theorem keeps_readString {opening fuel : Nat} {r r' : Rest} {s : Text} (whole : r.text.hasSurrogate = false)
    (run : readString opening fuel r [] = .ok (s, r')) : Keeps l.ascii s ∧ r'.text <:+ r.text := by
  have alone : Sealed [] r.text := by
    intro c last
    cases last
  obtain ⟨unpaired, ends⟩ := isUnpaired_readString whole rfl alone run
  exact ⟨fun _ => unpaired, ends⟩

/-- What a reader with some fuel reads is legible, and it goes on behind. -/
structure ReadsLegibly (l : Layout) (fuel : Nat) : Prop where
  value : ∀ {r r' : Rest} {v : Json}, r.text.hasSurrogate = false → readValue fuel r = .ok (v, r') →
    Legible l v ∧ r'.text <:+ r.text
  items : ∀ {r r' : Rest} {v : Json} {acc : List Json}, r.text.hasSurrogate = false → (∀ w ∈ acc, Legible l w) →
    readItems fuel r acc = .ok (v, r') → Legible l v ∧ r'.text <:+ r.text
  members : ∀ {r r' : Rest} {v : Json} {acc : List (Text × Json)}, r.text.hasSurrogate = false →
    Legible l (.object acc) → readMembers fuel r acc = .ok (v, r') → Legible l v ∧ r'.text <:+ r.text

theorem legible_word {w : String × Json} (found : w ∈ words) : Legible l w.2 := by
  simp only [words, List.mem_cons, List.not_mem_nil, or_false] at found
  rcases found with rfl | rfl | rfl | rfl | rfl | rfl
  all_goals trivial

section Step

variable {fuel : Nat} {r r' : Rest} {v : Json} (reads : ReadsLegibly l fuel)

include reads

theorem ReadsLegibly.value_succ (whole : r.text.hasSurrogate = false) (run : readValue (fuel + 1) r = .ok (v, r')) :
    Legible l v ∧ r'.text <:+ r.text := by
  rw [readValue] at run
  split at run
  · cases run
  next c rest shape =>
    have behind : rest <:+ r.text := by
      rw [shape]
      exact List.suffix_cons c rest
    have whole' := Text.whole_of_suffix behind whole
    dsimp only at run
    split at run
    · split at run
      · cases run
      next s r₁ string =>
        cases run
        obtain ⟨kept, ends⟩ := keeps_readString whole' string
        exact ⟨kept, ends.trans behind⟩
    · split at run
      · have skipped := skip_suffix { text := rest, offset := r.offset + 1 }
        split at run
        · cases run
          exact ⟨legible_empty, (drop_suffix _ 1).trans (skipped.trans behind)⟩
        · obtain ⟨legible, ends⟩ := reads.members (Text.whole_of_suffix skipped whole') legible_empty run
          exact ⟨legible, ends.trans (skipped.trans behind)⟩
      · split at run
        · have skipped := skip_suffix { text := rest, offset := r.offset + 1 }
          split at run
          · cases run
            exact ⟨trivial, (drop_suffix _ 1).trans (skipped.trans behind)⟩
          · obtain ⟨legible, ends⟩ := reads.items (Text.whole_of_suffix skipped whole') (by simp) run
            exact ⟨legible, ends.trans (skipped.trans behind)⟩
        · split at run
          next w v' found =>
            cases run
            exact ⟨legible_word (List.mem_of_find?_eq_some found), drop_suffix r _⟩
          next =>
            split at run
            next v' r₁ number =>
              split at run
              · cases run
              next fits =>
                cases run
                exact legible_readNumber number fits
            · cases run

theorem ReadsLegibly.items_succ {acc : List Json} (whole : r.text.hasSurrogate = false)
    (all : ∀ w ∈ acc, Legible l w) (run : readItems (fuel + 1) r acc = .ok (v, r')) :
    Legible l v ∧ r'.text <:+ r.text := by
  rw [readItems] at run
  split at run
  · cases run
  next w r₁ value =>
    obtain ⟨legible, ends⟩ := reads.value whole value
    have all' : ∀ u ∈ w :: acc, Legible l u := List.forall_mem_cons.mpr ⟨legible, all⟩
    have skipped := (skip_suffix r₁).trans ends
    dsimp only at run
    split at run
    · cases run
      refine ⟨legibleItems_iff.mpr fun u found => all' u (List.mem_reverse.mp found), ?_⟩
      exact (drop_suffix _ 1).trans skipped
    · split at run
      · have after := (skip_suffix (r₁.skip.drop 1)).trans ((drop_suffix _ 1).trans skipped)
        obtain ⟨good, last⟩ := reads.items (Text.whole_of_suffix after whole) all' run
        exact ⟨good, last.trans after⟩
      · cases run

theorem ReadsLegibly.members_succ {acc : List (Text × Json)} (whole : r.text.hasSurrogate = false)
    (object : Legible l (.object acc)) (run : readMembers (fuel + 1) r acc = .ok (v, r')) :
    Legible l v ∧ r'.text <:+ r.text := by
  rw [readMembers] at run
  split at run
  · split at run
    · cases run
    next key r₁ string =>
      have opened := drop_suffix r 1
      obtain ⟨kept, named⟩ := keeps_readString (Text.whole_of_suffix opened whole) string
      have colon := (skip_suffix r₁).trans (named.trans opened)
      dsimp only at run
      split at run
      · have before := (skip_suffix (r₁.skip.drop 1)).trans ((drop_suffix _ 1).trans colon)
        split at run
        · cases run
        next w r₃ value =>
          obtain ⟨legible, ends⟩ := reads.value (Text.whole_of_suffix before whole) value
          have skipped := (skip_suffix r₃).trans (ends.trans before)
          have object' := legible_put object kept legible
          split at run
          · cases run
            exact ⟨object', (drop_suffix _ 1).trans skipped⟩
          · split at run
            · have after := (skip_suffix (r₃.skip.drop 1)).trans ((drop_suffix _ 1).trans skipped)
              obtain ⟨good, last⟩ := reads.members (Text.whole_of_suffix after whole) object' run
              exact ⟨good, last.trans after⟩
            · cases run
      · cases run
  · cases run

end Step

theorem readsLegibly (fuel : Nat) : ReadsLegibly l fuel := by
  induction fuel with
  | zero =>
    constructor
    · intro _ _ _ _ run
      cases run
    · intro _ _ _ _ _ _ run
      cases run
    · intro _ _ _ _ _ _ run
      cases run
  | succ fuel ih => exact ⟨ih.value_succ, ih.items_succ, ih.members_succ⟩

/-- What some document stands for can be read from a document of its own. -/
theorem IsValue.legible {v : Json} (value : IsValue v) : Legible l v := by
  obtain ⟨document, whole, run⟩ := value
  unfold read at run
  split at run
  · cases run
  next c rest =>
    split at run
    · cases run
    · dsimp only at run
      split at run
      · cases run
      next w r read =>
        split at run
        · cases run
          exact ((readsLegibly _).value (Text.whole_of_suffix (skip_suffix _) whole) read).1
        · cases run

end Values

end Json

end SiteSurvey
