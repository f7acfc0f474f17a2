import SiteSurvey.Detector.Builtin
import SiteSurvey.Proofs.Detector.Verdict
import SiteSurvey.Proofs.Pattern.Fits
import SiteSurvey.Proofs.Scan.Context
import SiteSurvey.Proofs.Scan.Distinct

set_option autoImplicit false

namespace SiteSurvey

open Pattern

namespace Scan

variable {p : Pattern} {text : Array Char} {i n : Nat}

/-- Where no two matches overlap, none is passed over. -/
theorem mem_occurrences_iff
    (apart : ∀ i j s t, p.matchAt? text i = some s → p.matchAt? text j = some t → i < j → s.stop ≤ j) {s : Span} :
    s ∈ occurrences p text ↔ s.start < s.stop ∧ p.matchAt? text s.start = some s := by
  have ends := finds_occurrences p text
  constructor
  · intro listed
    obtain ⟨_, located⟩ := ends.located s listed
    exact ⟨located.wide, located.matched⟩
  · rintro ⟨wide, matched⟩
    have bounds := matchAt?_bounds matched
    refine Classical.byContradiction fun absent => ?_
    -- A match that is not listed begins inside one that is, and ends it.
    have uncovered : Uncovered (occurrences p text) s.start := by
      intro t listed
      obtain ⟨_, located⟩ := ends.located t listed
      rcases Nat.lt_trichotomy s.start t.start with before | same | after
      · exact .inl before
      · rw [same, located.matched] at matched
        cases matched
        exact absurd listed absent
      · exact .inr (apart _ _ _ _ located.matched matched after)
    have flat := ends.complete s.start (Nat.zero_le _) (by omega) uncovered s matched
    omega

theorem window_eq_cons_iff {c : Char} {cs : List Char} :
    window text i (i + (n + 1)) = c :: cs ↔ text[i]? = some c ∧ window text (i + 1) (i + 1 + n) = cs := by
  have stretch : ∀ i n, window text i (i + n) = (text.toList.drop i).take n := by
    intro i n
    rw [window, Array.toList_extract, List.extract_eq_take_drop, Nat.add_sub_cancel_left]
  rw [stretch, stretch, ← Array.getElem?_toList]
  by_cases inside : i < text.toList.length
  · rw [List.drop_eq_getElem_cons inside, List.take_succ_cons, List.getElem?_eq_getElem inside]
    simp
  · rw [List.drop_eq_nil_of_le (by omega), List.getElem?_eq_none (by omega)]
    simp

theorem window_append (text : Array Char) (i n m : Nat) :
    window text i (i + n) ++ window text (i + n) (i + n + m) = window text i (i + n + m) := by
  have split := window_split text (Nat.le_refl i) (Nat.le_add_right i n) (Nat.le_add_right (i + n) m)
  rw [split]
  simp [window]

def WordAt (text : Array Char) (i : Nat) : Prop :=
  ∃ c, text[i]? = some c ∧ Unicode.isWordPart c.toNat = true

theorem WordAt.lt_size (word : WordAt text i) : i < text.size := by
  obtain ⟨c, there, _⟩ := word
  exact (Array.getElem?_eq_some_iff.mp there).1

/-- A stretch of characters of words that cannot be made longer on either side. -/
structure WordRun (text : Array Char) (s : Span) : Prop where
  wide : s.start < s.stop
  words : ∀ i, s.start ≤ i → i < s.stop → WordAt text i
  before : ∀ i, i + 1 = s.start → ¬WordAt text i
  after : ¬WordAt text s.stop

/-- No two runs overlap. -/
theorem WordRun.apart {s t : Span} (one : WordRun text s) (other : WordRun text t) (before : s.start < t.start) :
    s.stop ≤ t.start := by
  refine Nat.not_lt.mp fun overlap => ?_
  exact other.before (t.start - 1) (by omega) (one.words _ (by omega) (by omega))

theorem isWordAt_iff : isWordAt false text i = true ↔ WordAt text i := by
  unfold isWordAt codeAt WordAt
  cases text[i]? with
  | none => simp
  | some c => simp [Property.holds]

theorem isWordBefore_iff : isWordBefore false text i = true ↔ ∃ j, j + 1 = i ∧ WordAt text j := by
  rw [isWordBefore, Bool.and_eq_true, decide_eq_true_eq, isWordAt_iff]
  constructor
  · rintro ⟨positive, word⟩
    exact ⟨i - 1, by omega, word⟩
  · rintro ⟨j, rfl, word⟩
    exact ⟨Nat.succ_pos j, word⟩

theorem boundary_before (word : WordAt text i) :
    (Spot.boundary false).holds text i = true ↔ ∀ j, j + 1 = i → ¬WordAt text j := by
  have filled : text.size ≠ 0 := Nat.ne_zero_of_lt word.lt_size
  have outside : isWordBefore false text i = false ↔ ∀ j, j + 1 = i → ¬WordAt text j := by
    rw [← Bool.not_eq_true, isWordBefore_iff]
    exact ⟨fun none j here there => none ⟨j, here, there⟩, fun none ⟨j, here, there⟩ => none j here there⟩
  rw [← outside, Spot.holds, isWordAt_iff.mpr word]
  simp [filled]

theorem boundary_after (word : WordAt text i) :
    (Spot.boundary false).holds text (i + 1) = true ↔ ¬WordAt text (i + 1) := by
  have filled : text.size ≠ 0 := Nat.ne_zero_of_lt word.lt_size
  have before : isWordBefore false text (i + 1) = true := isWordBefore_iff.mpr ⟨i, rfl, word⟩
  rw [← isWordAt_iff, Spot.holds, before]
  simp [filled]

end Scan

namespace Detector

open Scan

variable {text : Array Char} {i j n : Nat}

def letter (c : Char) : Pattern.Class :=
  literalClass .none false c.toNat

def spelled : Char → List Char → Regex
  | c, [] => .character (letter c)
  | c, d :: rest => .sequence (.character (letter c)) (spelled d rest)

def keyClass : Pattern.Class :=
  { fold := .exact, ascii := false, negated := false, members := [.range 48 57, .range 65 90] }

def keyTails : Regex :=
  .either (spelled 'K' ['I', 'A']) <| .either (spelled 'S' ['I', 'A']) <| .either (spelled 'G' ['P', 'A']) <|
    .either (spelled 'I' ['D', 'A']) (spelled 'R' ['O', 'A'])

def keyPattern : Pattern where
  source := "\\b(?:AKIA|ASIA|AGPA|AIDA|AROA)[0-9A-Z]\x7b16\x7d\\b"
  groups := 1
  regex :=
    .sequence (.spot (.boundary false)) <| .sequence (.character (letter 'A')) <| .sequence keyTails <|
      .sequence (.loop .greedy 16 (some 16) (.character keyClass)) (.spot (.boundary false))

theorem compile_keyPattern : (compile .none keyPattern.source).toOption = some keyPattern := by decide +kernel

def keyStarts : List String :=
  ["AKIA", "ASIA", "AGPA", "AIDA", "AROA"]

/-- One of the beginnings, and after it sixteen digits or capital letters. -/
def IsAccessKey (cs : List Char) : Prop :=
  ∃ start ∈ keyStarts, ∃ rest, cs = start.toList ++ rest ∧ rest.length = 16 ∧
    ∀ c ∈ rest, c.isDigit = true ∨ c.isUpper = true

theorem length_keyStart {start : String} (listed : start ∈ keyStarts) : start.toList.length = 4 :=
  (by decide : ∀ start ∈ keyStarts, start.toList.length = 4) start listed

theorem IsAccessKey.length {cs : List Char} (key : IsAccessKey cs) : cs.length = 20 := by
  obtain ⟨start, listed, rest, rfl, length, _⟩ := key
  rw [List.length_append, length_keyStart listed, length]

theorem holdsAt_letter {c : Char} : (letter c).HoldsAt text i ↔ text[i]? = some c := by
  have same : ∀ d : Char, (letter c).holds d.toNat = true ↔ d = c := by
    intro d
    have compared : (letter c).holds d.toNat = (c.toNat == d.toNat) := by
      simp [letter, literalClass, Class.holds, Member.holds, Flags.fold, Flags.none, Fold.apply]
    rw [compared, beq_iff_eq, Char.toNat_inj]
    exact eq_comm
  unfold Class.HoldsAt codeAt
  cases text[i]? with
  | none => simp
  | some d => simp [same]

theorem holdsAt_keyClass : keyClass.HoldsAt text i ↔ ∃ c, text[i]? = some c ∧ (c.isDigit = true ∨ c.isUpper = true) := by
  have same : ∀ d : Char, keyClass.holds d.toNat = true ↔ d.isDigit = true ∨ d.isUpper = true := by
    intro d
    rw [isDigit_iff, isUpper_iff]
    change ((decide (48 ≤ d.toNat) && decide (d.toNat ≤ 57) ||
      (decide (65 ≤ d.toNat) && decide (d.toNat ≤ 90) || false)) != false) = true ↔ _
    simp
  unfold Class.HoldsAt codeAt
  cases text[i]? with
  | none => simp
  | some d => simp [same]

theorem fits_spelled {c : Char} {cs : List Char} :
    Fits text (spelled c cs) i j ↔ j = i + (cs.length + 1) ∧ window text i j = c :: cs := by
  induction cs generalizing c i with
  | nil =>
    rw [spelled, fits_character, holdsAt_letter]
    refine and_congr_right fun here => ?_
    subst here
    rw [show i + 1 = i + (0 + 1) from rfl, window_eq_cons_iff]
    simp [window]
  | cons d rest ih =>
    rw [spelled, fits_sequence]
    simp only [fits_character, holdsAt_letter, ih]
    constructor
    · rintro ⟨_, ⟨rfl, first⟩, rfl, others⟩
      refine ⟨by simp; omega, ?_⟩
      rw [show i + 1 + (rest.length + 1) = i + (rest.length + 1 + 1) by omega, window_eq_cons_iff]
      exact ⟨first, others⟩
    · rintro ⟨rfl, whole⟩
      rw [List.length_cons, window_eq_cons_iff] at whole
      exact ⟨i + 1, ⟨rfl, whole.1⟩, by simp; omega, by simpa [Nat.add_assoc, Nat.add_comm] using whole.2⟩

theorem forall_holdsAt_keyClass : (∀ k < n, keyClass.HoldsAt text (i + k)) ↔
    (window text i (i + n)).length = n ∧ ∀ c ∈ window text i (i + n), c.isDigit = true ∨ c.isUpper = true := by
  induction n generalizing i with
  | zero => simp [window]
  | succ n ih =>
    -- The first character and those after it, in the form of the induction hypothesis.
    have split : (∀ k < n + 1, keyClass.HoldsAt text (i + k)) ↔
        keyClass.HoldsAt text i ∧ ∀ k < n, keyClass.HoldsAt text (i + 1 + k) := by
      constructor
      · intro all
        refine ⟨all 0 (Nat.succ_pos n), fun k inside => ?_⟩
        rw [Nat.add_assoc, Nat.add_comm 1 k]
        exact all (k + 1) (by omega)
      · rintro ⟨first, others⟩ k inside
        cases k with
        | zero => exact first
        | succ k =>
          rw [Nat.add_comm k 1, ← Nat.add_assoc]
          exact others k (by omega)
    rw [split, ih, holdsAt_keyClass]
    cases whole : window text i (i + (n + 1)) with
    | nil =>
      have empty : text[i]? = none := by
        cases there : text[i]? with
        | none => rfl
        | some c => rw [window_eq_cons_iff.mpr ⟨there, rfl⟩] at whole; cases whole
      simp [empty]
    | cons c cs =>
      obtain ⟨there, rfl⟩ := window_eq_cons_iff.mp whole
      simp only [there, List.length_cons, List.mem_cons, forall_eq_or_imp]
      constructor
      · rintro ⟨⟨d, same, first⟩, length, others⟩
        cases same
        exact ⟨by omega, first, others⟩
      · rintro ⟨length, first, others⟩
        exact ⟨⟨c, rfl, first⟩, by omega, others⟩

theorem fits_keyTails : text[i]? = some 'A' ∧ Fits text keyTails (i + 1) j ↔
    j = i + 4 ∧ ∃ start ∈ keyStarts, window text i j = start.toList := by
  have spelt : ∀ d e, text[i]? = some 'A' ∧ Fits text (spelled d [e, 'A']) (i + 1) j ↔
      j = i + 4 ∧ window text i j = ['A', d, e, 'A'] := by
    intro d e
    rw [fits_spelled]
    constructor
    · rintro ⟨first, rfl, rest⟩
      exact ⟨by simp, window_eq_cons_iff.mpr ⟨first, rest⟩⟩
    · rintro ⟨rfl, whole⟩
      obtain ⟨first, rest⟩ := window_eq_cons_iff.mp whole
      exact ⟨first, by simp, rest⟩
  simp only [keyTails, fits_either, and_or_left, spelt]
  simp [keyStarts, and_or_left]

/-- The characters of a key stand between two boundaries. -/
theorem fits_keyPattern : Fits text keyPattern.regex i j ↔
    j = i + 20 ∧ IsAccessKey (window text i j) ∧ (Spot.boundary false).holds text i = true ∧
      (Spot.boundary false).holds text j = true := by
  have parts : window text i (i + 4) ++ window text (i + 4) (i + 4 + 16) = window text i (i + 20) :=
    window_append text i 4 16
  simp only [keyPattern, fits_sequence, fits_spot, fits_character, fits_times, holdsAt_letter, forall_holdsAt_keyClass]
  constructor
  · rintro ⟨_, ⟨rfl, opens⟩, _, ⟨rfl, first⟩, k, tails, _, ⟨rfl, length, class_⟩, rfl, closes⟩
    obtain ⟨rfl, start, listed, same⟩ := fits_keyTails.mp ⟨first, tails⟩
    refine ⟨rfl, ⟨start, listed, _, ?_, length, class_⟩, opens, closes⟩
    rw [← same]
    exact parts.symm
  · rintro ⟨rfl, key, opens, closes⟩
    have total := key.length
    obtain ⟨start, listed, rest, whole, length, class_⟩ := key
    have short : (window text i (i + 4)).length = start.toList.length := by
      simp only [window, Array.length_toList, Array.size_extract] at total ⊢
      rw [length_keyStart listed]
      omega
    obtain ⟨same, rfl⟩ := List.append_inj (parts.trans whole) short
    obtain ⟨first, tails⟩ := fits_keyTails.mpr ⟨rfl, start, listed, same⟩
    exact ⟨i, ⟨rfl, opens⟩, i + 1, ⟨rfl, first⟩, i + 4, tails, i + 20, ⟨rfl, length, class_⟩, rfl, closes⟩

theorem wordAt_of_isAccessKey (key : IsAccessKey (window text i (i + 20))) {k : Nat} (from_ : i ≤ k) (before : k < i + 20) :
    WordAt text k := by
  have total := key.length
  obtain ⟨start, listed, rest, whole, _, class_⟩ := key
  have capital : ∀ start ∈ keyStarts, (start.toList.all fun c => c.isDigit || c.isUpper) = true := by decide
  have all : ∀ c ∈ window text i (i + 20), c.isDigit = true ∨ c.isUpper = true := by
    intro c inside
    rw [whole] at inside
    rcases List.mem_append.mp inside with first | later
    · exact Bool.or_eq_true_iff.mp (List.all_eq_true.mp (capital start listed) c first)
    · exact class_ c later
  obtain ⟨c, there, kind⟩ := holdsAt_keyClass.mp (forall_holdsAt_keyClass.mpr ⟨total, all⟩ (k - i) (by omega))
  rw [Nat.add_sub_cancel' from_] at there
  refine ⟨c, there, ?_⟩
  rw [isDigit_iff, isUpper_iff] at kind
  simp only [Unicode.isWordPart, Unicode.isAlphanumeric, Bool.or_eq_true, beq_iff_eq]
  right
  rw [if_pos (by omega)]
  simpa [or_assoc] using Or.inl kind

theorem fits_keyPattern_iff {s : Span} : Fits text keyPattern.regex s.start s.stop ↔
    WordRun text s ∧ IsAccessKey (window text s.start s.stop) := by
  rw [fits_keyPattern]
  constructor
  · rintro ⟨stop, key, opens, closes⟩
    rw [stop] at key closes ⊢
    have word : ∀ k, s.start ≤ k → k < s.start + 20 → WordAt text k := fun k => wordAt_of_isAccessKey key
    refine ⟨⟨by omega, fun k from_ before => word k from_ (by omega), ?_, ?_⟩, key⟩
    · exact (boundary_before (word s.start (Nat.le_refl _) (by omega))).mp opens
    · rw [stop]
      exact (boundary_after (word (s.start + 19) (by omega) (by omega))).mp closes
  · rintro ⟨run, key⟩
    have wide := run.wide
    have stop : s.stop = s.start + 20 := by
      have inside := (run.words (s.stop - 1) (by omega) (by omega)).lt_size
      have total := key.length
      simp only [window, Array.length_toList, Array.size_extract] at total
      omega
    refine ⟨stop, key, ?_, ?_⟩
    · exact (boundary_before (run.words s.start (Nat.le_refl _) run.wide)).mpr run.before
    · have after := run.after
      rw [stop] at after ⊢
      exact (boundary_after (run.words (s.start + 19) (by omega) (by omega))).mpr after

theorem matchAt?_keyPattern {s : Span} : keyPattern.matchAt? text i = some s ↔
    s.start = i ∧ WordRun text s ∧ IsAccessKey (window text s.start s.stop) := by
  have unique : ∀ j k, Fits text keyPattern.regex i j → Fits text keyPattern.regex i k → j = k := by
    intro j k one other
    rw [(fits_keyPattern.mp one).1, (fits_keyPattern.mp other).1]
  rw [matchAt?_eq_some_iff rfl unique]
  refine and_congr_right fun here => ?_
  rw [← here]
  exact fits_keyPattern_iff

theorem mem_occurrences_keyPattern {s : Span} :
    s ∈ occurrences keyPattern text ↔ WordRun text s ∧ IsAccessKey (window text s.start s.stop) := by
  rw [mem_occurrences_iff]
  · rw [matchAt?_keyPattern]
    exact ⟨fun found => found.2.2, fun found => ⟨found.1.wide, rfl, found⟩⟩
  · intro i j s t one other before
    obtain ⟨rfl, run, _⟩ := matchAt?_keyPattern.mp one
    obtain ⟨rfl, run', _⟩ := matchAt?_keyPattern.mp other
    exact run.apart run' before

/-- A pattern whose matches all have some text can be applied over and over. -/
theorem applicable_of_wide {p : Pattern} (wide : ∀ text i s, p.matchAt? text i = some s → s.start < s.stop) :
    Applicable p := by
  constructor
  · cases found : p.matchAt? #[] 0 with
    | none => rfl
    | some s =>
      have start := matchAt?_start found
      have bounds := matchAt?_bounds found
      have := wide _ _ _ found
      simp at bounds
      omega
  · intro sample _ i s _ found
    exact wide _ _ s (search?_eq_some found).1

theorem make_text_eq_ok_iff {name source : String} {d : Detector} : make name (.text source) = .ok d ↔
    d.name = name ∧ compile .none source = .ok d.pattern ∧ Applicable d.pattern := by
  have same : (Text.ofString source).toString = source := by
    rw [Text.toString, Text.ofString, Text.toChars_ofChars, String.ofList_toList]
  have given : (Offer.value (.string (Text.ofString source))).outcome = .ok (.text source) := by
    rw [Offer.outcome, same]
  rw [make_eq_ok_iff given, Offer.Compiles, same]

theorem builtin_filter (name : String) : builtin.filter (fun d => d.name == name) =
    (builtinSources.filter fun s => s.1 == name).filterMap fun s => (make s.1 (.text s.2)).toOption := by
  rw [builtin, List.filter_filterMap, List.filterMap_filter]
  congr 1
  funext s
  cases made : make s.1 (.text s.2) with
  | error refusal => simp [made, Except.toOption]
  | ok d =>
    obtain ⟨named, _, _⟩ := make_text_eq_ok_iff.mp made
    simp [made, Except.toOption, Option.filter, named]

/-- The detector of access keys comes along once. It finds the words that are access keys, each of them and
nothing else, and reports them all. -/
theorem access_keys_found (text : Array Char) (radius : Int) :
    ∃ d, builtin.filter (fun d => d.name == "aws_keys.py") = [d] ∧
      (∀ s, s ∈ occurrences d.pattern text ↔ WordRun text s ∧ IsAccessKey (window text s.start s.stop)) ∧
      (occurrences d.pattern text).Pairwise (fun s t => s.stop ≤ t.start) ∧
      ∀ h, h ∈ hits radius text d ↔
        ∃ s, WordRun text s ∧ IsAccessKey (window text s.start s.stop) ∧ hitAt text radius s = h := by
  have applicable : Applicable keyPattern :=
    applicable_of_wide fun text i s found => (matchAt?_keyPattern.mp found).2.1.wide
  have compiled : compile .none keyPattern.source = .ok keyPattern := by
    have whole := compile_keyPattern
    cases read : compile .none keyPattern.source with
    | error problem => rw [read] at whole; cases whole
    | ok p => rw [read] at whole; cases whole; rfl
  have made : make "aws_keys.py" (.text keyPattern.source) = .ok ⟨"aws_keys.py", keyPattern⟩ :=
    make_text_eq_ok_iff.mpr ⟨rfl, compiled, applicable⟩
  refine ⟨⟨"aws_keys.py", keyPattern⟩, ?_, fun s => mem_occurrences_keyPattern, (finds_occurrences _ _).apart, ?_⟩
  · have source : (builtinSources.filter fun s => s.1 == "aws_keys.py") = [("aws_keys.py", keyPattern.source)] := rfl
    rw [builtin_filter, source]
    simp [made, Except.toOption]
  · intro h
    rw [mem_hits_iff]
    simp only [mem_occurrences_keyPattern, and_assoc]

end Detector

end SiteSurvey
