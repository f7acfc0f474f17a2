import Mathlib.Data.List.Chain
import Mathlib.Data.List.DropRight
import SiteSurvey.Scan.Context

set_option autoImplicit false

namespace SiteSurvey

namespace Text

/-- What stands between the blanks of a text. -/
def words (t : Text) : List Text :=
  (t.splitOnP isBlank).filter fun w => !w.isEmpty

/-- The words of a text with a space between each two of them. -/
def spaced (t : Text) : Text :=
  join " " (words t)

section Words

variable {c d : CodePoint} {t u : Text}

theorem ne_nil_of_mem_words {w : Text} (found : w ∈ words t) : w ≠ [] := by
  simpa using (List.mem_filter.mp found).2

theorem words_blank (blank : isBlank c = true) (t : Text) : words (c :: t) = words t := by
  simp [words, List.splitOnP_cons_eq_if_modifyHead, blank]

theorem words_letter_apart (letter : isBlank c = false) (apart : ∀ d ∈ t.head?, isBlank d = true) :
    words (c :: t) = [c] :: words t := by
  cases t with
  | nil => simp [words, List.splitOnP_cons_eq_if_modifyHead, letter]
  | cons d t =>
    have blank : isBlank d = true := apart d rfl
    simp [words, List.splitOnP_cons_eq_if_modifyHead, letter, blank]

theorem words_letters (letter : isBlank c = false) (letter' : isBlank d = false) (t : Text) :
    ∃ w ws, words (d :: t) = w :: ws ∧ words (c :: d :: t) = (c :: w) :: ws := by
  obtain ⟨first, others, split⟩ := List.exists_cons_of_ne_nil (List.splitOnP_ne_nil isBlank t)
  exact ⟨d :: first, others.filter fun w => !w.isEmpty,
    by simp [words, List.splitOnP_cons_eq_if_modifyHead, letter', split],
    by simp [words, List.splitOnP_cons_eq_if_modifyHead, letter, letter', split]⟩

theorem join_cons_eq (between w : Text) (ws : List Text) :
    join between (w :: ws) = w ++ if ws.isEmpty then [] else between ++ join between ws := by
  cases ws <;> simp [join]

theorem join_words_isEmpty (between : Text) (t : Text) : (join between (words t)).isEmpty = (words t).isEmpty := by
  cases found : words t with
  | nil => rfl
  | cons w ws =>
    have nonempty : w ≠ [] := ne_nil_of_mem_words (t := t) (by simp [found])
    simp [join_cons_eq, nonempty]

@[simp] theorem spaced_nil : spaced [] = [] := rfl

theorem spaced_blank (blank : isBlank c = true) (t : Text) : spaced (c :: t) = spaced t := by
  rw [spaced, words_blank blank, spaced]

/-- What a text comes to after a letter: first a space, if blanks and then a word stand there. -/
def following (t : Text) : Text :=
  if t.head?.any isBlank && !(spaced t).isEmpty then CodePoint.ofChar ' ' :: spaced t else spaced t

theorem spaced_letter (letter : isBlank c = false) (t : Text) : spaced (c :: t) = c :: following t := by
  cases t with
  | nil => rw [spaced, words_letter_apart letter (by simp)]; rfl
  | cons d t =>
    cases kind : isBlank d with
    | true =>
      have first : words (c :: d :: t) = [c] :: words (d :: t) := words_letter_apart letter (by simpa using kind)
      rw [following, spaced, first, join_cons_eq, spaced, join_words_isEmpty]
      cases none : (words (d :: t)).isEmpty with
      | true => simp [kind, List.isEmpty_iff.mp none, join]
      | false => simp [kind]; rfl
    | false =>
      obtain ⟨w, ws, first, both⟩ := words_letters letter kind t
      simp [spaced, following, first, both, kind, join_cons_eq]

end Words

section Normal

variable {c : CodePoint} {t : Text}

theorem dropWhile_squeezeFrom (inside : Bool) (t : Text) :
    (squeezeFrom inside t).dropWhile isBlank = squeezeFrom true t := by
  induction t generalizing inside with
  | nil => rfl
  | cons c t ih =>
    have space : isBlank (CodePoint.ofChar ' ') = true := rfl
    cases kind : isBlank c with
    | true => cases inside <;> simp [squeezeFrom, kind, space, ih]
    | false => simp [squeezeFrom, kind]

theorem squeezeFrom_false_eq (t : Text) :
    squeezeFrom false t =
      if t.head?.any isBlank then CodePoint.ofChar ' ' :: squeezeFrom true t else squeezeFrom true t := by
  cases t with
  | nil => rfl
  | cons c t => cases kind : isBlank c <;> simp [squeezeFrom, kind]

theorem rdropWhile_cons (c : CodePoint) (t : Text) : (c :: t).rdropWhile isBlank =
    if isBlank c && (t.rdropWhile isBlank).isEmpty then [] else c :: t.rdropWhile isBlank := by
  cases kind : isBlank c <;> cases rest : (t.rdropWhile isBlank).isEmpty <;>
    simp_all [List.rdropWhile, List.dropWhile_append]

theorem rdropWhile_squeezeFrom (t : Text) : (squeezeFrom true t).rdropWhile isBlank = spaced t := by
  induction t with
  | nil => rfl
  | cons c t ih =>
    cases kind : isBlank c with
    | true => simp [squeezeFrom, kind, ih, spaced_blank kind]
    | false =>
      have space : isBlank (CodePoint.ofChar ' ') = true := rfl
      rw [spaced_letter kind, following]
      simp only [squeezeFrom, kind, Bool.false_eq_true, if_false, rdropWhile_cons, Bool.false_and,
        squeezeFrom_false_eq]
      cases apart : t.head?.any isBlank with
      | true =>
        rw [if_pos rfl, rdropWhile_cons, ih, space]
        cases none : (spaced t).isEmpty with
        | true => simp [List.isEmpty_iff.mp none]
        | false => simp
      | false => simp [ih]

/-- Blanks squeezed and trimmed away leave the words, whatever stands at the ends of the text. -/
theorem trim_squeeze (t : Text) : trim (squeeze t) = spaced t := by
  have both : trim (squeeze t) = ((squeeze t).dropWhile isBlank).rdropWhile isBlank := rfl
  rw [both, squeeze, dropWhile_squeezeFrom, rdropWhile_squeezeFrom]

end Normal

section Tidy

variable {c : CodePoint} {t : Text}

/-- A text without a blank at its ends, whose blanks are spaces that stand alone. -/
structure Tidy (t : Text) : Prop where
  leading : ∀ c ∈ t.head?, isBlank c = false
  trailing : ∀ c ∈ t.getLast?, isBlank c = false
  apart : t.IsChain fun c d => ¬(isBlank c = true ∧ isBlank d = true)
  spaces : ∀ c ∈ t, isBlank c = true → c = CodePoint.ofChar ' '

theorem Tidy.letter (tidy : Tidy t) (letter : isBlank c = false) : Tidy (c :: t) where
  leading := by simpa using letter
  trailing := by
    cases t with
    | nil => simpa using letter
    | cons d t => simpa [List.getLast?_cons_cons] using tidy.trailing
  apart := List.isChain_cons.mpr ⟨by simp [letter], tidy.apart⟩
  spaces := by
    rintro d (_ | ⟨_, found⟩) blank
    · simp [letter] at blank
    · exact tidy.spaces d found blank

theorem Tidy.spaced_letter (tidy : Tidy t) (nonempty : t ≠ []) (letter : isBlank c = false) :
    Tidy (c :: CodePoint.ofChar ' ' :: t) where
  leading := by simpa using letter
  trailing := by
    obtain ⟨d, rest, rfl⟩ := List.exists_cons_of_ne_nil nonempty
    simpa [List.getLast?_cons_cons] using tidy.trailing
  apart := by
    refine List.isChain_cons.mpr ⟨by simp [letter], List.isChain_cons.mpr ⟨fun d first => ?_, tidy.apart⟩⟩
    simp [tidy.leading d first]
  spaces := by
    rintro d (_ | ⟨_, _ | ⟨_, found⟩⟩) blank
    · simp [letter] at blank
    · rfl
    · exact tidy.spaces d found blank

theorem following_cases (t : Text) :
    following t = CodePoint.ofChar ' ' :: spaced t ∧ t.head?.any isBlank = true ∧ spaced t ≠ [] ∨
      following t = spaced t ∧ (t.head?.any isBlank = false ∨ spaced t = []) := by
  unfold following
  cases t.head?.any isBlank <;> cases spaced t <;> simp

theorem tidy_spaced (t : Text) : Tidy (spaced t) := by
  induction t with
  | nil => exact ⟨by simp, by simp, .nil, by simp⟩
  | cons c t ih =>
    cases kind : isBlank c with
    | true => rwa [spaced_blank kind]
    | false =>
      rw [Text.spaced_letter kind]
      rcases following_cases t with ⟨gap, _, nonempty⟩ | ⟨none, _⟩
      · rw [gap]
        exact ih.spaced_letter nonempty kind
      · rw [none]
        exact ih.letter kind

theorem spaced_spaced (t : Text) : spaced (spaced t) = spaced t := by
  induction t with
  | nil => rfl
  | cons c t ih =>
    cases kind : isBlank c with
    | true => rwa [spaced_blank kind]
    | false =>
      have again : following (following t) = following t := by
        rcases following_cases t with ⟨gap, _, nonempty⟩ | ⟨none, _⟩
        · have space : isBlank (CodePoint.ofChar ' ') = true := rfl
          rw [gap, following, spaced_blank space, ih]
          simp [space, nonempty]
        · have leading := (tidy_spaced t).leading
          rw [none, following, ih]
          cases found : spaced t with
          | nil => rfl
          | cons d rest => simp [leading d (by simp [found])]
      rw [Text.spaced_letter kind, Text.spaced_letter kind, again]

theorem length_spaced_le (t : Text) : (spaced t).length ≤ t.length := by
  have squeezed : ∀ inside, (squeezeFrom inside t).length ≤ t.length := by
    induction t with
    | nil => simp [squeezeFrom]
    | cons c t ih =>
      intro inside
      have others := ih true
      have others' := ih false
      simp only [squeezeFrom]
      split
      · split <;> simp <;> omega
      · simpa using others'
  rw [← rdropWhile_squeezeFrom]
  have part := List.rdropWhile_prefix isBlank (squeezeFrom true t)
  exact part.length_le.trans (squeezed true)

/-- The words at the end of a text come last, the first of them perhaps with letters before it. -/
theorem spaced_ends (before t : Text) : spaced t <:+ spaced (before ++ t) := by
  induction before with
  | nil => exact List.suffix_rfl
  | cons c before ih =>
    rw [List.cons_append]
    cases kind : isBlank c with
    | true => rwa [spaced_blank kind]
    | false =>
      rw [Text.spaced_letter kind]
      rcases following_cases (before ++ t) with ⟨gap, _⟩ | ⟨none, _⟩
      · rw [gap]
        exact ih.trans ((List.suffix_cons _ _).trans (List.suffix_cons _ _))
      · rw [none]
        exact ih.trans (List.suffix_cons _ _)

theorem spaced_begins (t after : Text) : spaced t <+: spaced (t ++ after) := by
  induction t with
  | nil => exact List.nil_prefix
  | cons c t ih =>
    rw [List.cons_append]
    cases kind : isBlank c with
    | true => rwa [spaced_blank kind, spaced_blank kind]
    | false =>
      rw [Text.spaced_letter kind, Text.spaced_letter kind, List.cons_prefix_cons]
      refine ⟨rfl, ?_⟩
      -- Whether a space follows is settled by the text alone, unless all of it is blank.
      cases t with
      | nil => exact List.nil_prefix
      | cons d t =>
        rcases following_cases (d :: t) with ⟨gap, blank, nonempty⟩ | ⟨none, letter | blanks⟩
        · obtain ⟨more, whole⟩ := ih
          have nonempty' : spaced (d :: t ++ after) ≠ [] := by
            rw [← whole]
            exact List.append_ne_nil_of_left_ne_nil nonempty more
          have gap' : following (d :: t ++ after) = CodePoint.ofChar ' ' :: spaced (d :: t ++ after) := by
            rw [following, if_pos (by simpa using ⟨blank, nonempty'⟩)]
          rw [gap, gap', ← whole]
          exact ⟨more, rfl⟩
        · have none' : following (d :: t ++ after) = spaced (d :: t ++ after) := by
            rw [following, if_neg (by simp_all)]
          rwa [none, none']
        · rw [none, blanks]
          exact List.nil_prefix

theorem spaced_within (before t after : Text) : spaced t <:+: spaced (before ++ t ++ after) :=
  ((spaced_ends before t).isInfix).trans (spaced_begins (before ++ t) after).isInfix

end Tidy

end Text

namespace Scan

variable {text : Array Char} {start stop : Nat}

theorem context_eq (radius : Nat) (ordered : start ≤ stop) (inside : stop ≤ text.size) :
    context text start stop radius =
      (Text.ofChars (window text (start - radius) (min text.size (stop + radius)))).spaced := by
  have first : clip text.size (max 0 ((start : Int) - radius)) = start - radius := by
    unfold clip
    split <;> omega
  have last : clip text.size (min text.size ((stop : Int) + radius)) = min text.size (stop + radius) := by
    unfold clip
    split <;> omega
  simp only [context, first, last, Text.trim_squeeze]

theorem window_split (text : Array Char) {first last : Nat} (before : first ≤ start) (ordered : start ≤ stop)
    (after : stop ≤ last) :
    window text first last = window text first start ++ window text start stop ++ window text stop last := by
  simp only [window, ← Array.toList_append, Array.extract_append_extract, Nat.min_eq_left before,
    Nat.max_eq_right ordered, Nat.min_eq_left (before.trans ordered), Nat.max_eq_right after]

/-- The context of a stretch is made of the words around it, with a space between each two of them. It is no longer
than the stretch and the radius on both sides, it is tidy, it stays the same if it is tidied again, and the words of
the stretch stand in it in a row. -/
theorem context_words (text : Array Char) (start stop radius : Nat) (ordered : start ≤ stop)
    (inside : stop ≤ text.size) :
    context text start stop radius =
        Text.join " " (Text.words (Text.ofChars (window text (start - radius) (min text.size (stop + radius))))) ∧
      (context text start stop radius).length ≤ (stop - start) + 2 * radius ∧
      Text.Tidy (context text start stop radius) ∧
      Text.trim (Text.squeeze (context text start stop radius)) = context text start stop radius ∧
      Text.join " " (Text.words (Text.ofChars (window text start stop))) <:+: context text start stop radius := by
  have whole := context_eq radius ordered inside
  refine ⟨whole, ?_, ?_, ?_, ?_⟩
  · rw [whole]
    refine (Text.length_spaced_le _).trans ?_
    simp only [Text.ofChars, window, List.length_map, Array.length_toList, Array.size_extract]
    omega
  · rw [whole]
    exact Text.tidy_spaced _
  · rw [Text.trim_squeeze, whole, Text.spaced_spaced]
  · have parts := window_split text (Nat.sub_le start radius) ordered
      (Nat.le_min.mpr ⟨inside, Nat.le_add_right stop radius⟩)
    rw [whole, parts, Text.ofChars_append, Text.ofChars_append]
    exact Text.spaced_within _ _ _

def raggedText : Array Char :=
  #['a', 'b', ' ', '\t', '\u2003', 'c', 'd', ' ', '\n', 'e']

-- A stretch from the middle of a word to the middle of the next, with blanks of three kinds between them.
theorem context_ragged :
    6 ≤ raggedText.size ∧ context raggedText 1 6 2 = Text.ofString "ab cd" ∧
      (Text.ofString "ab cd").Tidy ∧ Text.ofString "b c" <:+: Text.ofString "ab cd" := by
  obtain ⟨words, _, tidy, _, inside⟩ := context_words raggedText 1 6 2 (by decide) (by decide)
  have here : context raggedText (1 : Nat) (6 : Nat) (2 : Nat) = Text.ofString "ab cd" := words.trans (by decide)
  have stretch : Text.join " " (Text.words (Text.ofChars (window raggedText 1 6))) = Text.ofString "b c" := by decide
  rw [here] at tidy inside
  rw [stretch] at inside
  exact ⟨by decide, here, tidy, inside⟩

end Scan

end SiteSurvey
