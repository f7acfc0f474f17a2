import SiteSurvey.Proofs.Pattern.Advance
import SiteSurvey.Scan.Occurrence

set_option autoImplicit false

namespace SiteSurvey.Scan

open Pattern

variable {p : Pattern} {text : Array Char}

/-- How a scan that goes on from an offset comes to its end, step by step and without a bound on the
number of steps. -/
inductive Finds (p : Pattern) (text : Array Char) : Nat → List Span → Prop
  | past {start : Nat} : text.size < start → Finds p text start []
  | nothing {start : Nat} : start ≤ text.size → p.search? text start = none → Finds p text start []
  | empty {start : Nat} {s : Span} {later : List Span} : start ≤ text.size →
      p.search? text start = some s → s.stop = s.start → Finds p text (s.stop + 1) later →
      Finds p text start later
  | found {start : Nat} {s : Span} {later : List Span} : start ≤ text.size →
      p.search? text start = some s → s.start < s.stop → Finds p text s.stop later →
      Finds p text start (s :: later)

theorem search?_past {start : Nat} (past : text.size < start) : p.search? text start = none := by
  have none : text.size + 1 - start = 0 := by omega
  rw [search?, none, searchFrom]

-- Each step goes at least one character on, so there is fuel left as long as there is text left.
theorem finds_occurrencesFrom (fuel start : Nat) (enough : text.size + 1 < start + fuel) :
    Finds p text start (occurrencesFrom p text fuel start) := by
  induction fuel generalizing start with
  | zero => exact .past (by omega)
  | succ fuel ih =>
    by_cases inside : start ≤ text.size
    · rw [occurrencesFrom]
      split
      next failed => exact .nothing inside failed
      next s found =>
        obtain ⟨there, after, within, _⟩ := search?_eq_some found
        have bounds := matchAt?_bounds there
        split
        next flat => exact .empty inside found (by omega) (ih (s.stop + 1) (by omega))
        next wide => exact .found inside found (by omega) (ih s.stop (by omega))
    · have past : text.size < start := by omega
      rw [occurrencesFrom, search?_past past]
      exact .past past

theorem finds_occurrences (p : Pattern) (text : Array Char) : Finds p text 0 (occurrences p text) :=
  finds_occurrencesFrom _ 0 (by omega)

theorem Finds.unique {start : Nat} {spans others : List Span} (one : Finds p text start spans)
    (other : Finds p text start others) : spans = others := by
  induction one generalizing others with
  | past past =>
    cases other with
    | past => rfl
    | nothing => rfl
    | empty inside | found inside => omega
  | nothing inside failed =>
    cases other with
    | past | nothing => rfl
    | empty _ found | found _ found =>
      rw [failed] at found
      cases found
  | empty inside found flat rest ih =>
    cases other with
    | past past => omega
    | nothing _ failed =>
      rw [failed] at found
      cases found
    | empty _ found' _ rest' =>
      rw [found] at found'
      cases found'
      exact ih rest'
    | found _ found' wide =>
      rw [found] at found'
      cases found'
      omega
  | found inside found wide rest ih =>
    cases other with
    | past past => omega
    | nothing _ failed =>
      rw [failed] at found
      cases found
    | empty _ found' flat =>
      rw [found] at found'
      cases found'
      omega
    | found _ found' _ rest' =>
      rw [found] at found'
      cases found'
      rw [ih rest']

/-- The match that begins where a span begins, with some text, all of it inside the text. -/
structure Located (p : Pattern) (text : Array Char) (s : Span) : Prop where
  wide : s.start < s.stop
  inside : s.stop ≤ text.size
  matched : p.matchAt? text s.start = some s
  content : (s.text text).toList = (text.toList.drop s.start).take (s.stop - s.start)

theorem located_of_search {start : Nat} {s : Span} (found : p.search? text start = some s)
    (wide : s.start < s.stop) : Located p text s where
  wide := wide
  inside := by
    obtain ⟨there, _, within, _⟩ := search?_eq_some found
    have bounds := matchAt?_bounds there
    omega
  matched := (search?_eq_some found).1
  content := by simp [Span.text, List.take_drop]

theorem Finds.located {start : Nat} {spans : List Span} (ends : Finds p text start spans) :
    ∀ s ∈ spans, start ≤ s.start ∧ Located p text s := by
  induction ends with
  | past | nothing => simp
  | empty inside found flat rest ih =>
    obtain ⟨there, after, _, _⟩ := search?_eq_some found
    intro s listed
    obtain ⟨later, located⟩ := ih s listed
    exact ⟨by omega, located⟩
  | found inside found wide rest ih =>
    obtain ⟨_, after, _, _⟩ := search?_eq_some found
    intro s listed
    rcases List.mem_cons.mp listed with rfl | others
    · exact ⟨after, located_of_search found wide⟩
    · obtain ⟨later, located⟩ := ih s others
      exact ⟨by omega, located⟩

theorem Finds.apart {start : Nat} {spans : List Span} (ends : Finds p text start spans) :
    spans.Pairwise fun s t => s.stop ≤ t.start := by
  induction ends with
  | past | nothing => exact .nil
  | empty inside found flat rest ih => exact ih
  | found inside found wide rest ih => exact .cons (fun t later => (rest.located t later).1) ih

def Uncovered (spans : List Span) (i : Nat) : Prop :=
  ∀ s ∈ spans, i < s.start ∨ s.stop ≤ i

-- The invariant of the scan: up to where it has come, what is not covered has no match with any text.
theorem Finds.complete {start : Nat} {spans : List Span} (ends : Finds p text start spans) :
    ∀ i, start ≤ i → i ≤ text.size → Uncovered spans i → ∀ s, p.matchAt? text i = some s → s.stop = i := by
  induction ends with
  | past past => exact fun i from_ within => by omega
  | nothing inside failed =>
    intro i from_ within _ s here
    rw [search?_eq_none failed i from_ within] at here
    cases here
  | @empty start t later inside found flat rest ih =>
    obtain ⟨there, after, _, gap⟩ := search?_eq_some found
    intro i from_ within uncovered s here
    rcases Nat.lt_trichotomy i t.start with before | rfl | past
    · rw [gap i from_ before] at here
      cases here
    · rw [there] at here
      cases here
      exact flat
    · exact ih i (by omega) within uncovered s here
  | @found start t later inside found wide rest ih =>
    obtain ⟨there, after, _, gap⟩ := search?_eq_some found
    intro i from_ within uncovered s here
    rcases uncovered t List.mem_cons_self with before | past
    · rw [gap i from_ before] at here
      cases here
    · exact ih i past within (fun u later => uncovered u (List.mem_cons_of_mem _ later)) s here

/-- A scan comes to an end, with spans that follow each other. Each is the match at its beginning and has some
text, and no such match is left out. -/
theorem occurrences_locate_matches (p : Pattern) (text : Array Char) :
    (∀ spans, Finds p text 0 spans ↔ spans = occurrences p text) ∧
      (occurrences p text).Pairwise (fun s t => s.stop ≤ t.start) ∧
      (∀ s ∈ occurrences p text, Located p text s) ∧
      ∀ i ≤ text.size, Uncovered (occurrences p text) i → ∀ s, p.matchAt? text i = some s → s.stop = i := by
  have ends := finds_occurrences p text
  refine ⟨fun spans => ⟨fun other => other.unique ends, fun same => same ▸ ends⟩, ends.apart, ?_, ?_⟩
  · exact fun s listed => (ends.located s listed).2
  · exact fun i within => ends.complete i (Nat.zero_le i) within

end SiteSurvey.Scan
