import SiteSurvey.Proofs.Scan.Occurrence

set_option autoImplicit false

namespace SiteSurvey.Scan

open Pattern

variable {p : Pattern} {text : Array Char} {start : Nat} {history : List (Option Span)} {spans : List Span}

/-- What each search of a scan that goes on from an offset finds, beside the spans that the scan lists. -/
inductive Searches (p : Pattern) (text : Array Char) : Nat → List (Option Span) → List Span → Prop
  | past {start : Nat} : text.size < start → Searches p text start [] []
  | nothing {start : Nat} : start ≤ text.size → p.search? text start = none → Searches p text start [none] []
  | empty {start : Nat} {s : Span} {history : List (Option Span)} {later : List Span} : start ≤ text.size →
      p.search? text start = some s → s.stop = s.start → Searches p text (s.stop + 1) history later →
      Searches p text start (some s :: history) later
  | found {start : Nat} {s : Span} {history : List (Option Span)} {later : List Span} : start ≤ text.size →
      p.search? text start = some s → s.start < s.stop → Searches p text s.stop history later →
      Searches p text start (some s :: history) (s :: later)

theorem Searches.finds (ran : Searches p text start history spans) : Finds p text start spans := by
  induction ran with
  | past past => exact .past past
  | nothing inside failed => exact .nothing inside failed
  | empty inside found flat _ ih => exact .empty inside found flat ih
  | found inside found wide _ ih => exact .found inside found wide ih

theorem Finds.searches (ends : Finds p text start spans) : ∃ history, Searches p text start history spans := by
  induction ends with
  | past past => exact ⟨[], .past past⟩
  | nothing inside failed => exact ⟨[none], .nothing inside failed⟩
  | empty inside found flat _ ih =>
    obtain ⟨history, ran⟩ := ih
    exact ⟨_, .empty inside found flat ran⟩
  | found inside found wide _ ih =>
    obtain ⟨history, ran⟩ := ih
    exact ⟨_, .found inside found wide ran⟩

-- A match with some text ends within the text, so there is always one more search, and the last one finds nothing.
theorem Searches.of_wide (wide : ∀ i s, p.search? text i = some s → s.start < s.stop)
    (ran : Searches p text start history spans) (inside : start ≤ text.size) : history = spans.map some ++ [none] := by
  induction ran with
  | past past => omega
  | nothing => rfl
  | empty _ found flat =>
    have := wide _ _ found
    omega
  | found _ found _ _ ih =>
    obtain ⟨there, _, within, _⟩ := search?_eq_some found
    have bounds := matchAt?_bounds there
    rw [ih (by omega), List.map_cons, List.cons_append]

/-- A scan whose matches all have some text searches once for each span that it lists, and once more in vain. -/
theorem searches_iff_of_wide (wide : ∀ i s, p.search? text i = some s → s.start < s.stop) :
    Searches p text 0 history spans ↔ spans = occurrences p text ∧ history = spans.map some ++ [none] := by
  have ends := finds_occurrences p text
  constructor
  · intro ran
    exact ⟨ran.finds.unique ends, ran.of_wide wide (Nat.zero_le _)⟩
  · rintro ⟨rfl, rfl⟩
    obtain ⟨history, ran⟩ := ends.searches
    rwa [← ran.of_wide wide (Nat.zero_le _)]

end SiteSurvey.Scan
