import SiteSurvey.Proofs.Scan.Occurrence
import SiteSurvey.Proofs.Survey.Foreseen

set_option autoImplicit false

namespace SiteSurvey.Detector

open Pattern Scan

section Repeated

variable {p : Pattern} {text : Array Char}

/-- The offsets from which a pattern that is applied over and over is looked for. -/
inductive Resumes (p : Pattern) (text : Array Char) : Nat → Nat → Prop
  | here {i : Nat} : Resumes p text i i
  | after {i j : Nat} {s : Span} (found : p.search? text i = some s) (further : Resumes p text s.stop j) :
      Resumes p text i j

def WideFrom (p : Pattern) (text : Array Char) (start : Nat) : Prop :=
  ∀ i s, Resumes p text start i → p.search? text i = some s → s.start < s.stop

theorem WideFrom.next {start : Nat} {s : Span} (wide : WideFrom p text start) (found : p.search? text start = some s) :
    WideFrom p text s.stop :=
  fun i t resumes => wide i t (.after found resumes)

theorem WideFrom.of_next {start : Nat} {s : Span} (found : p.search? text start = some s) (here : s.start < s.stop)
    (later : WideFrom p text s.stop) : WideFrom p text start := by
  intro i t resumes found'
  cases resumes with
  | here =>
    rw [found] at found'
    cases found'
    exact here
  | after first further =>
    rw [found] at first
    cases first
    exact later i t further found'

theorem wideFrom_of_none {start : Nat} (failed : p.search? text start = none) : WideFrom p text start := by
  intro i s resumes found
  cases resumes with
  | here =>
    rw [failed] at found
    cases found
  | after first _ =>
    rw [failed] at first
    cases first

-- A match with some text moves the start on, so the fuel lasts until the text is used up.
theorem emptyMatchFrom_eq_none_iff {fuel start : Nat} (enough : text.size + 1 < start + fuel) :
    emptyMatchFrom p text fuel start = none ↔ WideFrom p text start := by
  induction fuel generalizing start with
  | zero =>
    have past : p.search? text start = none := search?_past (by omega)
    simp [emptyMatchFrom, wideFrom_of_none past]
  | succ fuel ih =>
    rw [emptyMatchFrom]
    split
    next failed => simp [wideFrom_of_none failed]
    next s found =>
      obtain ⟨there, after, within, _⟩ := search?_eq_some found
      split
      next flat =>
        have empty : ¬WideFrom p text start := fun wide => absurd (wide start s .here found) (by omega)
        simp [empty]
      next wide =>
        rw [ih (by omega)]
        exact ⟨.of_next found (by omega), fun all => all.next found⟩

end Repeated

/-- A pattern that can be applied over and over: it does not match the empty text, and none of its matches in
the samples is empty. -/
def Applicable (p : Pattern) : Prop :=
  p.matchAt? #[] 0 = none ∧ ∀ sample ∈ samples, WideFrom p sample.toList.toArray 0

theorem obstacle?_eq_none_iff {p : Pattern} : obstacle? p = none ↔ Applicable p := by
  have sampled : ∀ sample : String,
      emptyMatch? p sample.toList.toArray = none ↔ WideFrom p sample.toList.toArray 0 :=
    fun sample => emptyMatchFrom_eq_none_iff (by omega)
  unfold obstacle? Applicable
  split
  next empty =>
    rw [Option.isSome_iff_ne_none] at empty
    simp [empty]
  next wide =>
    simp only [List.findSome?_eq_none_iff, Option.map_eq_none_iff, sampled]
    simp only [Bool.not_eq_true, Option.isSome_eq_false_iff, Option.isNone_iff_eq_none] at wide
    simp [wide]

theorem check_eq_ok_iff {name : String} {p : Pattern} {d : Detector} :
    check name p = .ok d ↔ d = { name, pattern := p } ∧ Applicable p := by
  rw [check, ← obstacle?_eq_none_iff]
  cases obstacle? p with
  | none => simp [eq_comm]
  | some reason => simp

theorem applicable_of_make {name : String} {e : Export} {d : Detector} (made : make name e = .ok d) :
    Applicable d.pattern := by
  have checked : ∀ p, check name p = .ok d → Applicable d.pattern := by
    intro p accepted
    obtain ⟨rfl, applicable⟩ := check_eq_ok_iff.mp accepted
    exact applicable
  cases e with
  | text source =>
    rw [make] at made
    split at made
    · exact checked _ made
    · split at made <;> cases made
  | compiled p => exact checked p made
  | bytes | other _ => cases made

def Offer.Compiles : Offer → Pattern → Prop
  | .value (.string source), p => Pattern.compile .none source.toString = .ok p
  | .compiled flags source, p => Pattern.compile flags source = .ok p
  | _, _ => False

theorem make_eq_ok_iff {offer : Offer} {e : Export} {name : String} {d : Detector} (given : offer.outcome = .ok e) :
    make name e = .ok d ↔ d.name = name ∧ offer.Compiles d.pattern ∧ Applicable d.pattern := by
  have checked : ∀ p, check name p = .ok d ↔ d.name = name ∧ p = d.pattern ∧ Applicable d.pattern := by
    intro p
    rw [check_eq_ok_iff]
    constructor
    · rintro ⟨rfl, fit⟩
      exact ⟨rfl, rfl, fit⟩
    · rintro ⟨rfl, rfl, fit⟩
      exact ⟨rfl, fit⟩
  -- Only a pattern over text gets to the check.
  cases offer with
  | value v =>
    cases v with
    | string source =>
      cases given
      rw [make, Offer.Compiles]
      cases Pattern.compile .none source.toString with
      | ok p => simp [checked]
      | error problem =>
        dsimp only
        split <;> simp
    | _ =>
      cases given
      simp [make, Offer.Compiles]
  | compiled flags source =>
    rw [Offer.outcome] at given
    rw [Offer.Compiles]
    cases compiled : Pattern.compile flags source with
    | ok p =>
      rw [compiled] at given
      cases given
      simp [make, checked]
    | error problem =>
      rw [compiled] at given
      cases given
  | bytes flags source =>
    rw [Offer.outcome] at given
    cases compiled : Pattern.compile flags source with
    | ok p =>
      rw [compiled] at given
      cases given
      simp [make, Offer.Compiles]
    | error problem =>
      rw [compiled] at given
      cases given

theorem Offer.Compiles.given {offer : Offer} {p : Pattern} (compiles : offer.Compiles p) :
    ∃ e, offer.outcome = .ok e := by
  cases offer with
  | value v => cases v <;> exact ⟨_, rfl⟩
  | compiled flags source =>
    have compiled : Pattern.compile flags source = .ok p := compiles
    rw [Offer.outcome, compiled]
    exact ⟨_, rfl⟩
  | bytes flags source => exact compiles.elim

namespace Plugin

variable {p : Plugin} {fileName : String}

/-- A file from which a detector can be had. -/
structure Offers (p : Plugin) (fileName : String) (d : Detector) : Prop where
  loads : p.complaint = none
  named : p.nameFor fileName = some d.name
  compiles : ∃ offer, p.offer = some offer ∧ offer.Compiles d.pattern
  applicable : Applicable d.pattern

theorem load_eq_ok_iff {d : Detector} : p.load fileName = .ok d ↔ p.Offers fileName d := by
  constructor
  · intro loaded
    unfold load at loaded
    dsimp only at loaded
    split at loaded
    · cases loaded
    · cases loaded
    · next offer loads offered =>
      split at loaded
      · cases loaded
      · next e given =>
        split at loaded
        · cases loaded
        · next name named =>
          obtain ⟨rfl, compiles, applicable⟩ := (make_eq_ok_iff given).mp loaded
          exact ⟨loads, named, ⟨offer, offered, compiles⟩, applicable⟩
  · rintro ⟨loads, named, ⟨offer, offered, compiles⟩, applicable⟩
    obtain ⟨e, given⟩ := compiles.given
    simp only [load, loads, offered, given, named]
    exact (make_eq_ok_iff given).mpr ⟨rfl, compiles, applicable⟩

end Plugin

def Refusal.breaks : Refusal → Bool
  | rejected _ _ => false
  | beyondBounds _ | clashingFlags _ => true

namespace Plugin

variable {p : Plugin} {fileName : String}

/-- A file whose pattern is a text that compiling gives up on without a rejection. It has to get that far: it can
be loaded, and it has a name. -/
structure Breaks (p : Plugin) (fileName : String) : Prop where
  loads : p.complaint = none
  named : (p.nameFor fileName).isSome = true
  wild : ¬p.Sober

theorem load_breaks_iff : (∃ r, p.load fileName = .error r ∧ r.breaks = true) ↔ p.Breaks fileName := by
  constructor
  · rintro ⟨r, failed, breaks⟩
    have wild : ¬p.Sober := by
      intro sober
      obtain ⟨name, reason, rfl⟩ := load_refusal sober failed
      cases breaks
    -- Only the last of the ways to fail can break; the others are rejections.
    unfold load at failed
    dsimp only at failed
    split at failed
    · cases failed
      cases breaks
    · cases failed
      cases breaks
    · next loads _ =>
      split at failed
      · cases failed
        cases breaks
      · split at failed
        · cases failed
          cases breaks
        · next named => exact ⟨loads, by rw [named]; rfl, wild⟩
  · rintro ⟨loads, named, wild⟩
    obtain ⟨name, named⟩ := Option.isSome_iff_exists.mp named
    simp only [Sober, not_forall, not_and_or, not_not] at wild
    obtain ⟨offer, source, problem, offered, given, compiled, flaw⟩ := wild
    simp only [load, loads, offered, given, named, make, compiled]
    rcases flaw with flaw | flaw
    · rw [flaw]
      exact ⟨_, rfl, rfl⟩
    · rw [flaw]
      exact ⟨_, rfl, rfl⟩

theorem nameFor_ne_empty {name : String} (file : fileName ≠ "") (named : p.nameFor fileName = some name) :
    name ≠ "" := by
  unfold nameFor at named
  split at named
  · cases named
    exact file
  · next s _ =>
    split at named
    · cases named
    · next some_ =>
      cases named
      simpa [Text.toString, Text.toChars] using some_
  · cases named

theorem make_rejected_name {name own : String} {e : Export} {reason : Rejection}
    (failed : make own e = .error (.rejected name reason)) : name = own := by
  have checked : ∀ pattern, check own pattern = .error (.rejected name reason) → name = own := by
    intro pattern failed
    obtain ⟨_, same⟩ := check_refusal failed
    cases same
    rfl
  cases e with
  | text source =>
    rw [make] at failed
    split at failed
    · exact checked _ failed
    · split at failed <;> cases failed
      rfl
  | compiled pattern => exact checked pattern failed
  | bytes | other _ =>
    cases failed
    rfl

/-- A file is rejected under its own name or under that of its detector. -/
theorem load_rejected_name {name : String} {reason : Rejection}
    (failed : p.load fileName = .error (.rejected name reason)) :
    name = fileName ∨ p.nameFor fileName = some name := by
  unfold load at failed
  dsimp only at failed
  split at failed
  · cases failed
    exact .inl rfl
  · cases failed
    exact .inl rfl
  · split at failed
    · cases failed
      exact .inl rfl
    · next e given =>
      split at failed
      · cases failed
        exact .inl rfl
      · next own named =>
        obtain rfl := make_rejected_name failed
        exact .inr named

end Plugin

end SiteSurvey.Detector
