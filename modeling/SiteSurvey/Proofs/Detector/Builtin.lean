import SiteSurvey.Proofs.Detector.AccessKey
import SiteSurvey.Proofs.Scan.Searches

set_option autoImplicit false

namespace SiteSurvey.Detector

open Pattern Scan

theorem compile_builtinSources :
    (builtinSources.all fun source => (compile .none source.2).toOption.any fun p => 0 < p.regex.least) = true := by
  decide +kernel

theorem matchAt?_wide {p : Pattern} (filled : 0 < p.regex.least) {text : Array Char} {i : Nat} {s : Span}
    (found : p.matchAt? text i = some s) : s.start < s.stop := by
  have start := matchAt?_start found
  have bounds := matchAt?_least found
  omega

theorem make_builtinSource {source : String × String} (listed : source ∈ builtinSources) :
    ∃ p, compile .none source.2 = .ok p ∧ 0 < p.regex.least ∧ make source.1 (.text source.2) = .ok ⟨source.1, p⟩ := by
  have read := List.all_eq_true.mp compile_builtinSources source listed
  cases compiled : compile .none source.2 with
  | error problem =>
    rw [compiled] at read
    cases read
  | ok p =>
    have filled : 0 < p.regex.least := by
      rw [compiled] at read
      simpa [Except.toOption] using read
    have applicable : Applicable p := applicable_of_wide fun _ _ _ => matchAt?_wide filled
    exact ⟨p, rfl, filled, make_text_eq_ok_iff.mpr ⟨rfl, compiled, applicable⟩⟩

theorem mem_builtin_iff {d : Detector} :
    d ∈ builtin ↔ ∃ source ∈ builtinSources, make source.1 (.text source.2) = .ok d := by
  rw [builtin, List.mem_filterMap]
  refine exists_congr fun source => and_congr_right fun _ => ?_
  cases made : make source.1 (.text source.2) with
  | error refusal => simp [made, Except.toOption]
  | ok e => simp [made, Except.toOption]

theorem names_builtin : builtin.map (·.name) = builtinSources.map (·.1) := by
  rw [builtin, List.map_filterMap, ← List.filterMap_eq_map]
  refine List.filterMap_congr fun source listed => ?_
  obtain ⟨p, _, _, made⟩ := make_builtinSource listed
  simp [made, Except.toOption]

/-- The detectors that come along can be applied over and over to any text. Each pattern is accepted, as it stands and
as a text, under its name and in order. No match is without text, wherever it begins, so a scan finds each span that it
lists with one search, passes over no empty match and ends with one search in vain. -/
theorem builtin_repeatable :
    builtin.map (·.name) = builtinSources.map (·.1) ∧
      (∀ source ∈ builtinSources, ∃ p, compile .none source.2 = .ok p ∧
        make source.1 (.compiled p) = .ok ⟨source.1, p⟩ ∧ make source.1 (.text source.2) = .ok ⟨source.1, p⟩ ∧
        ⟨source.1, p⟩ ∈ builtin) ∧
      ∀ d ∈ builtin, ∀ text : Array Char,
        (∀ i s, d.pattern.matchAt? text i = some s → s.start < s.stop) ∧
        (∀ i s, d.pattern.search? text i = some s → s.start < s.stop) ∧
        ∀ history spans, Searches d.pattern text 0 history spans ↔
          spans = occurrences d.pattern text ∧ history = spans.map some ++ [none] := by
  refine ⟨names_builtin, fun source listed => ?_, fun d listed text => ?_⟩
  · obtain ⟨p, compiled, filled, made⟩ := make_builtinSource listed
    have applicable : Applicable p := applicable_of_wide fun _ _ _ => matchAt?_wide filled
    exact ⟨p, compiled, check_eq_ok_iff.mpr ⟨rfl, applicable⟩, made, mem_builtin_iff.mpr ⟨source, listed, made⟩⟩
  · obtain ⟨source, given, made⟩ := mem_builtin_iff.mp listed
    obtain ⟨p, _, filled, made'⟩ := make_builtinSource given
    rw [made] at made'
    cases made'
    have wide : ∀ i s, p.matchAt? text i = some s → s.start < s.stop := fun i s => matchAt?_wide filled
    have wide' : ∀ i s, p.search? text i = some s → s.start < s.stop :=
      fun i s found => wide _ s (search?_eq_some found).1
    exact ⟨wide, wide', fun history spans => searches_iff_of_wide wide'⟩

def linkSource : String × String :=
  ("urls.py", "https?://[^\\s\"'`<>()\\\\]+")

def linkText : Array Char :=
  "see https://a.b (or http://c)".toList.toArray

-- Two links are found with three searches.
theorem builtin_finds_links : ∃ d ∈ builtin, d.name = "urls.py" ∧ occurrences d.pattern linkText = [⟨4, 15⟩, ⟨20, 28⟩] ∧
    Searches d.pattern linkText 0 [some ⟨4, 15⟩, some ⟨20, 28⟩, none] [⟨4, 15⟩, ⟨20, 28⟩] := by
  obtain ⟨_, accepted, scanned⟩ := builtin_repeatable
  obtain ⟨p, compiled, _, _, listed⟩ := accepted linkSource (by decide)
  have found : ((compile .none linkSource.2).toOption.map fun p => occurrences p linkText) =
      some [⟨4, 15⟩, ⟨20, 28⟩] := by decide +kernel
  rw [compiled] at found
  have spans : occurrences p linkText = [⟨4, 15⟩, ⟨20, 28⟩] := Option.some.inj found
  obtain ⟨_, _, searches⟩ := scanned _ listed linkText
  exact ⟨_, listed, rfl, spans, (searches _ _).mpr ⟨spans.symm, rfl⟩⟩

end SiteSurvey.Detector
