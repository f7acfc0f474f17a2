import Mathlib.Data.List.Basic
import Mathlib.Data.List.Induction
import SiteSurvey.Log.Setup
import SiteSurvey.Proofs.Outcome

set_option autoImplicit false

namespace SiteSurvey.Log

variable {log : Log} {s : Setup} {l : Level} {n : Notice}

def Setup.level? (s : Setup) : Option Level :=
  Level.ofName? (Text.upper (Text.ofString s.level)).toString

def Setup.handlers (s : Setup) : List Handler :=
  (if s.toFile then [.file] else []) ++ (if s.toConsole then [.console] else [])

def Setup.logger (s : Setup) (l : Level) : Logger :=
  { level := l.number, handlers := s.handlers, propagates := false }

section Configure

theorem outcome_configure (usable : s.level? = some l) :
    outcome (configure s) log = (.ok ⟨⟩, { log with survey := s.logger l }) := by
  have level : levelOf s.level = .ok l := by
    rw [levelOf]
    unfold Setup.level? at usable
    simp only [usable]
  obtain ⟨toFile, name, toConsole⟩ := s
  simp only [configure, level]
  cases toFile <;> cases toConsole <;> rfl

-- The level is looked up before anything is changed.
theorem outcome_configure_unusable (unusable : s.level? = none) (log : Log) :
    ∃ f, outcome (configure s) log = (.error f, log) := by
  have level : ∃ f, levelOf s.level = .error f := by
    rw [levelOf]
    unfold Setup.level? at unusable
    simp only [unusable]
    split
    · exact ⟨_, rfl⟩
    · split <;> exact ⟨_, rfl⟩
  obtain ⟨f, level⟩ := level
  refine ⟨f, ?_⟩
  simp only [configure, level]
  exact outcome_bind_error (outcome_throw f)

end Configure

section Record

theorem foldl_emit (n : Notice) (hs : List Handler) (log : Log) :
    hs.foldl (emit n) log = { log with written := log.written ++ List.replicate (hs.count .file) n } := by
  induction hs generalizing log with
  | nil => simp
  | cons h hs ih =>
    rw [List.foldl_cons, ih]
    cases h with
    | file => simp [emit, List.replicate_succ]
    | console | nowhere => simp [emit]

def isSound (n : Notice) : Bool :=
  n.fields.all fun f => !reserved f.1

/-- Recording a notice changes nothing but the file, which gets it once for each handler on the way up that leads
there. -/
theorem outcome_record (n : Notice) (log : Log) : (outcome (record n) log).2 = { log with
    written := log.written ++ if log.accepts n && isSound n then
      List.replicate ((handlersOn (log.wayUp n.logger)).count .file) n else [] } := by
  rw [record, outcome_bind_ok outcome_get]
  cases accepted : log.accepts n with
  | false => simp
  | true =>
    cases found : n.fields.find? fun f => reserved f.1 with
    | some f =>
      have taken : isSound n = false := by
        have := List.find?_some found
        simp only [isSound, List.all_eq_false]
        exact ⟨f, List.mem_of_find?_eq_some found, by simpa using this⟩
      simp [taken]
    | none =>
      have sound : isSound n = true := by
        simpa [isSound, List.find?_eq_none] using found
      simp [sound, foldl_emit]

end Record

inductive Step where
  | configure (s : Setup)
  | record (n : Notice)

namespace Step

def work : Step → Logging Unit
  | configure s => Log.configure s
  | record n => Log.record n

def setup? : Step → Option (Setup × Level)
  | configure s => s.level?.map fun l => (s, l)
  | record _ => none

def notice? : Step → Option Notice
  | configure _ => none
  | record n => some n

end Step

def after (log : Log) (steps : List Step) : Log :=
  steps.foldl (fun log step => (outcome step.work log).2) log

/-- The last setup among some steps that is carried out, and its level. -/
def latest (steps : List Step) : Option (Setup × Level) :=
  (steps.filterMap Step.setup?).getLast?

def loggerAfter (first : Logger) (now : Option (Setup × Level)) : Logger :=
  (now.map fun (s, l) => s.logger l).getD first

/-- A notice of the survey belongs into the file: that has been asked for, the notice reaches the level, for which
that of the logger above stands in where it is not set, and it can be recorded. -/
def isKept (outer : Int) (now : Option (Setup × Level)) (n : Notice) : Bool :=
  now.any fun (s, l) => s.toFile && (n.logger == surveyName || isBelow n.logger) &&
    (if l.number = 0 then outer else l.number) ≤ n.level.number && isSound n

/-- The notices among some steps that belong into the file, each judged by the last setup before it. -/
def kept (outer : Int) (steps : List Step) : List Notice :=
  (List.range steps.length).filterMap fun i =>
    (steps[i]?.bind Step.notice?).filter (isKept outer (latest (steps.take i)))

section Steps

variable {steps : List Step} {step : Step}

theorem after_concat (log : Log) (steps : List Step) (step : Step) :
    log.after (steps ++ [step]) = (outcome step.work (log.after steps)).2 := by
  rw [after, List.foldl_append]
  rfl

theorem latest_concat (steps : List Step) (step : Step) :
    latest (steps ++ [step]) = step.setup?.or (latest steps) := by
  rw [latest, List.filterMap_append, List.getLast?_append]
  cases found : step.setup? with
  | none => simp [found, latest]
  | some now => simp [found]

theorem kept_concat (outer : Int) (steps : List Step) (step : Step) :
    kept outer (steps ++ [step]) = kept outer steps ++ (step.notice?.filter (isKept outer (latest steps))).toList := by
  have earlier : ∀ i ∈ List.range steps.length,
      ((steps ++ [step])[i]?.bind Step.notice?).filter (isKept outer (latest ((steps ++ [step]).take i))) =
        (steps[i]?.bind Step.notice?).filter (isKept outer (latest (steps.take i))) := by
    intro i inside
    rw [List.mem_range] at inside
    rw [List.getElem?_append_left inside, List.take_append_of_le_length (Nat.le_of_lt inside)]
  have last : ∀ f : Nat → Option Notice, [steps.length].filterMap f = (f steps.length).toList := by
    intro f
    cases ended : f steps.length <;> simp [ended]
  rw [kept, List.length_append, List.length_singleton, List.range_succ, List.filterMap_append,
    List.filterMap_congr earlier, last, List.getElem?_concat_length, List.take_left]
  rfl

theorem number_of_latest {now : Setup × Level} (found : latest steps = some now) : 0 ≤ now.2.number := by
  obtain ⟨step, _, setup⟩ := List.mem_filterMap.mp (List.mem_of_getLast? found)
  cases step with
  | record => cases setup
  | configure s =>
    rw [Step.setup?, Option.map_eq_some_iff] at setup
    obtain ⟨l, named, rfl⟩ := setup
    -- No name stands for a level below zero.
    change 0 ≤ l.number
    unfold Setup.level? Level.ofName? at named
    split at named <;> cases named <;> decide

end Steps

/-- A log before it is first set up: no handler leads to the file, and the logger above has a level. -/
structure IsFresh (log : Log) : Prop where
  outer : 0 < log.root.level
  root : .file ∉ log.root.handlers
  survey : .file ∉ log.survey.handlers

section Course

variable {now : Option (Setup × Level)}

theorem IsFresh.count_root (fresh : log.IsFresh) : (handlersOn [log.root]).count .file = 0 := by
  have root := List.count_eq_zero.mpr fresh.root
  simp [handlersOn, root]

theorem IsFresh.count_survey (fresh : log.IsFresh) : (handlersOn [log.survey, log.root]).count .file = 0 := by
  have survey := List.count_eq_zero.mpr fresh.survey
  have root := fresh.count_root
  rw [handlersOn, List.count_append, survey]
  cases log.survey.propagates with
  | true => simpa using root
  | false => simp

theorem handlersOn_logger (s : Setup) (l : Level) (above : List Logger) :
    handlersOn (s.logger l :: above) = s.handlers := by
  simp [handlersOn, Setup.logger]

theorem count_handlers (s : Setup) : s.handlers.count .file = if s.toFile then 1 else 0 := by
  obtain ⟨toFile, name, toConsole⟩ := s
  cases toFile <;> cases toConsole <;> rfl

theorem effectiveLevel_survey (log : Log) : effectiveLevel [log.survey, log.root] =
    if log.survey.level = 0 then log.root.level else log.survey.level := by
  by_cases unset : log.root.level = 0 <;> simp [effectiveLevel, unset, Level.unset]

theorem wayUp_own (log : Log) {name : String} (own : (name == surveyName || isBelow name) = true) :
    effectiveLevel (log.wayUp name) = effectiveLevel [log.survey, log.root] ∧
      handlersOn (log.wayUp name) = handlersOn [log.survey, log.root] := by
  rw [wayUp]
  split
  · exact ⟨rfl, rfl⟩
  next other =>
    have below : isBelow name = true := by simpa [other] using own
    rw [if_pos below]
    exact ⟨rfl, rfl⟩

theorem wayUp_other (log : Log) {name : String} (other : (name == surveyName || isBelow name) = false) :
    log.wayUp name = [log.root] := by
  rw [Bool.or_eq_false_iff, beq_eq_false_iff_ne] at other
  rw [wayUp, if_neg other.1, if_neg (by simp [other.2])]

/-- A log that has come from a fresh one: only the logger of the survey and the file have changed. -/
def course (log : Log) (now : Option (Setup × Level)) (written : List Notice) : Log :=
  { log with survey := loggerAfter log.survey now, written }

theorem count_before (fresh : log.IsFresh) (written : List Notice) (name : String) :
    (handlersOn ((log.course none written).wayUp name)).count .file = 0 := by
  cases own : name == surveyName || isBelow name with
  | true =>
    rw [(wayUp_own _ own).2]
    exact fresh.count_survey
  | false =>
    rw [wayUp_other _ own]
    exact fresh.count_root

theorem replicate_course (fresh : log.IsFresh) (s : Setup) {l : Level} (named : 0 ≤ l.number) (written : List Notice)
    (n : Notice) :
    (if (log.course (some (s, l)) written).accepts n && isSound n then
        List.replicate ((handlersOn ((log.course (some (s, l)) written).wayUp n.logger)).count .file) n else []) =
      if isKept log.root.level (some (s, l)) n then [n] else [] := by
  have outer := fresh.outer
  cases own : n.logger == surveyName || isBelow n.logger with
  | false =>
    have count : (handlersOn ((log.course (some (s, l)) written).wayUp n.logger)).count .file = 0 := by
      rw [wayUp_other _ own]
      exact fresh.count_root
    simp [count, isKept, own]
  | true =>
    obtain ⟨level, handlers⟩ := wayUp_own (log.course (some (s, l)) written) own
    have survey : (log.course (some (s, l)) written).survey = s.logger l := rfl
    have root : (log.course (some (s, l)) written).root = log.root := rfl
    have accepts : (log.course (some (s, l)) written).accepts n =
        decide ((if l.number = 0 then log.root.level else l.number) ≤ n.level.number) := by
      -- The level in force is above zero, so a notice that reaches it is above zero too.
      rw [accepts, level, effectiveLevel_survey, survey, root, Setup.logger, Bool.eq_iff_iff]
      simp only [Bool.and_eq_true, decide_eq_true_eq]
      constructor
      · exact fun both => both.2
      · intro reached
        refine ⟨?_, reached⟩
        split at reached <;> omega
    rw [accepts, handlers, survey, handlersOn_logger, count_handlers]
    cases toFile : s.toFile <;> simp [isKept, own, toFile]

theorem step_course (fresh : log.IsFresh) (named : ∀ c, now = some c → 0 ≤ c.2.number) (written : List Notice)
    (step : Step) : (outcome step.work (log.course now written)).2 = log.course (step.setup?.or now)
      (written ++ (step.notice?.filter (isKept log.root.level now)).toList) := by
  cases step with
  | configure s =>
    rw [Step.work, Step.setup?, Step.notice?, Option.filter_none, Option.toList_none, List.append_nil]
    cases usable : s.level? with
    | none =>
      obtain ⟨f, failed⟩ := outcome_configure_unusable usable (log.course now written)
      rw [failed]
      rfl
    | some l =>
      rw [outcome_configure usable]
      rfl
  | record n =>
    have gets : (if (log.course now written).accepts n && isSound n then
        List.replicate ((handlersOn ((log.course now written).wayUp n.logger)).count .file) n else []) =
          if isKept log.root.level now n then [n] else [] := by
      cases now with
      | none => simp [count_before fresh, isKept]
      | some c => exact replicate_course fresh c.1 (named c rfl) written n
    rw [Step.work, outcome_record, gets, Step.setup?, Step.notice?, Option.none_or, Option.filter_some]
    cases isKept log.root.level now n <;> rfl

theorem after_eq_course (fresh : log.IsFresh) (steps : List Step) :
    log.after steps = log.course (latest steps) (log.written ++ kept log.root.level steps) := by
  induction steps using List.reverseRecOn with
  | nil => simp [after, course, latest, loggerAfter, kept]
  | append_singleton steps step ih =>
    rw [after_concat, ih, step_course fresh (fun c found => number_of_latest found), latest_concat, kept_concat,
      List.append_assoc]

end Course

section Samples

def sampleNotice (level : Level) (logger : String) : Notice :=
  { level, logger, message := "m", fields := [("event", .null)] }

-- A log to the file is set up, with a name that no level has, without the file, and to the file again with the level
-- of the logger above.
def sampleSteps : List Step :=
  [.record (sampleNotice .critical "jsrecon"), .configure { toFile := true, level := "Debug", toConsole := false },
   .record (sampleNotice .debug "jsrecon.events"), .configure { level := "bogus" },
   .record (sampleNotice ⟨25⟩ "jsrecon"), .configure { level := "error" },
   .record (sampleNotice .critical "jsrecon.events"), .configure { toFile := true, level := "notset" },
   .record (sampleNotice .debug "jsrecon.events"), .record (sampleNotice .info "jsrecon.events")]

theorem isFresh_initial : initial.IsFresh where
  outer := by decide
  root := by decide
  survey := by decide

end Samples

end SiteSurvey.Log
