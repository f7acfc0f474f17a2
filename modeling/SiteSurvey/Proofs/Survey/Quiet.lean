import SiteSurvey.Proofs.Outcome
import SiteSurvey.Survey.PatternScan

set_option autoImplicit false

namespace SiteSurvey

/-- A part of a survey that only looks: its answer comes from the volume alone, and it leaves no more
than notices behind. -/
def Quiet {α : Type} (x : Survey α) (answer : Volume → Except Failure α) : Prop :=
  ∀ w : World, ∃ added, outcome x w = (answer w.volume, { w with notices := w.notices ++ added })

namespace Quiet

variable {α β : Type} {x : Survey α} {answer : Volume → Except Failure α}

theorem of_unchanged (unchanged : ∀ w, outcome x w = (answer w.volume, w)) : Quiet x answer := by
  intro w
  refine ⟨[], ?_⟩
  rw [unchanged, List.append_nil]

theorem pure (a : α) : Quiet (Pure.pure a) fun _ => .ok a :=
  of_unchanged fun _ => rfl

theorem throw (f : Failure) : Quiet (MonadExcept.throw f : Survey α) fun _ => .error f :=
  of_unchanged fun _ => rfl

theorem withVolume {f : Volume → Survey α} {answers : Volume → Volume → Except Failure α}
    (each : ∀ u, Quiet (f u) (answers u)) : Quiet (Survey.volume >>= f) fun v => answers v v := by
  intro w
  rw [outcome_bind_ok Survey.outcome_volume]
  exact each w.volume w

theorem congr {answer' : Volume → Except Failure α} (quiet : Quiet x answer)
    (same : ∀ v, answer v = answer' v) : Quiet x answer' := by
  rw [← funext same]
  exact quiet

theorem ofExcept (r : Except Failure α) : Quiet (Survey.ofExcept r) fun _ => r :=
  of_unchanged fun _ => Survey.outcome_ofExcept r

theorem applyAsk (failure : Trouble → Failure) (p : Path) (question : Volume → Except VolumeFault α) :
    Quiet (Survey.apply failure (Volume.ask p question))
      fun v => (question v).mapError fun fault => failure (.at_ fault p.toString) := by
  refine of_unchanged fun w => ?_
  rw [Survey.outcome_apply, Volume.outcome_ask]
  cases question w.volume <;> rfl

theorem ask (p : Path) (question : Volume → Except VolumeFault α) :
    Quiet (Survey.ask p question)
      fun v => (question v).mapError fun fault => .ofTrouble (.at_ fault p.toString) :=
  applyAsk Failure.ofTrouble p question

theorem note (level : Level) (logger : String) (message : Text) (fields : List (Text × Json)) :
    Quiet (Survey.note level logger message fields) fun _ => .ok ⟨⟩ :=
  fun _ => ⟨_, rfl⟩

theorem bind {f : α → Survey β} {answers : α → Volume → Except Failure β} (first : Quiet x answer)
    (second : ∀ a, Quiet (f a) (answers a)) :
    Quiet (x >>= f) fun v => answer v >>= fun a => answers a v := by
  intro w
  obtain ⟨added, here⟩ := first w
  cases result : answer w.volume with
  | error e =>
    rw [result] at here
    refine ⟨added, ?_⟩
    simp only [result]
    exact outcome_bind_error here
  | ok a =>
    rw [result] at here
    obtain ⟨more, there⟩ := second a { w with notices := w.notices ++ added }
    refine ⟨added ++ more, ?_⟩
    simp only [result]
    rw [outcome_bind_ok here, there, List.append_assoc]
    rfl

theorem tryCatch {handle : Failure → Survey α} {handled : Failure → Volume → Except Failure α}
    (first : Quiet x answer) (second : ∀ f, Quiet (handle f) (handled f)) :
    Quiet (MonadExcept.tryCatch x handle) fun v =>
      match answer v with
      | .ok a => .ok a
      | .error f => handled f v := by
  intro w
  obtain ⟨added, here⟩ := first w
  cases result : answer w.volume with
  | ok a =>
    rw [result] at here
    refine ⟨added, ?_⟩
    simp only [result]
    exact outcome_tryCatch_ok here
  | error f =>
    rw [result] at here
    obtain ⟨more, there⟩ := second f { w with notices := w.notices ++ added }
    refine ⟨added ++ more, ?_⟩
    simp only [result]
    rw [outcome_tryCatch_error here, there, List.append_assoc]

theorem mapM {f : α → Survey β} {answers : α → Volume → Except Failure β}
    (each : ∀ a, Quiet (f a) (answers a)) (as : List α) :
    Quiet (as.mapM f) fun v => as.mapM fun a => answers a v := by
  induction as with
  | nil => exact .pure []
  | cons a as ih =>
    simp only [List.mapM_cons]
    exact (each a).bind fun b => ih.bind fun bs => .pure (b :: bs)

theorem foldlM {f : β → α → Survey β} {answers : β → α → Volume → Except Failure β}
    (each : ∀ b a, Quiet (f b a) (answers b a)) (as : List α) (b : β) :
    Quiet (as.foldlM f b) fun v => as.foldlM (fun b a => answers b a v) b := by
  induction as generalizing b with
  | nil => exact .pure b
  | cons a as ih =>
    simp only [List.foldlM_cons]
    exact (each b a).bind fun b' => ih b'

theorem forM {f : α → Survey PUnit} (each : ∀ a, Quiet (f a) fun _ => .ok ⟨⟩) (as : List α) :
    Quiet (as.forM f) fun _ => .ok ⟨⟩ := by
  induction as with
  | nil => exact .pure PUnit.unit
  | cons a as ih => exact (each a).bind fun _ => ih

theorem bind_eq_ok {f : α → Survey β} {b : β} {w w' : World} (quiet : Quiet x answer)
    (both : outcome (x >>= f) w = (.ok b, w')) :
    ∃ a notices, answer w.volume = .ok a ∧ outcome (f a) { w with notices } = (.ok b, w') := by
  obtain ⟨added, run⟩ := quiet w
  obtain ⟨a, w₁, first, second⟩ := outcome_bind_eq_ok both
  obtain ⟨seen, rfl⟩ := Prod.mk.inj (first.symm.trans run)
  exact ⟨a, _, seen.symm, second⟩

end Quiet

/-- A part of a survey that succeeds with an answer and leaves a volume. Notices are not looked at. -/
def Yields {α : Type} (x : Survey α) (w : World) (a : α) (v : Volume) : Prop :=
  ∃ notices, outcome x w = (.ok a, { w with volume := v, notices })

namespace Yields

variable {α β : Type} {x : Survey α} {w : World} {a : α} {b : β} {v v' : Volume}

theorem pure (a : α) (w : World) : Yields (Pure.pure a) w a w.volume :=
  ⟨w.notices, rfl⟩

theorem bind {f : α → Survey β} (first : Yields x w a v)
    (second : ∀ notices, Yields (f a) { w with volume := v, notices } b v') : Yields (x >>= f) w b v' := by
  obtain ⟨notices, here⟩ := first
  obtain ⟨notices', there⟩ := second notices
  exact ⟨notices', (outcome_bind_ok here).trans there⟩

theorem note (level : Level) (logger : String) (message : Text) (fields : List (Text × Json)) (w : World) :
    Yields (Survey.note level logger message fields) w ⟨⟩ w.volume :=
  ⟨_, rfl⟩

theorem ofExcept {r : Except Failure α} (found : r = .ok a) (w : World) :
    Yields (Survey.ofExcept r) w a w.volume := by
  refine ⟨w.notices, ?_⟩
  rw [Survey.outcome_ofExcept, found]

end Yields

/-- A part of a survey that ends it because a text cannot be encoded. -/
def Breaks {α : Type} (x : Survey α) (w : World) : Prop :=
  ∃ message w', outcome x w = (.error (.unencodable message), w')

theorem Breaks.bind {α β : Type} {x : Survey α} {w : World} (f : α → Survey β) (first : Breaks x w) :
    Breaks (x >>= f) w := by
  obtain ⟨message, w', failed⟩ := first
  exact ⟨message, w', outcome_bind_error failed⟩

theorem Yields.breaks {α β : Type} {x : Survey α} {f : α → Survey β} {w : World} {a : α} {v : Volume}
    (first : Yields x w a v) (second : ∀ notices, Breaks (f a) { w with volume := v, notices }) :
    Breaks (x >>= f) w := by
  obtain ⟨notices, here⟩ := first
  obtain ⟨message, w', failed⟩ := second notices
  exact ⟨message, w', (outcome_bind_ok here).trans failed⟩

theorem Quiet.yields {α : Type} {x : Survey α} {answer : Volume → Except Failure α} {a : α}
    (quiet : Quiet x answer) (w : World) (seen : answer w.volume = .ok a) : Yields x w a w.volume := by
  obtain ⟨added, run⟩ := quiet w
  rw [seen] at run
  exact ⟨_, run⟩

end SiteSurvey
