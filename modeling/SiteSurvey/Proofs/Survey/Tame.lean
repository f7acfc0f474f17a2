import SiteSurvey.Proofs.Survey.Corpus

set_option autoImplicit false

namespace SiteSurvey

namespace Failure

theorem isForeseen_ofTrouble {t : Trouble} (other : t.fault ≠ .nullByte) : (ofTrouble t).isForeseen = true := by
  rw [ofTrouble, if_neg other]
  rfl

theorem isForeseen_of_holds {v : Volume} {test : Volume.Entry → Bool} {p : Path} {fault : VolumeFault} {text : String}
    (failed : v.holds test p = .error fault) : (ofTrouble (.at_ fault text)).isForeseen = true := by
  refine isForeseen_ofTrouble ?_
  rintro rfl
  exact Volume.holds_ne_nullByte test failed

theorem isForeseen_unwritable (p : Path) {t : Trouble} (other : t.fault ≠ .nullByte) :
    (Artifact.unwritable p t).isForeseen = true := by
  rw [Artifact.unwritable, if_neg other]
  rfl

end Failure

/-- A part of a survey that comes to a result or fails in a way that is foreseen. -/
abbrev Tame {α : Type} (x : Survey α) (w : World) : Prop :=
  FailsOnly (fun f => f.isForeseen = true) x w

theorem Tame.apply {α : Type} {w : World} {failure : Trouble → Failure} {c : Volume.Change α}
    (sayable : Volume.Sayable c w.volume)
    (foreseen : ∀ t : Trouble, t.fault ≠ .nullByte → (failure t).isForeseen = true) :
    Tame (Survey.apply failure c) w := by
  intro f w' failed
  rw [Survey.outcome_apply] at failed
  cases ended : outcome c w.volume with
  | mk r v' =>
    rw [ended] at failed
    cases r with
    | ok a => cases failed
    | error t =>
      cases failed
      exact foreseen t (sayable t v' ended)

theorem Tame.of_quiet {α : Type} {w : World} {x : Survey α} {answer : Volume → Except Failure α} (quiet : Quiet x answer)
    (foreseen : ∀ f, answer w.volume = .error f → f.isForeseen = true) : Tame x w := by
  intro f w' failed
  obtain ⟨added, run⟩ := quiet w
  exact foreseen f (congrArg Prod.fst (run.symm.trans failed))

theorem Tame.bind_quiet {α β : Type} {w : World} {x : Survey α} {answer : Volume → Except Failure α} {f : α → Survey β}
    (quiet : Quiet x answer) (foreseen : ∀ f, answer w.volume = .error f → f.isForeseen = true)
    (second : ∀ a notices, answer w.volume = .ok a → Tame (f a) { w with notices }) : Tame (x >>= f) w := by
  refine (Tame.of_quiet quiet foreseen).bind fun a w' done => ?_
  obtain ⟨added, run⟩ := quiet w
  obtain ⟨seen, rfl⟩ := Prod.mk.inj (run.symm.trans done)
  exact second a _ seen

theorem Tame.note (level : Level) (logger : String) (message : Text) (fields : List (Text × Json)) (w : World) :
    Tame (Survey.note level logger message fields) w :=
  .of_ok (Survey.outcome_note _ _ _ _)

namespace Artifact

open Volume

theorem tame_writeText {w : World} {p : Path} {content : Text} (clean : p.names.all isNullFree = true)
    (whole : content.hasSurrogate = false) : Tame (writeText p content) w := by
  have foreseen : ∀ t : Trouble, t.fault ≠ .nullByte → (unwritable p t).isForeseen = true :=
    fun t other => Failure.isForeseen_unwritable _ other
  rw [writeText]
  refine FailsOnly.bind (Tame.apply (sayable_prepare own_willing clean) foreseen) fun draft w₁ _ => ?_
  obtain ⟨place, text⟩ := draft
  simp only [Utf8.firstSurrogates?_eq_none_iff.mpr whole]
  refine FailsOnly.bind (.tryCatch fun f w₂ failed => ?_) fun _ _ _ => .pure _
  -- The temporary file is taken away again, and the failure stays the same.
  have tame := Tame.apply (sayable_deliver own_willing clean place text (Utf8.encode content)) foreseen f w₂ failed
  exact FailsOnly.bind (.of_ok (outcome_modify _)) fun _ _ _ => .throw tame

end Artifact

end SiteSurvey
