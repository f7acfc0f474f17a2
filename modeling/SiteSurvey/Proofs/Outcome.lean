import SiteSurvey.Volume.Change
import SiteSurvey.World

set_option autoImplicit false

namespace SiteSurvey

/-- What comes of a part of a survey, or of a change to a volume: the answer or the reason why there is
none, and the state that is left in either case. -/
def outcome {ε σ α : Type} (x : ExceptT ε (StateM σ) α) (s : σ) : Except ε α × σ :=
  x.run.run s

section Monad

variable {ε σ α β : Type} {s s' : σ} {x : ExceptT ε (StateM σ) α}

@[simp] theorem outcome_pure (a : α) : outcome (pure a : ExceptT ε (StateM σ) α) s = (.ok a, s) := rfl

@[simp] theorem outcome_throw (e : ε) : outcome (throw e : ExceptT ε (StateM σ) α) s = (.error e, s) := rfl

@[simp] theorem outcome_get : outcome (get : ExceptT ε (StateM σ) σ) s = (.ok s, s) := rfl

@[simp] theorem outcome_set (t : σ) : outcome (set t : ExceptT ε (StateM σ) PUnit) s = (.ok ⟨⟩, t) := rfl

@[simp] theorem outcome_modify (f : σ → σ) :
    outcome (modify f : ExceptT ε (StateM σ) PUnit) s = (.ok ⟨⟩, f s) := rfl

theorem outcome_bind (f : α → ExceptT ε (StateM σ) β) :
    outcome (x >>= f) s =
      match outcome x s with
      | (.ok a, s') => outcome (f a) s'
      | (.error e, s') => (.error e, s') := by
  change (match outcome x s with
    | (r, s') => (ExceptT.bindCont f r : StateM σ (Except ε β)).run s') = _
  cases outcome x s with
  | mk r s' => cases r <;> rfl

theorem outcome_bind_ok {a : α} {f : α → ExceptT ε (StateM σ) β} (first : outcome x s = (.ok a, s')) :
    outcome (x >>= f) s = outcome (f a) s' := by
  rw [outcome_bind, first]

theorem outcome_bind_error {e : ε} {f : α → ExceptT ε (StateM σ) β} (first : outcome x s = (.error e, s')) :
    outcome (x >>= f) s = (.error e, s') := by
  rw [outcome_bind, first]

theorem outcome_bind_eq_ok {f : α → ExceptT ε (StateM σ) β} {b : β} {t : σ}
    (both : outcome (x >>= f) s = (.ok b, t)) :
    ∃ a s', outcome x s = (.ok a, s') ∧ outcome (f a) s' = (.ok b, t) := by
  cases first : outcome x s with
  | mk r s' =>
    cases r with
    | ok a => exact ⟨a, s', rfl, (outcome_bind_ok first).symm.trans both⟩
    | error e => simp [outcome_bind_error first] at both

theorem outcome_bind_eq_error {f : α → ExceptT ε (StateM σ) β} {e : ε} {t : σ}
    (both : outcome (x >>= f) s = (.error e, t)) :
    outcome x s = (.error e, t) ∨ ∃ a s', outcome x s = (.ok a, s') ∧ outcome (f a) s' = (.error e, t) := by
  cases first : outcome x s with
  | mk r s' =>
    cases r with
    | ok a => exact .inr ⟨a, s', rfl, (outcome_bind_ok first).symm.trans both⟩
    | error e' =>
      rw [outcome_bind_error first] at both
      obtain ⟨same, rfl⟩ := Prod.mk.inj both
      cases same
      exact .inl rfl

theorem outcome_tryCatch (handle : ε → ExceptT ε (StateM σ) α) :
    outcome (tryCatch x handle) s =
      match outcome x s with
      | (.ok a, s') => (.ok a, s')
      | (.error e, s') => outcome (handle e) s' := by
  change (match outcome x s with
    | (r, s') => (match r with
      | .ok a => pure (.ok a)
      | .error e => handle e : StateM σ (Except ε α)).run s') = _
  cases outcome x s with
  | mk r s' => cases r <;> rfl

theorem outcome_tryCatch_ok {a : α} {handle : ε → ExceptT ε (StateM σ) α}
    (first : outcome x s = (.ok a, s')) : outcome (tryCatch x handle) s = (.ok a, s') := by
  rw [outcome_tryCatch, first]

theorem outcome_tryCatch_error {e : ε} {handle : ε → ExceptT ε (StateM σ) α}
    (first : outcome x s = (.error e, s')) : outcome (tryCatch x handle) s = outcome (handle e) s' := by
  rw [outcome_tryCatch, first]

end Monad

namespace Volume

theorem outcome_ask {α : Type} (p : Path) (question : Volume → Except VolumeFault α) (v : Volume) :
    outcome (ask p question) v =
      match question v with
      | .ok a => (.ok a, v)
      | .error fault => (.error (.at_ fault p.toString), v) := by
  rw [ask, outcome_bind_ok outcome_get]
  cases question v <;> rfl

end Volume

namespace Survey

variable {α : Type} {w : World}

theorem outcome_volume : outcome volume w = (.ok w.volume, w) := rfl

theorem outcome_note (level : Level) (logger : String) (message : Text) (fields : List (Text × Json)) :
    outcome (note level logger message fields) w =
      (.ok ⟨⟩, { w with notices := w.notices ++ [{ level, logger, message, fields }] }) := rfl

theorem outcome_apply (failure : Trouble → Failure) (c : Volume.Change α) :
    outcome (apply failure c) w =
      ((outcome c w.volume).1.mapError failure, { w with volume := (outcome c w.volume).2 }) := by
  rw [apply, outcome_bind_ok outcome_get]
  cases ended : outcome c w.volume with
  | mk r v' =>
    have ran : c.run w.volume = (r, v') := ended
    simp only [ran]
    rw [outcome_bind_ok (outcome_set _)]
    cases r <;> rfl

theorem outcome_ask (p : Path) (question : Volume → Except VolumeFault α) :
    outcome (ask p question) w =
      ((question w.volume).mapError fun fault => .ofTrouble (.at_ fault p.toString), w) := by
  rw [ask, outcome_apply, Volume.outcome_ask]
  cases question w.volume <;> rfl

theorem outcome_ofExcept (r : Except Failure α) : outcome (ofExcept r) w = (r, w) := by
  cases r <;> rfl

end Survey

end SiteSurvey
