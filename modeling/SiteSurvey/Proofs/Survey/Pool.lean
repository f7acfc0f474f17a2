import SiteSurvey.Proofs.Survey.Quiet

set_option autoImplicit false

namespace SiteSurvey

theorem Quiet.attempt {α : Type} {x : Survey α} {answer : Volume → Except Failure α} (quiet : Quiet x answer) :
    Quiet (Survey.attempt x) fun v => .ok (answer v) := by
  refine ((quiet.bind fun a => Quiet.pure (Except.ok a)).tryCatch
    fun f => Quiet.pure (Except.error f)).congr fun v => ?_
  cases answer v <;> rfl

namespace Pool

variable {α β : Type}

def Slot.outlook (result : α → Except Failure β) : Slot α β → Except Failure β
  | .pending a => result a
  | .done r => r

def finishIn (result : α → Except Failure β) : Nat → List (Slot α β) → List (Slot α β)
  | _, [] => []
  | n, .done r :: rest => .done r :: finishIn result n rest
  | 0, .pending a :: rest => .done (result a) :: rest
  | n + 1, .pending a :: rest => .pending a :: finishIn result n rest

def turnIn (result : α → Except Failure β) (workers : Nat) (slots : List (Slot α β)) (t : Turn) : List (Slot α β) :=
  let finished := finishIn result (t.worker % min workers (slots.countP isPending)) slots
  if t.looks then settle workers finished else finished

section Result

variable (result : α → Except Failure β)

theorem countP_finishIn {n : Nat} {slots : List (Slot α β)} (busy : n < slots.countP isPending) :
    (finishIn result n slots).countP isPending + 1 = slots.countP isPending := by
  fun_induction finishIn result n slots with
  | case1 => simp at busy
  | case2 n r rest ih => exact ih busy
  | case3 a rest => simp [List.countP_cons, isPending]
  | case4 n a rest ih =>
    simp only [List.countP_cons, isPending, if_true] at busy ⊢
    rw [ih (by omega)]

theorem finishIn_of_idle (n : Nat) {slots : List (Slot α β)} (idle : slots.countP isPending = 0) :
    finishIn result n slots = slots := by
  fun_induction finishIn result n slots with
  | case1 => rfl
  | case2 n r rest ih => rw [ih idle]
  | case3 => simp [List.countP_cons, isPending] at idle
  | case4 => simp [List.countP_cons, isPending] at idle

theorem countP_cancel_le (n : Nat) (slots : List (Slot α β)) :
    (cancel n slots).countP isPending ≤ slots.countP isPending := by
  fun_induction cancel n slots with
  | case1 => exact Nat.le_refl _
  | case2 n r rest ih => exact ih
  | case3 a rest ih => exact Nat.le_trans ih (by simp [List.countP_cons])
  | case4 n a rest ih =>
    simp only [List.countP_cons, isPending, if_true]
    omega

theorem known_done (r : Except Failure β) (rest : List (Slot α β)) :
    known (.done r :: rest) = do return (← r) :: (← known rest) := rfl

theorem known_done_eq_error {r : Except Failure β} {rest : List (Slot α β)} {f : Failure} :
    known (.done r :: rest) = .error f ↔ r = .error f ∨ ∃ b, r = .ok b ∧ known rest = .error f := by
  rw [known_done]
  rcases r with e | b
  · simp [bind, Except.bind]
  · rcases known rest with e | bs <;> simp [bind, Except.bind, pure, Except.pure]

theorem mapM_finishIn (n : Nat) (slots : List (Slot α β)) :
    (finishIn result n slots).mapM (Slot.outlook result) = slots.mapM (Slot.outlook result) := by
  fun_induction finishIn result n slots with
  | case1 => rfl
  | case2 n r rest ih => rw [List.mapM_cons, ih, List.mapM_cons]
  | case3 => rfl
  | case4 n a rest ih => rw [List.mapM_cons, ih, List.mapM_cons]

theorem mapM_of_known {slots : List (Slot α β)} {f : Failure} (failed : known slots = .error f) :
    slots.mapM (Slot.outlook result) = .error f := by
  induction slots with
  | nil => cases failed
  | cons s rest ih =>
    cases s with
    | pending a => cases failed
    | done r =>
      rw [List.mapM_cons]
      rcases known_done_eq_error.mp failed with rfl | ⟨b, rfl, later⟩
      · rfl
      · rw [ih later]
        rfl

theorem known_cancel {slots : List (Slot α β)} {f : Failure} (n : Nat) (failed : known slots = .error f) :
    known (cancel n slots) = .error f := by
  induction slots with
  | nil => cases failed
  | cons s rest ih =>
    cases s with
    | pending a => cases failed
    | done r =>
      rw [cancel, known_done_eq_error]
      exact (known_done_eq_error.mp failed).imp_right fun ⟨b, ok, later⟩ => ⟨b, ok, ih later⟩

theorem known_of_idle {slots : List (Slot α β)} (idle : slots.countP isPending = 0) :
    known slots = slots.mapM (Slot.outlook result) := by
  induction slots with
  | nil => rfl
  | cons s rest ih =>
    cases s with
    | pending a => simp [List.countP_cons, isPending] at idle
    | done r =>
      rw [known_done, ih idle, List.mapM_cons]
      rfl

theorem mapM_settle (workers : Nat) (slots : List (Slot α β)) :
    (settle workers slots).mapM (Slot.outlook result) = slots.mapM (Slot.outlook result) := by
  rw [settle]
  split
  next => rfl
  next f failed => rw [mapM_of_known result (known_cancel workers failed), mapM_of_known result failed]

theorem countP_settle_le (workers : Nat) (slots : List (Slot α β)) :
    (settle workers slots).countP isPending ≤ slots.countP isPending := by
  rw [settle]
  split
  next => exact Nat.le_refl _
  next => exact countP_cancel_le workers slots

-- The invariant of the turns: nothing changes in what the jobs come to.
theorem mapM_turnIn (workers : Nat) (slots : List (Slot α β)) (t : Turn) :
    (turnIn result workers slots t).mapM (Slot.outlook result) = slots.mapM (Slot.outlook result) := by
  have finished := mapM_finishIn result (t.worker % min workers (slots.countP isPending)) slots
  rw [turnIn]
  split
  next => rw [mapM_settle, finished]
  next => exact finished

theorem countP_turnIn_le {workers : Nat} (busy : 0 < workers) (slots : List (Slot α β)) (t : Turn) :
    (turnIn result workers slots t).countP isPending ≤ slots.countP isPending - 1 := by
  have finished : (finishIn result (t.worker % min workers (slots.countP isPending)) slots).countP isPending ≤
      slots.countP isPending - 1 := by
    rcases Nat.eq_zero_or_pos (slots.countP isPending) with idle | some_
    · rw [finishIn_of_idle result _ idle]
      omega
    · have inside := Nat.mod_lt t.worker (Nat.lt_min.mpr ⟨busy, some_⟩)
      have fewer := countP_finishIn result (Nat.lt_of_lt_of_le inside (Nat.min_le_right _ _))
      omega
  rw [turnIn]
  split
  next => exact Nat.le_trans (countP_settle_le workers _) finished
  next => exact finished

-- Each turn leaves a job less to do, so as many turns as there are jobs do them all.
theorem known_foldl {workers : Nat} (busy : 0 < workers) (turns : List Turn) (slots : List (Slot α β))
    (enough : slots.countP isPending ≤ turns.length) :
    known (turns.foldl (turnIn result workers) slots) = slots.mapM (Slot.outlook result) := by
  induction turns generalizing slots with
  | nil => exact known_of_idle result (Nat.le_zero.mp enough)
  | cons t turns ih =>
    have fewer := countP_turnIn_le result busy slots t
    rw [List.length_cons] at enough
    rw [List.foldl_cons, ih _ (by omega), mapM_turnIn]

end Result

section Work

variable {work : α → Survey β} {answers : α → Volume → Except Failure β}

theorem quiet_finish (each : ∀ a, Quiet (work a) (answers a)) (n : Nat) (slots : List (Slot α β)) :
    Quiet (finish work n slots) fun v => .ok (finishIn (answers · v) n slots) := by
  fun_induction finish work n slots with
  | case1 => exact .pure _
  | case2 n r rest ih => exact ih.bind fun later => .pure _
  | case3 a rest => exact (each a).attempt.bind fun r => .pure _
  | case4 n a rest ih => exact ih.bind fun later => .pure _

theorem quiet_turn (each : ∀ a, Quiet (work a) (answers a)) (workers : Nat) (slots : List (Slot α β)) (t : Turn) :
    Quiet (turn workers work slots t) fun v => .ok (turnIn (answers · v) workers slots t) :=
  (quiet_finish each _ slots).bind fun finished => .pure (if t.looks then settle workers finished else finished)

theorem foldlM_ok {γ δ : Type} (f : δ → γ → δ) (cs : List γ) (d : δ) :
    cs.foldlM (fun d c => (.ok (f d c) : Except Failure δ)) d = .ok (cs.foldl f d) := by
  induction cs generalizing d with
  | nil => rfl
  | cons c cs ih => exact ih (f d c)

/-- However many workers there are and in whatever order they get done, the work on some inputs comes to what it
comes to one by one. -/
theorem quiet_each (one : ∀ a, Quiet (work a) (answers a)) (workers : Int) (turns : Nat → Turn) (inputs : List α) :
    Quiet (each workers turns work inputs) fun v => inputs.mapM fun a => answers a v := by
  unfold each
  split
  next several =>
    refine ((Quiet.foldlM (quiet_turn one workers.toNat) _ _).bind fun slots => .ofExcept (known slots)).congr
      fun v => ?_
    have enough : (inputs.map (Slot.pending : α → Slot α β)).countP isPending ≤
        ((List.range inputs.length).map turns).length := by
      rw [List.length_map, List.length_range]
      exact Nat.le_trans List.countP_le_length (Nat.le_of_eq (List.length_map _))
    rw [foldlM_ok]
    refine (known_foldl (answers · v) (by omega) _ _ enough).trans ?_
    rw [List.mapM_map]
    rfl
  next => exact Quiet.mapM one inputs

end Work

end Pool

end SiteSurvey
