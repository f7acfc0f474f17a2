import SiteSurvey.Proofs.Volume.Change

set_option autoImplicit false

namespace SiteSurvey

/-- From a state on, only failures of some kind keep a program from its result. -/
def FailsOnly {ε σ α : Type} (kind : ε → Prop) (x : ExceptT ε (StateM σ) α) (s : σ) : Prop :=
  ∀ e s', outcome x s = (.error e, s') → kind e

namespace FailsOnly

variable {ε σ α β : Type} {kind : ε → Prop} {x : ExceptT ε (StateM σ) α} {s : σ}

theorem of_ok {a : α} {s' : σ} (ends : outcome x s = (.ok a, s')) : FailsOnly kind x s := by
  intro e t failed
  cases ends.symm.trans failed

theorem of_error {e : ε} {s' : σ} (ends : outcome x s = (.error e, s')) (fits : kind e) : FailsOnly kind x s := by
  intro e' t failed
  cases ends.symm.trans failed
  exact fits

theorem pure (a : α) : FailsOnly kind (Pure.pure a : ExceptT ε (StateM σ) α) s :=
  of_ok rfl

theorem throw {e : ε} (fits : kind e) : FailsOnly kind (MonadExcept.throw e : ExceptT ε (StateM σ) α) s :=
  of_error rfl fits

theorem bind {f : α → ExceptT ε (StateM σ) β} (first : FailsOnly kind x s)
    (second : ∀ a s', outcome x s = (.ok a, s') → FailsOnly kind (f a) s') : FailsOnly kind (x >>= f) s := by
  intro e t failed
  rcases outcome_bind_eq_error failed with early | ⟨a, s', done, late⟩
  · exact first e t early
  · exact second a s' done e t late

theorem tryCatch {handle : ε → ExceptT ε (StateM σ) α}
    (handled : ∀ e s', outcome x s = (.error e, s') → FailsOnly kind (handle e) s') :
    FailsOnly kind (MonadExcept.tryCatch x handle) s := by
  intro e t failed
  cases first : outcome x s with
  | mk r s' =>
    cases r with
    | ok a => cases (outcome_tryCatch_ok first).symm.trans failed
    | error e' => exact handled e' s' first e t ((outcome_tryCatch_error first).symm.trans failed)

end FailsOnly

namespace Volume

def isNullFree (text : String) : Bool :=
  !text.toList.contains '\x00'

theorem walk_ne_nullByte (v : Volume) (through : Bool) (links : Nat) (place : Location) (names : List String) :
    v.walk through links place names ≠ .error .nullByte := by
  fun_induction walk v through links place names <;> simp_all

theorem any_null (names : List String) :
    (names.any fun name => name.toList.contains '\x00') = !names.all isNullFree := by
  simp [List.all_eq_not_any_not, isNullFree]

theorem lookup_ne_nullByte {v : Volume} {through : Bool} {p : Path} (clean : p.names.all isNullFree = true) :
    v.lookup through p ≠ .error .nullByte := by
  rw [lookup, any_null, clean, Bool.not_true, if_neg Bool.false_ne_true]
  split
  · simp
  · exact walk_ne_nullByte v through _ _ _

theorem Askable.clean {p : Path} (askable : Askable p) : p.names.all isNullFree = true := by
  have none := askable.1
  rw [any_null] at none
  simpa using none

/-- A change that no null stands in the way of. -/
abbrev Sayable {α : Type} (c : Change α) (v : Volume) : Prop :=
  FailsOnly (fun t => t.fault ≠ .nullByte) c v

variable {v : Volume} {p : Path}

theorem sayable_ask {α : Type} {question : Volume → Except VolumeFault α} (other : question v ≠ .error .nullByte) :
    Sayable (ask p question) v := by
  intro t v' failed
  rw [outcome_ask] at failed
  cases answer : question v with
  | ok a =>
    rw [answer] at failed
    cases failed
  | error fault =>
    rw [answer] at failed
    cases failed
    rintro rfl
    exact other answer

theorem holds_ne_nullByte (test : Entry → Bool) : v.holds test p ≠ .error .nullByte := by
  intro failed
  have present := (holds_error failed).1
  cases present

/-- A system whose refusals are no complaints about a null. -/
def System.Own (system : System) : Prop :=
  ∀ step, system.refusal step ≠ some .nullByte

theorem own_willing : System.willing.Own := by
  simp [System.Own, System.willing]

theorem sayable_heed {refusal : Option VolumeFault} (own : refusal ≠ some .nullByte) (path : String) :
    Sayable (heed refusal path) v := by
  cases refusal with
  | none => exact .of_ok (outcome_heed_none _ _)
  | some fault => exact .throw fun same => own (congrArg some same)

theorem clean_parent (clean : p.names.all isNullFree = true) : p.parent.names.all isNullFree = true := by
  rw [List.all_eq_true] at clean ⊢
  exact fun name found => clean name (List.dropLast_subset _ found)

theorem clean_name (clean : p.names.all isNullFree = true) : isNullFree p.name = true := by
  rw [Path.name]
  cases last : p.names.getLast? with
  | none => rfl
  | some name => exact List.all_eq_true.mp clean name (List.mem_of_getLast? last)

theorem clean_child {name : String} (clean : p.names.all isNullFree = true) (clean' : isNullFree name = true) :
    (p.child name).names.all isNullFree = true := by
  simp [Path.child, clean, clean']

variable {system : System} {refusal : Option VolumeFault}

theorem sayable_makeFolder (own : refusal ≠ some .nullByte) (clean : p.names.all isNullFree = true) :
    Sayable (makeFolder p refusal) v := by
  refine FailsOnly.bind (sayable_heed own _) fun _ v₁ _ => ?_
  refine FailsOnly.bind (sayable_ask (lookup_ne_nullByte clean)) fun s v₂ _ => ?_
  cases s.entry with
  | some e => exact .throw fun same => by cases same
  | none => exact .of_ok (outcome_modify _)

theorem sayable_ensureFolder (own : system.Own) (again : Bool) (clean : p.names.all isNullFree = true) :
    Sayable (ensureFolder p again system) v := by
  refine FailsOnly.tryCatch fun t v₁ failed => ?_
  have sayable := sayable_makeFolder (own _) clean t v₁ failed
  split
  · exact .throw sayable
  · refine FailsOnly.bind (sayable_heed (own _) _) fun _ v₂ _ => ?_
    refine FailsOnly.bind (sayable_ask (holds_ne_nullByte _)) fun isFolder v₃ _ => ?_
    cases isFolder with
    | true => exact .pure ()
    | false => exact .throw sayable

-- The induction is on the number of names: what is missing above is made first.
theorem sayable_ensureFolders (own : system.Own) (clean : p.names.all isNullFree = true) :
    Sayable (ensureFolders p system) v := by
  generalize size : p.names.length = n
  induction n using Nat.strongRecOn generalizing p v with
  | ind n ih =>
    rw [ensureFolders]
    refine FailsOnly.tryCatch fun t v₁ failed => ?_
    split
    · next above =>
      have fewer : p.parent.names.length < n := by
        have some_ := List.length_pos_iff.mpr above.2
        simp only [Path.parent, List.length_dropLast]
        omega
      exact (ih _ fewer (clean_parent clean) rfl).bind fun _ _ _ => sayable_ensureFolder own true clean
    · exact .throw (sayable_ensureFolder own false clean t v₁ failed)

theorem mem_retrace {anchor : Anchor} {done : List String} {name other : String}
    (found : other ∈ retrace anchor done name) : other ∈ done ∨ other = name ∨ other = ".." := by
  unfold retrace at found
  split at found
  · split at found
    · split at found
      · exact .inr (.inr (List.mem_singleton.mp found))
      · cases found
    · split at found
      · exact (List.mem_cons.mp found).symm.imp_right .inr
      · exact .inl (List.mem_cons_of_mem _ found)
  · exact (List.mem_cons.mp found).symm.imp_right .inl

theorem clean_straight (clean : p.names.all isNullFree = true) : (straight p).names.all isNullFree = true := by
  have from_ : ∀ names done : List String, names.all isNullFree = true → done.all isNullFree = true →
      (names.foldl (retrace p.anchor) done).all isNullFree = true := by
    intro names
    induction names with
    | nil => exact fun _ _ before => before
    | cons name names ih =>
      intro done clean before
      rw [List.all_cons, Bool.and_eq_true] at clean
      refine ih _ clean.2 ?_
      rw [List.all_eq_true] at before ⊢
      intro other found
      rcases mem_retrace found with old | rfl | rfl
      · exact before other old
      · exact clean.1
      · decide
  rw [straight, List.all_reverse]
  exact from_ p.names [] clean rfl

theorem sayable_makeTemporary {stem : String} (own : refusal ≠ some .nullByte)
    (clean : p.names.all isNullFree = true) (clean' : isNullFree stem = true) :
    Sayable (makeTemporary p stem refusal) v := by
  have nullFree : stem.toList.contains '\x00' = false := by simpa [isNullFree] using clean'
  refine FailsOnly.bind (.of_ok outcome_get) fun v₀ v₁ _ => ?_
  refine FailsOnly.bind (sayable_heed own _) fun _ v₂ _ => ?_
  simp only [nullFree, Bool.false_eq_true, if_false]
  split
  · exact FailsOnly.bind (.throw fun same => by cases same) fun _ _ gone => by cases gone
  · cases found : v₀.lookup true (straight p) with
    | error fault =>
      refine .throw ?_
      rintro rfl
      exact lookup_ne_nullByte (clean_straight clean) found
    | ok s =>
      obtain ⟨scratch, entry⟩ := s
      cases entry with
      | none => exact .throw fun same => by cases same
      | some e =>
        cases e with
        | folder => exact .of_ok rfl
        | _ => exact .throw fun same => by cases same

theorem sayable_fill (own : system.refusal .fill ≠ some .nullByte) (place : Location) (bytes : ByteArray) :
    Sayable (fill place bytes system) v := by
  rw [fill]
  split
  · exact .of_ok (outcome_modify _)
  · next fault refused =>
    refine FailsOnly.bind (.of_ok (outcome_modify _)) fun _ _ _ => .throw ?_
    exact fun same => own (refused.trans (congrArg some same))

theorem sayable_move (own : refusal ≠ some .nullByte) (clean : p.names.all isNullFree = true) (source : Location)
    (text : String) : Sayable (move source text p refusal) v := by
  refine FailsOnly.bind ?_ fun _ v₁ _ => ?_
  · cases refusal with
    | none => exact .pure ()
    | some fault => exact .throw fun same => own (congrArg some same)
  dsimp only
  split
  · exact FailsOnly.bind (.throw fun same => by cases same) fun _ _ gone => by cases gone
  · refine FailsOnly.bind (.of_ok outcome_get) fun v₂ v₃ _ => ?_
    cases found : v₂.lookup false p with
    | error fault =>
      refine .throw ?_
      rintro rfl
      exact lookup_ne_nullByte clean found
    | ok s =>
      dsimp only
      split
      · exact .throw fun same => by cases same
      · exact .of_ok rfl
      · exact .throw fun same => by cases same

theorem sayable_prepare (own : system.Own) (clean : p.names.all isNullFree = true) :
    Sayable (do
      ensureFolders p.parent system
      makeTemporary p.parent p.name (system.refusal .makeTemporary)) v :=
  (sayable_ensureFolders own (clean_parent clean)).bind fun _ _ _ =>
    sayable_makeTemporary (own _) (clean_parent clean) (clean_name clean)

theorem sayable_deliver (own : system.Own) (clean : p.names.all isNullFree = true) (source : Location) (text : String)
    (bytes : ByteArray) :
    Sayable (do
      fill source bytes system
      move source text p (system.refusal .move)) v :=
  (sayable_fill (own _) source bytes).bind fun _ _ _ => sayable_move (own _) clean source text

end Volume

end SiteSurvey
