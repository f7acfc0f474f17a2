set_option autoImplicit false

namespace SiteSurvey

section Firsts

variable {α κ : Type} [DecidableEq κ] {key : α → κ} {as : List α} {a : α}

/-- The elements of a list whose key no element before them has. -/
def firsts (key : α → κ) : List α → List α
  | [] => []
  | a :: as => a :: (firsts key as).filter fun b => key b ≠ key a

theorem firsts_sublist (key : α → κ) (as : List α) : (firsts key as).Sublist as := by
  induction as with
  | nil => exact .slnil
  | cons a as ih => exact (List.filter_sublist.trans ih).cons_cons a

theorem nodup_firsts (key : α → κ) (as : List α) : ((firsts key as).map key).Nodup := by
  induction as with
  | nil => exact .nil
  | cons a as ih =>
    rw [firsts, List.map_cons, List.nodup_cons]
    refine ⟨?_, (List.filter_sublist.map key).nodup ih⟩
    intro again
    obtain ⟨b, kept, same⟩ := List.mem_map.mp again
    exact absurd same (by simpa using (List.mem_filter.mp kept).2)

theorem exists_mem_firsts (key : α → κ) (found : a ∈ as) : ∃ b ∈ firsts key as, key b = key a := by
  induction as with
  | nil => cases found
  | cons c as ih =>
    by_cases same : key c = key a
    · exact ⟨c, List.mem_cons_self, same⟩
    · rcases List.mem_cons.mp found with rfl | later
      · exact absurd rfl same
      · obtain ⟨b, kept, alike⟩ := ih later
        refine ⟨b, List.mem_cons_of_mem _ (List.mem_filter.mpr ⟨kept, ?_⟩), alike⟩
        simpa [alike] using Ne.symm same

theorem firsts_of_nodup (distinct : (as.map key).Nodup) : firsts key as = as := by
  induction as with
  | nil => rfl
  | cons a as ih =>
    rw [List.map_cons, List.nodup_cons] at distinct
    have others : as.filter (fun b => key b ≠ key a) = as := by
      rw [List.filter_eq_self]
      intro b found
      have other : key b ≠ key a := fun same => distinct.1 (List.mem_map.mpr ⟨b, found, same⟩)
      simpa using other
    rw [firsts, ih distinct.2, others]

theorem length_firsts_eq_iff (key : α → κ) (as : List α) : (firsts key as).length = as.length ↔ (as.map key).Nodup := by
  constructor
  · intro same
    rw [← (firsts_sublist key as).eq_of_length same]
    exact nodup_firsts key as
  · intro distinct
    rw [firsts_of_nodup distinct]

theorem foldl_firsts (key : α → κ) {step : List α → α → List α}
    (steps : ∀ taken a, step taken a = if key a ∈ taken.map key then taken else taken ++ [a]) (taken : List α) :
    as.foldl step taken = taken ++ (firsts key as).filter fun b => key b ∉ taken.map key := by
  induction as generalizing taken with
  | nil => simp [firsts]
  | cons a as ih =>
    rw [List.foldl_cons, steps, ih]
    -- Either way the key of the element is there afterwards, so later elements of that key are left out.
    by_cases there : key a ∈ taken.map key
    · have skipped : ∀ b ∈ firsts key as, key b ∉ taken.map key ↔ key b ≠ key a ∧ key b ∉ taken.map key := by
        intro b _
        constructor
        · intro new
          exact ⟨fun same => new (same ▸ there), new⟩
        · exact And.right
      rw [if_pos there, firsts, List.filter_cons_of_neg (by simpa using there), List.filter_filter]
      congr 1
      refine List.filter_congr fun b found => ?_
      simpa [and_comm] using skipped b found
    · rw [if_neg there, firsts, List.filter_cons_of_pos (by simpa using there), List.filter_filter, List.append_assoc,
        List.singleton_append]
      congr 2
      refine List.filter_congr fun b _ => Bool.eq_iff_iff.mpr ?_
      rw [List.map_append]
      simp [not_or]

end Firsts

/-- A list that tells one after the other what is due at some places: `due i a` if `a` is due at the place `i`.
Nothing else is told, and nothing is left out. -/
def InOrder {ι α : Type} (before : ι → ι → Prop) (due : ι → α → Prop) (told : List α) : Prop :=
  ∃ entries : List (ι × α), told = entries.map (·.2) ∧ entries.Pairwise (fun x y => before x.1 y.1) ∧
    ∀ i a, (i, a) ∈ entries ↔ due i a

namespace InOrder

variable {ι κ ν α β : Type} {before : ι → ι → Prop} {due : ι → α → Prop} {told told' : List α}

theorem congr {due' : ι → α → Prop} (ordered : InOrder before due told) (same : ∀ i a, due' i a ↔ due i a) :
    InOrder before due' told := by
  obtain ⟨entries, shape, sorted, all⟩ := ordered
  exact ⟨entries, shape, sorted, fun i a => (all i a).trans (same i a).symm⟩

theorem nil (silent : ∀ i a, ¬due i a) : InOrder before due [] :=
  ⟨[], rfl, .nil, fun i a => iff_of_false List.not_mem_nil (silent i a)⟩

theorem ofOption (o : Option α) : InOrder (fun _ _ : Unit => False) (fun _ a => o = some a) o.toList := by
  cases o with
  | none => exact .nil fun _ _ said => by cases said
  | some b => exact ⟨[((), b)], rfl, List.pairwise_singleton _ _, fun _ a => by simp [eq_comm]⟩

theorem filter (ordered : InOrder before due told) (test : α → Bool) :
    InOrder before (fun i a => due i a ∧ test a = true) (told.filter test) := by
  obtain ⟨entries, rfl, sorted, all⟩ := ordered
  refine ⟨entries.filter fun e => test e.2, ?_, sorted.filter _, fun i a => ?_⟩
  · rw [List.filter_map]
    rfl
  · rw [List.mem_filter, all]

/-- What is told of places that all come before some others, followed by what is told of those. -/
theorem append {first : κ → κ → Prop} {second : ν → ν → Prop} {due₁ : κ → α → Prop} {due₂ : ν → α → Prop}
    (f : κ → ι) (g : ν → ι) (one : InOrder first due₁ told) (other : InOrder second due₂ told')
    (rises : ∀ i j, first i j → before (f i) (f j)) (rises' : ∀ i j, second i j → before (g i) (g j))
    (apart : ∀ i j, before (f i) (g j))
    (both : ∀ i a, due i a ↔ (∃ k, f k = i ∧ due₁ k a) ∨ ∃ n, g n = i ∧ due₂ n a) :
    InOrder before due (told ++ told') := by
  obtain ⟨entries, rfl, sorted, all⟩ := one
  obtain ⟨entries', rfl, sorted', all'⟩ := other
  refine ⟨entries.map (fun e => (f e.1, e.2)) ++ entries'.map fun e => (g e.1, e.2), ?_, ?_, fun i a => ?_⟩
  · simp [Function.comp_def]
  · rw [List.pairwise_append, List.pairwise_map, List.pairwise_map]
    refine ⟨sorted.imp fun early => rises _ _ early, sorted'.imp fun early => rises' _ _ early, ?_⟩
    intro x left y right
    obtain ⟨e, _, rfl⟩ := List.mem_map.mp left
    obtain ⟨e', _, rfl⟩ := List.mem_map.mp right
    exact apart e.1 e'.1
  · rw [both, List.mem_append, List.mem_map, List.mem_map]
    refine or_congr ⟨?_, ?_⟩ ⟨?_, ?_⟩
    · rintro ⟨⟨k, b⟩, inside, same⟩
      obtain ⟨rfl, rfl⟩ := Prod.mk.inj same
      exact ⟨k, rfl, (all k b).mp inside⟩
    · rintro ⟨k, rfl, said⟩
      exact ⟨(k, a), (all k a).mpr said, rfl⟩
    · rintro ⟨⟨n, b⟩, inside, same⟩
      obtain ⟨rfl, rfl⟩ := Prod.mk.inj same
      exact ⟨n, rfl, (all' n b).mp inside⟩
    · rintro ⟨n, rfl, said⟩
      exact ⟨(n, a), (all' n a).mpr said, rfl⟩

end InOrder

section Lists

variable {α β : Type}

theorem inOrder_filterMap (f : α → Option β) (as : List α) :
    InOrder (· < ·) (fun (i : Nat) b => ∃ a, as[i]? = some a ∧ f a = some b) (as.filterMap f) := by
  induction as with
  | nil => exact .nil fun i b => by simp
  | cons a as ih =>
    have shape : (a :: as).filterMap f = (f a).toList ++ as.filterMap f := by
      cases made : f a <;> simp [made]
    rw [shape]
    refine .append (fun _ => 0) Nat.succ (.ofOption (f a)) ih (fun _ _ => False.elim) (fun _ _ => Nat.succ_lt_succ)
      (fun _ j => Nat.succ_pos j) fun i b => ?_
    cases i <;> simp

/-- Places in rows: first those of the first row, and each row from left to right. -/
def RowWise (x y : Nat × Nat) : Prop :=
  x.1 < y.1 ∨ x.1 = y.1 ∧ x.2 < y.2

theorem inOrder_flatMap {f : α → List β} {due : α → Nat → β → Prop} (each : ∀ a, InOrder (· < ·) (due a) (f a))
    (as : List α) :
    InOrder RowWise (fun i b => ∃ a, as[i.1]? = some a ∧ due a i.2 b) (as.flatMap f) := by
  induction as with
  | nil => exact .nil fun i b => by simp
  | cons a as ih =>
    rw [List.flatMap_cons]
    refine .append (fun j => (0, j)) (fun i => (i.1 + 1, i.2)) (each a) ih (fun i j early => .inr ⟨rfl, early⟩)
      (fun i j early => ?_) (fun _ i => .inl (Nat.succ_pos i.1)) fun i b => ?_
    · exact early.imp Nat.succ_lt_succ fun same => ⟨congrArg Nat.succ same.1, same.2⟩
    · obtain ⟨row, column⟩ := i
      cases row with
      | zero => simp
      | succ row => simp [and_assoc]

/-- An element at a place where it stands for the first time. -/
def FirstAt (as : List α) (i : Nat) (a : α) : Prop :=
  as[i]? = some a ∧ ∀ j < i, as[j]? ≠ some a

theorem inOrder_firsts [DecidableEq α] (as : List α) : InOrder (· < ·) (FirstAt as) (firsts id as) := by
  induction as with
  | nil => exact .nil fun i a said => by simp [FirstAt] at said
  | cons a as ih =>
    refine .append (fun _ => 0) Nat.succ (.ofOption (some a)) (ih.filter fun b => id b ≠ id a) (fun _ _ => False.elim)
      (fun _ _ => Nat.succ_lt_succ) (fun _ j => Nat.succ_pos j) fun i b => ?_
    cases i with
    | zero => simp [FirstAt]
    | succ i =>
      -- Further on an element is new if it is new there and is not the one that has been put in front.
      have front : FirstAt (a :: as) (i + 1) b ↔ FirstAt as i b ∧ b ≠ a := by
        constructor
        · rintro ⟨here, new⟩
          refine ⟨⟨by simpa using here, fun j below => by simpa using new (j + 1) (Nat.succ_lt_succ below)⟩, ?_⟩
          rintro rfl
          exact new 0 (Nat.succ_pos i) rfl
        · rintro ⟨⟨here, new⟩, other⟩
          refine ⟨by simpa using here, fun j below => ?_⟩
          cases j with
          | zero => simpa using Ne.symm other
          | succ j => simpa using new j (Nat.lt_of_succ_lt_succ below)
      simp [front]

end Lists

end SiteSurvey
