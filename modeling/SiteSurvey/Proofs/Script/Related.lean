import Mathlib.Data.List.Forall2

set_option autoImplicit false

namespace SiteSurvey.Script

section Related

variable {α β : Type} {r : α → α → Prop} {xs ys : List α} {o o' : Option α}

theorem optionRel_refl (refl : ∀ a, r a a) (o : Option α) : Option.Rel r o o := by
  cases o with
  | none => exact .none
  | some a => exact .some (refl a)

theorem rel_and_eq (related : Option.Rel r o o') : Option.Rel (fun a b => r a b ∧ o = some a) o o' := by
  cases related with
  | none => exact .none
  | some first => exact .some ⟨first, rfl⟩

theorem rel_imp {q : α → α → Prop} (related : Option.Rel r o o') (imp : ∀ {a b}, r a b → q a b) :
    Option.Rel q o o' := by
  cases related with
  | none => exact .none
  | some first => exact .some (imp first)

theorem bind_rel {q : β → β → Prop} {f g : α → Option β} (related : Option.Rel r o o')
    (same : ∀ {a b}, r a b → Option.Rel q (f a) (g b)) : Option.Rel q (o.bind f) (o'.bind g) := by
  cases related with
  | none => exact .none
  | some first => exact same first

theorem bind_eq_of_rel {f g : α → Option β} (related : Option.Rel r o o') (same : ∀ {a b}, r a b → g b = f a) :
    o'.bind g = o.bind f := by
  cases related with
  | none => rfl
  | some first => exact same first

theorem map_eq_of_rel {f : α → β} (related : Option.Rel r o o') (same : ∀ {a b}, r a b → f b = f a) :
    o'.map f = o.map f := by
  cases related with
  | none => rfl
  | some first => exact congrArg some (same first)

theorem getElem?_rel (related : List.Forall₂ r xs ys) (i : Nat) : Option.Rel r xs[i]? ys[i]? := by
  induction related generalizing i with
  | nil => exact .none
  | cons first _ ih =>
    cases i with
    | zero => exact .some first
    | succ i => exact ih i

theorem head?_rel (related : List.Forall₂ r xs ys) : Option.Rel r xs.head? ys.head? := by
  rw [List.head?_eq_getElem?, List.head?_eq_getElem?]
  exact getElem?_rel related 0

theorem find?_rel {p : α → Bool} (related : List.Forall₂ r xs ys) (same : ∀ {x y}, r x y → p y = p x) :
    Option.Rel r (xs.find? p) (ys.find? p) := by
  induction related with
  | nil => exact .none
  | cons first _ ih =>
    rw [List.find?_cons, List.find?_cons, same first]
    split
    · exact .some first
    · exact ih

theorem map_eq_of_forall₂ {f g : α → β} (related : List.Forall₂ r xs ys) (same : ∀ {x y}, r x y → g y = f x) :
    ys.map g = xs.map f := by
  induction related with
  | nil => rfl
  | cons first _ ih => rw [List.map_cons, List.map_cons, same first, ih]

theorem filterMap_eq_of_forall₂ {f g : α → Option β} (related : List.Forall₂ r xs ys)
    (same : ∀ {x y}, r x y → g y = f x) : ys.filterMap g = xs.filterMap f := by
  have mapped := congrArg (List.filterMap id) (map_eq_of_forall₂ related same)
  rwa [List.filterMap_map, List.filterMap_map] at mapped

end Related

end SiteSurvey.Script
