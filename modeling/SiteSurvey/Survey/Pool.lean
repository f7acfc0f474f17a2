import SiteSurvey.World

set_option autoImplicit false

namespace SiteSurvey

namespace Pool

variable {α β : Type}

inductive Slot (α β : Type) where
  | pending (input : α)
  | done (result : Except Failure β)

/-- What happens next: one of the workers gets done, and then the results may be looked through. -/
structure Turn where
  worker : Nat
  looks : Bool
  deriving DecidableEq, Repr, Inhabited

def inLine (_ : Nat) : Turn :=
  { worker := 0, looks := true }

def isPending : Slot α β → Bool
  | .pending _ => true
  | .done _ => false

/-- Does one of the pending jobs. A failure is kept as its result and does not end the others. -/
def finish (work : α → Survey β) : Nat → List (Slot α β) → Survey (List (Slot α β))
  | _, [] => return []
  | n, .done r :: rest => return .done r :: (← finish work n rest)
  | 0, .pending a :: rest => return .done (← Survey.attempt (work a)) :: rest
  | n + 1, .pending a :: rest => return .pending a :: (← finish work n rest)

def known : List (Slot α β) → Except Failure (List β)
  | .done r :: rest => return (← r) :: (← known rest)
  | _ => return []

/-- Without the jobs that no worker has taken up. -/
def cancel : Nat → List (Slot α β) → List (Slot α β)
  | _, [] => []
  | n, .done r :: rest => .done r :: cancel n rest
  | 0, .pending _ :: rest => cancel 0 rest
  | n + 1, .pending a :: rest => .pending a :: cancel n rest

/-- A failure before which everything is known cancels what no worker has taken up. -/
def settle (workers : Nat) (slots : List (Slot α β)) : List (Slot α β) :=
  match known slots with
  | .ok _ => slots
  | .error _ => cancel workers slots

/-- One turn. Workers take up jobs in order, so the busy ones are at the first pending jobs. -/
def turn (workers : Nat) (work : α → Survey β) (slots : List (Slot α β)) (t : Turn) :
    Survey (List (Slot α β)) := do
  let slots ← finish work (t.worker % min workers (slots.countP isPending)) slots
  return if t.looks then settle workers slots else slots

def run (workers : Nat) (turns : Nat → Turn) (work : α → Survey β) (inputs : List α) : Survey (List β) := do
  let order := (List.range inputs.length).map turns
  let slots ← order.foldlM (turn workers work) (inputs.map .pending)
  Survey.ofExcept (known slots)

/-- Does some work on each input, several at a time if there is more than one worker and more than one input.
The results stand in the order of the inputs. -/
def each (workers : Int) (turns : Nat → Turn) (work : α → Survey β) (inputs : List α) : Survey (List β) :=
  if 1 < workers ∧ 1 < inputs.length then run workers.toNat turns work inputs
  else inputs.mapM work

end Pool

end SiteSurvey
