import DnsHealth.Client.Basic

/-!
# What computations give

A property of the result of a computation, whatever the state it starts in, is shown step by step,
each step with what the former ones have given. In particular a computation fails only in certain
ways if each of its steps does.
-/

namespace DnsHealth

variable {σ α β : Type}

/-- Whatever the state a computation starts in, its result has a property. -/
def Gives (post : α → Prop) (x : StateM σ α) : Prop := ∀ st, post (x.run st).1

namespace Gives

variable {post mid : α → Prop} {later : β → Prop}

/-- A result that is given already holds what it holds. -/
theorem pure {a : α} (h : post a) : Gives post (Pure.pure a : StateM σ α) := fun _ => h

/-- Nothing is said of a result without a condition on it. -/
theorem any (x : StateM σ α) : Gives (fun _ => True) x := fun _ => trivial

/-- What the first step gives is what the second one may start from. -/
theorem bind {x : StateM σ α} {f : α → StateM σ β} (hx : Gives mid x)
    (hf : ∀ a, mid a → Gives later (f a)) : Gives later (x >>= f) :=
  fun st => hf _ (hx st) (x.run st).2

end Gives

/-- A result is no failure, or one of a certain kind. -/
def FailsOnly (kind : Failure → Prop) (result : Except Failure α) : Prop :=
  ∀ failure, result = .error failure → kind failure

namespace FailsOnly

variable {kind : Failure → Prop}

/-- A result is no failure. -/
theorem ok (a : α) : FailsOnly kind (.ok a) := nofun

/-- A failure of the kind is one. -/
theorem error {failure : Failure} (h : kind failure) :
    FailsOnly kind (.error failure : Except Failure α) := by
  rintro failure ⟨⟩
  exact h

/-- Two steps in a row fail as each of them does. -/
theorem bind {x : Except Failure α} {f : α → Except Failure β} (hx : FailsOnly kind x)
    (hf : ∀ a, FailsOnly kind (f a)) : FailsOnly kind (x >>= f) := by
  cases x with
  | ok a => exact hf a
  | error failure => exact error (hx failure rfl)

/-- A fold fails as its steps do. -/
theorem foldlM {f : β → α → Except Failure β} (hf : ∀ b a, FailsOnly kind (f b a))
    (xs : List α) (start : β) : FailsOnly kind (xs.foldlM f start) := by
  induction xs generalizing start with
  | nil => exact ok start
  | cons x xs ih =>
    rw [List.foldlM_cons]
    exact bind (hf start x) ih

/-- A traversal fails as its steps do. -/
theorem mapM {f : α → Except Failure β} (hf : ∀ a, FailsOnly kind (f a)) (xs : List α) :
    FailsOnly kind (xs.mapM f) := by
  induction xs with
  | nil => exact ok []
  | cons x xs ih =>
    rw [List.mapM_cons]
    exact bind (hf x) fun y => bind ih fun ys => ok (y :: ys)

end FailsOnly

/-- A step that cannot fail does not. -/
theorem Gives.lift_except {kind : Failure → Prop} (x : StateM σ α) :
    Gives (FailsOnly kind) (ExceptT.lift x : ExceptT Failure (StateM σ) α).run :=
  fun _ => FailsOnly.ok _

/-- Steps that may fail fail only as one of them does. -/
theorem Gives.bind_except {kind : Failure → Prop} {x : ExceptT Failure (StateM σ) α}
    {f : α → ExceptT Failure (StateM σ) β} (hx : Gives (FailsOnly kind) x.run)
    (hf : ∀ a, Gives (FailsOnly kind) (f a).run) : Gives (FailsOnly kind) (x >>= f).run := by
  change Gives _ (x.run >>= ExceptT.bindCont f)
  refine Gives.bind hx fun result hresult => ?_
  cases result with
  | ok a => exact hf a
  | error failure => exact Gives.pure (FailsOnly.error (hresult failure rfl))

end DnsHealth
