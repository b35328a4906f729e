import DnsHealth.Client.Inquiry
import Mathlib.Logic.Relation

/-!
# Running inquiries

An inquiry gives back the computation that it cuts open: with the replies of a client it does what
the computation does with that client. What holds of the result whatever the replies are is shown
along the inquiry, and stays true as replies come.
-/

namespace DnsHealth.Inquiry

variable {α β : Type}

private theorem bind_pure_id (x : Inquiry α) : x.bind ended = x := by
  induction x with
  | ended a => rfl
  | query q server resume ih => exact congrArg (query q server) (funext ih)
  | transfer zone server resume ih => exact congrArg (transfer zone server) (funext ih)

/-- It makes no difference how three steps in a row are grouped. -/
theorem bind_bind {γ : Type} (x : Inquiry α) (f : α → Inquiry β) (g : β → Inquiry γ) :
    (x.bind f).bind g = x.bind fun a => (f a).bind g := by
  induction x with
  | ended a => rfl
  | query q server resume ih => exact congrArg (query q server) (funext ih)
  | transfer zone server resume ih => exact congrArg (transfer zone server) (funext ih)

instance : LawfulMonad Inquiry := .mk' _ bind_pure_id (fun _ _ => rfl) bind_bind

section Run

variable {m : Type → Type} [Monad m]

/-- Runs a computation with the replies of a client. -/
def run (c : Client m) : Inquiry α → m α
  | ended a => pure a
  | query q server resume => c.query q server >>= fun reply => (resume reply).run c
  | transfer zone server resume => c.transfer zone server >>= fun reply => (resume reply).run c

variable (c : Client m)

@[simp] theorem run_pure (a : α) : (pure a : Inquiry α).run c = pure a := rfl

variable [LawfulMonad m]

@[simp] theorem run_bind (x : Inquiry α) (f : α → Inquiry β) :
    (x >>= f).run c = x.run c >>= fun a => (f a).run c := by
  change (x.bind f).run c = _
  induction x with
  | ended a => exact (pure_bind a fun a => (f a).run c).symm
  | query q server resume ih => simp only [bind, run, ih, bind_assoc]
  | transfer zone server resume ih => simp only [bind, run, ih, bind_assoc]

/-- A client runs through a list as the inquiry does. -/
theorem run_mapM (f : α → Inquiry β) (xs : List α) :
    (xs.mapM f).run c = xs.mapM fun a => (f a).run c := by
  induction xs with
  | nil => rfl
  | cons a xs ih => simp only [List.mapM_cons, run_bind, run_pure, ih]

@[simp] theorem run_client_query (q : Question) (server : Address) :
    (client.query q server).run c = c.query q server :=
  bind_pure (c.query q server)

@[simp] theorem run_recordSet (q : Question) (server : Address) :
    (client.recordSet q server).run c = c.recordSet q server := by
  simp only [Client.recordSet, run_bind, run_client_query, run_pure]

end Run

/-- A computation that is run gets reply after reply until it comes to its end. -/
theorem replied_run {σ : Type} (c : Client (StateM σ)) (x : Inquiry α) (st : σ) :
    Relation.ReflTransGen Replied x (ended ((x.run c).run st).1) := by
  induction x generalizing st with
  | ended a => exact .refl
  | query q server resume ih => exact .head (.query _) (ih _ _)
  | transfer zone server resume ih => exact .head (.transfer _) (ih _ _)

/-- Whatever the replies are, the result has a property. -/
def Ends (P : α → Prop) : Inquiry α → Prop
  | ended a => P a
  | query _ _ resume => ∀ reply, (resume reply).Ends P
  | transfer _ _ resume => ∀ reply, (resume reply).Ends P

/-- If the last step always ends well, so do two steps in a row. -/
theorem ends_bind {P : β → Prop} (x : Inquiry α) {f : α → Inquiry β} (h : ∀ a, (f a).Ends P) :
    (x >>= f).Ends P := by
  change (x.bind f).Ends P
  induction x with
  | ended a => exact h a
  | query q server resume ih => exact ih
  | transfer zone server resume ih => exact ih

/-- A reply takes nothing away from what is known of the result. -/
theorem Ends.replied {P : α → Prop} {x rest : Inquiry α} (h : x.Ends P)
    (hreplied : x.Replied rest) : rest.Ends P := by
  cases hreplied with
  | query reply => exact h reply
  | transfer reply => exact h reply

end DnsHealth.Inquiry
