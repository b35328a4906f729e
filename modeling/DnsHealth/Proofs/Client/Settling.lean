import DnsHealth.Proofs.Client.Process

/-!
# Clients that always reply the same

A client whose replies are a function of the question and the server leaves nothing else to the
world but time and the turns of the tasks. A process that looks at no watch and no clock then comes
to one result: tasks side by side come to the results that they come to one after the other, in
whichever way their steps are mixed.
-/

namespace DnsHealth

variable {α β : Type}

/-- The reply to a call is that of a client which always replies the same. -/
def Call.AnsweredBy (c : Client Id) : Call → Prop
  | .query q server reply => reply = c.query q server
  | .transfer zone server reply => reply = c.transfer zone server

namespace Process

/-- If a client answers all its calls, a process comes to what another comes to without effects,
whatever order its tasks go in. -/
def Settles (c : Client Id) (x : Process α) (y : Id α) : Prop :=
  ∀ calls a, x.Run calls a → (∀ call ∈ calls, call.AnsweredBy c) → a = y.run

namespace Settles

variable {c : Client Id}

/-- What has ended settles at its result. -/
theorem pure (a : α) : Settles c (Pure.pure a) (Pure.pure a) := by
  intro calls b hrun _
  exact (run_pure_iff.mp hrun).2.symm

/-- Two steps in a row settle if each of them does. -/
theorem bind {x : Process α} {y : Id α} {f : α → Process β} {g : α → Id β} (hx : Settles c x y)
    (hf : ∀ a, Settles c (f a) (g a)) : Settles c (x >>= f) (y >>= g) := by
  intro calls result hrun hanswered
  obtain ⟨first, rest, a, hfirst, hrest, rfl⟩ := run_bind_iff.mp hrun
  obtain ⟨hbefore, hafter⟩ := List.forall_mem_append.mp hanswered
  obtain rfl := hx first a hfirst hbefore
  exact hf _ rest result hrest hafter

/-- A query settles at the reply of the client. -/
theorem query (q : Question) (server : Address) :
    Settles c (client.query q server) (c.query q server) := by
  intro calls reply hrun hanswered
  rw [run_query_iff.mp hrun] at hanswered
  exact hanswered _ (List.mem_singleton_self _)

/-- A search for records settles at what the client finds. -/
theorem recordSet (q : Question) (server : Address) :
    Settles c (client.recordSet q server) (c.recordSet q server) :=
  (query q server).bind fun _ => pure _

/-- Members of a list that settle each for itself settle together, in their order. -/
theorem eq_map_of_forall₂ {f : α → Process β} {g : α → Id β} {xs : List α}
    (hf : ∀ x, Settles c (f x) (g x)) {parts : List (List Call × β)}
    (hparts : List.Forall₂ (fun x part => (f x).Run part.1 part.2) xs parts)
    (hanswered : ∀ part ∈ parts, ∀ call ∈ part.1, call.AnsweredBy c) :
    parts.map (·.2) = xs.map fun x => (g x).run := by
  induction hparts with
  | nil => rfl
  | @cons x part xs parts hrun _ ih =>
    have hfirst := hf x _ _ hrun (hanswered part List.mem_cons_self)
    have hrest := ih fun other hother => hanswered other (List.mem_cons_of_mem part hother)
    rw [List.map_cons, List.map_cons, hfirst, hrest]

/-- A traversal settles if its steps do. -/
theorem mapM {f : α → Process β} {g : α → Id β} (hf : ∀ x, Settles c (f x) (g x)) (xs : List α) :
    Settles c (xs.mapM f) (xs.mapM g) := by
  intro calls results hrun hanswered
  obtain ⟨parts, hparts, rfl, rfl⟩ := run_mapM hrun
  rw [List.idRun_mapM]
  exact eq_map_of_forall₂ hf hparts fun part hpart call hcall =>
    hanswered call (List.mem_flatMap.mpr ⟨part, hpart, hcall⟩)

/-- Tasks side by side come to the results that they come to one after the other. -/
theorem together {f : α → Process β} {g : α → Id β} (hf : ∀ x, Settles c (f x) (g x))
    (xs : List α) : Settles c (Tasks.together (xs.map f)) (Tasks.together (xs.map g)) := by
  intro calls results hrun hanswered
  obtain ⟨parts, hparts, rfl, hmixed⟩ := run_together hrun
  have hperm : calls.Perm (parts.flatMap (·.1)) := hmixed.perm
  rw [List.forall₂_map_left_iff] at hparts
  exact eq_map_of_forall₂ hf hparts fun part hpart call hcall =>
    hanswered call (hperm.mem_iff.mpr (List.mem_flatMap.mpr ⟨part, hpart, hcall⟩))

end Settles

/-- In every world that replies as a client does, all calls that come about are answered by it. -/
theorem run_play_answered {c : Client Id} {world : List Call → (effect : Effect) → effect.Reply}
    (hworld : ∀ (made : List Call) (effect : Effect), ∀ call ∈ effect.calls (world made effect),
      call.AnsweredBy c)
    (made : List Call) (x : Process α) :
    ∃ calls, (x.play world made).1 = made ++ calls ∧ x.Run calls (x.play world made).2 ∧
      ∀ call ∈ calls, call.AnsweredBy c := by
  induction x generalizing made with
  | ended a => exact ⟨[], (List.append_nil _).symm, .ended a,
      fun call hcall => absurd hcall List.not_mem_nil⟩
  | step effect resume ih =>
    obtain ⟨calls, hcalls, hrun, hanswered⟩ :=
      ih (world made effect) (made ++ effect.calls (world made effect))
    exact ⟨_, hcalls.trans (List.append_assoc ..), .step _ hrun,
      List.forall_mem_append.mpr ⟨hworld made effect, hanswered⟩⟩

end Process

end DnsHealth
