import DnsHealth.Client.Process
import Mathlib.Data.List.Forall2
import Mathlib.Data.List.Perm.Basic

/-!
# Runs of processes

A run of one process after another is a run of each, and a run of processes side by side is a run of
each with their calls interleaved, in any way at all. So what is shown of all runs holds for every
client, however its replies change, and for every order in which tasks take their steps. Every world
leads to a run.
-/

namespace DnsHealth

variable {α β γ : Type}

/-- Lists whose members agree in some value give the same list of values. -/
theorem map_eq_map_of_forall₂ {f : α → γ} {g : β → γ} {xs : List α} {ys : List β}
    (h : List.Forall₂ (fun x y => f x = g y) xs ys) : xs.map f = ys.map g := by
  rw [← List.forall₂_eq_eq_eq]
  exact List.forall₂_map_left_iff.mpr (List.forall₂_map_right_iff.mpr h)

/-- What stands in the second of two lists in step has its counterpart in the first. -/
theorem exists_mem_of_forall₂ {rel : α → β → Prop} {xs : List α} {ys : List β}
    (h : List.Forall₂ rel xs ys) {y : β} (hy : y ∈ ys) : ∃ x ∈ xs, rel x y := by
  induction h with
  | nil => cases hy
  | @cons x z xs ys hrel _ ih =>
    rcases List.mem_cons.mp hy with rfl | hy
    · exact ⟨x, List.mem_cons_self .., hrel⟩
    · obtain ⟨x, hx, hrel⟩ := ih hy
      exact ⟨x, List.mem_cons_of_mem _ hx, hrel⟩

/-- An answer without records of the type that was asked for. -/
theorem Answer.recordSet_of_none (q : Question) (server : Address) {answer : Answer}
    (h : Record.ofTypes [q.recordType] answer.answers = []) :
    (Except.ok answer >>= Answer.recordSet q server) =
      .error (.noData q.name q.recordType.mnemonic server.text) :=
  if_pos h

/-- An answer with records of the type that was asked for. -/
theorem Answer.recordSet_of_some (q : Question) (server : Address) {answer : Answer}
    (h : Record.ofTypes [q.recordType] answer.answers ≠ []) :
    (Except.ok answer >>= Answer.recordSet q server) =
      .ok ⟨Record.ofTypes [q.recordType] answer.answers, answer.rtt⟩ :=
  if_neg h

/-- A list is made of two others, each in its order. -/
inductive Interleaved : List α → List α → List α → Prop where
  /-- Nothing is left. -/
  | nil : Interleaved [] [] []
  /-- The first list goes on. -/
  | left {x : α} {xs ys zs : List α} (rest : Interleaved xs ys zs) :
      Interleaved (x :: xs) ys (x :: zs)
  /-- The second list goes on. -/
  | right {y : α} {xs ys zs : List α} (rest : Interleaved xs ys zs) :
      Interleaved xs (y :: ys) (y :: zs)

namespace Interleaved

private theorem append_left {xs ys zs : List α} (h : Interleaved xs ys zs) (more : List α) :
    Interleaved (more ++ xs) ys (more ++ zs) := by
  induction more with
  | nil => exact h
  | cons x more ih => exact ih.left

/-- What stands before the second list stands before all. -/
theorem append_right {xs ys zs : List α} (h : Interleaved xs ys zs) (more : List α) :
    Interleaved xs (more ++ ys) (more ++ zs) := by
  induction more with
  | nil => exact h
  | cons y more ih => exact ih.right

private theorem nil_left (ys : List α) : Interleaved [] ys ys := by
  simpa using nil.append_right ys

private theorem nil_right (xs : List α) : Interleaved xs [] xs := by
  simpa using nil.append_left xs

/-- Nothing is lost or added when two lists are interleaved. -/
theorem perm {xs ys zs : List α} (h : Interleaved xs ys zs) : zs.Perm (xs ++ ys) := by
  induction h with
  | nil => exact .nil
  | left _ ih => exact ih.cons _
  | right _ ih => exact (ih.cons _).trans List.perm_middle.symm

private theorem eq_of_nil_left {ys zs : List α} (h : Interleaved [] ys zs) : ys = zs := by
  induction ys generalizing zs with
  | nil => cases h; rfl
  | cons y ys ih =>
    cases h with
    | right rest => rw [ih rest]

private theorem eq_of_nil_right {xs zs : List α} (h : Interleaved xs [] zs) : xs = zs := by
  induction xs generalizing zs with
  | nil => cases h; rfl
  | cons x xs ih =>
    cases h with
    | left rest => rw [ih rest]

/-- What is picked from the lists is picked from the list that they make. -/
theorem filter (p : α → Bool) {xs ys zs : List α} (h : Interleaved xs ys zs) :
    Interleaved (xs.filter p) (ys.filter p) (zs.filter p) := by
  induction h with
  | nil => exact .nil
  | left _ ih =>
    rw [List.filter_cons, List.filter_cons]
    split
    · exact ih.left
    · exact ih
  | right _ ih =>
    rw [List.filter_cons, List.filter_cons]
    split
    · exact ih.right
    · exact ih

end Interleaved

/-- A list is made of several others, each in its order. -/
inductive InterleavedAll : List (List α) → List α → Prop where
  /-- There is nothing to make it of. -/
  | nil : InterleavedAll [] []
  /-- One more list is mixed in. -/
  | cons {xs ys zs : List α} {parts : List (List α)} (rest : InterleavedAll parts ys)
      (mixed : Interleaved xs ys zs) : InterleavedAll (xs :: parts) zs

namespace InterleavedAll

/-- Nothing is lost or added when several lists are interleaved. -/
theorem perm {parts : List (List α)} {zs : List α} (h : InterleavedAll parts zs) :
    zs.Perm parts.flatten := by
  induction h with
  | nil => exact .nil
  | @cons xs _ _ _ _ mixed ih => exact mixed.perm.trans (ih.append_left xs)

/-- Lists that can be told apart by a key of their members are found again by it. -/
theorem eq_map_filter [DecidableEq β] {key : α → β} {keys : List β} {parts : List (List α)}
    {zs : List α} (h : InterleavedAll parts zs)
    (hkeys : List.Forall₂ (fun k part => ∀ x ∈ part, key x = k) keys parts)
    (hnodup : keys.Nodup) : parts = keys.map fun k => zs.filter fun x => key x = k := by
  induction h generalizing keys with
  | nil =>
    cases hkeys
    rfl
  | @cons xs ys zs parts hrest hmixed ih =>
    cases hkeys with
    | @cons k _ keys _ hfirst hothers =>
      obtain ⟨hnew, hnodup⟩ := List.nodup_cons.mp hnodup
      have hys : ∀ y ∈ ys, key y ∈ keys := by
        intro y hy
        obtain ⟨part, hpart, hy⟩ := List.mem_flatten.mp (hrest.perm.mem_iff.mp hy)
        obtain ⟨other, hother, hkey⟩ := exists_mem_of_forall₂ hothers hpart
        exact hkey y hy ▸ hother
      rw [List.map_cons, ih hothers hnodup]
      congr 1
      · -- None of the others has the key of the first list.
        have hown : (xs.filter fun x => decide (key x = k)) = xs :=
          List.filter_eq_self.mpr fun x hx => decide_eq_true (hfirst x hx)
        have hnone : (ys.filter fun y => decide (key y = k)) = [] := by
          refine List.filter_eq_nil_iff.mpr fun y hy hkey => hnew ?_
          rw [← of_decide_eq_true hkey]
          exact hys y hy
        have hmixed := hmixed.filter fun x => decide (key x = k)
        rw [hown, hnone] at hmixed
        exact hmixed.eq_of_nil_right
      · -- The first list has none of their keys.
        refine List.map_congr_left fun other hother => ?_
        have hnone : (xs.filter fun x => decide (key x = other)) = [] := by
          refine List.filter_eq_nil_iff.mpr fun x hx hkey => hnew ?_
          rwa [← hfirst x hx, of_decide_eq_true hkey]
        have hmixed := hmixed.filter fun x => decide (key x = other)
        rw [hnone] at hmixed
        exact hmixed.eq_of_nil_left

end InterleavedAll

/-- A decision is a call or none. -/
theorem Effect.calls_eq (effect : Effect) (reply : effect.Reply) :
    effect.calls reply = [] ∨ ∃ call, effect.calls reply = [call] := by
  cases effect with
  | query q server => exact .inr ⟨_, rfl⟩
  | transfer zone server => exact .inr ⟨_, rfl⟩
  | watch => exact .inl rfl
  | clock => exact .inl rfl
  | turn => exact .inl rfl

/-- Of two processes that run interleaved one takes the first step. -/
theorem Effect.interleaved_calls {effect other : Effect} {reply : effect.Reply}
    {reply' : other.Reply} {xs ys zs : List Call}
    (h : Interleaved (effect.calls reply ++ xs) (other.calls reply' ++ ys) zs) :
    (∃ rest, zs = effect.calls reply ++ rest ∧ Interleaved xs (other.calls reply' ++ ys) rest) ∨
      ∃ rest, zs = other.calls reply' ++ rest ∧ Interleaved (effect.calls reply ++ xs) ys rest := by
  rcases effect.calls_eq reply with hfirst | ⟨call, hfirst⟩ <;> rw [hfirst] at h ⊢
  · exact .inl ⟨zs, rfl, h⟩
  · rcases other.calls_eq reply' with hsecond | ⟨call', hsecond⟩ <;> rw [hsecond] at h ⊢
    · exact .inr ⟨zs, rfl, h⟩
    · cases h with
      | left rest => exact .inl ⟨_, rfl, rest⟩
      | right rest => exact .inr ⟨_, rfl, rest⟩

namespace Process

private theorem bind_ended (x : Process α) : x.bind ended = x := by
  induction x with
  | ended a => rfl
  | step effect resume ih => exact congrArg (step effect) (funext ih)

/-- It makes no difference how three steps in a row are grouped. -/
theorem bind_bind (x : Process α) (f : α → Process β) (g : β → Process γ) :
    (x.bind f).bind g = x.bind fun a => (f a).bind g := by
  induction x with
  | ended a => rfl
  | step effect resume ih => exact congrArg (step effect) (funext ih)

instance : LawfulMonad Process := .mk' _ bind_ended (fun _ _ => rfl) bind_bind

@[simp] theorem run_ended_iff {a b : α} {calls : List Call} :
    (ended a).Run calls b ↔ calls = [] ∧ a = b := by
  constructor
  · rintro ⟨⟩
    exact ⟨rfl, rfl⟩
  · rintro ⟨rfl, rfl⟩
    exact .ended a

/-- A step makes its call and goes on with what it got. -/
theorem run_step_iff {effect : Effect} {resume : effect.Reply → Process α} {calls : List Call}
    {a : α} :
    (step effect resume).Run calls a ↔
      ∃ reply rest, (resume reply).Run rest a ∧ calls = effect.calls reply ++ rest := by
  constructor
  · rintro ⟨⟩
    exact ⟨_, _, ‹_›, rfl⟩
  · rintro ⟨reply, rest, hrest, rfl⟩
    exact .step reply hrest

/-- A run of one process after another is a run of each. -/
theorem run_bind_iff {x : Process α} {f : α → Process β} {calls : List Call} {b : β} :
    (x >>= f).Run calls b ↔
      ∃ first rest a, x.Run first a ∧ (f a).Run rest b ∧ calls = first ++ rest := by
  change (x.bind f).Run calls b ↔ _
  induction x generalizing calls with
  | ended a =>
    simp only [bind, run_ended_iff]
    constructor
    · exact fun h => ⟨[], calls, a, ⟨rfl, rfl⟩, h, rfl⟩
    · rintro ⟨_, rest, _, ⟨rfl, rfl⟩, h, rfl⟩
      exact h
  | step effect resume ih =>
    simp only [bind, run_step_iff, ih]
    constructor
    · rintro ⟨reply, _, ⟨first, rest, a, hfirst, hrest, rfl⟩, rfl⟩
      exact ⟨_, rest, a, ⟨reply, first, hfirst, rfl⟩, hrest, (List.append_assoc ..).symm⟩
    · rintro ⟨_, rest, a, ⟨reply, first, hfirst, rfl⟩, hrest, rfl⟩
      exact ⟨reply, _, ⟨first, rest, a, hfirst, hrest, rfl⟩, List.append_assoc ..⟩

/-- What has ended makes no calls. -/
@[simp] theorem run_pure_iff {a b : α} {calls : List Call} :
    (pure a : Process α).Run calls b ↔ calls = [] ∧ a = b :=
  run_ended_iff

private theorem run_perform_iff {effect : Effect} {calls : List Call} {reply : effect.Reply} :
    (perform effect).Run calls reply ↔ calls = effect.calls reply := by
  simp [perform, run_step_iff]

/-- A query makes one call, whatever the reply is. -/
@[simp] theorem run_query_iff {q : Question} {server : Address} {calls : List Call}
    {reply : Except Failure Answer} :
    (client.query q server).Run calls reply ↔ calls = [.query q server reply] :=
  run_perform_iff

/-- A transfer makes one call, whatever the reply is. -/
@[simp] theorem run_transfer_iff {zone : String} {server : Address} {calls : List Call}
    {reply : Except Failure (List Record)} :
    (client.transfer zone server).Run calls reply ↔ calls = [.transfer zone server reply] :=
  run_perform_iff

/-- A look at the clock makes no calls, whatever the time is. -/
@[simp] theorem run_watch_iff {calls : List Call} {time : Duration} :
    (Tasks.watch : Process Duration).Run calls time ↔ calls = [] :=
  run_perform_iff

/-- A process whose result is only put in another form makes the same calls. -/
theorem run_bind_pure_iff {x : Process α} {f : α → β} {calls : List Call} {b : β} :
    (x >>= fun a => pure (f a)).Run calls b ↔ ∃ a, x.Run calls a ∧ f a = b := by
  rw [run_bind_iff]
  constructor
  · rintro ⟨first, rest, a, hfirst, hrest, rfl⟩
    obtain ⟨rfl, hb⟩ := run_pure_iff.mp hrest
    exact ⟨a, by rwa [List.append_nil], hb⟩
  · rintro ⟨a, hrun, rfl⟩
    exact ⟨calls, [], a, hrun, .ended _, (List.append_nil _).symm⟩

/-- A result that is put in another form takes the same calls. -/
@[simp] theorem run_map_iff {x : Process α} {f : α → β} {calls : List Call} {b : β} :
    (f <$> x).Run calls b ↔ ∃ a, x.Run calls a ∧ f a = b := by
  rw [map_eq_pure_bind, run_bind_pure_iff]

/-- A task that runs for itself comes to its end. -/
@[simp] theorem run_isolate_iff {x : Process α} {calls : List Call} {outcome : Option α} :
    (Tasks.isolate x).Run calls outcome ↔ ∃ a, x.Run calls a ∧ some a = outcome :=
  run_bind_pure_iff

/-- Two processes side by side run interleaved. -/
theorem exists_of_run_beside {x : Process α} {y : Process β} {calls : List Call} {a : α} {b : β}
    (h : (x.beside y).Run calls (a, b)) :
    ∃ xs ys, x.Run xs a ∧ y.Run ys b ∧ Interleaved xs ys calls := by
  induction x generalizing y calls with
  | ended a' =>
    obtain ⟨first, rest, b', hfirst, hrest, rfl⟩ := run_bind_iff.mp h
    obtain ⟨rfl, hab⟩ := run_ended_iff.mp hrest
    cases hab
    rw [List.append_nil]
    exact ⟨[], first, .ended _, hfirst, .nil_left _⟩
  | step effect resume ih =>
    have hgo {y : Process β} {calls : List Call}
        (h : (step effect fun reply => (resume reply).beside y).Run calls (a, b)) :
        ∃ xs ys, (step effect resume).Run xs a ∧ y.Run ys b ∧ Interleaved xs ys calls := by
      obtain ⟨reply, rest, hrest, rfl⟩ := run_step_iff.mp h
      obtain ⟨xs, ys, hxs, hys, hmixed⟩ := ih reply hrest
      exact ⟨_, ys, .step reply hxs, hys, hmixed.append_left _⟩
    rw [beside] at h
    induction y generalizing calls with
    | ended b' => exact hgo h
    | step other resume' ih' =>
      obtain ⟨first, rest, hrest, rfl⟩ := run_step_iff.mp h
      cases first with
      | true => exact hgo hrest
      | false =>
        obtain ⟨reply, later, hlater, rfl⟩ := run_step_iff.mp hrest
        obtain ⟨xs, ys, hxs, hys, hmixed⟩ := ih' reply hlater
        exact ⟨xs, _, hxs, .step reply hys, hmixed.append_right _⟩

section Stepping

variable {effect : Effect} {x : Process α} {y : Process β} {calls : List Call} {p : α × β}

/-- The first of two processes may take the next step. -/
theorem run_beside_left {resume : effect.Reply → Process α} {reply : effect.Reply}
    (h : ((resume reply).beside y).Run calls p) :
    ((step effect resume).beside y).Run (effect.calls reply ++ calls) p := by
  rw [beside]
  cases y with
  | ended b => exact .step reply h
  | step other resume' => exact run_step_iff.mpr ⟨true, _, .step reply h, rfl⟩

/-- The second of two processes may take the next step. -/
theorem run_beside_right {resume : effect.Reply → Process β} {reply : effect.Reply}
    (h : (x.beside (resume reply)).Run calls p) :
    (x.beside (step effect resume)).Run (effect.calls reply ++ calls) p := by
  cases x with
  | ended a => exact .step reply h
  | step other resume' => exact run_step_iff.mpr ⟨false, _, .step reply h, rfl⟩

end Stepping

/-- Two processes side by side run in any interleaving of their runs, and in no other way. -/
theorem run_beside_iff {x : Process α} {y : Process β} {calls : List Call} {a : α} {b : β} :
    (x.beside y).Run calls (a, b) ↔
      ∃ xs ys, x.Run xs a ∧ y.Run ys b ∧ Interleaved xs ys calls := by
  refine ⟨exists_of_run_beside, ?_⟩
  rintro ⟨xs, ys, hx, hy, h⟩
  induction hx generalizing ys calls y with
  | ended a =>
    rw [← h.eq_of_nil_left]
    exact run_bind_iff.mpr ⟨ys, [], b, hy, .ended _, (List.append_nil _).symm⟩
  | @step effect resume xs a reply later ih =>
    induction hy generalizing calls with
    | ended b =>
      rw [← h.eq_of_nil_right]
      exact run_beside_left (ih [] (.ended b) (.nil_right xs))
    | @step other resume' ys b reply' later' ih' =>
      rcases Effect.interleaved_calls h with ⟨rest, rfl, hrest⟩ | ⟨rest, rfl, hrest⟩
      · exact run_beside_left (ih _ (.step reply' later') hrest)
      · exact run_beside_right (ih' ih hrest)

/-- Processes side by side come each to a result of their own, their calls interleaved. -/
theorem run_together {xs : List (Process α)} {calls : List Call} {results : List α}
    (h : (Tasks.together xs).Run calls results) :
    ∃ parts : List (List Call × α),
      List.Forall₂ (fun x part => x.Run part.1 part.2) xs parts ∧
      results = parts.map (·.2) ∧ InterleavedAll (parts.map (·.1)) calls := by
  change (together xs).Run calls results at h
  induction xs generalizing calls results with
  | nil =>
    obtain ⟨rfl, rfl⟩ := run_ended_iff.mp h
    exact ⟨[], .nil, rfl, .nil⟩
  | cons x xs ih =>
    obtain ⟨first, rest, ⟨a, as⟩, hfirst, hrest, rfl⟩ := run_bind_iff.mp h
    obtain ⟨rfl, rfl⟩ := run_ended_iff.mp hrest
    obtain ⟨part, others, hpart, hothers, hmixed⟩ := run_beside_iff.mp hfirst
    obtain ⟨parts, hparts, rfl, hall⟩ := ih hothers
    rw [List.append_nil]
    exact ⟨(part, a) :: parts, .cons hpart hparts, rfl, hall.cons hmixed⟩

/-- A traversal comes to a result at each member, one member after the other. -/
theorem run_mapM {f : α → Process β} {xs : List α} {calls : List Call} {results : List β}
    (h : (xs.mapM f).Run calls results) :
    ∃ parts : List (List Call × β),
      List.Forall₂ (fun x part => (f x).Run part.1 part.2) xs parts ∧
      results = parts.map (·.2) ∧ calls = parts.flatMap (·.1) := by
  induction xs generalizing calls results with
  | nil =>
    obtain ⟨rfl, rfl⟩ := run_pure_iff.mp h
    exact ⟨[], .nil, rfl, rfl⟩
  | cons x xs ih =>
    rw [List.mapM_cons] at h
    obtain ⟨first, rest, b, hfirst, hrest, rfl⟩ := run_bind_iff.mp h
    obtain ⟨second, _, bs, hsecond, hlast, rfl⟩ := run_bind_iff.mp hrest
    obtain ⟨rfl, rfl⟩ := run_pure_iff.mp hlast
    obtain ⟨parts, hparts, rfl, rfl⟩ := ih hsecond
    exact ⟨(first, b) :: parts, .cons hfirst hparts, rfl, by simp⟩

/-- A search for records of one type makes one call, and its result is made of the reply. -/
theorem run_recordSet_iff {q : Question} {server : Address} {calls : List Call}
    {result : Except Failure RecordSet} :
    (client.recordSet q server).Run calls result ↔
      ∃ reply, calls = [.query q server reply] ∧
        (reply >>= Answer.recordSet q server) = result := by
  rw [Client.recordSet, run_bind_pure_iff]
  simp only [run_query_iff]

/-- All calls that a process can make are of a certain kind. -/
def Makes (kind : Call → Prop) (x : Process α) : Prop :=
  ∀ calls a, x.Run calls a → ∀ call ∈ calls, kind call

namespace Makes

variable {kind : Call → Prop}

/-- What has ended makes no calls of another kind. -/
theorem pure (a : α) : Makes kind (Pure.pure a : Process α) := by
  intro calls b h
  obtain ⟨rfl, -⟩ := run_pure_iff.mp h
  exact fun call hcall => absurd hcall List.not_mem_nil

/-- Two steps in a row make the calls that each of them makes. -/
theorem bind {x : Process α} {f : α → Process β} (hx : Makes kind x) (hf : ∀ a, Makes kind (f a)) :
    Makes kind (x >>= f) := by
  intro calls b h
  obtain ⟨first, rest, a, hfirst, hrest, rfl⟩ := run_bind_iff.mp h
  exact List.forall_mem_append.mpr ⟨hx first a hfirst, hf a rest b hrest⟩

/-- A traversal makes the calls that its steps make. -/
theorem mapM {f : α → Process β} (hf : ∀ a, Makes kind (f a)) (xs : List α) :
    Makes kind (xs.mapM f) := by
  induction xs with
  | nil => exact pure []
  | cons x xs ih =>
    rw [List.mapM_cons]
    exact bind (hf x) fun b => bind ih fun bs => pure (b :: bs)

/-- A search for records makes calls of a kind if its query does. -/
theorem recordSet {q : Question} {server : Address} (h : ∀ reply, kind (.query q server reply)) :
    Makes kind (client.recordSet q server) := by
  refine bind (fun calls reply hrun => ?_) fun answer => pure _
  rw [run_query_iff.mp hrun]
  exact fun call hcall => List.mem_singleton.mp hcall ▸ h reply

end Makes

/-- Every world leads to a run. -/
theorem run_play (world : List Call → (effect : Effect) → effect.Reply) (made : List Call)
    (x : Process α) :
    ∃ calls, (x.play world made).1 = made ++ calls ∧ x.Run calls (x.play world made).2 := by
  induction x generalizing made with
  | ended a => exact ⟨[], (List.append_nil _).symm, .ended a⟩
  | step effect resume ih =>
    obtain ⟨calls, hcalls, hrun⟩ := ih (world made effect) (made ++ effect.calls _)
    exact ⟨_, hcalls.trans (List.append_assoc ..), .step _ hrun⟩

end Process

end DnsHealth
