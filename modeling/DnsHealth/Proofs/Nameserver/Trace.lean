import DnsHealth.Proofs.Nameserver.Execution

/-!
# What lookups ask

A lookup with a client that keeps a record of its exchanges goes as it does without the record, and
only adds to the record. What a search for nameservers adds are exchanges without the security
extensions, so that the questions about keys and delegation signers stand apart.
-/

namespace DnsHealth

variable {σ α β : Type}

/-- A computation does the same with a record of exchanges as without, and adds only exchanges of a
given kind. -/
def Traced (kind : Exchange → Prop) (recorded : StateM (σ × List Exchange) α) (x : StateM σ α) :
    Prop :=
  ∀ st log, ∃ more, (∀ e ∈ more, kind e) ∧
    recorded.run (st, log) = ((x.run st).1, ((x.run st).2, log ++ more))

namespace Traced

variable {kind : Exchange → Prop}

/-- A value is recorded without exchanges. -/
theorem pure (a : α) :
    Traced kind (Pure.pure a : StateM (σ × List Exchange) α) (Pure.pure a : StateM σ α) :=
  fun st log => ⟨[], fun e he => absurd he List.not_mem_nil, by rw [List.append_nil]; rfl⟩

/-- Two steps in a row are recorded one after the other. -/
theorem bind {recorded : StateM (σ × List Exchange) α} {x : StateM σ α}
    {after : α → StateM (σ × List Exchange) β} {f : α → StateM σ β} (hx : Traced kind recorded x)
    (hf : ∀ a, Traced kind (after a) (f a)) : Traced kind (recorded >>= after) (x >>= f) := by
  intro st log
  obtain ⟨first, hfirst, hrun⟩ := hx st log
  obtain ⟨second, hsecond, hrest⟩ := hf (x.run st).1 (x.run st).2 (log ++ first)
  refine ⟨first ++ second, List.forall_mem_append.mpr ⟨hfirst, hsecond⟩, ?_⟩
  change ((after (recorded.run (st, log)).1).run (recorded.run (st, log)).2) = _
  rw [hrun, ← List.append_assoc]
  exact hrest

/-- A traversal is recorded as its steps are. -/
theorem mapM {after : α → StateM (σ × List Exchange) β} {f : α → StateM σ β}
    (hf : ∀ a, Traced kind (after a) (f a)) (xs : List α) :
    Traced kind (xs.mapM after) (xs.mapM f) := by
  induction xs with
  | nil => exact pure []
  | cons x xs ih =>
    rw [List.mapM_cons, List.mapM_cons]
    exact bind (hf x) fun b => bind ih fun bs => pure (b :: bs)

/-- A query is recorded as one exchange. -/
theorem query (c : Client (StateM σ)) {q : Question} (hq : ∀ server reply, kind ⟨q, server, reply⟩)
    (server : Address) : Traced kind (c.recorded.query q server) (c.query q server) :=
  fun _ _ => ⟨[_], fun _ he => List.mem_singleton.mp he ▸ hq _ _, rfl⟩

end Traced

/-- A lookup does the same with a record of exchanges as without, and adds only exchanges of a given
kind. -/
def Lookup.Traced (kind : Exchange → Prop) (recorded : Lookup (StateM (σ × List Exchange)) α)
    (x : Lookup (StateM σ) α) : Prop :=
  ∀ cache st log, ∃ more, (∀ e ∈ more, kind e) ∧
    recorded.exec cache (st, log) =
      { result := (x.exec cache st).result
        cache := (x.exec cache st).cache
        state := ((x.exec cache st).state, log ++ more) }

namespace Lookup.Traced

variable {kind : Exchange → Prop}

/-- A value is recorded without exchanges. -/
theorem pure (a : α) : Lookup.Traced kind (Pure.pure a : Lookup (StateM (σ × List Exchange)) α)
    (Pure.pure a : Lookup (StateM σ) α) :=
  fun _ _ _ => ⟨[], fun _ he => absurd he List.not_mem_nil, by rw [List.append_nil]; rfl⟩

/-- A failure is recorded without exchanges. -/
theorem throw (failure : Failure) :
    Lookup.Traced kind (throw failure : Lookup (StateM (σ × List Exchange)) α)
      (throw failure : Lookup (StateM σ) α) :=
  fun _ _ _ => ⟨[], fun _ he => absurd he List.not_mem_nil, by rw [List.append_nil]; rfl⟩

/-- A step outside the cache is recorded as it is there. -/
theorem lift {recorded : StateM (σ × List Exchange) (Except Failure α)}
    {x : StateM σ (Except Failure α)} (hx : DnsHealth.Traced kind recorded x) :
    Lookup.Traced kind (Lookup.lift recorded) (Lookup.lift x) := by
  intro cache st log
  obtain ⟨more, hmore, hrun⟩ := hx st log
  exact ⟨more, hmore, by rw [exec_lift, exec_lift, hrun]⟩

/-- Naming a zone is recorded without exchanges. -/
theorem inZone {recorded : Lookup (StateM (σ × List Exchange)) α} {x : Lookup (StateM σ) α}
    (hx : Lookup.Traced kind recorded x) (zone : String) :
    Lookup.Traced kind (recorded.inZone zone) (x.inZone zone) := by
  intro cache st log
  obtain ⟨more, hmore, hrun⟩ := hx cache st log
  exact ⟨more, hmore, by rw [exec_inZone, exec_inZone, hrun]⟩

/-- Two steps in a row are recorded one after the other. -/
theorem bind {recorded : Lookup (StateM (σ × List Exchange)) α} {x : Lookup (StateM σ) α}
    {after : α → Lookup (StateM (σ × List Exchange)) β} {f : α → Lookup (StateM σ) β}
    (hx : Lookup.Traced kind recorded x) (hf : ∀ a, Lookup.Traced kind (after a) (f a)) :
    Lookup.Traced kind (recorded >>= after) (x >>= f) := by
  intro cache st log
  obtain ⟨first, hfirst, hrun⟩ := hx cache st log
  rw [exec_bind, exec_bind, hrun]
  rcases x.exec cache st with ⟨result, known, state⟩
  cases result with
  | error failure => exact ⟨first, hfirst, rfl⟩
  | ok a =>
    obtain ⟨second, hsecond, hrest⟩ := hf a known state (log ++ first)
    refine ⟨first ++ second, List.forall_mem_append.mpr ⟨hfirst, hsecond⟩, ?_⟩
    rw [← List.append_assoc]
    exact hrest

/-- A fold is recorded as its steps are. -/
theorem foldlM {after : β → α → Lookup (StateM (σ × List Exchange)) β}
    {f : β → α → Lookup (StateM σ) β} (hf : ∀ b a, Lookup.Traced kind (after b a) (f b a))
    (xs : List α) (start : β) : Lookup.Traced kind (xs.foldlM after start) (xs.foldlM f start) := by
  induction xs generalizing start with
  | nil => exact pure start
  | cons x xs ih =>
    rw [List.foldlM_cons, List.foldlM_cons]
    exact bind (hf start x) ih

/-- What is recorded may be said less exactly. -/
theorem mono {wider : Exchange → Prop} (hwider : ∀ e, kind e → wider e)
    {recorded : Lookup (StateM (σ × List Exchange)) α} {x : Lookup (StateM σ) α}
    (hx : Lookup.Traced kind recorded x) : Lookup.Traced wider recorded x := by
  intro cache st log
  obtain ⟨more, hmore, hrun⟩ := hx cache st log
  exact ⟨more, fun e he => hwider e (hmore e he), hrun⟩

end Lookup.Traced

namespace Exchange

/-- An exchange without the security extensions. -/
def Insecure (e : Exchange) : Prop := e.question.dnssec = false

/-- The exchanges of a record that are about one question. -/
def asking (q : Question) (log : List Exchange) : List Exchange :=
  log.filter fun e => e.question = q

/-- The exchanges about a question in two parts of a record are those in both. -/
theorem asking_append (q : Question) (log more : List Exchange) :
    asking q (log ++ more) = asking q log ++ asking q more :=
  List.filter_append ..

/-- No exchange without the security extensions is about a question with them. -/
theorem asking_insecure {q : Question} (hq : q.dnssec = true) {log : List Exchange}
    (h : ∀ e ∈ log, e.Insecure) : asking q log = [] := by
  rw [asking, List.filter_eq_nil_iff]
  intro e he hquestion
  have hsame : e.question = q := of_decide_eq_true hquestion
  have hinsecure := h e he
  rw [Insecure, hsame, hq] at hinsecure
  cases hinsecure

/-- Exchanges without the security extensions do not count for a question with them. -/
theorem asking_between {q : Question} (hq : q.dnssec = true) {before between : List Exchange}
    (hbefore : ∀ e ∈ before, e.Insecure) (hbetween : ∀ e ∈ between, e.Insecure)
    (log : List Exchange) : asking q (before ++ log ++ between) = asking q log := by
  rw [asking_append, asking_append, asking_insecure hq hbefore, asking_insecure hq hbetween,
    List.nil_append, List.append_nil]

/-- All exchanges of an inquiry are about its question. -/
theorem asking_ask_self (c : Client (StateM σ)) (q : Question) (servers : List Address) (st : σ) :
    asking q (c.ask q servers st) = c.ask q servers st := by
  rw [asking, List.filter_eq_self]
  exact fun e he => decide_eq_true (Client.question_of_mem_ask he)

/-- None of them is about another question. -/
theorem asking_ask_of_ne {q other : Question} (hne : other ≠ q) (c : Client (StateM σ))
    (servers : List Address) (st : σ) : asking q (c.ask other servers st) = [] := by
  rw [asking, List.filter_eq_nil_iff]
  intro e he hquestion
  exact hne ((Client.question_of_mem_ask he).symm.trans (of_decide_eq_true hquestion))

end Exchange

namespace Resolver

open Lookup

/-- The resolver whose client keeps a record of its exchanges. -/
def recorded (r : Resolver (StateM σ)) : Resolver (StateM (σ × List Exchange)) :=
  ⟨r.client.recorded, r.address⟩

/-- A search for records of one type is recorded. -/
theorem traced_recordSet (r : Resolver (StateM σ)) {q : Question} (hq : q.dnssec = false)
    (server : Address) :
    DnsHealth.Traced Exchange.Insecure (r.recorded.client.recordSet q server)
      (r.client.recordSet q server) :=
  .bind (.query r.client (fun _ _ => hq) server) fun _ => .pure _

private theorem traced_nameserver (r : Resolver (StateM σ)) (host : String) :
    DnsHealth.Traced Exchange.Insecure (r.recorded.nameserver host) (r.nameserver host) := by
  have haddresses (type : RecordType) :
      DnsHealth.Traced Exchange.Insecure (r.recorded.hostAddresses host type)
        (r.hostAddresses host type) := by
    refine .bind (r.traced_recordSet rfl r.address) fun set => ?_
    cases set <;> exact .pure _
  exact .bind (haddresses .a) fun v4 => .bind (haddresses .aaaa) fun v6 => .pure _

/-- A search asks without the security extensions. -/
theorem traced_search (r : Resolver (StateM σ)) (domain : String) :
    DnsHealth.Traced Exchange.Insecure (r.recorded.search domain) (r.search domain) := by
  refine .bind (r.traced_recordSet rfl r.address) fun set => ?_
  cases set with
  | ok set => exact .bind (.mapM (fun host => r.traced_nameserver host) _) fun _ => .pure _
  | error failure => exact .pure _

/-- Looking for the addresses of a domain asks without the security extensions. -/
theorem traced_findAddresses (r : Resolver (StateM σ)) (domain : String) :
    Lookup.Traced Exchange.Insecure (r.recorded.findAddresses domain) (r.findAddresses domain) := by
  refine .bind (fun cache st log => ?_) fun nameservers => .pure _
  cases hknown : cache.get? (Name.fqdn domain) with
  | some nameservers =>
    rw [r.exec_findNameservers_of_known hknown, r.recorded.exec_findNameservers_of_known hknown]
    exact ⟨[], fun e he => absurd he List.not_mem_nil, by rw [List.append_nil]⟩
  | none =>
    obtain ⟨more, hmore, hrun⟩ := r.traced_search (Name.fqdn domain) st log
    refine ⟨more, hmore, ?_⟩
    rw [r.exec_findNameservers_of_unknown hknown, r.recorded.exec_findNameservers_of_unknown hknown,
      hrun]
    rcases (r.search (Name.fqdn domain)).run st with ⟨result, state⟩
    cases result <;> rfl

end Resolver

end DnsHealth
