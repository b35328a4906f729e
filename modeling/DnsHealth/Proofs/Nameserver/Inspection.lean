import DnsHealth.Diagnosis.Text
import DnsHealth.Nameserver.Inspect
import DnsHealth.Proofs.Client.Settling
import DnsHealth.Proofs.Nameserver.Runs
import DnsHealth.Proofs.Signature.Search

/-!
# What an inspection says

With a client that always replies the same, an inspection gives one list of statuses, in whichever
way the questions to the nameservers are mixed: the one that comes about when they are asked one
after the other. In each status the fields fit one another. Without keys no signature is good, so a
window, and a verdict on it, is there only if the address gave a key, and the line in which the text
shows the status speaks of a signature only then.
-/

namespace DnsHealth

variable {α β : Type}

namespace Lookup

/-- If a client answers all its calls, a lookup comes to what another comes to without effects, and
leaves the same known. -/
def Settles (c : Client Id) (x : Lookup Process α) (y : Lookup Id α) : Prop :=
  ∀ cache, Process.Settles c (x.run.run cache) (y.run.run cache)

namespace Settles

variable {c : Client Id}

/-- A value settles at itself. -/
theorem pure (a : α) : Settles c (Pure.pure a) (Pure.pure a) := fun _ => .pure _

/-- The cache settles at what it is. -/
theorem get : Settles c get get := fun _ => .pure _

/-- A change of the cache settles at the change. -/
theorem modify (f : NameserverCache → NameserverCache) : Settles c (modify f) (modify f) :=
  fun _ => .pure _

/-- A step outside the cache settles as it does there. -/
theorem lift {x : Process (Except Failure α)} {y : Id (Except Failure α)}
    (hx : Process.Settles c x y) : Settles c (Lookup.lift x) (Lookup.lift y) :=
  fun _ => hx.bind fun _ => .pure _

/-- Two steps in a row settle if each of them does. -/
theorem bind {x : Lookup Process α} {y : Lookup Id α} {f : α → Lookup Process β}
    {g : α → Lookup Id β} (hx : Settles c x y) (hf : ∀ a, Settles c (f a) (g a)) :
    Settles c (x >>= f) (y >>= g) := by
  intro cache
  change Process.Settles c
    ((x.run.run cache) >>= fun found => (ExceptT.bindCont f found.1).run found.2)
    ((y.run.run cache) >>= fun found => (ExceptT.bindCont g found.1).run found.2)
  refine (hx cache).bind fun found => ?_
  rcases found with ⟨a | failure, known⟩
  · exact .pure _
  · exact hf _ _

end Settles

end Lookup

namespace Resolver

section Settling

variable (c : Client Id) (address : Address)

/-- The search for the addresses of a host settles. -/
theorem settles_hostAddresses (host : String) (type : RecordType) :
    Process.Settles c ((ofAddress address).hostAddresses host type)
      ((⟨c, address⟩ : Resolver Id).hostAddresses host type) := by
  refine (Process.Settles.recordSet _ _).bind fun found => ?_
  cases found with
  | ok set => exact .pure _
  | error failure => exact .pure _

private theorem settles_nameserver (host : String) :
    Process.Settles c ((ofAddress address).nameserver host)
      ((⟨c, address⟩ : Resolver Id).nameserver host) := by
  refine (settles_hostAddresses c address host .a).bind fun v4 => ?_
  exact (settles_hostAddresses c address host .aaaa).bind fun v6 => .pure _

private theorem settles_search (domain : String) :
    Process.Settles c ((ofAddress address).search domain)
      ((⟨c, address⟩ : Resolver Id).search domain) := by
  refine (Process.Settles.recordSet _ _).bind fun found => ?_
  cases found with
  | ok set => exact (Process.Settles.mapM (settles_nameserver c address) _).bind fun _ => .pure _
  | error failure => exact .pure _

/-- The search for nameservers settles. -/
theorem settles_findNameservers (domain : String) :
    Lookup.Settles c ((ofAddress address).findNameservers domain)
      ((⟨c, address⟩ : Resolver Id).findNameservers domain) := by
  refine Lookup.Settles.get.bind fun cache => ?_
  cases cache.get? (Name.fqdn domain) with
  | some nameservers => exact .pure _
  | none =>
    refine (Lookup.Settles.lift (settles_search c address _)).bind fun nameservers => ?_
    exact (Lookup.Settles.modify _).bind fun _ => Lookup.Settles.get.bind fun _ => .pure _

variable (v : Verifier) (now : Int)

private theorem settles_inspectAddress (domain name : String) (asked : Address) :
    Process.Settles c ((ofAddress address).inspectAddress (pure now) v domain name asked)
      ((⟨c, address⟩ : Resolver Id).inspectAddress (pure now) v domain name asked) := by
  refine (Process.Settles.query _ _).bind fun found => ?_
  cases found with
  | error failure => exact .pure _
  | ok soa =>
    refine (Process.Settles.recordSet _ _).bind fun keys => ?_
    refine (Process.Settles.query _ _).bind fun nameservers => ?_
    exact (Process.Settles.pure now).bind fun _ => .pure _

/-- An inspection of nameservers side by side comes to what it comes to one question after the
other. -/
theorem settles_inspect (domain : String) :
    Lookup.Settles c ((ofAddress address).inspect v now domain)
      ((⟨c, address⟩ : Resolver Id).inspect v now domain) := by
  refine (settles_findNameservers c address _).bind fun nameservers => ?_
  refine (Lookup.Settles.lift ?_).bind fun statuses => .pure _
  exact (Process.Settles.together (fun n =>
    .mapM (settles_inspectAddress c address v now _ n.name) n.addresses) nameservers).bind
      fun lists => .pure (Except.ok lists)

end Settling

end Resolver

/-- The status that an address of a nameserver gets for its answers to the three questions. -/
def Client.nameserverStatus (c : Client Id) (v : Verifier) (now : Int) (domain name : String)
    (asked : Address) : NameserverStatus :=
  match c.query ⟨domain, .soa, false⟩ asked with
  | .error failure => .unreachable name asked failure.message
  | .ok soa =>
    .ofAnswers v domain name asked now soa (c.recordSet ⟨domain, .dnskey, true⟩ asked)
      (c.query ⟨domain, .ns, true⟩ asked)

/-- Whatever an address answers, its status is about this address of this nameserver. -/
theorem Client.name_address_nameserverStatus (c : Client Id) (v : Verifier) (now : Int)
    (domain name : String) (asked : Address) :
    let s := c.nameserverStatus v now domain name asked
    (s.name, s.address) = (name, asked) := by
  unfold nameserverStatus
  cases c.query ⟨domain, .soa, false⟩ asked with
  | error failure => rfl
  | ok soa => rfl

private theorem Resolver.inspectAddress_eq (c : Client Id) (address : Address) (v : Verifier)
    (now : Int) (domain name : String) (asked : Address) :
    (⟨c, address⟩ : Resolver Id).inspectAddress (pure now) v domain name asked =
      c.nameserverStatus v now domain name asked := by
  change (match c.query ⟨domain, .soa, false⟩ asked with
    | .error failure => _
    | .ok soa => _) = _
  rw [Client.nameserverStatus]
  cases c.query ⟨domain, .soa, false⟩ asked with
  | error failure => rfl
  | ok soa => rfl

private theorem Resolver.inspectNameserver_eq (c : Client Id) (address : Address) (v : Verifier)
    (now : Int) (domain : String) (n : Nameserver) :
    (⟨c, address⟩ : Resolver Id).inspectNameserver (pure now) v domain n =
      n.addresses.map (c.nameserverStatus v now domain n.name) := by
  have hstatus : (⟨c, address⟩ : Resolver Id).inspectAddress (pure now) v domain n.name =
      c.nameserverStatus v now domain n.name :=
    funext (inspectAddress_eq c address v now domain n.name)
  rw [inspectNameserver, hstatus]
  exact List.idRun_mapM

/-- An inspection fails if the search for the nameservers does, and else has a status for each of
their addresses, in their order. -/
theorem Resolver.inspect_eq {c : Client Id} {address : Address} {v : Verifier} {now : Int}
    {domain : String} {cache known : NameserverCache} {found : Except Failure (List Nameserver)}
    (h : ((⟨c, address⟩ : Resolver Id).findNameservers domain).run.run cache = (found, known)) :
    ((⟨c, address⟩ : Resolver Id).inspect v now domain).run.run cache =
      (found.map fun nameservers => nameservers.flatMap fun n =>
        n.addresses.map (c.nameserverStatus v now (Name.fqdn domain) n.name), known) := by
  rw [inspect, inspectBy, findNameservers_fqdn, ExceptT.run_bind, StateT.run_bind, h]
  cases found with
  | error failure => rfl
  | ok nameservers =>
    have hstatuses := funext (inspectNameserver_eq c address v now (Name.fqdn domain))
    rw [hstatuses]
    simp only [Except.map, List.flatMap_def]
    rfl

/-- An address answers the question for the keys of a domain, and a key is in the answer. -/
def Client.GivesKey (c : Client Id) (domain : String) (asked : Address) : Prop :=
  ∃ answer, c.query ⟨domain, .dnskey, true⟩ asked = .ok answer ∧
    ∃ r ∈ answer.answers, ∃ key, r.data = .dnskey key

/-- A record gives a key exactly if the key is its data. -/
theorem Record.dnskey?_eq_some_iff {r : Record} {key : Dnskey} :
    r.dnskey? = some key ↔ r.data = .dnskey key := by
  unfold dnskey?
  split
  · next held h => rw [h, Option.some.injEq, RecordData.dnskey.injEq]
  · next h => exact ⟨nofun, fun hdata => absurd hdata (h key)⟩

/-- The records of an answer that are of the type of keys hold all its keys. -/
theorem keysOf_recordSet (q : Question) (server : Address) (answer : Answer)
    (hq : q.recordType = .dnskey) :
    keysOf (answer.recordSet q server) = answer.answers.filterMap Record.dnskey? := by
  have htypes : (Record.ofTypes [q.recordType] answer.answers).filterMap Record.dnskey? =
      answer.answers.filterMap Record.dnskey? := by
    rw [Record.ofTypes, List.filterMap_filter]
    refine List.filterMap_congr fun r _ => ?_
    cases hkey : r.dnskey? with
    | none => rw [ite_self]
    | some key =>
      have htype : r.type = .dnskey := by
        rw [Record.type, Record.dnskey?_eq_some_iff.mp hkey, RecordData.type]
      rw [if_pos (by simp [hq, htype])]
  by_cases hnone : Record.ofTypes [q.recordType] answer.answers = []
  · rw [← htypes, hnone, Answer.recordSet, if_pos hnone]
    rfl
  · rw [← htypes, Answer.recordSet, if_neg hnone]
    rfl

/-- Keys are found exactly if the server gives one. -/
theorem Client.keysOf_recordSet_ne_nil_iff (c : Client Id) (domain : String) (asked : Address) :
    keysOf (c.recordSet ⟨domain, .dnskey, true⟩ asked) ≠ [] ↔ c.GivesKey domain asked := by
  change keysOf (Except.bind (c.query ⟨domain, .dnskey, true⟩ asked) _) ≠ [] ↔ _
  rw [GivesKey]
  cases c.query ⟨domain, .dnskey, true⟩ asked with
  | error failure => exact ⟨fun h => absurd rfl h, nofun⟩
  | ok answer =>
    change keysOf (answer.recordSet ⟨domain, .dnskey, true⟩ asked) ≠ [] ↔ _
    rw [keysOf_recordSet _ _ _ rfl, ne_eq, List.filterMap_eq_nil_iff]
    simp only [not_forall, ← ne_eq, Option.ne_none_iff_exists', Record.dnskey?_eq_some_iff,
      exists_prop]
    exact ⟨fun h => ⟨answer, rfl, h⟩, fun ⟨_, hanswer, h⟩ => Except.ok.inj hanswer ▸ h⟩

namespace SignatureStatus

variable {v : Verifier} {keys : List Dnskey} {domain : String} {now : Int}
  {answer : Except Failure Answer}

private theorem eq_mk {s : SignatureStatus} {signed valid : Bool} {window : Option ValidityWindow}
    (hsigned : s.signed = signed) (hvalid : s.valid = valid) (hwindow : s.window = window) :
    s = ⟨signed, valid, window⟩ := by
  subst hsigned hvalid hwindow
  rfl

/-- Without keys there is no sign of a signature. -/
theorem ofAnswer_nil : ofAnswer v [] domain now answer = unsigned := by
  cases answer with
  | ok answer => simp only [ofAnswer, SignatureCheck.run_nil]; rfl
  | error failure => rfl

/-- An answer is signed exactly if there are keys. -/
theorem signed_ofAnswer_iff : (ofAnswer v keys domain now answer).signed = true ↔ keys ≠ [] := by
  cases keys with
  | nil => simp [ofAnswer_nil, unsigned]
  | cons key keys => cases answer <;> simp [ofAnswer]

/-- A window is there only with keys. -/
theorem signed_of_window_ofAnswer (h : (ofAnswer v keys domain now answer).window.isSome = true) :
    (ofAnswer v keys domain now answer).signed = true := by
  refine signed_ofAnswer_iff.mpr fun hkeys => ?_
  rw [hkeys, ofAnswer_nil] at h
  cases h

/-- A good and current signature has a window, which contains the current time. -/
theorem window_of_valid_ofAnswer (h : (ofAnswer v keys domain now answer).valid = true) :
    ∃ w, (ofAnswer v keys domain now answer).window = some w ∧ w.contains now = true := by
  cases answer with
  | error failure => cases h
  | ok answer =>
    obtain ⟨signed, -, key, -, hcurrent, hwindow⟩ := SignatureCheck.window_run_of_valid h
    exact ⟨_, hwindow, hcurrent.current⟩

end SignatureStatus

/-- The fields of a status fit one another and the replies of the address that it is about. -/
structure NameserverStatus.Consistent (s : NameserverStatus) (c : Client Id) (domain : String)
    (now : Int) : Prop where
  /-- A signature that counts as valid has a window, which contains the current time. -/
  valid : s.signatures.valid = true → s.signatures.signed = true ∧
    ∃ w, s.signatures.window = some w ∧ w.contains now = true
  /-- A window is there only if the address counts as signed. -/
  window : s.signatures.window.isSome = true → s.signatures.signed = true
  /-- The address counts as signed exactly if it answers the first question and gives a key. -/
  signed_iff : s.signatures.signed = true ↔
    (∃ soa, c.query ⟨domain, .soa, false⟩ s.address = .ok soa) ∧ c.GivesKey domain s.address
  /-- There is an error exactly if the first question failed, and it says why. -/
  error_iff : ∀ error, s.error = some error ↔
    ∃ failure, c.query ⟨domain, .soa, false⟩ s.address = .error failure ∧ failure.message = error
  /-- Beside an error there is nothing else, and the address is not lame. -/
  alone : s.error.isSome = true → s.rtt = none ∧ s.serial = none ∧ s.authoritative = false ∧
    s.recursionAvailable = false ∧ s.signatures = .unsigned ∧ s.isLame = false
  /-- The address is lame exactly if it answered the first question without authority. -/
  lame_iff : s.isLame = true ↔
    ∃ soa, c.query ⟨domain, .soa, false⟩ s.address = .ok soa ∧ soa.authoritative = false

/-- The status of a server says of it what its replies say. -/
theorem Client.consistent_nameserverStatus (c : Client Id) (v : Verifier) (now : Int)
    (domain name : String) (asked : Address) :
    (c.nameserverStatus v now domain name asked).Consistent c domain now := by
  unfold nameserverStatus
  cases hsoa : c.query ⟨domain, .soa, false⟩ asked with
  | error failure =>
    refine
      { valid := nofun
        window := nofun
        signed_iff := ⟨nofun, fun ⟨⟨_, hok⟩, _⟩ => nomatch hsoa.symm.trans hok⟩
        error_iff := fun error => ⟨fun herror => ⟨failure, hsoa, Option.some.inj herror⟩, ?_⟩
        alone := fun _ => ⟨rfl, rfl, rfl, rfl, rfl, rfl⟩
        lame_iff := ⟨nofun, fun ⟨_, hok, _⟩ => nomatch hsoa.symm.trans hok⟩ }
    rintro ⟨other, hother, rfl⟩
    cases hsoa.symm.trans hother
    rfl
  | ok soa =>
    refine
      { valid := fun hvalid => ?valid
        window := SignatureStatus.signed_of_window_ofAnswer
        signed_iff := ?signed
        error_iff := fun _ => ⟨nofun, fun ⟨_, herror, _⟩ => nomatch hsoa.symm.trans herror⟩
        alone := nofun
        lame_iff := ?lame }
    case valid =>
      obtain ⟨w, hwindow, hcontains⟩ := SignatureStatus.window_of_valid_ofAnswer hvalid
      have hsigned := SignatureStatus.signed_of_window_ofAnswer (by rw [hwindow]; rfl)
      exact ⟨hsigned, w, hwindow, hcontains⟩
    case signed =>
      refine SignatureStatus.signed_ofAnswer_iff.trans ?_
      rw [c.keysOf_recordSet_ne_nil_iff]
      exact ⟨fun hkey => ⟨⟨soa, hsoa⟩, hkey⟩, fun h => h.2⟩
    case lame =>
      change (!soa.authoritative) = true ↔
        ∃ other, c.query ⟨domain, .soa, false⟩ asked = .ok other ∧ _
      rw [Bool.not_eq_true', hsoa]
      exact ⟨fun h => ⟨soa, rfl, h⟩, fun ⟨_, hother, h⟩ => Except.ok.inj hother ▸ h⟩

namespace Diagnosis

open Text (Decimal.ofNat)

/-- The line of an address as far as the name and the address. -/
def statusHead (s : NameserverStatus) : String :=
  "  " ++ column 30 s.name ++ " " ++ column 39 s.address.text

/-- The line of an address that answered as far as the state of the signatures. -/
def answerHead (s : NameserverStatus) : String :=
  statusHead s ++ " rtt " ++ column 6 (orHyphen (fun d =>
      Decimal.ofNat (d.nanoseconds / 1000000) ++ "ms") s.rtt) ++
    " serial " ++ column 12 (orHyphen (fun n => Decimal.ofNat n.toNat) s.serial) ++ " " ++
    (if s.isLame then "LAME" else "AA") ++ (if s.recursionAvailable then " RA" else "") ++
    "  DNSSEC "

/-- What the line of an address says, given the replies of the address. -/
structure LineTells (s : NameserverStatus) (c : Client Id) (domain : String) (now : Int)
    (line : String) : Prop where
  /-- Of an address that did not answer the first question it says why. -/
  failed : ∀ failure, c.query ⟨domain, .soa, false⟩ s.address = .error failure →
    line = statusHead s ++ " FAIL: " ++ failure.message
  /-- Of an address that answered but gave no key it says that the answer is not signed. -/
  unsigned : ∀ soa, c.query ⟨domain, .soa, false⟩ s.address = .ok soa →
    ¬ c.GivesKey domain s.address → line = answerHead s ++ "unsigned"
  /-- Of an address that gave a key it says that there is a valid signature, and the window, which
  contains the current time, or that there is none, and the window if a signature is good. -/
  signed : ∀ soa, c.query ⟨domain, .soa, false⟩ s.address = .ok soa →
    c.GivesKey domain s.address →
      (∃ w, s.signatures.valid = true ∧ s.signatures.window = some w ∧ w.contains now = true ∧
        line = answerHead s ++ ("signed, valid " ++ w.text)) ∨
      (∃ w, s.signatures.valid = false ∧ s.signatures.window = some w ∧
        line = answerHead s ++ ("signed, INVALID " ++ w.text)) ∨
      (s.signatures.valid = false ∧ s.signatures.window = none ∧
        line = answerHead s ++ "signed, INVALID")

private theorem statusLine_of_answer {s : NameserverStatus} (h : s.error = none) :
    statusLine s = answerHead s ++ signatureText s.signatures := by
  rw [statusLine, h]
  rfl

private theorem signatureText_valid (w : ValidityWindow) :
    signatureText ⟨true, true, some w⟩ = "signed, valid " ++ w.text := by
  have hmark : "signed, valid" ++ " " = "signed, valid " := by decide
  rw [← hmark, String.append_assoc]
  rfl

private theorem signatureText_invalid (w : ValidityWindow) :
    signatureText ⟨true, false, some w⟩ = "signed, INVALID " ++ w.text := by
  have hmark : "signed, INVALID" ++ " " = "signed, INVALID " := by decide
  rw [← hmark, String.append_assoc]
  rfl

private theorem signatureText_invalid_none :
    signatureText ⟨true, false, none⟩ = "signed, INVALID" := by
  decide

/-- The line of a status tells what the status says. -/
theorem lineTells_statusLine {s : NameserverStatus} {c : Client Id} {domain : String} {now : Int}
    (h : s.Consistent c domain now) : LineTells s c domain now (statusLine s) := by
  have hanswer {soa : Answer} (hsoa : c.query ⟨domain, .soa, false⟩ s.address = .ok soa) :
      statusLine s = answerHead s ++ signatureText s.signatures := by
    refine statusLine_of_answer (Option.eq_none_iff_forall_ne_some.mpr fun error herror => ?_)
    obtain ⟨failure, hfailure, -⟩ := (h.error_iff error).mp herror
    cases hsoa.symm.trans hfailure
  refine { failed := fun failure hsoa => ?failed, unsigned := fun soa hsoa hkey => ?unsigned,
           signed := fun soa hsoa hkey => ?signed }
  case failed =>
    have herror := (h.error_iff failure.message).mpr ⟨failure, hsoa, rfl⟩
    rw [statusLine, herror]
    rfl
  case unsigned =>
    have hsigned : s.signatures.signed = false := by
      rw [Bool.eq_false_iff]
      exact fun hsigned => hkey (h.signed_iff.mp hsigned).2
    rw [hanswer hsoa, signatureText, hsigned]
    rfl
  case signed =>
    have hsigned := h.signed_iff.mpr ⟨⟨soa, hsoa⟩, hkey⟩
    cases hvalid : s.signatures.valid with
    | true =>
      obtain ⟨-, w, hwindow, hcontains⟩ := h.valid hvalid
      have hsignatures := SignatureStatus.eq_mk hsigned hvalid hwindow
      rw [hanswer hsoa, hsignatures, signatureText_valid]
      exact .inl ⟨w, rfl, rfl, hcontains, rfl⟩
    | false =>
      cases hwindow : s.signatures.window with
      | some w =>
        have hsignatures := SignatureStatus.eq_mk hsigned hvalid hwindow
        rw [hanswer hsoa, hsignatures, signatureText_invalid]
        exact .inr (.inl ⟨w, rfl, rfl, rfl⟩)
      | none =>
        have hsignatures := SignatureStatus.eq_mk hsigned hvalid hwindow
        rw [hanswer hsoa, hsignatures, signatureText_invalid_none]
        exact .inr (.inr ⟨rfl, rfl, rfl⟩)

/-- The lines of the addresses stand behind those of the nameservers. -/
theorem getElem?_lines_status (d : Diagnosis) {i : Nat} {s : NameserverStatus}
    (h : d.statuses[i]? = some s) :
    d.lines[d.nameservers.length + 5 + i]? = some (statusLine s) := by
  obtain ⟨before, after, hlines, hlength⟩ : ∃ before after : List String,
      d.lines = before ++ (d.statuses.map statusLine ++ after) ∧
        before.length = d.nameservers.length + 5 := by
    refine
      ⟨["Domain: " ++ d.domain ++ " (resolver " ++ d.resolver.text ++ ")", "", "Nameservers:"] ++
        d.nameservers.map nameserverLine ++ ["", "Nameserver checks:"], ?after, ?parts, ?before⟩
    case parts =>
      simp only [lines, List.append_assoc, List.cons_append, List.nil_append]
      rfl
    case before =>
      simp only [List.length_append, List.length_cons, List.length_nil, List.length_map]
      omega
  have hline : (d.statuses.map statusLine)[i]? = some (statusLine s) := by
    rw [List.getElem?_map, h, Option.map_some]
  have hi : i < (d.statuses.map statusLine).length := (List.getElem?_eq_some_iff.mp hline).1
  rw [hlines, ← hlength, List.getElem?_append_right (Nat.le_add_right _ i),
    Nat.add_sub_cancel_left, List.getElem?_append_left hi, hline]

end Diagnosis

namespace Resolver

/-- If a client that always replies the same answers all calls, an inspection comes to what it comes
to one question after the other, in whichever way the nameservers take turns. Then each address of
each nameserver has one status, in their order, whose fields fit one another and the replies of the
address, and a text with these statuses has for each a line that says no more. -/
theorem inspect_consistent {c : Client Id} {address : Address} {v : Verifier} {now : Int}
    {domain : String} {cache known : NameserverCache} {calls : List Call}
    {result : Except Failure (List NameserverStatus)}
    (run : ((ofAddress address).inspect v now domain).Run cache calls result known)
    (answered : ∀ call ∈ calls, call.AnsweredBy c) :
    ((⟨c, address⟩ : Resolver Id).inspect v now domain).run.run cache = (result, known) ∧
    ∀ statuses, result = .ok statuses →
      (∃ nameservers, known.get? (Name.fqdn domain) = some nameservers ∧
        statuses.map (fun s => (s.name, s.address)) =
          nameservers.flatMap fun n => n.addresses.map fun asked => (n.name, asked)) ∧
      (∀ s ∈ statuses, s.Consistent c (Name.fqdn domain) now) ∧
      ∀ d : Diagnosis, d.statuses = statuses → ∀ i s, statuses[i]? = some s →
        ∃ line, d.lines[d.nameservers.length + 5 + i]? = some line ∧
          Diagnosis.LineTells s c (Name.fqdn domain) now line := by
  have hresult := settles_inspect c address v now domain cache calls (result, known) run answered
  refine ⟨hresult.symm, ?_⟩
  rintro statuses rfl
  rcases Lookup.run_bind_iff.mp run with
    ⟨_, -, hfailure⟩ | ⟨nameservers, first, found, rest, hfind, -, rfl⟩
  · cases hfailure
  rw [findNameservers_fqdn] at hfind
  have hfound := settles_findNameservers c address domain cache first _ hfind
    fun call hcall => answered call (List.mem_append_left rest hcall)
  obtain ⟨hstatuses, rfl⟩ := Prod.mk.inj (hresult.trans (inspect_eq hfound.symm))
  cases hstatuses
  have hconsistent : ∀ s ∈ nameservers.flatMap fun n =>
      n.addresses.map (c.nameserverStatus v now (Name.fqdn domain) n.name),
      s.Consistent c (Name.fqdn domain) now := by
    intro s hs
    obtain ⟨n, -, hs⟩ := List.mem_flatMap.mp hs
    obtain ⟨asked, -, rfl⟩ := List.mem_map.mp hs
    exact c.consistent_nameserverStatus v now _ n.name asked
  refine ⟨⟨nameservers, get?_of_run_findNameservers hfind, ?_⟩, hconsistent, ?_⟩
  · simp only [List.map_flatMap, List.map_map, Function.comp_def,
      Client.name_address_nameserverStatus]
  · rintro d hd i s hs
    have hline := d.getElem?_lines_status (hd ▸ hs)
    exact ⟨_, hline, Diagnosis.lineTells_statusLine (hconsistent s (List.mem_of_getElem? hs))⟩

/-- Two nameservers that take turns: the one is signed, and the other does not answer. -/
theorem inspect_consistent_taking_turns :
    let server (n : UInt8) : Address := .v4 ⟨192, 0, 2, n⟩
    let key : Dnskey := ⟨257, 3, 8, [1]⟩
    let signature : Rrsig := { Rrsig.repeating key with typeCovered := .ns }
    let answer (records : List RecordData) : Except Failure Answer :=
      .ok ⟨records.map (⟨"a.", 60, ·⟩), [], false, true, server 1, .zero⟩
    let c : Client Id :=
      { query := fun q asked =>
          if asked = server 53 ∧ q.recordType = .ns then answer [.ns "b.", .ns "c."]
          else if asked = server 53 ∧ q.recordType = .a then
            answer [if q.name = "b." then .a ⟨192, 0, 2, 1⟩ else .a ⟨192, 0, 2, 2⟩]
          else if asked = server 1 ∧ q.recordType = .dnskey then answer [.dnskey key]
          else if asked = server 1 then answer [.ns "b.", .ns "c.", .rrsig signature]
          else .error (.timeout asked.text)
        transfer := fun zone _ => .error (.timeout zone) }
    ∃ calls statuses known,
      ((ofAddress (server 53)).inspect .repeating 50 "a").Run .empty calls (.ok statuses) known ∧
      (calls.drop 5).map (fun call => match call with
        | .query q asked _ => (q.recordType, asked)
        | .transfer _ asked _ => (.soa, asked)) =
        [(.soa, server 1), (.soa, server 2), (.dnskey, server 1), (.ns, server 1)] ∧
      ((⟨c, server 53⟩ : Resolver Id).inspect .repeating 50 "a").run.run .empty =
        (.ok statuses, known) ∧
      statuses.map (·.signatures) = [⟨true, true, some ⟨10, 100⟩⟩, .unsigned] ∧
      ∀ s ∈ statuses, s.Consistent c "a." 50 := by
  intro server key signature answer c
  let world (made : List Call) : (effect : Effect) → effect.Reply
    | .turn => decide (made.length = 5)
    | .query q asked => c.query q asked
    | .transfer zone asked => c.transfer zone asked
    | .watch => Duration.zero
    | .clock => (50 : Int)
  let process := ((ofAddress (server 53)).inspect .repeating 50 "a").run.run .empty
  have hworld (made : List Call) (effect : Effect) :
      ∀ call ∈ effect.calls (world made effect), call.AnsweredBy c := by
    cases effect with
    | query q asked => exact fun call hcall => List.mem_singleton.mp hcall ▸ rfl
    | transfer zone asked => exact fun call hcall => List.mem_singleton.mp hcall ▸ rfl
    | watch => exact fun call hcall => absurd hcall List.not_mem_nil
    | clock => exact fun call hcall => absurd hcall List.not_mem_nil
    | turn => exact fun call hcall => absurd hcall List.not_mem_nil
  let statuses : List NameserverStatus :=
    [{ name := "b."
       address := server 1
       rtt := some .zero
       serial := none
       authoritative := false
       recursionAvailable := true
       signatures := ⟨true, true, some ⟨10, 100⟩⟩
       error := none },
      .unreachable "c." (server 2) "Query timeout waiting for 192.0.2.2"]
  obtain ⟨calls, hcalls, hrun, hanswered⟩ := Process.run_play_answered hworld [] process
  rw [List.nil_append] at hcalls
  have hplayed : (process.play world []).2 =
      (.ok statuses, ⟨[("a.", [⟨"b.", [server 1]⟩, ⟨"c.", [server 2]⟩])]⟩) := by
    decide +kernel
  rw [hplayed] at hrun
  obtain ⟨hresult, hstatuses⟩ := inspect_consistent hrun hanswered
  obtain ⟨-, hconsistent, -⟩ := hstatuses statuses rfl
  refine ⟨calls, statuses, _, hrun, ?_, hresult, rfl, hconsistent⟩
  rw [← hcalls]
  decide +kernel

end Resolver

end DnsHealth
