import DnsHealth.Signature.Check
import Mathlib.Data.List.ProdSigma

/-!
# When a set of records counts as signed

A search for a good signature succeeds exactly if some signature that covers the type is accepted
over all records of the type under one of the keys, and its window contains the current time. The
order of signatures and keys has no part in it, nor has that of the records if the verifier does
not look at it.
-/

namespace DnsHealth

/-- A signature is good under a key, and current. -/
structure SignatureCheck.Current (v : Verifier) (owner : String) (records : List Record)
    (now : Int) (signed : Rrsig) (key : Dnskey) : Prop where
  /-- The verifier accepts the signature over the records. -/
  accepted : v.accepts signed key owner records = .ok true
  /-- The window of the signature contains the current time. -/
  current : (ValidityWindow.ofFields signed.inception signed.expiration now).contains now = true

private theorem SignatureCheck.current_iff {v : Verifier} {owner : String} {records : List Record}
    {now : Int} {signed : Rrsig} {key : Dnskey} :
    Current v owner records now signed key ↔ v.accepts signed key owner records = .ok true ∧
      (ValidityWindow.ofFields signed.inception signed.expiration now).contains now = true :=
  ⟨fun h => ⟨h.accepted, h.current⟩, fun h => ⟨h.1, h.2⟩⟩

instance (v : Verifier) (owner : String) (records : List Record) (now : Int) (signed : Rrsig)
    (key : Dnskey) : Decidable (SignatureCheck.Current v owner records now signed key) :=
  decidable_of_iff _ SignatureCheck.current_iff.symm

/-- A verifier whose positive verdicts do not depend on the order of the records. -/
def Verifier.IgnoresOrder (v : Verifier) : Prop :=
  ∀ signed key owner (records others : List Record), records.Perm others →
    (v.accepts signed key owner records = .ok true ↔ v.accepts signed key owner others = .ok true)

/-- A verifier that takes a signature for good if it repeats the key with its tag, and whose digests
are the digested bytes themselves. -/
def Verifier.repeating : Verifier where
  accepts signed key _ records :=
    .ok (!records.isEmpty && signed.keyTag == key.keyTag && signed.signature == key.publicKey)
  digest key owner digestType :=
    if (digestFunction? digestType).isSome then
      (digestInput key owner).map (digestType :: ·)
    else .error (.unsupportedDigestType digestType)

/-- A signature over keys that repeats one of them, valid from the tenth to the hundredth second. -/
def Rrsig.repeating (key : Dnskey) : Rrsig where
  typeCovered := .dnskey
  algorithm := key.algorithm
  labels := 1
  originalTtl := 3600
  expiration := 100
  inception := 10
  keyTag := key.keyTag
  signerName := "."
  signature := key.publicKey

/-- A delegation signer that repeats a key of a zone. -/
def Ds.repeating (zone : String) (digestType : UInt8) (key : Dnskey) : Ds where
  keyTag := key.keyTag
  algorithm := key.algorithm
  digestType := digestType
  digest := (Verifier.repeating.digest key zone digestType).toOption.getD []

/-- A verifier that only looks for a repetition of the key ignores order. -/
theorem Verifier.ignoresOrder_repeating : Verifier.repeating.IgnoresOrder := by
  intro signed key owner records others hperm
  simp only [repeating, hperm.isEmpty_eq]

namespace SignatureCheck

variable {v : Verifier} {owner : String} {records : List Record} {now : Int}

/-- A pair has a good window exactly if the signature is accepted. -/
theorem goodWindow?_eq_some_iff {pair : Rrsig × Dnskey} {w : ValidityWindow} :
    goodWindow? v owner records now pair = some w ↔
      v.accepts pair.1 pair.2 owner records = .ok true ∧
        w = .ofFields pair.1.inception pair.1.expiration now := by
  unfold goodWindow?
  split
  · next h => simp only [h, Option.some.injEq, true_and]; exact eq_comm
  · next h => simp only [reduceCtorEq, false_iff]; exact fun hok => h hok.1

/-- It has a current window exactly if the signature is current as well. -/
theorem currentWindow?_eq_some_iff {pair : Rrsig × Dnskey} {w : ValidityWindow} :
    currentWindow? v owner records now pair = some w ↔
      Current v owner records now pair.1 pair.2 ∧
        w = .ofFields pair.1.inception pair.1.expiration now := by
  simp only [currentWindow?, Option.filter_eq_some_iff, goodWindow?_eq_some_iff]
  constructor
  · rintro ⟨⟨haccepted, rfl⟩, hcurrent⟩
    exact ⟨⟨haccepted, hcurrent⟩, rfl⟩
  · rintro ⟨h, rfl⟩
    exact ⟨⟨h.accepted, rfl⟩, h.current⟩

/-- The first pair of a signature and a key that is good gives the window of the first good pair. -/
theorem findSome?_goodWindow? (pairs : List (Rrsig × Dnskey)) :
    pairs.findSome? (goodWindow? v owner records now) =
      (pairs.find? fun pair => v.accepts pair.1 pair.2 owner records = .ok true).map fun pair =>
        .ofFields pair.1.inception pair.1.expiration now := by
  induction pairs with
  | nil => rfl
  | cons pair pairs ih =>
    by_cases haccepted : v.accepts pair.1 pair.2 owner records = .ok true
    · rw [List.findSome?_cons, goodWindow?_eq_some_iff.mpr ⟨haccepted, rfl⟩,
        List.find?_cons_of_pos (by simpa using haccepted), Option.map_some]
    · have hnone : goodWindow? v owner records now pair = none := by
        rw [Option.eq_none_iff_forall_ne_some]
        exact fun w hw => haccepted (goodWindow?_eq_some_iff.mp hw).1
      rw [List.findSome?_cons, hnone, List.find?_cons_of_neg (by simpa using haccepted), ih]

/-- How a search ends: there is nothing to be signed, or a good and current pair is found, or there
is none and the first good pair gives the window. -/
theorem run_cases (v : Verifier) (keys : List Dnskey) (owner : String) (covered : RecordType)
    (answers : List Record) (now : Int) :
    let records := Record.ofTypes [covered] answers
    let tried := signatures covered answers ×ˢ keys
    (records = [] ∧ run v keys owner covered answers now = absent) ∨
    (records ≠ [] ∧ ∃ pair ∈ tried, Current v owner records now pair.1 pair.2 ∧
      run v keys owner covered answers now =
        ⟨some (.ofFields pair.1.inception pair.1.expiration now), true⟩) ∨
    (records ≠ [] ∧ (∀ pair ∈ tried, ¬Current v owner records now pair.1 pair.2) ∧
      run v keys owner covered answers now =
        ⟨(tried.find? fun pair => v.accepts pair.1 pair.2 owner records = .ok true).map fun pair =>
          .ofFields pair.1.inception pair.1.expiration now, false⟩) := by
  intro records tried
  have hrecords : Record.ofTypes [covered] answers = records := rfl
  have htried : ((signatures covered answers).flatMap fun s => keys.map fun key => (s, key)) =
      tried := rfl
  by_cases hnone : records = []
  · exact .inl ⟨hnone, if_pos hnone⟩
  · refine .inr ?_
    cases hfound : tried.findSome? (currentWindow? v owner records now) with
    | some w =>
      have hrun : run v keys owner covered answers now = ⟨some w, true⟩ := by
        simp only [run, hrecords, if_neg hnone, htried, hfound]
      obtain ⟨pair, hpair, hwindow⟩ := List.exists_of_findSome?_eq_some hfound
      obtain ⟨hcurrent, rfl⟩ := currentWindow?_eq_some_iff.mp hwindow
      exact .inl ⟨hnone, pair, hpair, hcurrent, hrun⟩
    | none =>
      have hrun : run v keys owner covered answers now =
          ⟨tried.findSome? (goodWindow? v owner records now), false⟩ := by
        simp only [run, hrecords, if_neg hnone, htried, hfound]
      refine .inr ⟨hnone, fun pair hpair hcurrent => ?_, by rw [hrun, findSome?_goodWindow?]⟩
      have hwindow := List.findSome?_eq_none_iff.mp hfound pair hpair
      rw [currentWindow?_eq_some_iff.mpr ⟨hcurrent, rfl⟩] at hwindow
      cases hwindow

/-- A search ends well exactly if there are records of the type, and one of the signatures that
cover it is good under one of the keys, and current. -/
theorem valid_run_iff (v : Verifier) (keys : List Dnskey) (owner : String) (covered : RecordType)
    (answers : List Record) (now : Int) :
    (run v keys owner covered answers now).valid = true ↔
      Record.ofTypes [covered] answers ≠ [] ∧
        ∃ signed ∈ signatures covered answers, ∃ key ∈ keys,
          Current v owner (Record.ofTypes [covered] answers) now signed key := by
  rcases run_cases v keys owner covered answers now with
    ⟨hnone, hrun⟩ | ⟨hsome, ⟨signed, key⟩, hpair, hcurrent, hrun⟩ | ⟨hsome, hnot, hrun⟩
  · simp [hrun, absent, hnone]
  · obtain ⟨hsigned, hkey⟩ := List.mem_product.mp hpair
    rw [hrun]
    exact ⟨fun _ => ⟨hsome, signed, hsigned, key, hkey, hcurrent⟩, fun _ => rfl⟩
  · rw [hrun]
    simp only [Bool.false_eq_true, false_iff]
    rintro ⟨-, signed, hsigned, key, hkey, hcurrent⟩
    exact hnot (signed, key) (List.mem_product.mpr ⟨hsigned, hkey⟩) hcurrent

/-- A search that ends well does so over more signatures and with more keys, if the pairs that were
good and current are so over the records of the other answer. -/
theorem valid_run_mono {keys others : List Dnskey} {covered : RecordType}
    {answers more : List Record} (hkeys : keys ⊆ others)
    (hsignatures : signatures covered answers ⊆ signatures covered more)
    (hne : Record.ofTypes [covered] answers ≠ [] → Record.ofTypes [covered] more ≠ [])
    (hcurrent : ∀ signed key, Current v owner (Record.ofTypes [covered] answers) now signed key →
      Current v owner (Record.ofTypes [covered] more) now signed key)
    (h : (run v keys owner covered answers now).valid = true) :
    (run v others owner covered more now).valid = true := by
  rw [valid_run_iff] at h ⊢
  obtain ⟨hsome, signed, hsigned, key, hkey, hgood⟩ := h
  exact ⟨hne hsome, signed, hsignatures hsigned, key, hkeys hkey, hcurrent signed key hgood⟩

/-- A signature stays current in any order of the records. -/
theorem Current.perm {signed : Rrsig} {key : Dnskey} {others : List Record} (hv : v.IgnoresOrder)
    (hperm : records.Perm others) (h : Current v owner records now signed key) :
    Current v owner others now signed key :=
  ⟨(hv signed key owner records others hperm).mp h.accepted, h.current⟩

/-- Whether a set of records counts as signed does not depend on the order of the answer or of the
keys. -/
theorem valid_run_perm (hv : v.IgnoresOrder) {keys others : List Dnskey} {covered : RecordType}
    {answers shuffled : List Record} (hkeys : keys.Perm others) (hanswers : answers.Perm shuffled)
    (h : (run v keys owner covered answers now).valid = true) :
    (run v others owner covered shuffled now).valid = true := by
  have hrecords : (Record.ofTypes [covered] answers).Perm (Record.ofTypes [covered] shuffled) :=
    hanswers.filter _
  have hsignatures : (signatures covered answers).Perm (signatures covered shuffled) :=
    (hanswers.filterMap _).filter _
  refine valid_run_mono hkeys.subset hsignatures.subset (fun hne hnil => hne ?_)
    (fun _ _ hcurrent => hcurrent.perm hv hrecords) h
  rw [hnil] at hrecords
  exact hrecords.eq_nil

end SignatureCheck

end DnsHealth
