import DnsHealth.Signature.Verifier
import DnsHealth.Signature.Window

/-!
# Signatures over a set of records

The search for a good signature over the records of one type in an answer. A signature that is good
under one of the keys and current makes the set valid; failures of single checks are passed over.
Without such a signature the window is that of the first good one, signatures counted before keys.
-/

namespace DnsHealth

/-- What a search for a good signature found. -/
structure SignatureCheck where
  /-- The window of the signature that decided, current or not. -/
  window : Option ValidityWindow
  /-- A signature is good and current. -/
  valid : Bool
  deriving DecidableEq, Repr

namespace SignatureCheck

/-- No good signature. -/
def absent : SignatureCheck := ⟨none, false⟩

/-- The window of a signature that is good under a key. -/
def goodWindow? (v : Verifier) (owner : String) (records : List Record) (now : Int)
    (pair : Rrsig × Dnskey) : Option ValidityWindow :=
  match v.accepts pair.1 pair.2 owner records with
  | .ok true => some (.ofFields pair.1.inception pair.1.expiration now)
  | _ => none

/-- The window of a signature that is good under a key and current. -/
def currentWindow? (v : Verifier) (owner : String) (records : List Record) (now : Int)
    (pair : Rrsig × Dnskey) : Option ValidityWindow :=
  (goodWindow? v owner records now pair).filter (·.contains now)

/-- The signatures in an answer that cover a type. -/
def signatures (covered : RecordType) (answers : List Record) : List Rrsig :=
  (answers.filterMap Record.rrsig?).filter fun s => s.typeCovered = covered

/-- Searches an answer for a good signature over its records of a type. -/
def run (v : Verifier) (keys : List Dnskey) (owner : String) (covered : RecordType)
    (answers : List Record) (now : Int) : SignatureCheck :=
  let records := Record.ofTypes [covered] answers
  if records = [] then absent
  else
    let pairs := (signatures covered answers).flatMap fun s => keys.map fun key => (s, key)
    match pairs.findSome? (currentWindow? v owner records now) with
    | some w => ⟨some w, true⟩
    | none => ⟨pairs.findSome? (goodWindow? v owner records now), false⟩

/-- A check as JSON. -/
def toJson (c : SignatureCheck) : Json :=
  .obj [("valid", .bool c.valid), ("window", .option ValidityWindow.toJson c.window)]

/-- Without keys there is no good signature. -/
theorem run_nil (v : Verifier) (owner : String) (covered : RecordType) (answers : List Record)
    (now : Int) : run v [] owner covered answers now = absent := by
  have hpairs (xs : List Rrsig) :
      (xs.flatMap fun s => ([] : List Dnskey).map fun key => (s, key)) = [] := by
    induction xs with
    | nil => rfl
    | cons s xs ih => simp
  unfold run
  simp only [hpairs]
  split <;> rfl

end SignatureCheck

end DnsHealth
