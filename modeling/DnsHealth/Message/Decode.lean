import DnsHealth.Message.Rdata

/-!
# Messages

A message as it is read: the flags of its header, and the records of its answer and authority
sections. The additional section is read for its form and for the high bits of the response code,
which an OPT record carries; what follows the last section is passed over.
-/

namespace DnsHealth.Message

open Reader

/-- A record in a message. -/
structure WireRecord where
  /-- The owner. -/
  name : LabelName
  /-- The number of the type. -/
  code : UInt16
  /-- The time to live. -/
  ttl : UInt32
  /-- The data, if there is any. -/
  data : Option WireData
  deriving DecidableEq, Repr

/-- A message. -/
structure Decoded where
  /-- The number of the message. -/
  id : UInt16
  /-- The message is an answer and not a question. -/
  response : Bool
  /-- The server has authority for the name. -/
  authoritative : Bool
  /-- The answer did not fit into one datagram. -/
  truncated : Bool
  /-- The server offers recursion. -/
  recursionAvailable : Bool
  /-- The response code. -/
  rcode : Nat
  /-- The answers. -/
  answers : List WireRecord
  /-- The records of the authority section. -/
  authority : List WireRecord
  deriving DecidableEq, Repr

/-- Takes a question. -/
def question : Reader Unit := do
  let _ ← name
  let _ ← take 4

/-- Takes a record. An OPT record belongs to the root. -/
def record : Reader WireRecord := do
  let owner ← name
  let code ← u16
  require (code ≠ 41 || owner.labels.isEmpty)
  let _ ← u16
  let ttl ← u32
  let length := (← u16).toNat
  let data ← if length = 0 then pure none else some <$> within length (wireData code)
  return ⟨owner, code, ttl, data⟩

/-- Tells whether the types of the additional section may stand in their order: after a transaction
signature comes nothing, after a signature of the message only another one, and there is at most one
OPT record. -/
def isAdditional (signed opt : Bool) : List Nat → Bool
  | [] => true
  | 24 :: rest => isAdditional true opt rest
  | 250 :: rest => !signed && rest.isEmpty
  | 41 :: rest => !signed && !opt && isAdditional signed true rest
  | _ :: rest => !signed && isAdditional signed opt rest

/-- The high bits of the response code, from the OPT record of the additional section. -/
def extendedCode (additional : List WireRecord) : Nat :=
  match additional.find? (·.code = 41) with
  | some opt => opt.ttl.toNat / 16777216
  | none => 0

/-- Tells whether the high byte of the flags names a kind of message that is understood. -/
def isKnownKind (flags : UInt8) : Bool := [0, 2, 4, 5].contains (flags.toNat / 8 % 16)

/-- Takes a message. -/
def decoded : Reader Decoded := do
  let id ← u16
  let high ← u8
  let low ← u8
  require (isKnownKind high)
  let questions ← u16
  let answerCount ← u16
  let authorityCount ← u16
  let additionalCount ← u16
  let _ ← times questions.toNat question
  let answers ← times answerCount.toNat record
  let authority ← times authorityCount.toNat record
  let additional ← times additionalCount.toNat record
  require (isAdditional false false (additional.map (·.code.toNat)))
  return {
    id, answers, authority
    response := 0x80 ≤ high
    authoritative := high.toNat / 4 % 2 = 1
    truncated := high.toNat / 2 % 2 = 1
    recursionAvailable := 0x80 ≤ low
    rcode := extendedCode additional * 16 + low.toNat % 16 }

end DnsHealth.Message
