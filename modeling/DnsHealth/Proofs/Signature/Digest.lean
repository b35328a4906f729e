import DnsHealth.Proofs.Name.Reading
import DnsHealth.Proofs.Record.Canonical
import DnsHealth.Signature.Verifier

/-!
# What the digest of a key is made of

A digest is made of the wire form of the owner and that of the key, side by side. The form of the
owner does not run into that of the key, so both can be told from the bytes that are hashed: the
owner up to case and the points at its end, and the key as it is.
-/

namespace DnsHealth

/-- What is hashed is the wire form of the owner and then that of the key. -/
theorem digestInput_eq_ok_iff {key : Dnskey} {owner : String} {input : List UInt8} :
    digestInput key owner = .ok input ↔
      ∃ wire, Name.toWire owner = .ok wire ∧ wire ++ key.rdata = input := by
  simp only [digestInput, bind_eq_ok_iff, pure, Except.pure, Except.ok.injEq]

/-- A digest is the hash of what it is made of, by the function that its type stands for. -/
theorem digest_standard_eq_ok_iff {key : Dnskey} {owner : String} {digestType : UInt8}
    {digest : List UInt8} :
    Verifier.standard.digest key owner digestType = .ok digest ↔
      ∃ input hash, digestInput key owner = .ok input ∧ digestFunction? digestType = some hash ∧
        digest = hash input := by
  simp only [Verifier.standard, bind_eq_ok_iff]
  cases digestFunction? digestType with
  | none => simp
  | some hash => simp [pure, Except.pure, eq_comm]

/-- The bytes that are hashed tell the owner, up to its case and the points at its end, and the
key. -/
theorem digestInput_inj {key otherKey : Dnskey} {owner other : String} {input : List UInt8}
    (h : digestInput key owner = .ok input) (hother : digestInput otherKey other = .ok input) :
    Name.stripped owner = Name.stripped other ∧ key = otherKey := by
  obtain ⟨wire, hwire, rfl⟩ := digestInput_eq_ok_iff.mp h
  obtain ⟨form, hform, hinput⟩ := digestInput_eq_ok_iff.mp hother
  obtain ⟨hname, hkey⟩ := Name.toWire_append_inj hwire hform hinput.symm
  exact ⟨hname, Dnskey.rdata_injective hkey⟩

namespace Name

/-- Names that are equal up to case and the points at their end have the same wire form. -/
theorem toWire_eq_of_stripped_eq {name other : String} {wire : List UInt8}
    (h : toWire name = .ok wire) (hsame : stripped other = stripped name) :
    toWire other = .ok wire :=
  (encode_congr (stripped_eq_iff.mp hsame) wire).mpr h

/-- A name has a wire form exactly if it is the root or its parts have the lengths for it. From a
byte string that begins with the form, the name in small letters with one point at its end is read,
and the bytes of the form are what reading takes. No other wire form begins this one, and it is that
of exactly the names that are equal up to case and the points at their end. What is hashed for a key
of the name is hashed for no other key and for no other name. -/
theorem toWire_reads_back (name : String) :
    ((∃ wire, toWire name = .ok wire) ↔
      trimPoints name.toList = [] ∨ Spellable (trimPoints name.toList)) ∧
    ∀ wire, toWire name = .ok wire →
      (∀ rest, read (wire ++ rest) = .ok (spelled name, rest) ∧
        readAt (wire ++ rest) = .ok (spelled name, wire.length)) ∧
      (∀ other form, toWire other = .ok form → form <+: wire → form = wire) ∧
      (∀ other, toWire other = toWire name ↔ stripped other = stripped name) ∧
      ∀ key : Dnskey,
        (∀ digestType digest, Verifier.standard.digest key name digestType = .ok digest ↔
          ∃ input hash, digestInput key name = .ok input ∧
            digestFunction? digestType = some hash ∧ digest = hash input) ∧
        ∀ other otherKey, digestInput otherKey other = digestInput key name ↔
          stripped other = stripped name ∧ otherKey = key := by
  refine ⟨exists_toWire_eq_ok_iff, fun wire hwire => ⟨fun rest => ?_, ?_, ?_, ?_⟩⟩
  · have hread := read_toWire_append hwire rest
    refine ⟨hread, ?_⟩
    rw [readAt_of_read hread, List.length_append, Nat.add_sub_cancel]
  · rintro other form hform ⟨rest, hrest⟩
    have happend : form ++ rest = wire ++ [] := by rw [hrest, List.append_nil]
    exact (encode_append_inj hform hwire happend).2.1
  · intro other
    rw [hwire]
    exact ⟨fun hother => toWire_inj hother hwire, toWire_eq_of_stripped_eq hwire⟩
  · intro key
    refine ⟨fun digestType digest => digest_standard_eq_ok_iff, fun other otherKey => ?_⟩
    have hinput : digestInput key name = .ok (wire ++ key.rdata) :=
      digestInput_eq_ok_iff.mpr ⟨wire, hwire, rfl⟩
    rw [hinput]
    constructor
    · exact fun hother => digestInput_inj hother hinput
    · rintro ⟨hsame, rfl⟩
      exact digestInput_eq_ok_iff.mpr ⟨wire, toWire_eq_of_stripped_eq hwire hsame, rfl⟩

/-- A host in mixed case with two points at its end, before other bytes, beside the host as it is
read and beside another host. -/
theorem toWire_reads_back_host :
    let wire : List UInt8 := [3, 119, 119, 119, 1, 97, 0]
    let key : Dnskey := ⟨257, 3, 8, [1]⟩
    toWire "wWw.a.." = .ok wire ∧ read (wire ++ [7, 0]) = .ok ("www.a.", [7, 0]) ∧
      readAt (wire ++ [7, 0]) = .ok ("www.a.", 7) ∧
      toWire "www.a." = toWire "wWw.a.." ∧
      digestInput key "www.b." ≠ digestInput key "wWw.a.." := by
  intro wire key
  have hwire : toWire "wWw.a.." = .ok wire := by decide +kernel
  obtain ⟨hread, -, hsame, hdigest⟩ := (toWire_reads_back "wWw.a..").2 wire hwire
  have hspelled : spelled "wWw.a.." = "www.a." := by decide +kernel
  obtain ⟨hrest, hlast⟩ := hspelled ▸ hread [7, 0]
  refine ⟨hwire, hrest, hlast, (hsame _).mpr (by decide +kernel), fun heq => ?_⟩
  have hother := (((hdigest key).2 _ _).mp heq).1
  exact absurd hother (by decide +kernel)

end Name

end DnsHealth
