import DnsHealth.Proofs.Signature.Check
import Mathlib.Data.List.Basic

/-!
# Which records decide a search

A search tries every signature that covers the type with every key, all keys with the first
signature, then all keys with the next. A good and current pair decides, and if there is none, the
window is that of the first good pair. So failures and bad pairs hide nothing that comes after them,
the verdict depends neither on the order of the signatures nor on that of the keys, and more of
either never make it worse. What takes part are the records of the type and the signatures that
cover it, whoever owns them; all other records make no difference.
-/

namespace DnsHealth

/-- The records of an answer that a name owns, in any case of its letters. -/
def Record.ownedBy (owner : String) (answers : List Record) : List Record :=
  answers.filter fun r => Name.eqIgnoreCase r.name owner

/-- A record that a search for signatures over a type looks at: it is of the type, or a signature
that covers it. -/
def Record.takesPart (covered : RecordType) (r : Record) : Bool :=
  decide (r.type = covered) || r.rrsig?.any fun signed => signed.typeCovered = covered

namespace SignatureCheck

variable {v : Verifier} {keys : List Dnskey} {owner : String} {covered : RecordType}
  {answers : List Record} {now : Int}

/-- A search that ends well gives the window of a good and current pair. -/
theorem window_run_of_valid (h : (run v keys owner covered answers now).valid = true) :
    ∃ signed ∈ signatures covered answers, ∃ key ∈ keys,
      Current v owner (Record.ofTypes [covered] answers) now signed key ∧
      (run v keys owner covered answers now).window =
        some (.ofFields signed.inception signed.expiration now) := by
  rcases run_cases v keys owner covered answers now with
    ⟨-, hrun⟩ | ⟨-, ⟨signed, key⟩, hpair, hcurrent, hrun⟩ | ⟨-, -, hrun⟩
  · rw [hrun] at h
    cases h
  · obtain ⟨hsigned, hkey⟩ := List.mem_product.mp hpair
    exact ⟨signed, hsigned, key, hkey, hcurrent, by rw [hrun]⟩
  · rw [hrun] at h
    cases h

/-- A search looks at the records that take part alone. -/
theorem run_takesPart :
    run v keys owner covered (answers.filter (Record.takesPart covered)) now =
      run v keys owner covered answers now := by
  have hrecords : Record.ofTypes [covered] (answers.filter (Record.takesPart covered)) =
      Record.ofTypes [covered] answers := by
    simp only [Record.ofTypes, List.filter_filter]
    refine List.filter_congr fun r _ => ?_
    by_cases hcovered : r.type = covered
    · simp [hcovered, Record.takesPart]
    · simp [hcovered]
  have hsignatures : signatures covered (answers.filter (Record.takesPart covered)) =
      signatures covered answers := by
    simp only [signatures, List.filter_filterMap, List.filterMap_filter]
    refine List.filterMap_congr fun r _ => ?_
    cases hrrsig : r.rrsig? with
    | none => simp
    | some signed =>
      by_cases htype : signed.typeCovered = covered
      · simp [Record.takesPart, hrrsig, htype]
      · simp [Option.filter_some, htype]
  simp only [run, hrecords, hsignatures]

/-- If only records of the owner take part, the search looks at the records of the owner alone. -/
theorem run_ownedBy
    (h : ∀ r ∈ answers, r.takesPart covered = true → Name.eqIgnoreCase r.name owner = true) :
    run v keys owner covered (Record.ownedBy owner answers) now =
      run v keys owner covered answers now := by
  have hfilter : (Record.ownedBy owner answers).filter (Record.takesPart covered) =
      answers.filter (Record.takesPart covered) := by
    rw [Record.ownedBy, List.filter_filter]
    refine List.filter_congr fun r hr => ?_
    cases htakes : r.takesPart covered with
    | true => simp [h r hr htakes]
    | false => rfl
  rw [← run_takesPart, hfilter, run_takesPart]

/-- Two answers with the same records of the owner get the same check if no record of another owner
is of the type or a signature that covers it. -/
theorem run_eq_of_ownedBy_eq (v : Verifier) (keys : List Dnskey) {owner : String}
    {covered : RecordType} {answers others : List Record} (now : Int)
    (howned : Record.ownedBy owner answers = Record.ownedBy owner others)
    (hanswers : ∀ r ∈ answers, r.takesPart covered = true → Name.eqIgnoreCase r.name owner = true)
    (hothers : ∀ r ∈ others, r.takesPart covered = true → Name.eqIgnoreCase r.name owner = true) :
    run v keys owner covered answers now = run v keys owner covered others now := by
  rw [← run_ownedBy hanswers, howned, run_ownedBy hothers]

/-- Other answers beside the records of a zone: an address, and a signature over addresses. -/
theorem run_eq_of_ownedBy_eq_addresses :
    let key : Dnskey := ⟨257, 3, 8, [1]⟩
    let own : List Record := [⟨"A", 60, .dnskey key⟩, ⟨"a.", 60, .rrsig (.repeating key)⟩]
    let answers : List Record := ⟨"b.", 60, .a ⟨192, 0, 2, 1⟩⟩ :: own
    let others : List Record :=
      own ++ [⟨"b.", 60, .rrsig { Rrsig.repeating key with typeCovered := .a }⟩]
    Record.ownedBy "a." answers = Record.ownedBy "a." others ∧
    run .repeating [key] "a." .dnskey answers 50 = run .repeating [key] "a." .dnskey others 50 ∧
    (run .repeating [key] "a." .dnskey others 50).valid = true := by
  intro key own answers others
  have howned : Record.ownedBy "a." answers = Record.ownedBy "a." others := by decide +kernel
  exact ⟨howned, run_eq_of_ownedBy_eq .repeating [key] 50 howned (by decide +kernel)
    (by decide +kernel), by decide⟩

/-- A signature that another name owns makes the records of a zone count as signed, and a signature
of the zone makes the records of another name count as those of the zone. -/
theorem run_takes_foreign_records :
    let key : Dnskey := ⟨257, 3, 8, [1]⟩
    let own : Record := ⟨"a.", 60, .dnskey key⟩
    let signature : Record := ⟨"a.", 60, .rrsig (.repeating key)⟩
    let foreign (r : Record) : Record := { r with name := "b." }
    (Record.ownedBy "a." [own, foreign signature] = Record.ownedBy "a." [own] ∧
      run .repeating [key] "a." .dnskey [own, foreign signature] 50 = ⟨some ⟨10, 100⟩, true⟩ ∧
      run .repeating [key] "a." .dnskey [own] 50 = absent) ∧
    (Record.ownedBy "a." [signature, foreign own] = Record.ownedBy "a." [signature] ∧
      run .repeating [key] "a." .dnskey [signature, foreign own] 50 = ⟨some ⟨10, 100⟩, true⟩ ∧
      run .repeating [key] "a." .dnskey [signature] 50 = absent) := by
  decide +kernel

end SignatureCheck

end DnsHealth
