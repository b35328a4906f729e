import DnsHealth.Proofs.Record.KeyTagMap

/-!
# Insertions one after another

A map that is kept in place takes keys one after another, and some of the insertions may fail. A
failed one leaves the map as it was, so the map is at any time that of the keys that were accepted,
and no two of these collide. That settles what the map holds: each key under its own tag, in the
order of the tags, and under each tag the public key that came first.
-/

namespace DnsHealth

/-- A key that is to go into a map. -/
structure Insertion where
  /-- The zone that a failure names. -/
  zone : String
  /-- The key. -/
  key : Dnskey
  deriving DecidableEq, Repr

namespace KeyTagMap

/-- Puts a key into a map that is kept in place. -/
def insertion (call : Insertion) : ExceptT Failure (StateM KeyTagMap) Unit := do
  let m ← get
  if let some known := m.get? call.key.keyTag then
    if known.publicKey ≠ call.key.publicKey then
      throw (.keyTagCollision call.zone call.key.keyTag)
  set (⟨put call.key.keyTag call.key m.entries⟩ : KeyTagMap)

/-- Puts keys into a map one after another, whether the insertions succeed or not, and gives the
answers to them. -/
def insertions (calls : List Insertion) : StateM KeyTagMap (List (Except Failure Unit)) :=
  calls.mapM fun call => (insertion call).run

/-- The keys whose insertions succeeded, given the answers. -/
def accepted : List Insertion → List (Except Failure Unit) → List Dnskey
  | [], _ | _, [] => []
  | call :: calls, .ok () :: answers => call.key :: accepted calls answers
  | _ :: calls, .error _ :: answers => accepted calls answers

/-! ## One insertion -/

/-- An insertion in place answers as one that gives a new map, and a failure changes nothing. -/
theorem run_insertion (call : Insertion) (m : KeyTagMap) :
    (insertion call).run m =
      match m.insert call.zone call.key with
      | .ok next => (.ok (), next)
      | .error failure => (.error failure, m) := by
  have hget (rest : KeyTagMap → ExceptT Failure (StateM KeyTagMap) Unit) :
      (get >>= rest).run m = (rest m).run m := rfl
  rw [insertion, hget, insert]
  cases m.get? call.key.keyTag with
  | none => rfl
  | some known =>
    by_cases hpublic : known.publicKey = call.key.publicKey
    · simp only [hpublic, ne_eq, not_true_eq_false, if_false, if_true]
      rfl
    · simp only [hpublic, ne_eq, not_false_eq_true, if_false, if_true]
      rfl

/-- An insertion that succeeds leaves the next map. -/
theorem run_insertion_of_ok {call : Insertion} {m next : KeyTagMap}
    (h : m.insert call.zone call.key = .ok next) : (insertion call).run m = (.ok (), next) := by
  rw [run_insertion, h]

/-- An insertion that fails leaves the map as it was. -/
theorem run_insertion_of_error {call : Insertion} {m : KeyTagMap} {failure : Failure}
    (h : m.insert call.zone call.key = .error failure) :
    (insertion call).run m = (.error failure, m) := by
  rw [run_insertion, h]

/-- An insertion keeps the public key that is under a tag, though not the key. -/
theorem publicKey_run_insertion (call : Insertion) {m : KeyTagMap} {tag : UInt16} {known : Dnskey}
    (h : m.get? tag = some known) :
    ∃ later, ((insertion call).run m).2.get? tag = some later ∧
      later.publicKey = known.publicKey := by
  cases hinsert : m.insert call.zone call.key with
  | error failure =>
    rw [run_insertion_of_error hinsert]
    exact ⟨known, h, rfl⟩
  | ok next =>
    rw [run_insertion_of_ok hinsert]
    obtain ⟨hsame, rfl⟩ := (insert_eq_ok_iff m call.zone call.key next).mp hinsert
    by_cases htag : tag = call.key.keyTag
    · subst htag
      exact ⟨call.key, lookup_put_self _ _ _, (hsame known h).symm⟩
    · exact ⟨known, (lookup_put_of_ne htag _ _).trans h, rfl⟩

/-! ## Many insertions -/

/-- All of the answers are successes. -/
def Succeeded (answers : List (Except Failure Unit)) : Prop := ∀ answer ∈ answers, answer = .ok ()

private theorem run_insertions_nil (m : KeyTagMap) : (insertions []).run m = ([], m) := rfl

/-- The first insertion comes first, and the others whatever it comes to. -/
theorem run_insertions_cons (call : Insertion) (calls : List Insertion) (m : KeyTagMap) :
    (insertions (call :: calls)).run m =
      (((insertion call).run m).1 :: ((insertions calls).run ((insertion call).run m).2).1,
        ((insertions calls).run ((insertion call).run m).2).2) := by
  rw [insertions, List.mapM_cons]
  rfl

/-- After some insertions, further ones go on from the map that these left. -/
theorem run_insertions_append (calls more : List Insertion) (m : KeyTagMap) :
    ((insertions (calls ++ more)).run m).2 =
      ((insertions more).run ((insertions calls).run m).2).2 := by
  induction calls generalizing m with
  | nil => rfl
  | cons call calls ih => rw [List.cons_append, run_insertions_cons, run_insertions_cons, ih]

/-- However many insertions follow, the public key that is under a tag stays. -/
theorem publicKey_run_insertions (calls : List Insertion) {m : KeyTagMap} {tag : UInt16}
    {known : Dnskey} (h : m.get? tag = some known) :
    ∃ later, ((insertions calls).run m).2.get? tag = some later ∧
      later.publicKey = known.publicKey := by
  induction calls generalizing m known with
  | nil => exact ⟨known, h, rfl⟩
  | cons call calls ih =>
    rw [run_insertions_cons]
    obtain ⟨middle, hmiddle, hfirst⟩ := publicKey_run_insertion call h
    obtain ⟨later, hlater, hrest⟩ := ih hmiddle
    exact ⟨later, hlater, hrest.trans hfirst⟩

/-- Keys that do not collide, and further insertions into their map: the map is always that of the
keys accepted so far, and these do not collide either. -/
theorem run_insertions_ofKeys (calls : List Insertion) {keys : List Dnskey}
    (hkeys : NoTagCollision keys) :
    ((insertions calls).run (ofKeys keys)).2 =
        ofKeys (keys ++ accepted calls ((insertions calls).run (ofKeys keys)).1) ∧
      NoTagCollision (keys ++ accepted calls ((insertions calls).run (ofKeys keys)).1) := by
  -- A success moves its key from the calls behind the keys, and a failure drops it.
  induction calls generalizing keys with
  | nil =>
    rw [run_insertions_nil, accepted, List.append_nil]
    exact ⟨rfl, hkeys⟩
  | cons call calls ih =>
    rw [run_insertions_cons]
    cases hinsert : (ofKeys keys).insert call.zone call.key with
    | error failure =>
      rw [run_insertion_of_error hinsert]
      exact ih hkeys
    | ok next =>
      obtain ⟨hkey, hnext⟩ := (insert_ofKeys_eq_ok_iff call.zone hkeys call.key next).mp hinsert
      have hmore := (noTagCollision_append_singleton_iff keys call.key).mpr ⟨hkeys, hkey⟩
      rw [run_insertion_of_ok hinsert, hnext, accepted,
        List.append_cons keys call.key (accepted calls _)]
      exact ih hmore

/-- Every insertion has its answer. -/
theorem length_answers (calls : List Insertion) (m : KeyTagMap) :
    ((insertions calls).run m).1.length = calls.length := by
  induction calls generalizing m with
  | nil => rfl
  | cons call calls ih => rw [run_insertions_cons, List.length_cons, List.length_cons, ih]

/-- Where every insertion succeeds, every key is accepted. -/
theorem accepted_of_succeeded {calls : List Insertion} {answers : List (Except Failure Unit)}
    (h : Succeeded answers) (hlength : answers.length = calls.length) :
    accepted calls answers = calls.map Insertion.key := by
  induction calls generalizing answers with
  | nil => rw [accepted, List.map_nil]
  | cons call calls ih =>
    obtain ⟨first, rest, rfl⟩ := List.exists_cons_of_length_eq_add_one hlength
    obtain rfl := h first List.mem_cons_self
    rw [accepted, List.map_cons,
      ih (fun answer hanswer => h answer (List.mem_cons_of_mem _ hanswer)) (by simpa using hlength)]

/-- Where no tags collide in the whole, every insertion succeeds. -/
theorem succeeded_of_noTagCollision (calls : List Insertion) (keys : List Dnskey)
    (h : NoTagCollision (keys ++ calls.map Insertion.key)) :
    Succeeded ((insertions calls).run (ofKeys keys)).1 := by
  induction calls generalizing keys with
  | nil =>
    intro answer hanswer
    cases hanswer
  | cons call calls ih =>
    rw [List.map_cons, List.append_cons] at h
    obtain ⟨hkeys, hkey⟩ := (noTagCollision_append_singleton_iff keys call.key).mp h.left
    have hinsert := (insert_ofKeys_eq_ok_iff call.zone hkeys call.key _).mpr ⟨hkey, rfl⟩
    rw [run_insertions_cons, run_insertion_of_ok hinsert]
    exact List.forall_mem_cons.mpr ⟨rfl, ih _ h⟩

/-- After insertions into a new map, the map is that of the keys accepted, which do not collide. -/
theorem run_insertions_empty (calls : List Insertion) :
    ((insertions calls).run empty).2 = ofKeys (accepted calls ((insertions calls).run empty).1) ∧
      NoTagCollision (accepted calls ((insertions calls).run empty).1) :=
  run_insertions_ofKeys calls noTagCollision_nil

/-- All of the insertions of a list into a new map succeed exactly if no tags collide, and then the
map is that of the list. -/
theorem succeeded_insertions_iff (calls : List Insertion) :
    Succeeded ((insertions calls).run empty).1 ↔ NoTagCollision (calls.map Insertion.key) := by
  obtain ⟨-, haccepted⟩ := run_insertions_empty calls
  constructor
  · intro h
    rwa [accepted_of_succeeded h (length_answers calls _)] at haccepted
  · exact succeeded_of_noTagCollision calls []

/-! ## What a map holds -/

/-- A map files the tags of a list of keys. -/
structure Filed (m : KeyTagMap) (keys : List Dnskey) : Prop where
  /-- Each key stands under its own tag. -/
  keyTag_eq : ∀ entry ∈ m.entries, entry.2.keyTag = entry.1
  /-- The keys are listed in the order of their tags. -/
  increasing : (m.keys.map Dnskey.keyTag).Pairwise (· < ·)
  /-- The keys that are listed are those that are found. -/
  mem_keys_iff : ∀ key, key ∈ m.keys ↔ m.get? key.keyTag = some key
  /-- There are as many keys as different tags. -/
  size_eq : m.size = (keys.map Dnskey.keyTag).toFinset.card

private theorem eq_or_mem_of_mem_put {tag : UInt16} {key : Dnskey}
    {entries : List (UInt16 × Dnskey)} {entry : UInt16 × Dnskey} (h : entry ∈ put tag key entries) :
    entry = (tag, key) ∨ entry ∈ entries := by
  induction entries with
  | nil => exact .inl (List.mem_singleton.mp h)
  | cons first rest ih =>
    obtain ⟨t, k⟩ := first
    unfold put at h
    split at h
    · exact List.mem_cons.mp h
    · split at h
      · exact (List.mem_cons.mp h).imp_right (List.mem_cons_of_mem _)
      · rcases List.mem_cons.mp h with rfl | h
        · exact .inr List.mem_cons_self
        · exact (ih h).imp_right (List.mem_cons_of_mem _)

private theorem keyTag_eq_of_mem_ofKeys {keys : List Dnskey} {entry : UInt16 × Dnskey}
    (h : entry ∈ (ofKeys keys).entries) : entry.2.keyTag = entry.1 := by
  induction keys using List.reverseRecOn with
  | nil => cases h
  | append_singleton keys key ih =>
    rw [ofKeys_append_singleton] at h
    rcases eq_or_mem_of_mem_put h with rfl | h
    · rfl
    · exact ih h

/-- Where the keys stand under their own tags, the tags of the keys are those they stand under. -/
theorem map_keyTag_keys {entries : List (UInt16 × Dnskey)}
    (hown : ∀ entry ∈ entries, entry.2.keyTag = entry.1) :
    (keys ⟨entries⟩).map Dnskey.keyTag = tags entries := by
  rw [keys, List.map_map, tags]
  exact List.map_congr_left hown

/-- Where the tags increase and the keys stand under their own, a key that is listed is found. -/
theorem mem_keys_iff_get? {entries : List (UInt16 × Dnskey)}
    (hown : ∀ entry ∈ entries, entry.2.keyTag = entry.1)
    (hincreasing : (tags entries).Pairwise (· < ·)) (key : Dnskey) :
    key ∈ keys ⟨entries⟩ ↔ get? ⟨entries⟩ key.keyTag = some key := by
  induction entries with
  | nil => simp [keys, get?]
  | cons first rest ih =>
    obtain ⟨tag, known⟩ := first
    obtain ⟨hfirst, hrest⟩ := List.pairwise_cons.mp hincreasing
    obtain ⟨hknown, hothers⟩ := List.forall_mem_cons.mp hown
    have ih := ih hothers hrest
    have hlisted : key ∈ keys ⟨(tag, known) :: rest⟩ ↔ key = known ∨ key ∈ keys ⟨rest⟩ :=
      List.mem_cons
    rw [hlisted, get?, List.lookup_cons]
    by_cases htag : key.keyTag = tag
    -- The tags behind are greater, so a key with this one is not listed there.
    · have hnew : key ∉ keys ⟨rest⟩ := by
        intro hmem
        have hmem := List.mem_map_of_mem (f := Dnskey.keyTag) hmem
        rw [map_keyTag_keys hothers] at hmem
        exact UInt16.lt_irrefl tag (htag ▸ hfirst _ hmem)
      simp [htag, hnew, eq_comm]
    · have hne : key ≠ known := by
        rintro rfl
        exact htag hknown
      simpa [hne, beq_false_of_ne htag, get?] using ih

/-- The map of a list of keys files them. -/
theorem filed_ofKeys (keys : List Dnskey) : Filed (ofKeys keys) keys := by
  have hown := fun entry (h : entry ∈ (ofKeys keys).entries) => keyTag_eq_of_mem_ofKeys h
  have hincreasing := pairwise_tags_ofKeys keys
  refine ⟨hown, ?_, mem_keys_iff_get? hown hincreasing, size_ofKeys keys⟩
  rwa [← map_keyTag_keys hown] at hincreasing

/-- However insertions into a new map go, the map files the keys that were accepted, and the public
keys under its tags are settled. An insertion fails exactly if it meets another public key, and
changes nothing then. The insertions of a list of keys all succeed exactly if no tags collide, in
whatever order the keys come, and then the map has the last key with each tag. -/
theorem insertions_file_keys :
    (∀ (m : KeyTagMap) (call : Insertion),
      (∀ next, m.insert call.zone call.key = .ok next →
        (insertion call).run m = (.ok (), next)) ∧
      (∀ failure, m.insert call.zone call.key = .error failure →
        (insertion call).run m = (.error failure, m)) ∧
      ((∃ failure, m.insert call.zone call.key = .error failure) ↔
        ∃ known, m.get? call.key.keyTag = some known ∧ known.publicKey ≠ call.key.publicKey)) ∧
    ∀ (calls : List Insertion) (answers : List (Except Failure Unit)) (m : KeyTagMap),
      (insertions calls).run empty = (answers, m) →
      Filed m (accepted calls answers) ∧
      (∀ more tag known, m.get? tag = some known →
        ∃ later, ((insertions (calls ++ more)).run empty).2.get? tag = some later ∧
          later.publicKey = known.publicKey) ∧
      (Succeeded answers ↔ NoTagCollision (calls.map Insertion.key)) ∧
      (∀ others, (calls.map Insertion.key).Perm (others.map Insertion.key) →
        (Succeeded answers ↔ Succeeded ((insertions others).run empty).1)) ∧
      (Succeeded answers → ∀ tag, m.get? tag = lastWithTag (calls.map Insertion.key) tag) := by
  constructor
  · intro m call
    refine ⟨fun next h => run_insertion_of_ok h, fun failure h => run_insertion_of_error h, ?_⟩
    simp only [insert_eq_error_iff, exists_and_left, exists_eq, and_true]
  · intro calls answers m hrun
    obtain rfl : _ = answers := congrArg Prod.fst hrun
    obtain rfl : _ = m := congrArg Prod.snd hrun
    obtain ⟨hmap, -⟩ := run_insertions_empty calls
    refine ⟨hmap ▸ filed_ofKeys _, ?_, succeeded_insertions_iff calls, ?_, ?_⟩
    · intro more tag known hknown
      rw [run_insertions_append]
      exact publicKey_run_insertions more hknown
    · intro others hperm
      rw [succeeded_insertions_iff, succeeded_insertions_iff]
      exact ⟨fun h => h.perm hperm, fun h => h.perm hperm.symm⟩
    · intro hall tag
      rw [hmap, accepted_of_succeeded hall (length_answers calls empty), get?_ofKeys]

/-- Two keys share a tag and the public key, so that the second takes the place of the first; a
third with this tag and another public key is refused, and one with another tag is filed beside. -/
theorem insertions_file_keys_refused :
    let calls := [⟨"example.", ⟨257, 3, 8, [1, 2]⟩⟩, ⟨"example.", ⟨256, 3, 9, [1, 2]⟩⟩,
      ⟨"example.", ⟨256, 3, 8, [1, 3]⟩⟩, ⟨"example.", ⟨256, 3, 8, [1, 2]⟩⟩]
    let m : KeyTagMap := ⟨[(1290, ⟨256, 3, 8, [1, 2]⟩), (1291, ⟨256, 3, 9, [1, 2]⟩)]⟩
    (insertions calls).run empty =
        ([.ok (), .ok (), .error (.keyTagCollision "example." 1291), .ok ()], m) ∧
      Filed m [⟨257, 3, 8, [1, 2]⟩, ⟨256, 3, 9, [1, 2]⟩, ⟨256, 3, 8, [1, 2]⟩] ∧
      ¬NoTagCollision (calls.map Insertion.key) := by
  intro calls m
  have hrun : (insertions calls).run empty =
      ([.ok (), .ok (), .error (.keyTagCollision "example." 1291), .ok ()], m) := rfl
  obtain ⟨hfiled, -, hall, -, -⟩ := insertions_file_keys.2 calls _ m hrun
  refine ⟨hrun, hfiled, fun h => ?_⟩
  have hthird := hall.mpr h (.error (.keyTagCollision "example." 1291)) (by simp)
  cases hthird

end KeyTagMap

end DnsHealth
