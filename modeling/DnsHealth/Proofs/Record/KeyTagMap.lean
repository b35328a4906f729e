import DnsHealth.Proofs.Fallible
import DnsHealth.Record.KeyTagMap
import Mathlib.Data.Finset.Card

/-!
# Collecting keys under their tags

A list of keys goes into an empty map exactly if any two of them with one tag have the same public
key, a condition on the set of keys alone. What the map then holds under a tag is the last key of
the list with that tag, and its size is the number of different tags.
-/

namespace DnsHealth

/-- Any two keys of a list that share a tag have the same public key. -/
def NoTagCollision (keys : List Dnskey) : Prop :=
  ∀ first ∈ keys, ∀ second ∈ keys, first.keyTag = second.keyTag →
    first.publicKey = second.publicKey

/-- The last key of a list that has a given tag. -/
def lastWithTag (keys : List Dnskey) (tag : UInt16) : Option Dnskey :=
  keys.reverse.find? fun key => key.keyTag = tag

/-- A further key is the last with its tag. -/
theorem lastWithTag_append_singleton (keys : List Dnskey) (key : Dnskey) (tag : UInt16) :
    lastWithTag (keys ++ [key]) tag =
      if key.keyTag = tag then some key else lastWithTag keys tag := by
  simp only [lastWithTag, List.reverse_append, List.reverse_singleton, List.singleton_append,
    List.find?_cons]
  split <;> simp_all

/-- What stands last with a tag is a key of the list, and has that tag. -/
theorem mem_of_lastWithTag {keys : List Dnskey} {tag : UInt16} {key : Dnskey}
    (h : lastWithTag keys tag = some key) : key ∈ keys ∧ key.keyTag = tag := by
  refine ⟨List.mem_reverse.mp (List.mem_of_find?_eq_some h), ?_⟩
  simpa only [decide_eq_true_eq] using List.find?_some h

/-- Every tag of a list of keys has a last key. -/
theorem exists_lastWithTag {keys : List Dnskey} {key : Dnskey} (h : key ∈ keys) :
    ∃ last, lastWithTag keys key.keyTag = some last := by
  have hsome : (lastWithTag keys key.keyTag).isSome := by
    simp only [lastWithTag, List.find?_isSome, decide_eq_true_eq]
    exact ⟨key, List.mem_reverse.mpr h, rfl⟩
  exact Option.isSome_iff_exists.mp hsome

/-- Keys with a further one do not collide exactly if they do not without it and it collides with
none of them. -/
theorem noTagCollision_append_singleton_iff (keys : List Dnskey) (key : Dnskey) :
    NoTagCollision (keys ++ [key]) ↔
      NoTagCollision keys ∧
        ∀ known ∈ keys, known.keyTag = key.keyTag → known.publicKey = key.publicKey := by
  constructor
  · intro h
    refine ⟨fun a ha b hb => h a (by simp [ha]) b (by simp [hb]), ?_⟩
    exact fun known hknown => h known (by simp [hknown]) key (by simp)
  · rintro ⟨hkeys, hkey⟩ a ha b hb hab
    rw [List.mem_append, List.mem_singleton] at ha hb
    rcases ha with ha | rfl <;> rcases hb with hb | rfl
    · exact hkeys a ha b hb hab
    · exact hkey a ha hab
    · exact (hkey b hb hab.symm).symm
    · rfl

/-- Without keys there is no collision. -/
theorem noTagCollision_nil : NoTagCollision [] := by
  intro key hkey
  cases hkey

/-- Keys of which no tags collide are so without those that stand last. -/
theorem NoTagCollision.left {keys more : List Dnskey} (h : NoTagCollision (keys ++ more)) :
    NoTagCollision keys :=
  fun a ha b hb => h a (List.mem_append_left _ ha) b (List.mem_append_left _ hb)

/-- Whether tags collide is a matter of which keys there are, not of their order. -/
theorem NoTagCollision.perm {keys others : List Dnskey} (h : NoTagCollision keys)
    (hperm : keys.Perm others) : NoTagCollision others :=
  fun a ha b hb => h a (hperm.mem_iff.mpr ha) b (hperm.mem_iff.mpr hb)

/-- In another order of the same keys, the last key with a tag has the same public key. -/
theorem exists_lastWithTag_of_perm {keys others : List Dnskey} (hkeys : NoTagCollision keys)
    (hperm : keys.Perm others) {tag : UInt16} {key : Dnskey}
    (h : lastWithTag others tag = some key) :
    ∃ last, lastWithTag keys tag = some last ∧ last ∈ keys ∧ last.keyTag = tag ∧
      key ∈ keys ∧ key.keyTag = tag ∧ last.publicKey = key.publicKey := by
  obtain ⟨hother, rfl⟩ := mem_of_lastWithTag h
  have hkey := hperm.mem_iff.mpr hother
  obtain ⟨last, hlast⟩ := exists_lastWithTag hkey
  obtain ⟨hmem, htag⟩ := mem_of_lastWithTag hlast
  exact ⟨last, hlast, hmem, htag, hkey, rfl, hkeys last hmem key hkey htag⟩

namespace KeyTagMap

/-- The tags under which there are entries, in their order. -/
def tags (entries : List (UInt16 × Dnskey)) : List UInt16 := entries.map (·.1)

/-- A key that was put under a tag is found there. -/
theorem lookup_put_self (tag : UInt16) (key : Dnskey) (entries : List (UInt16 × Dnskey)) :
    (put tag key entries).lookup tag = some key := by
  induction entries with
  | nil => simp [put]
  | cons entry rest ih =>
    obtain ⟨t, k⟩ := entry
    unfold put
    split
    · simp
    · split
      · simp
      · next hne => simpa [List.lookup_cons, beq_false_of_ne hne] using ih

/-- Nothing else is found under another tag. -/
theorem lookup_put_of_ne {tag other : UInt16} (h : other ≠ tag) (key : Dnskey)
    (entries : List (UInt16 × Dnskey)) :
    (put tag key entries).lookup other = entries.lookup other := by
  induction entries with
  | nil => simp [put, List.lookup_cons, beq_false_of_ne h]
  | cons entry rest ih =>
    obtain ⟨t, k⟩ := entry
    unfold put
    split
    · simp [List.lookup_cons, beq_false_of_ne h]
    · split
      · next heq => simp [List.lookup_cons, ← heq, beq_false_of_ne h]
      · simp only [List.lookup_cons, ih]

private theorem mem_tags_put (tag other : UInt16) (key : Dnskey)
    (entries : List (UInt16 × Dnskey)) :
    other ∈ tags (put tag key entries) ↔ other = tag ∨ other ∈ tags entries := by
  induction entries with
  | nil => simp [put, tags]
  | cons entry rest ih =>
    obtain ⟨t, k⟩ := entry
    unfold put
    split
    · simp [tags]
    · split
      · next heq => simp [tags, heq]
      · simp only [tags, List.map_cons, List.mem_cons] at ih ⊢
        rw [ih]
        exact or_left_comm

/-- Putting a key under a tag keeps the tags in strictly increasing order. -/
theorem pairwise_tags_put (tag : UInt16) (key : Dnskey) {entries : List (UInt16 × Dnskey)}
    (h : (tags entries).Pairwise (· < ·)) : (tags (put tag key entries)).Pairwise (· < ·) := by
  induction entries with
  | nil => simp [put, tags]
  | cons entry rest ih =>
    obtain ⟨t, k⟩ := entry
    obtain ⟨hfirst, hrest⟩ := List.pairwise_cons.mp h
    unfold put
    split
    · next hlt =>
      refine List.pairwise_cons.mpr ⟨fun other hother => ?_, h⟩
      rcases List.mem_cons.mp hother with rfl | hother
      · exact hlt
      · exact UInt16.lt_trans hlt (hfirst other hother)
    · next hge =>
      split
      · next heq => subst heq; exact List.pairwise_cons.mpr ⟨hfirst, hrest⟩
      · next hne =>
        refine List.pairwise_cons.mpr ⟨fun other hother => ?_, ih hrest⟩
        rcases (mem_tags_put tag other key rest).mp hother with rfl | hother
        · exact UInt16.lt_of_le_of_ne (UInt16.not_lt.mp hge) (Ne.symm hne)
        · exact hfirst other hother

/-- The map that a list of keys leads to when none of them collides. -/
def ofKeys (keys : List Dnskey) : KeyTagMap :=
  ⟨keys.foldl (fun entries key => put key.keyTag key entries) []⟩

/-- A further key is put into the map of those before it. -/
theorem ofKeys_append_singleton (keys : List Dnskey) (key : Dnskey) :
    ofKeys (keys ++ [key]) = ⟨put key.keyTag key (ofKeys keys).entries⟩ := by
  simp only [ofKeys, List.foldl_append, List.foldl_cons, List.foldl_nil]

/-- Under a tag the map holds the last key of the list with that tag. -/
theorem get?_ofKeys (keys : List Dnskey) (tag : UInt16) :
    (ofKeys keys).get? tag = lastWithTag keys tag := by
  induction keys using List.reverseRecOn with
  | nil => rfl
  | append_singleton keys key ih =>
    rw [ofKeys_append_singleton, lastWithTag_append_singleton, get?]
    split
    · next heq => subst heq; exact lookup_put_self _ _ _
    · next hne => rw [lookup_put_of_ne (Ne.symm hne)]; exact ih

/-- What the map knows is the last key with each tag. -/
theorem get?_ofKeys_eq (keys : List Dnskey) : (ofKeys keys).get? = lastWithTag keys :=
  funext (get?_ofKeys keys)

private theorem mem_tags_ofKeys (keys : List Dnskey) (tag : UInt16) :
    tag ∈ tags (ofKeys keys).entries ↔ tag ∈ keys.map Dnskey.keyTag := by
  induction keys using List.reverseRecOn with
  | nil => simp [ofKeys, tags]
  | append_singleton keys key ih =>
    rw [ofKeys_append_singleton, mem_tags_put, ih]
    simp only [List.map_append, List.map_cons, List.map_nil, List.mem_append, List.mem_singleton]
    exact or_comm

/-- The tags of a map stand in strictly increasing order. -/
theorem pairwise_tags_ofKeys (keys : List Dnskey) :
    (tags (ofKeys keys).entries).Pairwise (· < ·) := by
  induction keys using List.reverseRecOn with
  | nil => exact List.Pairwise.nil
  | append_singleton keys key ih =>
    rw [ofKeys_append_singleton]
    exact pairwise_tags_put _ _ ih

/-- The size of the map is the number of different tags in the list. -/
theorem size_ofKeys (keys : List Dnskey) :
    (ofKeys keys).size = (keys.map Dnskey.keyTag).toFinset.card := by
  have hnodup : (tags (ofKeys keys).entries).Nodup :=
    (pairwise_tags_ofKeys keys).imp UInt16.ne_of_lt
  have htags : (tags (ofKeys keys).entries).toFinset = (keys.map Dnskey.keyTag).toFinset := by
    ext tag
    simp only [List.mem_toFinset, mem_tags_ofKeys]
  rw [← htags, List.toFinset_card_of_nodup hnodup, tags, List.length_map, size]

/-- An insertion succeeds exactly if the tag is free or has the same public key already. -/
theorem insert_eq_ok_iff (m : KeyTagMap) (zone : String) (key : Dnskey) (next : KeyTagMap) :
    m.insert zone key = .ok next ↔
      (∀ known, m.get? key.keyTag = some known → known.publicKey = key.publicKey) ∧
        next = ⟨put key.keyTag key m.entries⟩ := by
  rw [insert]
  cases m.get? key.keyTag with
  | none =>
    simp only [reduceCtorEq, false_implies, implies_true, true_and, Except.ok.injEq, eq_comm]
  | some known =>
    simp only [Option.some.injEq, forall_eq']
    split <;> simp_all [eq_comm]

/-- An insertion fails exactly if the tag has another public key, and the failure names the tag. -/
theorem insert_eq_error_iff (m : KeyTagMap) (zone : String) (key : Dnskey) (failure : Failure) :
    m.insert zone key = .error failure ↔
      (∃ known, m.get? key.keyTag = some known ∧ known.publicKey ≠ key.publicKey) ∧
        failure = .keyTagCollision zone key.keyTag := by
  rw [insert]
  cases m.get? key.keyTag with
  | none => simp only [reduceCtorEq, false_and, exists_false]
  | some known =>
    simp only [Option.some.injEq, exists_eq_left']
    split <;> simp_all [eq_comm]

/-- One insertion into the map of a list, read off the list. -/
theorem insert_ofKeys_eq_ok_iff (zone : String) {keys : List Dnskey} (hkeys : NoTagCollision keys)
    (key : Dnskey) (out : KeyTagMap) :
    (ofKeys keys).insert zone key = .ok out ↔
      (∀ known ∈ keys, known.keyTag = key.keyTag → known.publicKey = key.publicKey) ∧
        out = ofKeys (keys ++ [key]) := by
  rw [insert_eq_ok_iff, get?_ofKeys, ofKeys_append_singleton]
  refine and_congr_left fun _ => ⟨fun h known hknown htag => ?_, fun h known hlast => ?_⟩
  · obtain ⟨last, hlast⟩ := exists_lastWithTag hknown
    obtain ⟨hmem, hsame⟩ := mem_of_lastWithTag hlast
    exact (hkeys known hknown last hmem hsame.symm).trans (h last (htag ▸ hlast))
  · obtain ⟨hmem, htag⟩ := mem_of_lastWithTag hlast
    exact h known hmem htag

/-- A list of keys goes into the empty map exactly if no tags collide, and then the map is that of
the list. -/
theorem foldlM_insert_eq_ok_iff (zone : String) (keys : List Dnskey) (out : KeyTagMap) :
    keys.foldlM (·.insert zone ·) empty = .ok out ↔ NoTagCollision keys ∧ out = ofKeys keys := by
  induction keys using List.reverseRecOn generalizing out with
  | nil =>
    constructor
    · intro h
      cases h
      exact ⟨noTagCollision_nil, rfl⟩
    · rintro ⟨-, rfl⟩
      rfl
  | append_singleton keys key ih =>
    rw [foldlM_append_singleton_eq_ok_iff, noTagCollision_append_singleton_iff]
    constructor
    · rintro ⟨middle, hmiddle, hinsert⟩
      obtain ⟨hkeys, rfl⟩ := (ih middle).mp hmiddle
      obtain ⟨hkey, hout⟩ := (insert_ofKeys_eq_ok_iff zone hkeys key out).mp hinsert
      exact ⟨⟨hkeys, hkey⟩, hout⟩
    · rintro ⟨⟨hkeys, hkey⟩, hout⟩
      exact ⟨ofKeys keys, (ih _).mpr ⟨hkeys, rfl⟩,
        (insert_ofKeys_eq_ok_iff zone hkeys key out).mpr ⟨hkey, hout⟩⟩

/-- Further keys go into the map of a list exactly if no tags collide in the whole. -/
theorem foldlM_insert_ofKeys_eq_ok_iff (zone : String) {keys : List Dnskey}
    (hkeys : NoTagCollision keys) (more : List Dnskey) (out : KeyTagMap) :
    more.foldlM (·.insert zone ·) (ofKeys keys) = .ok out ↔
      NoTagCollision (keys ++ more) ∧ out = ofKeys (keys ++ more) := by
  rw [← foldlM_insert_eq_ok_iff zone, List.foldlM_append, bind_eq_ok_iff]
  have hstart := (foldlM_insert_eq_ok_iff zone keys (ofKeys keys)).mpr ⟨hkeys, rfl⟩
  simp only [hstart, Except.ok.injEq, exists_eq_left']

end KeyTagMap

end DnsHealth
