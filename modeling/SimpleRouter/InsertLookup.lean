/-
# A lookup behind an insertion

What was entered for an address is to be found, and a lookup of any other address is to answer
as before, but for one mapping that may make room in a full table.

`sr_arpcache_insert` fills the first free slot and `sr_arpcache_lookup` takes the last slot that
matches, so an old mapping of the address in a later slot hides the new one. Into a full table
nothing is entered, and no mapping makes room.
-/

import SimpleRouter.ArpCache

namespace SimpleRouter

variable {cache : SrArpcache} {ip : Ip} {mac : Mac}

/-! ## What is asked of the code -/

/-- A lookup of the address answers with the hardware address. -/
def Maps (cache : SrArpcache) (ip : Ip) (mac : Mac) : Prop :=
  ∃ entry, srArpcacheLookup cache ip = some entry ∧ entry.mac = mac

/-- Behind the insertion the mapping is found, and all others as before. A full table may have
lost one of them. -/
structure LookupAfterInsert (now : ℤ) (cache : SrArpcache) (mac : Mac) (ip : Ip) : Prop where
  found : Maps (srArpcacheInsert now cache mac ip).1 ip mac
  kept : cache.HasRoom → ∀ other, other ≠ ip →
    srArpcacheLookup (srArpcacheInsert now cache mac ip).1 other = srArpcacheLookup cache other
  evicted : ∃ victim, ∀ other, other ≠ ip → other ≠ victim →
    srArpcacheLookup (srArpcacheInsert now cache mac ip).1 other = srArpcacheLookup cache other

/-! ## When the code does it -/

/-- The last slot with a mapping of the address maps it to the hardware address. -/
def LastMaps (cache : SrArpcache) (ip : Ip) (mac : Mac) : Prop :=
  ∃ front slot behind, cache.entries.toList = front ++ slot :: behind ∧
    (slot.valid ∧ slot.ip = ip ∧ slot.mac = mac) ∧
    ∀ entry ∈ behind, ¬ (entry.valid ∧ entry.ip = ip)

/-- A slot is free, and behind the first free one no slot has a mapping of the address. -/
def FreeBehind (cache : SrArpcache) (ip : Ip) : Prop :=
  ∃ front slot behind, cache.entries.toList = front ++ slot :: behind ∧
    (∀ entry ∈ front, entry.valid) ∧ slot.valid = false ∧
    ∀ entry ∈ behind, ¬ (entry.valid ∧ entry.ip = ip)

/-- What a lookup answers, told of the slots. -/
theorem maps_iff_lastMaps : Maps cache ip mac ↔ LastMaps cache ip mac := by
  simp only [Maps, LastMaps, srArpcacheLookup_eq_lastMatch, lastMatch_eq_some_iff]
  constructor
  · rintro ⟨slot, ⟨⟨valid, mapped⟩, front, behind, split, unmapped⟩, same⟩
    exact ⟨front, slot, behind, split, ⟨valid, mapped, same⟩, unmapped⟩
  · rintro ⟨front, slot, behind, split, ⟨valid, mapped, same⟩, unmapped⟩
    exact ⟨slot, ⟨⟨valid, mapped⟩, front, behind, split, unmapped⟩, same⟩

/-! ## The table behind the insertion -/

/-- There is one first free slot only. -/
theorem freeBehind_iff {front behind : List SrArpentry} {slot : SrArpentry}
    (split : cache.entries.toList = front ++ slot :: behind) (taken : ∀ entry ∈ front, entry.valid)
    (free : slot.valid = false) :
    FreeBehind cache ip ↔ lastMatch ip behind = none := by
  rw [lastMatch_eq_none_iff]
  constructor
  · rintro ⟨front', slot', behind', split', taken', free', unmapped⟩
    have length : front.length = front'.length := by
      rw [← findIdx_free taken free behind, ← split, split', findIdx_free taken' free']
    obtain ⟨-, same⟩ := List.append_inj (split.symm.trans split') length
    rw [(List.cons.inj same).2]
    exact unmapped
  · intro unmapped
    exact ⟨front, slot, behind, split, taken, free, unmapped⟩

theorem not_freeBehind {cache : SrArpcache} (full : ∀ entry ∈ cache.entries.toList, entry.valid) :
    ¬ FreeBehind cache ip := by
  rintro ⟨front, slot, behind, split, -, free, -⟩
  have valid := full slot (by rw [split]; simp)
  rw [free] at valid
  cases valid

/-- The entered mapping is found if and only if none behind its slot hides it, or the one that
does is the same. -/
theorem maps_insert_iff (now : ℤ) (cache : SrArpcache) (mac : Mac) (ip : Ip) :
    Maps (srArpcacheInsert now cache mac ip).1 ip mac ↔
      Maps cache ip mac ∨ FreeBehind cache ip := by
  rcases entries_insert_cases now cache mac ip with
    ⟨full, kept⟩ | ⟨front, slot, behind, split, taken, free, filled⟩
  · -- Nothing is entered into a full table.
    simp only [Maps, srArpcacheLookup_eq_lastMatch, kept, not_freeBehind full, or_false]
  · rw [freeBehind_iff split taken free, Maps, Maps, srArpcacheLookup_eq_lastMatch,
      srArpcacheLookup_eq_lastMatch, filled, lastMatch_entered, split, ← List.singleton_append,
      lastMatch_append, lastMatch_append]
    cases lastMatch ip behind with
    | none => simp only [Option.none_or, Option.some.injEq, exists_eq_left', or_true]
    | some later => simp only [Option.some_or, reduceCtorEq, or_false]

/-- The code does what is asked if and only if the mapping was found before, or is entered with
no mapping of the address behind it. -/
theorem lookupAfterInsert_iff (now : ℤ) (cache : SrArpcache) (mac : Mac) (ip : Ip) :
    LookupAfterInsert now cache mac ip ↔ LastMaps cache ip mac ∨ FreeBehind cache ip := by
  rw [← maps_iff_lastMaps, ← maps_insert_iff now]
  constructor
  · exact LookupAfterInsert.found
  · intro found
    refine ⟨found, fun _ other differs => ?_, ip, fun other differs _ => ?_⟩
    · exact srArpcacheLookup_insert_of_ne now cache mac differs
    · exact srArpcacheLookup_insert_of_ne now cache mac differs

/-- A table whose slots are all taken by the mapping of one address. -/
def fullTable (mac : Mac) (ip : Ip) : SrArpcache :=
  { srArpcacheInit with entries := Vector.replicate srArpcacheSz ⟨mac, ip, 0, true⟩ }

/-- In a full table a new address stays unmapped. -/
theorem not_lookupAfterInsert :
    ¬ LookupAfterInsert 5 (fullTable #v[2, 0, 0, 0, 0, 1] #v[10, 0, 0, 1]) #v[2, 0, 0, 0, 0, 2]
      #v[10, 0, 0, 2] := by
  intro asked
  rcases (maps_insert_iff 5 _ _ _).mp asked.found with ⟨entry, found, -⟩ | free
  · obtain ⟨listed, -, mapped⟩ := srArpcacheLookup_eq_some found
    rw [fullTable, Vector.toList_replicate] at listed
    rw [List.eq_of_mem_replicate listed] at mapped
    exact absurd mapped (by decide)
  · refine not_freeBehind (fun entry listed => ?_) free
    rw [fullTable, Vector.toList_replicate] at listed
    rw [List.eq_of_mem_replicate listed]

end SimpleRouter
