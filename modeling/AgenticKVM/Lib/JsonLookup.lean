import AgenticKVM.Lib.JsonReader

/-! # Looking keys up

An object that is written and read back has its entries in another order and its values in their
normal form (`reread`). Its keys are found as before (`lookup_reread`). -/

namespace AgenticKVM.Lib

section Lookup

variable {β γ : Type}

/-- Under distinct keys, what is looked up is what is there. -/
theorem lookup_eq_some_iff_mem {entries : List (String × β)}
    (distinct : (entries.map Prod.fst).Nodup) {key : String} {value : β} :
    entries.lookup key = some value ↔ (key, value) ∈ entries := by
  induction entries with
  | nil => simp
  | cons entry rest ih =>
      rw [List.map_cons, List.nodup_cons] at distinct
      by_cases same : key = entry.1
      · subst same
        rw [List.lookup_cons_self, List.mem_cons, Option.some.injEq]
        constructor
        · rintro rfl
          exact .inl rfl
        · rintro (here | later)
          · rw [← here]
          · exact absurd (List.mem_map_of_mem later) distinct.1
      · have other : (key == entry.1) = false := beq_false_of_ne same
        rw [List.lookup_cons, other, List.mem_cons, ih distinct.2]
        refine ⟨.inr, fun member => member.resolve_left fun here => same ?_⟩
        rw [← here]

/-- The order of entries with distinct keys does not matter. -/
theorem lookup_perm {entries others : List (String × β)}
    (distinct : (entries.map Prod.fst).Nodup) (perm : entries.Perm others) (key : String) :
    others.lookup key = entries.lookup key := by
  refine Option.ext fun value => ?_
  have distinct' : (others.map Prod.fst).Nodup := (perm.map Prod.fst).nodup_iff.mp distinct
  rw [lookup_eq_some_iff_mem distinct, lookup_eq_some_iff_mem distinct', perm.mem_iff]

/-- Looking up in entries whose values are changed by their key. -/
theorem lookup_map (f : String → β → γ) (entries : List (String × β)) (key : String) :
    (entries.map fun entry => (entry.1, f entry.1 entry.2)).lookup key
      = (entries.lookup key).map (f key) := by
  induction entries with
  | nil => rfl
  | cons entry rest ih =>
      rw [List.map_cons, List.lookup_cons, List.lookup_cons, ih]
      by_cases same : key = entry.1
      · subst same
        simp
      · simp [beq_false_of_ne same]

end Lookup

namespace Json

variable {readFloat : FloatToken → FloatToken}

/-- The entries of an object as they are read back. -/
def reread (entries : List (String × Json)) : List (String × Json) :=
  sortEntries (normEntries entries)

theorem norm_obj_reread (entries : List (String × Json)) :
    norm (.obj entries) = .obj (reread entries) := rfl

/-- The keys of an object are those it is read back with. -/
theorem reread_keys_perm (entries : List (String × Json)) :
    ((reread entries).map Prod.fst).Perm (entries.map Prod.fst) := by
  have keys : (normEntries entries).map Prod.fst = entries.map Prod.fst := by
    rw [normEntries_eq_map, List.map_map]
    rfl
  rw [← keys]
  exact (List.perm_insertionSort _ _).map Prod.fst

/-- **A key is found** with the normal form of its value. -/
theorem lookup_reread {entries : List (String × Json)} (distinct : (entries.map Prod.fst).Nodup)
    (key : String) : (reread entries).lookup key = (entries.lookup key).map norm := by
  have keys : (normEntries entries).map Prod.fst = entries.map Prod.fst := by
    rw [normEntries_eq_map, List.map_map]
    rfl
  rw [← lookup_map (fun _ => norm), ← normEntries_eq_map]
  exact lookup_perm (keys ▸ distinct) (List.perm_insertionSort _ _).symm key

/-- Permuted entries with distinct keys are the same once sorted. -/
theorem sortEntries_perm {entries others : List (String × Json)}
    (distinct : (entries.map Prod.fst).Nodup) (perm : entries.Perm others) :
    sortEntries entries = sortEntries others := by
  have left := List.perm_insertionSort (fun e f : String × Json => e.1 ≤ f.1) entries
  have right := List.perm_insertionSort (fun e f : String × Json => e.1 ≤ f.1) others
  refine List.Perm.eq_of_pairwise ?_ (sortEntries_sorted _) (sortEntries_sorted _)
    ((left.trans perm).trans right.symm)
  intro e f memberE memberF le ge
  have same : e.1 = f.1 := le_antisymm le ge
  have inE : (e.1, e.2) ∈ entries := left.mem_iff.mp memberE
  have inF : (e.1, f.2) ∈ entries := same ▸ perm.mem_iff.mpr (right.mem_iff.mp memberF)
  have value := ((lookup_eq_some_iff_mem distinct).mpr inE).symm.trans
    ((lookup_eq_some_iff_mem distinct).mpr inF)
  exact Prod.ext same (Option.some.inj value)

/-- **Objects are equal up to the order of entries** exactly where the same is found under every key,
up to the order of entries. -/
theorem norm_obj_eq_iff {entries others : List (String × Json)}
    (distinct : (entries.map Prod.fst).Nodup) (distinct' : (others.map Prod.fst).Nodup) :
    norm (.obj entries) = norm (.obj others)
      ↔ ∀ key, (entries.lookup key).map norm = (others.lookup key).map norm := by
  have keys (entries : List (String × Json)) :
      (normEntries entries).map Prod.fst = entries.map Prod.fst := by
    rw [normEntries_eq_map, List.map_map]
    rfl
  have values (entries : List (String × Json)) (key : String) :
      (normEntries entries).lookup key = (entries.lookup key).map norm := by
    rw [normEntries_eq_map]
    exact lookup_map (fun _ => norm) entries key
  constructor
  · intro same key
    have same : reread entries = reread others := Json.obj.inj same
    rw [← lookup_reread distinct, ← lookup_reread distinct', same]
  · intro found
    refine congrArg Json.obj (sortEntries_perm (keys entries ▸ distinct) ?_)
    rw [List.perm_ext_iff_of_nodup (List.Nodup.of_map _ (keys entries ▸ distinct))
      (List.Nodup.of_map _ (keys others ▸ distinct'))]
    intro entry
    rw [← lookup_eq_some_iff_mem (keys entries ▸ distinct),
      ← lookup_eq_some_iff_mem (keys others ▸ distinct'), values, values, found]

/-- What is readable is readable as it is read back. -/
theorem readable_reread {entries : List (String × Json)} :
    Readable readFloat (.obj (reread entries)) ↔ Readable readFloat (.obj entries) := by
  rw [← norm_obj_reread, readable_norm]

/-- A value that is looked up in a readable object is readable. -/
theorem Readable.lookup {entries : List (String × Json)} (readable : Readable readFloat (.obj entries))
    {key : String} {v : Json} (found : entries.lookup key = some v) : Readable readFloat v :=
  (readableEntries_iff entries).mp readable.2 _ ((lookup_eq_some_iff_mem readable.1).mp found)

/-- A list of texts is readable. -/
theorem readable_strings (texts : List String) : Readable readFloat (.list (texts.map .str)) := by
  rw [Readable, readableItems_iff]
  intro v member
  obtain ⟨text, -, rfl⟩ := List.mem_map.mp member
  trivial

/-- Reading a list of texts back changes nothing. -/
theorem norm_strings (texts : List String) :
    norm (.list (texts.map .str)) = .list (texts.map .str) := by
  rw [norm, Json.list.injEq]
  induction texts with
  | nil => rfl
  | cons text rest ih => rw [List.map_cons, normItems, ih, norm]

end Json

end AgenticKVM.Lib
