import Rehearsal.Files.Volume
/-!
# Places of a volume

What a volume is to those who look for files is told by the names that its directories list, place
by place. Putting a file or a new directory in a directory adds at most one name to that one, and
leaves the other directories as they are.
-/

set_option autoImplicit false

namespace Rehearsal

namespace Item

def names? : Item → Option (List String)
  | .directory items => some (items.map Prod.fst)
  | .file _ => none

/-- The names in the directory at a place below an item. -/
def listed? (item : Item) (place : List String) : Option (List String) :=
  (item.at? place).bind names?

variable {item inner new : Item} {items : List (String × Item)} {name other : String}
  {place rest : List String}

theorem at?_cons (item : Item) (name : String) (rest : List String) :
    item.at? (name :: rest) = (item.items.lookup name).bind (·.at? rest) := by
  rw [at?]
  cases item.items.lookup name <;> rfl

theorem at?_append (item : Item) (place rest : List String) :
    item.at? (place ++ rest) = (item.at? place).bind (·.at? rest) := by
  induction place generalizing item with
  | nil => rfl
  | cons name place ih =>
      rw [List.cons_append, at?_cons, at?_cons]
      cases item.items.lookup name with
      | none => rfl
      | some inner => exact ih inner

theorem isSome_lookup_iff : (items.lookup name).isSome = true ↔ name ∈ items.map Prod.fst := by
  induction items with
  | nil => simp
  | cons entry items ih =>
      rw [List.lookup_cons, List.map_cons, List.mem_cons, ← ih]
      by_cases same : name = entry.1
      · simp [same]
      · simp [same, beq_eq_false_iff_ne.mpr same]

theorem lookup_cons_of_ne {entry : String × Item} (differs : other ≠ entry.1) :
    (entry :: items).lookup other = items.lookup other := by
  rw [List.lookup_cons, beq_eq_false_iff_ne.mpr differs]

theorem lookup_setNamed :
    (setNamed name new items).lookup other =
      if other = name then some new else items.lookup other := by
  induction items with
  | nil =>
      by_cases same : other = name
      · simp [setNamed, same]
      · rw [setNamed, lookup_cons_of_ne same, if_neg same]
  | cons entry items ih =>
      obtain ⟨own, old⟩ := entry
      rw [setNamed]
      by_cases found : own = name
      · subst found
        by_cases same : other = own
        · simp [same]
        · rw [if_pos rfl, lookup_cons_of_ne same, lookup_cons_of_ne same, if_neg same]
      · rw [if_neg found]
        by_cases same : other = own
        · simp [same, found]
        · rw [lookup_cons_of_ne same, lookup_cons_of_ne same, ih]

theorem map_fst_setNamed (name : String) (new : Item) (items : List (String × Item)) :
    (setNamed name new items).map Prod.fst =
      if name ∈ items.map Prod.fst then items.map Prod.fst else items.map Prod.fst ++ [name] := by
  induction items with
  | nil => rfl
  | cons entry items ih =>
      obtain ⟨own, old⟩ := entry
      rw [setNamed]
      by_cases found : own = name
      · simp [found]
      · rw [if_neg found, List.map_cons, ih]
        by_cases listed : name ∈ items.map Prod.fst <;> simp_all [Ne.symm found]

/-! ## Listings -/

theorem listed?_cons (item : Item) (name : String) (rest : List String) :
    item.listed? (name :: rest) = (item.items.lookup name).bind (·.listed? rest) := by
  rw [listed?, at?_cons]
  cases item.items.lookup name <;> rfl

theorem listed?_of_no_items (bare : new.items = []) (name : String) (rest : List String) :
    new.listed? (name :: rest) = none := by
  rw [listed?_cons, bare]
  rfl

theorem listed?_of_prefix (free : item.listed? place = none) (rest : List String) :
    item.listed? (place ++ rest) = none := by
  cases rest with
  | nil => rw [List.append_nil, free]
  | cons name rest =>
      rw [listed?] at free
      rw [listed?, at?_append]
      cases found : item.at? place with
      | none => rfl
      | some inner =>
          rw [found] at free
          cases inner with
          | directory items => cases free
          | file contents => rfl

variable {names : List String}

theorem listed?_of_at? (found : item.at? place = some (.directory items)) :
    item.listed? place = some (items.map Prod.fst) := by
  rw [listed?, found]
  rfl

theorem listed?_isSome_iff :
    (item.listed? place).isSome = true ↔ ∃ inner, item.at? place = some (.directory inner) := by
  rw [listed?]
  cases item.at? place with
  | none => simp
  | some found => cases found <;> simp [names?]

theorem listed?_eq_none_iff :
    item.listed? place = none ↔ ∀ items, item.at? place ≠ some (.directory items) := by
  rw [listed?]
  cases item.at? place with
  | none => simp
  | some inner => cases inner <;> simp [names?]

theorem listed_dropLast (lists : item.listed? place = some names) :
    ∃ names, item.listed? place.dropLast = some names := by
  cases above : item.listed? place.dropLast with
  | some names => exact ⟨names, rfl⟩
  | none =>
      rcases List.eq_nil_or_concat place with rfl | ⟨before, last, rfl⟩
      · cases above.symm.trans lists
      · rw [List.concat_eq_append, List.dropLast_concat] at above
        rw [List.concat_eq_append, listed?_of_prefix above] at lists
        cases lists

theorem exists_items_of_listed? (lists : item.listed? [] = some names) :
    ∃ items, item = .directory items ∧ items.map Prod.fst = names := by
  cases item with
  | directory items => exact ⟨items, rfl, Option.some.inj lists⟩
  | file contents => cases lists

theorem exists_inner_of_listed? (lists : item.listed? (name :: rest) = some names) :
    ∃ items inner, item = .directory items ∧ items.lookup name = some inner ∧
      inner.listed? rest = some names := by
  rw [listed?_cons] at lists
  obtain ⟨inner, found, listed⟩ := Option.bind_eq_some_iff.mp lists
  cases item with
  | directory items => exact ⟨items, inner, rfl, found, listed⟩
  | file contents => cases found

/-- Putting a file, or a directory without items, in a directory where no directory has its name. -/
theorem listed?_put (lists : item.listed? place = some names)
    (free : item.listed? (place ++ [name]) = none) (bare : new.items = []) (other : List String) :
    (item.put (place ++ [name]) new).listed? other =
      if other = place ++ [name] then new.names?
      else if other = place then some (if name ∈ names then names else names ++ [name])
      else item.listed? other := by
  -- The place is walked from the front, and beside it nothing changes.
  induction place generalizing item other with
  | nil =>
      obtain ⟨items, rfl, rfl⟩ := exists_items_of_listed? lists
      rw [List.nil_append, put]
      cases other with
      | nil =>
          rw [listed?]
          exact congrArg some (map_fst_setNamed name new items)
      | cons own rest =>
          rw [listed?_cons, Item.items, lookup_setNamed]
          by_cases same : own = name
          · subst same
            cases rest with
            | nil => simp [put, listed?, at?]
            | cons part rest =>
                have nothing := listed?_of_prefix free (part :: rest)
                simp_all [put, listed?_of_no_items bare]
          · simp [same, listed?_cons, Item.items]
  | cons first place ih =>
      obtain ⟨items, inner, rfl, found, inside⟩ := exists_inner_of_listed? lists
      rw [List.cons_append, put, Item.items, found, Option.getD_some]
      cases other with
      | nil =>
          have listed : first ∈ items.map Prod.fst := isSome_lookup_iff.mp (by simp [found])
          have same := map_fst_setNamed first (inner.put (place ++ [name]) new) items
          rw [if_pos listed] at same
          simp [listed?, at?, names?, same]
      | cons own rest =>
          rw [listed?_cons, Item.items, lookup_setNamed]
          by_cases same : own = first
          · subst same
            rw [List.cons_append, listed?_cons, Item.items, found] at free
            simp [ih inside free rest, listed?_cons, Item.items, found]
          · simp [same, listed?_cons, Item.items]

theorem at?_isSome_iff (place : List String) (name : String) (item : Item) :
    (item.at? (place ++ [name])).isSome = true ↔ ∃ names, item.listed? place = some names ∧
      name ∈ names := by
  rw [at?_append, listed?]
  cases item.at? place with
  | none => simp
  | some inner =>
      have found : (inner.at? [name]).isSome = (inner.items.lookup name).isSome := by
        rw [at?_cons]
        cases inner.items.lookup name <;> rfl
      rw [Option.bind_some, Option.bind_some, found, isSome_lookup_iff]
      cases inner <;> simp [names?, Item.items]

/-- A directory that is found at a name is one of those that the directory above lists. -/
theorem mem_of_listed? (lists : item.listed? place = some names)
    (there : (item.listed? (place ++ [name])).isSome = true) : name ∈ names := by
  have found : (item.at? (place ++ [name])).isSome = true := by
    rw [listed?] at there
    cases found : item.at? (place ++ [name]) with
    | none => simp [found] at there
    | some inner => rfl
  obtain ⟨others, listsAgain, member⟩ := (at?_isSome_iff place name item).mp found
  cases listsAgain.symm.trans lists
  exact member

theorem at?_dropLast (there : (item.at? place).isSome = true) :
    (item.at? place.dropLast).isSome = true := by
  rcases List.eq_nil_or_concat place with rfl | ⟨before, last, rfl⟩
  · exact there
  · rw [List.concat_eq_append] at there ⊢
    obtain ⟨names, lists, -⟩ := (at?_isSome_iff before last item).mp there
    rw [List.dropLast_concat]
    rw [listed?] at lists
    cases found : item.at? before with
    | none => simp [found] at lists
    | some inner => rfl

end Item

namespace Volume

variable {volume after : Volume} {place next : List String} {part : String}

/-! ## Steps and walks -/

/-- Whether a part of a path is the name of an item. -/
def IsName (part : String) : Prop := part ≠ "" ∧ part ≠ "." ∧ part ≠ ".."

/-- Where a part of a path leads to from a directory. -/
inductive StepsTo (volume : Volume) (place : List String) : String → List String → Prop where
  | stay {part : String} {names : List String} :
      part = "" ∨ part = "." → volume.root.listed? place = some names →
        StepsTo volume place part place
  | up {names : List String} :
      volume.root.listed? place = some names → StepsTo volume place ".." place.dropLast
  | down {part : String} {names : List String} :
      IsName part → part.utf8ByteSize ≤ nameLimit → volume.root.listed? place = some names →
        part ∈ names → StepsTo volume place part (place ++ [part])

theorem step_of_listed {names : List String} (lists : volume.root.listed? place = some names)
    (part : String) :
    volume.step place part =
      if part = "" ∨ part = "." then .ok place
      else if part = ".." then .ok place.dropLast
      else if nameLimit < part.utf8ByteSize then .error .nameTooLong
      else if part ∈ names then .ok (place ++ [part])
      else .error .notFound := by
  obtain ⟨item, found, named⟩ := Option.bind_eq_some_iff.mp lists
  cases item with
  | file contents => cases named
  | directory items =>
      cases named
      rw [step, found]
      simp only [Item.isSome_lookup_iff, Bool.or_eq_true, decide_eq_true_eq]

theorem exists_names_of_step (stepped : volume.step place part = .ok next) :
    ∃ names, volume.root.listed? place = some names := by
  rw [step] at stepped
  rw [Item.listed?]
  cases found : volume.root.at? place with
  | none => simp [found] at stepped
  | some item =>
      cases item with
      | file contents => simp [found] at stepped
      | directory items => exact ⟨items.map Prod.fst, rfl⟩

theorem step_eq_ok_iff :
    volume.step place part = .ok next ↔ volume.StepsTo place part next := by
  constructor
  · intro stepped
    obtain ⟨names, lists⟩ := exists_names_of_step stepped
    rw [step_of_listed lists] at stepped
    split at stepped
    · next stays =>
        cases stepped
        exact .stay stays lists
    · next moves =>
        obtain ⟨filled, other⟩ := not_or.mp moves
        split at stepped
        · next above =>
            cases stepped
            exact above ▸ .up lists
        · next below =>
            split at stepped
            · cases stepped
            · next short =>
                split at stepped
                · next listed =>
                    cases stepped
                    exact .down ⟨filled, other, below⟩ (Nat.not_lt.mp short) lists listed
                · cases stepped
  · intro steps
    cases steps with
    | stay stays lists => rw [step_of_listed lists, if_pos stays]
    | up lists => rw [step_of_listed lists, if_neg (by decide), if_pos rfl]
    | down named short lists listed =>
        obtain ⟨filled, other, below⟩ := named
        rw [step_of_listed lists, if_neg (not_or.mpr ⟨filled, other⟩), if_neg below,
          if_neg (Nat.not_lt.mpr short), if_pos listed]

theorem there_of_step (there : (volume.root.at? place).isSome = true)
    (stepped : volume.step place part = .ok next) : (volume.root.at? next).isSome = true := by
  cases step_eq_ok_iff.mp stepped with
  | stay => exact there
  | up => exact Item.at?_dropLast there
  | down _ _ lists listed =>
      exact (Item.at?_isSome_iff place part volume.root).mpr ⟨_, lists, listed⟩

theorem walk_cons (volume : Volume) (place : List String) (part : String) (parts : List String) :
    volume.walk place (part :: parts) = (volume.step place part).bind (volume.walk · parts) :=
  rfl

theorem walk_append (volume : Volume) (place first later : List String) :
    volume.walk place (first ++ later) = (volume.walk place first).bind (volume.walk · later) := by
  induction first generalizing place with
  | nil => rfl
  | cons part first ih =>
      rw [List.cons_append, walk_cons, walk_cons]
      cases volume.step place part with
      | error fault => rfl
      | ok next => exact ih next

theorem there_of_walk {parts : List String} (there : (volume.root.at? place).isSome = true)
    (walked : volume.walk place parts = .ok next) : (volume.root.at? next).isSome = true := by
  induction parts generalizing place with
  | nil =>
      cases walked
      exact there
  | cons part parts ih =>
      rw [walk_cons] at walked
      cases stepped : volume.step place part with
      | error fault => simp [stepped, Except.bind] at walked
      | ok middle =>
          rw [stepped] at walked
          exact ih (there_of_step there stepped) walked

theorem listed_of_walk {parts names : List String} (walked : volume.walk place parts = .ok next)
    (lists : volume.root.listed? next = some names) :
    ∃ names, volume.root.listed? place = some names := by
  cases parts with
  | nil =>
      cases walked
      exact ⟨names, lists⟩
  | cons part parts =>
      rw [walk_cons] at walked
      cases stepped : volume.step place part with
      | error fault => simp [stepped, Except.bind] at walked
      | ok middle => exact exists_names_of_step stepped

theorem at?_of_listed {names : List String} (lists : volume.root.listed? place = some names) :
    ∃ items, volume.root.at? place = some (.directory items) := by
  obtain ⟨item, found, named⟩ := Option.bind_eq_some_iff.mp lists
  cases item with
  | directory items => exact ⟨items, found⟩
  | file contents => cases named

/-! ## Paths -/

variable {path : String}

theorem checkPath_eq_ok_iff :
    checkPath path = .ok () ↔
      '\x00' ∉ path.toList ∧ path ≠ "" ∧ path.utf8ByteSize < pathLimit := by
  rw [checkPath]
  split
  · next marked => simpa using fun unmarked => absurd (List.contains_iff_mem.mp marked) unmarked
  · next unmarked =>
      have none : '\x00' ∉ path.toList := fun member => unmarked (List.contains_iff_mem.mpr member)
      split
      · next nothing => simp [String.isEmpty_iff.mp nothing]
      · next filled =>
          have something : path ≠ "" := fun nothing => filled (String.isEmpty_iff.mpr nothing)
          split
          · next long => simp [long]
          · next short => simp [none, something, Nat.not_le.mp short]

theorem resolve_eq_ok_iff :
    volume.resolve path = .ok place ↔
      checkPath path = .ok () ∧ volume.walk (volume.start path) (Path.parts path) = .ok place := by
  rw [resolve]
  cases checkPath path with
  | error fault => simp [bind, Except.bind]
  | ok done => simp [bind, Except.bind]

theorem item_of_resolve (resolved : volume.resolve path = .ok place) :
    volume.item path = match volume.root.at? place with
      | some found => .ok found
      | none => .error .notFound := by
  rw [item, resolved]
  rfl

theorem hasDirectory_of_resolve (resolved : volume.resolve path = .ok place) :
    volume.hasDirectory path = (volume.root.listed? place).isSome := by
  rw [hasDirectory, item_of_resolve resolved, Item.listed?]
  cases volume.root.at? place with
  | none => rfl
  | some found => cases found <;> rfl

theorem not_hasDirectory_of_error {fault : FileFault}
    (failed : volume.resolve path = .error fault) :
    volume.hasDirectory path = false := by
  rw [hasDirectory, item, failed]
  rfl

end Volume

end Rehearsal
