import Rehearsal.Proofs.Files.Paths
import Rehearsal.Proofs.Files.Places
/-!
# How a volume changes

Writing a file and making directories put single items into directories that are there. So what has
been there stays, and new directories are those that were asked for.
-/

set_option autoImplicit false

namespace Rehearsal.Volume

variable {before after last : Volume} {place next : List String} {name : String} {new : Item}

/-! ## Growing -/

/-- Whether every directory is still there, with all of its names. -/
structure Grows (before after : Volume) : Prop where
  here : after.here = before.here
  names : ∀ place names, before.root.listed? place = some names →
    ∃ more, after.root.listed? place = some more ∧ names ⊆ more

theorem Grows.refl (volume : Volume) : volume.Grows volume :=
  ⟨rfl, fun _ names lists => ⟨names, lists, List.Subset.refl names⟩⟩

theorem Grows.trans (first : before.Grows after) (second : after.Grows last) :
    before.Grows last := by
  refine ⟨second.here.trans first.here, fun place names lists => ?_⟩
  obtain ⟨more, listsMore, within⟩ := first.names place names lists
  obtain ⟨most, listsMost, withinMost⟩ := second.names place more listsMore
  exact ⟨most, listsMost, List.Subset.trans within withinMost⟩

theorem Grows.step {part : String} (grows : before.Grows after)
    (stepped : before.step place part = .ok next) : after.step place part = .ok next := by
  rw [step_eq_ok_iff] at stepped ⊢
  cases stepped with
  | stay stays lists =>
      obtain ⟨more, lists, -⟩ := grows.names place _ lists
      exact .stay stays lists
  | up lists =>
      obtain ⟨more, lists, -⟩ := grows.names place _ lists
      exact .up lists
  | down named short lists listed =>
      obtain ⟨more, lists, within⟩ := grows.names place _ lists
      exact .down named short lists (within listed)

theorem Grows.walk {parts : List String} (grows : before.Grows after)
    (walked : before.walk place parts = .ok next) : after.walk place parts = .ok next := by
  induction parts generalizing place with
  | nil => exact walked
  | cons part parts ih =>
      rw [walk_cons] at walked ⊢
      cases stepped : before.step place part with
      | error fault => simp [stepped, Except.bind] at walked
      | ok middle =>
          rw [stepped] at walked
          rw [grows.step stepped]
          exact ih walked

theorem Grows.start (grows : before.Grows after) (path : String) :
    after.start path = before.start path := by
  rw [Volume.start, Volume.start, grows.here]

/-! ## Sound volumes -/

/-- Whether names are each there once and have no slashes. -/
def Tidy (names : List String) : Prop := names.Nodup ∧ ∀ name ∈ names, '/' ∉ name.toList

/-- Whether the names in each directory are tidy, and relative paths start from a directory. -/
structure Sound (volume : Volume) : Prop where
  here : ∃ names, volume.root.listed? volume.here = some names
  tidy : ∀ place names, volume.root.listed? place = some names → Tidy names

/-- Whether the names in each directory below an item are tidy. -/
inductive Neat : Item → Prop where
  | file (contents : Bytes) : Neat (.file contents)
  | directory {items : List (String × Item)} :
      Tidy (items.map Prod.fst) → (∀ entry ∈ items, Neat entry.2) → Neat (.directory items)

theorem neat_bare : Neat (.directory []) :=
  .directory ⟨List.nodup_nil, List.forall_mem_nil _⟩ (List.forall_mem_nil _)

theorem Neat.tidy {item : Item} (neat : Neat item) :
    ∀ place names, item.listed? place = some names → Tidy names := by
  induction neat with
  | file contents =>
      intro place names lists
      cases place with
      | nil => cases lists
      | cons name rest => cases (Item.listed?_of_no_items rfl name rest).symm.trans lists
  | @directory items tidy _ ih =>
      intro place names lists
      cases place with
      | nil =>
          cases lists
          exact tidy
      | cons name rest =>
          obtain ⟨entries, inner, same, found, listsInner⟩ := Item.exists_inner_of_listed? lists
          cases same
          obtain ⟨before, after, split, -⟩ := List.lookup_eq_some_iff.mp found
          have among : (name, inner) ∈ items := split ▸ List.mem_append_right _ List.mem_cons_self
          exact ih (name, inner) among rest names listsInner

theorem Sound.root (sound : before.Sound) : ∃ names, before.root.listed? [] = some names := by
  obtain ⟨names, lists⟩ := sound.here
  cases root : before.root.listed? [] with
  | some names => exact ⟨names, rfl⟩
  | none =>
      have nothing := Item.listed?_of_prefix root before.here
      rw [List.nil_append, lists] at nothing
      cases nothing

theorem Sound.start (sound : before.Sound) (path : String) :
    ∃ names, before.root.listed? (before.start path) = some names := by
  rw [Volume.start]
  split
  · exact sound.root
  · exact sound.here

theorem Sound.has {path : String} (sound : before.Sound)
    (resolved : before.resolve path = .ok place) : before.has path = true := by
  obtain ⟨names, lists⟩ := sound.start path
  obtain ⟨items, starts⟩ := at?_of_listed lists
  have there := there_of_walk (by rw [starts]; rfl) (resolve_eq_ok_iff.mp resolved).2
  rw [Volume.has, item_of_resolve resolved]
  cases found : before.root.at? place with
  | none => simp [found] at there
  | some item => rfl

/-! ## Putting an item into a directory -/

/-- Whether a volume has come from another by a file, or a directory without items, that was put in
a directory where none had its name. -/
structure Puts (before after : Volume) (place : List String) (name : String) (new : Item) :
    Prop where
  plain : '/' ∉ name.toList
  lists : ∃ names, before.root.listed? place = some names
  free : before.root.listed? (place ++ [name]) = none
  bare : new.items = []
  same : after = ⟨before.root.put (place ++ [name]) new, before.here⟩

namespace Puts

variable (puts : before.Puts after place name new)

include puts

theorem listed? {names : List String} (lists : before.root.listed? place = some names)
    (other : List String) :
    after.root.listed? other =
      if other = place ++ [name] then new.names?
      else if other = place then some (if name ∈ names then names else names ++ [name])
      else before.root.listed? other := by
  rw [puts.same]
  exact Item.listed?_put lists puts.free puts.bare other

theorem grows : before.Grows after := by
  obtain ⟨names, lists⟩ := puts.lists
  refine ⟨by rw [puts.same], fun other listed listsOther => ?_⟩
  have free := puts.free
  rw [puts.listed? lists]
  split
  · next same =>
      rw [← same, listsOther] at free
      cases free
  · split
    · next same =>
        obtain rfl : names = listed := Option.some.inj (lists.symm.trans (same ▸ listsOther))
        refine ⟨_, rfl, fun other member => ?_⟩
        split
        · exact member
        · exact List.mem_append_left _ member
    · exact ⟨listed, listsOther, List.Subset.refl listed⟩

theorem sound (sound : before.Sound) : after.Sound := by
  obtain ⟨names, lists⟩ := puts.lists
  refine ⟨?_, fun other listed listsOther => ?_⟩
  · obtain ⟨hereNames, here⟩ := sound.here
    obtain ⟨more, listsMore, -⟩ := puts.grows.names before.here hereNames here
    exact ⟨more, puts.grows.here ▸ listsMore⟩
  · obtain ⟨distinct, plain⟩ := sound.tidy place names lists
    rw [puts.listed? lists] at listsOther
    split at listsOther
    · have bare := puts.bare
      cases new with
      | file contents => cases listsOther
      | directory items =>
          obtain rfl : items = [] := bare
          cases listsOther
          exact ⟨List.nodup_nil, nofun⟩
    · split at listsOther
      · cases listsOther
        split
        · exact ⟨distinct, plain⟩
        · next fresh =>
            have apart : ∀ old ∈ names, ∀ other ∈ [name], old ≠ other := by
              intro old member other single same
              exact fresh (List.mem_singleton.mp single ▸ same ▸ member)
            refine ⟨List.nodup_append.mpr ⟨distinct, by simp, apart⟩, fun other member => ?_⟩
            rcases List.mem_append.mp member with old | same
            · exact plain other old
            · exact List.mem_singleton.mp same ▸ puts.plain
      · exact sound.tidy other listed listsOther

theorem isSome_listed?_iff (other : List String) :
    (after.root.listed? other).isSome = true ↔
      (before.root.listed? other).isSome = true ∨
        other = place ++ [name] ∧ new.isDirectory = true := by
  obtain ⟨names, lists⟩ := puts.lists
  have free := puts.free
  rw [puts.listed? lists]
  split
  · next same =>
      rw [same, free]
      cases new <;> simp [Item.names?, Item.isDirectory]
  · next differs =>
      split
      · next same => simp [same, lists]
      · simp [differs]

end Puts

/-! ## What is added -/

/-- Whether a volume has grown by directories at some places, and otherwise by files at most. -/
structure Adds (before after : Volume) (made : List (List String)) : Prop where
  grows : before.Grows after
  sound : before.Sound → after.Sound
  directories : ∀ place, (after.root.listed? place).isSome = true ↔
    (before.root.listed? place).isSome = true ∨ place ∈ made

theorem Adds.refl (volume : Volume) : volume.Adds volume [] where
  grows := .refl volume
  sound := id
  directories := by simp

theorem Adds.trans {made more : List (List String)} (first : before.Adds after made)
    (second : after.Adds last more) : before.Adds last (made ++ more) where
  grows := first.grows.trans second.grows
  sound := fun sound => second.sound (first.sound sound)
  directories := fun place => by
    rw [second.directories, first.directories, List.mem_append, or_assoc]

/-! ## Writing -/

theorem free_of_missing (there : (before.root.at? place).isSome = true)
    (missing : before.step place name = .error .notFound) :
    (∃ names, before.root.listed? place = some names) ∧
      before.root.listed? (place ++ [name]) = none := by
  cases found : before.root.at? place with
  | none => simp [found] at there
  | some item =>
      cases item with
      | file contents => simp [step, found] at missing
      | directory items =>
          have lists : before.root.listed? place = some (items.map Prod.fst) := by
            rw [Item.listed?, found]
            rfl
          refine ⟨⟨_, lists⟩, ?_⟩
          have fresh : items.lookup name = none := by
            rw [← Option.not_isSome_iff_eq_none, Item.isSome_lookup_iff]
            intro listed
            rw [step_of_listed lists, if_pos listed] at missing
            split at missing
            · cases missing
            · split at missing
              · cases missing
              · split at missing <;> cases missing
          rw [Item.listed?, Item.at?_append, found, Option.bind_some, Item.at?_cons, Item.items,
            fresh]
          rfl

theorem slash_not_mem_parts {path part : String} (member : part ∈ Path.parts path) :
    '/' ∉ part.toList := by
  obtain ⟨piece, among, rfl⟩ := List.mem_map.mp member
  rw [String.toList_ofList]
  exact Path.slash_not_mem_cut among

theorem slash_not_mem_last (path : String) :
    '/' ∉ ((Path.parts path).getLast?.getD "").toList := by
  cases last : (Path.parts path).getLast? with
  | none => exact List.not_mem_nil
  | some part => exact slash_not_mem_parts (List.mem_of_getLast? last)

theorem of_step_to_no_directory (stepped : before.step place name = .ok next)
    (free : before.root.listed? next = none) :
    next = place ++ [name] ∧ ∃ names, before.root.listed? place = some names := by
  cases step_eq_ok_iff.mp stepped with
  | stay stays lists => cases free.symm.trans lists
  | up lists =>
      obtain ⟨names, above⟩ := Item.listed_dropLast lists
      cases free.symm.trans above
  | down _ _ lists _ => exact ⟨rfl, _, lists⟩

/-- A file that is written is put into a directory that has no directory of its name. -/
theorem puts_of_write {path : String} {contents : Bytes} (sound : before.Sound)
    (written : before.write path contents = .ok after) :
    ∃ place name, before.Puts after place name (.file contents) := by
  have plain := slash_not_mem_last path
  cases checked : checkPath path with
  | error fault => simp [write, checked, bind, Except.bind] at written
  | ok done =>
      cases walked : before.walk (before.start path) (Path.parts path).dropLast with
      | error fault => simp [write, checked, walked, bind, Except.bind] at written
      | ok directory =>
          obtain ⟨startNames, starts⟩ := sound.start path
          obtain ⟨startItems, startsAt⟩ := at?_of_listed starts
          have there := there_of_walk (by rw [startsAt]; rfl) walked
          simp only [write, checked, walked, bind, Except.bind] at written
          generalize (Path.parts path).getLast?.getD "" = name at plain written
          cases stepped : before.step directory name with
          | error fault =>
              rw [stepped] at written
              cases fault with
              | notFound =>
                  obtain ⟨lists, free⟩ := free_of_missing there stepped
                  exact ⟨directory, name, plain, lists, free, rfl, (Except.ok.inj written).symm⟩
              | _ => cases written
          | ok place =>
              rw [stepped] at written
              dsimp only at written
              split at written
              · cases written
              · next file =>
                  have free : before.root.listed? place = none :=
                    Item.listed?_eq_none_iff.mpr fun items found => file items found
                  obtain ⟨rfl, lists⟩ := of_step_to_no_directory stepped free
                  exact ⟨directory, name, plain, lists, free, rfl, (Except.ok.inj written).symm⟩

theorem adds_of_write {path : String} {contents : Bytes} (sound : before.Sound)
    (written : before.write path contents = .ok after) : before.Adds after [] := by
  obtain ⟨place, name, puts⟩ := puts_of_write sound written
  refine ⟨puts.grows, puts.sound, fun other => ?_⟩
  rw [puts.isSome_listed?_iff]
  simp [Item.isDirectory]

/-! ## Making directories -/

/-- Directories that are there are walked through as they are. -/
theorem walkMaking_append {parts names : List String}
    (walked : before.walk place parts = .ok next)
    (lists : before.root.listed? next = some names) (more : List String) :
    before.walkMaking place (parts ++ more) = before.walkMaking next more := by
  induction parts generalizing place with
  | nil =>
      cases walked
      rfl
  | cons part parts ih =>
      rw [walk_cons] at walked
      cases stepped : before.step place part with
      | error fault => simp [stepped, Except.bind] at walked
      | ok middle =>
          rw [stepped] at walked
          obtain ⟨middleNames, listsMiddle⟩ := listed_of_walk walked lists
          obtain ⟨items, found⟩ := at?_of_listed listsMiddle
          rw [List.cons_append, walkMaking, stepMaking, stepped]
          simp only [found, bind, Except.bind]
          exact ih walked

theorem short_of_missing {names : List String} (lists : before.root.listed? place = some names)
    (missing : before.step place name = .error .notFound) : name.utf8ByteSize ≤ nameLimit := by
  rw [step_of_listed lists] at missing
  split at missing
  · cases missing
  · split at missing
    · cases missing
    · split at missing
      · cases missing
      · next short => exact Nat.not_lt.mp short

theorem Puts.adds_directory (puts : before.Puts after place name (.directory [])) :
    before.Adds after [place ++ [name]] := by
  refine ⟨puts.grows, puts.sound, fun other => ?_⟩
  rw [puts.isSome_listed?_iff]
  simp [Item.isDirectory]

theorem adds_of_walkMaking {names : List String} (lists : before.root.listed? place = some names)
    (named : IsName name) (plain : '/' ∉ name.toList)
    (made : before.walkMaking place [name] = .ok after) :
    before.Adds after [place ++ [name]] ∧ after.step place name = .ok (place ++ [name]) := by
  simp only [walkMaking, stepMaking, bind, Except.bind] at made
  cases stepped : before.step place name with
  | ok next =>
      rw [stepped] at made
      cases step_eq_ok_iff.mp stepped with
      | stay stays => exact absurd stays (not_or.mpr ⟨named.1, named.2.1⟩)
      | up => exact absurd rfl named.2.2
      | down _ _ listsAgain listed =>
          -- What has the name is no file, so it has been a directory before.
          obtain ⟨item, found⟩ := Option.isSome_iff_exists.mp <|
            (Item.at?_isSome_iff place name before.root).mpr ⟨_, listsAgain, listed⟩
          cases item with
          | file contents => simp [found] at made
          | directory items =>
              simp only [found, Except.ok.injEq] at made
              subst made
              refine ⟨⟨.refl before, id, fun other => ?_⟩, stepped⟩
              have there : (before.root.listed? (place ++ [name])).isSome = true := by
                rw [Item.listed?, found]
                rfl
              simp only [List.mem_singleton]
              exact (or_iff_left_of_imp fun same => same ▸ there).symm
  | error fault =>
      rw [stepped] at made
      cases fault with
      | notFound =>
          obtain ⟨items, found⟩ := at?_of_listed lists
          obtain ⟨-, free⟩ := free_of_missing (by rw [found]; rfl) stepped
          have puts : before.Puts after place name (.directory []) :=
            ⟨plain, ⟨names, lists⟩, free, rfl, (Except.ok.inj made).symm⟩
          have listsAfter := puts.listed? lists place
          rw [if_neg (by simp), if_pos rfl] at listsAfter
          refine ⟨puts.adds_directory, step_eq_ok_iff.mpr ?_⟩
          refine .down named (short_of_missing lists stepped) listsAfter ?_
          split
          · assumption
          · exact List.mem_append_right _ List.mem_cons_self
      | _ => cases made

theorem walk_pieces {root : String} (walked : before.walk place (Path.parts root) = .ok next) :
    before.walk place ((Glob.pieces root.toList).map String.ofList) = .ok next := by
  rw [Glob.pieces]
  split
  · next ends =>
      -- A slash at the end leads from a directory to itself.
      obtain ⟨parts, cuts⟩ := List.getLast?_eq_some_iff.mp ends
      rw [Path.parts, cuts, List.map_append, walk_append] at walked
      rw [cuts, List.dropLast_concat]
      cases walkedTo : before.walk place (parts.map String.ofList) with
      | error fault => simp [walkedTo, Except.bind] at walked
      | ok last =>
          have stepped : before.step last "" = .ok next := by
            rw [walkedTo] at walked
            simp only [Except.bind, List.map_singleton, walk_cons] at walked
            cases stepped : before.step last "" with
            | error fault => simp [stepped] at walked
            | ok after =>
                rw [stepped] at walked
                exact walked
          obtain ⟨lastNames, listsLast⟩ := exists_names_of_step stepped
          rwa [step_of_listed listsLast, if_pos (.inl rfl)] at stepped
  · exact walked

theorem adds_of_makeDirectories {names : List String} {root : String}
    (walked : before.walk (before.start root) (Path.parts root) = .ok place)
    (lists : before.root.listed? place = some names) (named : IsName name)
    (plain : '/' ∉ name.toList)
    (made : before.makeDirectories (Path.join root name) = .ok after) :
    before.Adds after [place ++ [name]] ∧ after.step place name = .ok (place ++ [name]) ∧
      checkPath (Path.join root name) = .ok () := by
  have filled : ¬(Path.join root name).isEmpty = true := by
    intro nothing
    have text := Path.toList_join root (Path.isAbsolute_of_plain plain)
    rw [String.isEmpty_iff.mp nothing] at text
    exact named.1 (String.toList_eq_nil_iff.mp (List.append_eq_nil_iff.mp text.symm).2)
  have starts : before.start (Path.join root name) = before.start root := by
    rw [start, start, Path.isAbsolute_join root plain]
  rw [makeDirectories, if_neg filled] at made
  cases checked : checkPath (Path.join root name) with
  | error fault => simp [checked, bind, Except.bind] at made
  | ok done =>
      simp only [checked, bind, Except.bind, starts, Path.parts_join root plain,
        walkMaking_append (walk_pieces walked) lists] at made
      obtain ⟨adds, stepped⟩ := adds_of_walkMaking lists named plain made
      exact ⟨adds, stepped, rfl⟩

end Rehearsal.Volume
