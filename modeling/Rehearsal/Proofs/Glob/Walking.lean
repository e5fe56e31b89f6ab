import Mathlib.Data.List.Nodup
import Rehearsal.Proofs.Files.Changes
import Rehearsal.Proofs.Glob.Escaping
/-!
# Walking along folders

Patterns of folders that stand for themselves are walked one by one, from a path that resolves to
one that does, and a last pattern leads to names that the last folder lists. Only an empty folder
right at the beginning leads nowhere, since nothing has an empty path.
-/

set_option autoImplicit false

namespace Rehearsal.Glob

open Rehearsal.Path (stem)
open Volume (checkPath checkPath_eq_ok_iff resolve_eq_ok_iff pathLimit)

variable {volume : Volume} {path folder : String} {folders : List String}
  {place next : List String}

/-! ## One folder further -/

/-- What a path stands for that leads from a path to a name. -/
def ahead (path : String) : String :=
  if isHere path then "" else String.ofList (stem path.toList)

theorem further_eq (path : String) {name : String} (plain : '/' ∉ name.toList) :
    further path name = ahead path ++ name := by
  rw [further, ahead]
  split
  · exact String.empty_append.symm
  · refine String.toList_injective ?_
    rw [Path.toList_join path (Path.isAbsolute_of_plain plain), String.toList_append,
      String.toList_ofList]

theorem isHere_iff :
    isHere path = true ↔ path ≠ "" ∧ Path.isAbsolute path = false ∧
      ∀ part ∈ Path.parts path, part = "." ∨ part = "" := by
  simp [isHere, and_assoc]

theorem parts_of_plain (plain : '/' ∉ folder.toList) : Path.parts folder = [folder] := by
  rw [Path.parts, Path.cut_of_plain plain, List.map_singleton, String.ofList_toList]

/-- Only the current directory leads to itself, by its name. -/
theorem isHere_of_further (filled : path ≠ "") (plain : '/' ∉ folder.toList)
    (here : isHere (further path folder) = true) : isHere path = true ∧ folder = "." := by
  rw [further] at here
  split at here
  · next herePath =>
      obtain ⟨something, -, dots⟩ := isHere_iff.mp here
      rw [parts_of_plain plain] at dots
      exact ⟨herePath, (dots folder List.mem_cons_self).resolve_right something⟩
  · next elsewhere =>
      obtain ⟨-, relative, dots⟩ := isHere_iff.mp here
      rw [Path.isAbsolute_join path plain] at relative
      rw [Path.parts_join path plain] at dots
      refine absurd (isHere_iff.mpr ⟨filled, relative, fun part member => ?_⟩) elsewhere
      rcases Path.mem_parts member with rfl | among
      · exact .inr rfl
      · exact dots part (List.mem_append_left _ among)

theorem walk_of_isHere {names : List String} (here : isHere path = true)
    (lists : volume.root.listed? volume.here = some names) :
    volume.start path = volume.here ∧
      volume.walk volume.here (Path.parts path) = .ok volume.here := by
  obtain ⟨-, relative, dots⟩ := isHere_iff.mp here
  refine ⟨by simp [Volume.start, relative], ?_⟩
  generalize Path.parts path = parts at dots
  induction parts with
  | nil => rfl
  | cons part parts ih =>
      have stays := (dots part List.mem_cons_self).symm
      rw [Volume.walk_cons, Volume.step_of_listed lists, if_pos stays]
      exact ih fun other member => dots other (List.mem_cons_of_mem part member)

/-- From a path that resolves, a folder further is one step further. -/
theorem resolve_further (sound : volume.Sound) (resolved : volume.resolve path = .ok place)
    (plain : '/' ∉ folder.toList) :
    volume.resolve (further path folder) =
      (checkPath (further path folder)).bind fun _ => volume.step place folder := by
  obtain ⟨checked, walked⟩ := resolve_eq_ok_iff.mp resolved
  have single : volume.walk place [folder] = volume.step place folder := by
    rw [Volume.walk_cons]
    cases volume.step place folder <;> rfl
  have steps : volume.walk (volume.start (further path folder))
      (Path.parts (further path folder)) = volume.step place folder := by
    rw [further]
    split
    · next here =>
        obtain ⟨names, lists⟩ := sound.here
        obtain ⟨starts, stays⟩ := walk_of_isHere here lists
        rw [starts, stays] at walked
        cases walked
        rw [Volume.start, Path.isAbsolute_of_plain plain, parts_of_plain plain]
        exact single
    · rw [Volume.start, Path.isAbsolute_join path plain, Path.parts_join path plain,
        Volume.walk_append, ← Volume.start, Volume.walk_pieces walked]
      exact single
  rw [Volume.resolve, steps]
  rfl

theorem hasDirectory_further_iff {name : String} (sound : volume.Sound)
    (resolved : volume.resolve path = .ok place) (plain : '/' ∉ name.toList)
    (named : Volume.IsName name) :
    volume.hasDirectory (further path name) = true ↔
      checkPath (further path name) = .ok () ∧ volume.step place name = .ok (place ++ [name]) ∧
        (volume.root.listed? (place ++ [name])).isSome = true := by
  have resolves := resolve_further sound resolved plain
  constructor
  · intro directory
    cases reached : volume.resolve (further path name) with
    | error fault => simp [Volume.not_hasDirectory_of_error reached] at directory
    | ok next =>
        rw [Volume.hasDirectory_of_resolve reached] at directory
        rw [reached] at resolves
        cases checked : checkPath (further path name) with
        | error fault => simp [checked, Except.bind] at resolves
        | ok done =>
            have stepped : volume.step place name = .ok next := by
              rw [checked] at resolves
              exact resolves.symm
            cases Volume.step_eq_ok_iff.mp stepped with
            | stay stays => exact absurd stays (not_or.mpr ⟨named.1, named.2.1⟩)
            | up => exact absurd rfl named.2.2
            | down => exact ⟨rfl, stepped, directory⟩
  · rintro ⟨checked, stepped, directory⟩
    have reached : volume.resolve (further path name) = .ok (place ++ [name]) := by
      rw [resolves, checked]
      exact stepped
    rw [Volume.hasDirectory_of_resolve reached, directory]

/-! ## Fitting paths -/

theorem unmarked_stem {text : List Char} (unmarked : '\x00' ∉ text) : '\x00' ∉ stem text := by
  rcases Path.stem_cases text with ⟨same, -⟩ | ⟨same, -⟩
  · rwa [same]
  · simp [same, unmarked]

theorem unmarked_ahead (unmarked : '\x00' ∉ path.toList) : '\x00' ∉ (ahead path).toList := by
  rw [ahead]
  split
  · exact List.not_mem_nil
  · rw [String.toList_ofList]
    exact unmarked_stem unmarked

theorem size_stem_le (text : List Char) :
    (String.ofList (stem text)).utf8ByteSize ≤ (String.ofList text).utf8ByteSize + 1 := by
  rcases Path.stem_cases text with ⟨same, -⟩ | ⟨same, -⟩
  · rw [same]
    exact Nat.le_succ _
  · rw [same, String.ofList_append, String.utf8ByteSize_append]
    exact Nat.le_refl _

theorem size_ahead_further_le (path : String) (plain : '/' ∉ folder.toList) :
    (ahead (further path folder)).utf8ByteSize ≤
      (ahead path).utf8ByteSize + (folder.utf8ByteSize + 1) := by
  rw [ahead]
  split
  · exact Nat.zero_le _
  · refine Nat.le_trans (size_stem_le _) (Nat.le_of_eq ?_)
    rw [String.ofList_toList, further_eq path plain, String.utf8ByteSize_append, Nat.add_assoc]

/-- The bytes of folders with a slash after each of them. -/
def room : List String → Nat
  | [] => 0
  | folder :: folders => folder.utf8ByteSize + 1 + room folders

theorem room_cons (folder : String) (folders : List String) :
    room (folder :: folders) = folder.utf8ByteSize + 1 + room folders :=
  rfl

theorem room_append (first later : List String) :
    room (first ++ later) = room first + room later := by
  induction first with
  | nil => exact (Nat.zero_add _).symm
  | cons part first ih =>
      rw [List.cons_append, room_cons, room_cons, ih]
      omega

theorem size_join (parts : List String) :
    (String.join (parts.map (· ++ "/"))).utf8ByteSize = room parts := by
  have slash : "/".utf8ByteSize = 1 := rfl
  induction parts with
  | nil => rfl
  | cons part parts ih =>
      rw [List.map_cons, String.join_cons, String.utf8ByteSize_append, String.utf8ByteSize_append,
        ih, slash, room_cons]

theorem size_ahead_foldl_le (plain : ∀ folder ∈ folders, '/' ∉ folder.toList) (path : String) :
    (ahead (folders.foldl further path)).utf8ByteSize ≤
      (ahead path).utf8ByteSize + room folders := by
  induction folders generalizing path with
  | nil => exact Nat.le_refl _
  | cons folder folders ih =>
      obtain ⟨plainFolder, plainOthers⟩ := List.forall_mem_cons.mp plain
      have first := size_ahead_further_le path plainFolder
      have later := ih plainOthers (further path folder)
      rw [List.foldl_cons, room_cons]
      omega

/-- Whether folders lead from the current directory to an empty path. -/
def strays : List String → Bool
  | [] => false
  | folder :: folders => folder = "" || folder = "." && strays folders

/-- Whether folders can be named one after the other from a path on. -/
structure Fits (path : String) (folders : List String) : Prop where
  unmarked : ∀ folder ∈ folders, '\x00' ∉ folder.toList
  short : (ahead path).utf8ByteSize + room folders ≤ pathLimit
  straight : isHere path = true → strays folders = false

theorem Fits.checkPath (fits : Fits path (folder :: folders)) (plain : '/' ∉ folder.toList)
    (checked : checkPath path = .ok ()) : checkPath (further path folder) = .ok () := by
  obtain ⟨unmarked, filled, -⟩ := checkPath_eq_ok_iff.mp checked
  obtain ⟨unmarkedFolders, short, straight⟩ := fits
  have unmarkedFolder := unmarkedFolders folder List.mem_cons_self
  rw [room_cons] at short
  rw [checkPath_eq_ok_iff, further_eq path plain, String.toList_append, String.utf8ByteSize_append]
  refine ⟨by simp [unmarked_ahead unmarked, unmarkedFolder], fun nothing => ?_, by omega⟩
  obtain ⟨noneAhead, noFolder⟩ := String.append_eq_empty_iff.mp nothing
  rw [ahead] at noneAhead
  split at noneAhead
  · next here =>
      have ends := straight here
      simp [strays, noFolder] at ends
  · rcases Path.stem_cases path.toList with ⟨same, -⟩ | ⟨same, -⟩
    · rw [same, String.ofList_toList] at noneAhead
      exact filled noneAhead
    · simp [same] at noneAhead

theorem Fits.further (fits : Fits path (folder :: folders)) (plain : '/' ∉ folder.toList)
    (filled : path ≠ "") : Fits (further path folder) folders := by
  obtain ⟨unmarked, short, straight⟩ := fits
  refine ⟨(List.forall_mem_cons.mp unmarked).2, ?_, fun here => ?_⟩
  · have first := size_ahead_further_le path plain
    rw [room_cons] at short
    omega
  · obtain ⟨herePath, rfl⟩ := isHere_of_further filled plain here
    simpa [strays] using straight herePath

/-! ## Walking along folders -/

/-- The pattern of a folder that stands for itself. -/
def exactly (folder : String) : Pattern := folder.toList.map literal

theorem accepts_exactly_iff (name : String) :
    (exactly folder).accepts name = true ↔ name = folder := by
  rw [exactly, accepts_literals_iff, String.toList_inj]

theorem specialNames_eq_nil {pattern : Pattern}
    (neither : ∀ name ∈ [".", ".."], pattern.accepts name = false) : specialNames pattern = [] := by
  unfold specialNames
  split
  · exact List.filter_eq_nil_iff.mpr fun name member => by simp [neither name member]
  · rfl

theorem names_of_resolve {names : List String} (resolved : volume.resolve path = .ok place)
    (lists : volume.root.listed? place = some names) :
    Glob.names volume path = names.mergeSort fun a b => decide (a ≤ b) := by
  obtain ⟨item, found, named⟩ := Option.bind_eq_some_iff.mp lists
  cases item with
  | file contents => cases named
  | directory items =>
      cases named
      rw [Glob.names, Volume.item_of_resolve resolved, found]
      rfl

section

variable (special : folder.toList.any isSpecial = true)

include special

theorem ne_of_special {name : String} (ordinary : name.toList.any isSpecial = false) :
    name ≠ folder := by
  rintro rfl
  exact Bool.false_ne_true (ordinary.symm.trans special)

theorem listed_of_special {names : List String} (lists : volume.root.listed? place = some names)
    (stepped : volume.step place folder = .ok next) : folder ∈ names := by
  cases Volume.step_eq_ok_iff.mp stepped with
  | stay stays =>
      rcases stays with same | same
      · exact absurd same.symm (ne_of_special special rfl)
      · exact absurd same.symm (ne_of_special special rfl)
  | up => exact absurd rfl (ne_of_special special rfl)
  | down _ _ listsAgain listed =>
      obtain rfl := Option.some.inj (listsAgain.symm.trans lists)
      exact listed

theorem specialNames_exactly : specialNames (exactly folder) = [] := by
  refine specialNames_eq_nil fun name member => ?_
  rw [Bool.eq_false_iff]
  intro accepted
  refine ne_of_special special ?_ ((accepts_exactly_iff name).mp accepted)
  rcases List.mem_cons.mp member with rfl | member
  · rfl
  · obtain rfl := List.mem_singleton.mp member
    rfl

end

theorem filter_exactly {names : List String} (distinct : names.Nodup) (listed : folder ∈ names) :
    (names.mergeSort fun a b => decide (a ≤ b)).filter (exactly folder).accepts = [folder] := by
  have sorted := List.mergeSort_perm names fun a b => decide (a ≤ b)
  have same : (exactly folder).accepts = (· == folder) := by
    funext name
    rw [Bool.eq_iff_iff, accepts_exactly_iff, beq_iff_eq]
  rw [same, List.filter_beq,
    List.count_eq_one_of_mem (sorted.nodup_iff.mpr distinct) (sorted.mem_iff.mpr listed)]
  rfl

theorem walk_exactly (sound : volume.Sound) (resolved : volume.resolve path = .ok place)
    (plain : '/' ∉ folder.toList) (checked : checkPath (further path folder) = .ok ())
    (stepped : volume.step place folder = .ok next) (rest : List Pattern) :
    walk volume (exactly folder :: rest) path = walk volume rest (further path folder) := by
  obtain ⟨names, lists⟩ := Volume.exists_names_of_step stepped
  have directory : volume.hasDirectory path = true := by
    rw [Volume.hasDirectory_of_resolve resolved, lists]
    rfl
  rw [walk, exactly, literal?_literals, ← exactly]
  cases special : folder.toList.any isSpecial with
  | false =>
      have resolvedNext : volume.resolve (further path folder) = .ok next := by
        rw [resolve_further sound resolved plain, checked]
        exact stepped
      simp only [Bool.false_eq_true, if_false, String.ofList_toList, directory,
        sound.has resolvedNext, ite_self, if_true]
  | true =>
      -- A folder with a special character is a name that the directory lists, and lists once.
      have listed := listed_of_special special lists stepped
      have only := filter_exactly (sound.tidy place names lists).1 listed
      simp only [if_true, directory]
      rw [names_of_resolve resolved lists, only, specialNames_exactly special, List.append_nil,
        List.flatMap_singleton]

theorem walk_folders (sound : volume.Sound) (resolved : volume.resolve path = .ok place)
    (plain : ∀ folder ∈ folders, '/' ∉ folder.toList) (fits : Fits path folders)
    (walked : volume.walk place folders = .ok next) (rest : List Pattern) :
    walk volume (folders.map exactly ++ rest) path =
        walk volume rest (folders.foldl further path) ∧
      volume.resolve (folders.foldl further path) = .ok next := by
  induction folders generalizing path place with
  | nil =>
      cases walked
      exact ⟨rfl, resolved⟩
  | cons folder folders ih =>
      obtain ⟨plainFolder, plainOthers⟩ := List.forall_mem_cons.mp plain
      have checkedPath := (resolve_eq_ok_iff.mp resolved).1
      have checked := fits.checkPath plainFolder checkedPath
      rw [Volume.walk_cons] at walked
      cases stepped : volume.step place folder with
      | error fault => simp [stepped, Except.bind] at walked
      | ok middle =>
          rw [stepped] at walked
          have resolvedNext : volume.resolve (further path folder) = .ok middle := by
            rw [resolve_further sound resolved plainFolder, checked]
            exact stepped
          have filled := (checkPath_eq_ok_iff.mp checkedPath).2.1
          rw [List.map_cons, List.cons_append,
            walk_exactly sound resolved plainFolder checked stepped]
          exact ih resolvedNext plainOthers (fits.further plainFolder filled) walked

theorem walk_of_strays (here : isHere path = true) (astray : strays folders = true)
    (rest : List Pattern) : walk volume (folders.map exactly ++ rest) path = [] := by
  induction folders generalizing path with
  | nil => exact absurd astray Bool.false_ne_true
  | cons folder folders ih =>
      simp only [strays, Bool.or_eq_true, Bool.and_eq_true, decide_eq_true_eq] at astray
      rcases astray with rfl | ⟨rfl, astray⟩
      · have nowhere : volume.has "" = false := rfl
        simp [walk, exactly, Pattern.literal?, further, here, nowhere]
      · have stays : further path "." = "." := by rw [further, if_pos here]
        have named : exactly "." = [.char '.'] := rfl
        rw [List.map_cons, List.cons_append, walk, named]
        simp only [Pattern.literal?, Option.map_some]
        have name : String.ofList ['.'] = "." := rfl
        rw [name, stays, ih rfl astray]
        simp

/-! ## The names in the last folder -/

def beginning (opening : List Char) : Pattern := opening.map literal ++ [.anySequence]

theorem literal?_beginning (opening : List Char) : (beginning opening).literal? = none := by
  induction opening with
  | nil => rfl
  | cons c opening ih =>
      rw [beginning, List.map_cons, List.cons_append, literal]
      split
      · rfl
      · rw [Pattern.literal?, ← beginning, ih, Option.map_none]

/-- Whether an opening is not that of a special name. -/
def isTelling (opening : List Char) : Prop := opening = [] ∨ '-' ∈ opening

theorem specialNames_beginning {opening : List Char} (telling : isTelling opening) :
    specialNames (beginning opening) = [] := by
  rcases telling with rfl | hyphen
  · rfl
  · refine specialNames_eq_nil fun name member => ?_
    rw [Bool.eq_false_iff]
    intro accepted
    have begins := ((accepts_literals_star_iff opening name).mp accepted).subset hyphen
    revert begins
    rcases List.mem_cons.mp member with rfl | member
    · decide
    · obtain rfl := List.mem_singleton.mp member
      decide

theorem walk_beginning {names : List String} {opening : List Char} (telling : isTelling opening)
    (resolved : volume.resolve path = .ok place)
    (lists : volume.root.listed? place = some names) :
    walk volume [beginning opening] path =
      ((names.mergeSort fun a b => decide (a ≤ b)).filter fun name =>
        opening.isPrefixOf name.toList).map (further path) := by
  have directory : volume.hasDirectory path = true := by
    rw [Volume.hasDirectory_of_resolve resolved, lists]
    rfl
  have same : (beginning opening).accepts = fun name => opening.isPrefixOf name.toList := by
    funext name
    rw [Bool.eq_iff_iff, beginning, accepts_literals_star_iff, List.isPrefixOf_iff_prefix]
  have nothing : walk volume ([] : List Pattern) = fun path => [path] := rfl
  rw [walk, literal?_beginning]
  simp only [directory, if_true, specialNames_beginning telling, List.append_nil, same,
    names_of_resolve resolved lists, nothing]
  exact List.map_eq_flatMap.symm

end Rehearsal.Glob
