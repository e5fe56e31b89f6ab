import Rehearsal.Proofs.Glob.Finding
import Rehearsal.Proofs.Text.Utf8
import Rehearsal.Report.Basic
/-!
# The reports below a directory

A listing holds the directories right under an absolute directory whose name begins with a text,
whatever characters the directory and the text have. Only what the system has no path for is left
out: the listing names each directory by the path of the one above it, and looks at it by that path.
-/

set_option autoImplicit false

namespace Rehearsal.Glob

open Rehearsal.Path (stem)

variable {path folder name root : String} {folders : List String}

/-! ## The path of the last folder -/

theorem stem_stem (text : List Char) : stem (stem text) = stem text := by
  rcases Path.stem_cases (stem text) with ⟨same, -⟩ | ⟨-, filled, goesOn⟩
  · exact same
  · rcases Path.stem_cases text with ⟨same, nothing | ends⟩ | ⟨same, -⟩
    · exact absurd (same.trans nothing) filled
    · exact absurd ((congrArg List.getLast? same).trans ends) goesOn
    · rw [same, List.getLast?_concat] at goesOn
      exact absurd rfl goesOn

theorem stem_stem_append (text : List Char) {piece : List Char} (plain : '/' ∉ piece)
    (filled : piece ≠ []) : stem (stem text ++ piece) = stem text ++ piece ++ ['/'] := by
  have cuts : pieces (stem text ++ piece) = pieces text ++ [piece] :=
    Path.pieces_flatMap (fun _ => Path.slash_not_mem_pieces) plain filled
  rw [stem, cuts, List.flatMap_append, List.flatMap_singleton, ← stem, List.append_assoc]

theorem not_isHere_of_isAbsolute (absolute : Path.isAbsolute path = true) :
    ¬isHere path = true :=
  fun here => Bool.false_ne_true ((isHere_iff.mp here).2.1.symm.trans absolute)

theorem isAbsolute_further (absolute : Path.isAbsolute path = true) (plain : '/' ∉ folder.toList) :
    Path.isAbsolute (further path folder) = true := by
  rw [further, if_neg (not_isHere_of_isAbsolute absolute), Path.isAbsolute_join path plain,
    absolute]

theorem ahead_further (absolute : Path.isAbsolute path = true) (plain : '/' ∉ folder.toList) :
    ahead (further path folder) =
      if folder = "" then ahead path else ahead path ++ (folder ++ "/") := by
  have slash : String.ofList ['/'] = "/" := rfl
  have elsewhere := not_isHere_of_isAbsolute absolute
  have elsewhereNext := not_isHere_of_isAbsolute (isAbsolute_further absolute plain)
  rw [ahead, if_neg elsewhereNext, further_eq path plain, ahead, if_neg elsewhere,
    String.toList_append, String.toList_ofList]
  split
  · next nothing =>
      rw [nothing, String.toList_empty, List.append_nil, stem_stem]
  · next something =>
      have filled := mt String.toList_eq_nil_iff.mp something
      rw [stem_stem_append _ plain filled, String.ofList_append, String.ofList_append,
        String.ofList_toList, slash, String.append_assoc]

theorem ahead_foldl (absolute : Path.isAbsolute path = true)
    (plain : ∀ folder ∈ folders, '/' ∉ folder.toList) :
    ahead (folders.foldl further path) =
      ahead path ++ String.join ((folders.filter (· ≠ "")).map (· ++ "/")) := by
  induction folders generalizing path with
  | nil => exact String.append_empty.symm
  | cons folder folders ih =>
      obtain ⟨plainFolder, plainOthers⟩ := List.forall_mem_cons.mp plain
      rw [List.foldl_cons, ih (isAbsolute_further absolute plainFolder) plainOthers,
        ahead_further absolute plainFolder]
      by_cases nothing : folder = ""
      · rw [if_pos nothing, List.filter_cons_of_neg (by simpa using nothing)]
      · rw [if_neg nothing, List.filter_cons_of_pos (by simpa using nothing), List.map_cons,
          String.join_cons, String.append_assoc]

theorem filter_pieces (text : List Char) :
    (pieces text).filter (· ≠ []) = (Path.cut text).filter (· ≠ []) := by
  rw [pieces]
  split
  · next ends =>
      obtain ⟨before, cuts⟩ := List.getLast?_eq_some_iff.mp ends
      rw [cuts, List.dropLast_concat, List.filter_append]
      exact (List.append_nil _).symm
  · rfl

theorem filter_foldersOf (absolute : Path.isAbsolute root = true) :
    (foldersOf root).filter (· ≠ "") = (Path.parts root).filter (· ≠ "") := by
  obtain ⟨rest, text⟩ := exists_of_isAbsolute absolute
  have same : (fun part : String => decide (part ≠ "")) ∘ String.ofList =
      fun part => decide (part ≠ []) := by
    funext part
    simp
  rw [foldersOf, Path.parts, absolute, if_pos rfl, text, Path.cut_slash, List.filter_map,
    List.filter_map, same]
  exact congrArg _ (filter_pieces rest)

end Rehearsal.Glob

namespace Rehearsal.Listing

open Glob (further lastFolder isTelling room)
open Volume (checkPath_eq_ok_iff resolve_eq_ok_iff IsName pathLimit nameLimit)

variable {volume : Volume} {root name : String} {scenario : Option String} {place : List String}
  {items : List (String × Item)}

/-- The path of a name right under an absolute directory, with single slashes. -/
def under (root name : String) : String :=
  "/" ++ String.join (((Path.parts root).filter (· ≠ "")).map (· ++ "/")) ++ name

theorem further_lastFolder (absolute : Path.isAbsolute root = true) (plain : '/' ∉ name.toList) :
    further (lastFolder root) name = under root name := by
  have slash : Glob.ahead "/" = "/" := rfl
  rw [Glob.further_eq _ plain, lastFolder, Glob.base, if_pos absolute,
    Glob.ahead_foldl rfl (Glob.plain_foldersOf root), Glob.filter_foldersOf absolute, slash, under]

/-! ## What is listed -/

/-- What the names of a scenario's reports begin with. -/
def sought : Option String → String
  | some scenario => scenario ++ "-"
  | none => ""

theorem pattern_eq_below (root : String) (scenario : Option String) :
    pattern root scenario = Glob.below root (sought scenario).toList := by
  have star : String.ofList ['*'] = "*" := rfl
  have hyphen : String.ofList (['-'].flatMap Glob.escapeChar) = "-" := rfl
  cases scenario with
  | none => rfl
  | some scenario =>
      have text : (sought (some scenario)).toList = scenario.toList ++ ['-'] := String.toList_append
      rw [pattern, opening, Glob.below, text, List.flatMap_append, String.ofList_append,
        String.ofList_append, hyphen, star, Glob.escape, Glob.escape]

theorem isTelling_sought (scenario : Option String) : isTelling (sought scenario).toList := by
  cases scenario with
  | none => exact .inl rfl
  | some scenario =>
      refine .inr ?_
      rw [sought, String.toList_append]
      exact List.mem_append_right _ List.mem_cons_self

theorem plain_sought (plain : ∀ text ∈ scenario, '/' ∉ text.toList) :
    '/' ∉ (sought scenario).toList := by
  cases scenario with
  | none => exact List.not_mem_nil
  | some scenario =>
      rw [sought, String.toList_append, List.mem_append, not_or]
      exact ⟨plain scenario rfl, by decide⟩

/-- What the system takes for the name of an item. -/
structure Nameable (name : String) : Prop where
  named : IsName name
  unmarked : '\x00' ∉ name.toList
  short : name.utf8ByteSize ≤ nameLimit

instance : Decidable (Nameable name) :=
  decidable_of_iff ((name ≠ "" ∧ name ≠ "." ∧ name ≠ "..") ∧ '\x00' ∉ name.toList ∧
      name.utf8ByteSize ≤ nameLimit)
    ⟨fun ⟨named, unmarked, short⟩ => ⟨named, unmarked, short⟩,
      fun nameable => ⟨nameable.named, nameable.unmarked, nameable.short⟩⟩

section

variable (sound : volume.Sound) (absolute : Path.isAbsolute root = true)
  (resolved : volume.resolve (lastFolder root) = .ok place) (plain : '/' ∉ name.toList)
  (nameable : Nameable name)

include sound absolute resolved plain nameable

/-- A directory is seen by its path, unless that is too long. -/
theorem hasDirectory_lastFolder_iff :
    volume.hasDirectory (further (lastFolder root) name) = true ↔
      (∃ inner, volume.root.at? (place ++ [name]) = some (.directory inner)) ∧
        (under root name).utf8ByteSize < pathLimit := by
  rw [Glob.hasDirectory_further_iff sound resolved plain nameable.named, checkPath_eq_ok_iff,
    Item.listed?_isSome_iff, further_lastFolder absolute plain]
  constructor
  · intro seen
    obtain ⟨⟨-, -, short⟩, -, directory⟩ := seen
    exact ⟨directory, short⟩
  · intro seen
    obtain ⟨⟨inner, found⟩, short⟩ := seen
    obtain ⟨names, lists, member⟩ :=
      (Item.at?_isSome_iff place name volume.root).mp (by rw [found]; rfl)
    have unmarked := (checkPath_eq_ok_iff.mp (resolve_eq_ok_iff.mp resolved).1).1
    rw [← further_lastFolder absolute plain] at short ⊢
    refine ⟨⟨?_, ?_, short⟩, ?_, inner, found⟩
    · rw [Glob.further_eq _ plain, String.toList_append, List.mem_append, not_or]
      exact ⟨Glob.unmarked_ahead unmarked, nameable.unmarked⟩
    · rw [Glob.further_eq _ plain]
      exact fun nothing => nameable.named.1 (String.append_eq_empty_iff.mp nothing).2
    · exact Volume.step_eq_ok_iff.mpr (.down nameable.named nameable.short lists member)

theorem resolve_under (seen : volume.hasDirectory (further (lastFolder root) name) = true) :
    volume.resolve (under root name) = .ok (place ++ [name]) := by
  obtain ⟨checked, stepped, -⟩ :=
    (Glob.hasDirectory_further_iff sound resolved plain nameable.named).mp seen
  rw [← further_lastFolder absolute plain, Glob.resolve_further sound resolved plain, checked]
  exact stepped

end

/-! ## The listing -/

variable {names : List String} {begins : List Char}

def byName (names : List String) : List String := names.mergeSort fun a b => decide (a ≤ b)

theorem mem_byName_iff : name ∈ byName names ↔ name ∈ names :=
  (List.mergeSort_perm _ _).mem_iff

theorem byName_pairwise (distinct : names.Nodup) : (byName names).Pairwise (· < ·) := by
  have sorted : (byName names).Pairwise fun a b => decide (a ≤ b) = true :=
    List.pairwise_mergeSort (by simpa using fun _ _ _ => String.le_trans)
      (by simpa using String.le_total) names
  have apart : (byName names).Nodup := (List.mergeSort_perm _ _).nodup_iff.mpr distinct
  refine (sorted.and apart).imp fun both => ?_
  exact Std.lt_of_le_of_ne (of_decide_eq_true both.1) both.2

theorem further_lt_further (path : String) {later : String} (plain : '/' ∉ name.toList)
    (plainLater : '/' ∉ later.toList) (less : name < later) :
    further path name < further path later := by
  rw [Glob.further_eq path plain, Glob.further_eq path plainLater, String.lt_iff,
    String.toList_append, String.toList_append]
  exact List.append_left_lt less

/-- The names that are listed of those in the directory that a path leads to. -/
def listed (volume : Volume) (path : String) (begins : List Char) (names : List String) :
    List String :=
  (byName names).filter fun name =>
    volume.hasDirectory (further path name) && begins.isPrefixOf name.toList

theorem mem_listed_iff {path : String} :
    name ∈ listed volume path begins names ↔
      name ∈ names ∧ volume.hasDirectory (further path name) = true ∧ begins <+: name.toList := by
  rw [listed, List.mem_filter, mem_byName_iff, Bool.and_eq_true, List.isPrefixOf_iff_prefix]

theorem listed_pairwise (path : String) (distinct : names.Nodup) :
    (listed volume path begins names).Pairwise (· < ·) :=
  (byName_pairwise distinct).filter _

/-- Paths of names that are in order are in order themselves, so that sorting them changes
nothing. -/
theorem sort_listed (path : String) (tidy : Volume.Tidy names) :
    (((((byName names).filter fun name => begins.isPrefixOf name.toList).map
        (further path)).filter volume.hasDirectory).mergeSort fun a b => decide (a ≤ b)) =
      (listed volume path begins names).map (further path) := by
  obtain ⟨distinct, plain⟩ := tidy
  have seen : (((byName names).filter fun name => begins.isPrefixOf name.toList).map
      (further path)).filter volume.hasDirectory =
        (listed volume path begins names).map (further path) := by
    simp only [listed, List.filter_map, List.filter_filter, Function.comp_apply]
  have sorted : ((listed volume path begins names).map (further path)).Pairwise
      fun a b => decide (a ≤ b) = true := by
    refine List.pairwise_map.mpr ((listed_pairwise path distinct).imp_of_mem ?_)
    intro first second member memberSecond less
    have later := further_lt_further path (plain first (mem_listed_iff.mp member).1)
      (plain second (mem_listed_iff.mp memberSecond).1) less
    exact decide_eq_true (Std.le_of_lt later)
  rw [seen, List.mergeSort_of_pairwise sorted]

theorem reports_eq (sound : volume.Sound) (absolute : Path.isAbsolute root = true)
    (leads : volume.resolve root = .ok place) (lists : volume.root.listed? place = some names)
    (plain : ∀ text ∈ scenario, '/' ∉ text.toList) :
    volume.resolve (lastFolder root) = .ok place ∧
      reports volume root scenario =
        .ok ((listed volume (lastFolder root) (sought scenario).toList names).map
          (further (lastFolder root))) := by
  have filled : ¬root.isEmpty = true := by
    intro nothing
    rw [String.isEmpty_iff.mp nothing] at absolute
    exact Bool.false_ne_true absolute
  have leads : volume.Leads root place := by
    rw [Volume.Leads, if_neg filled]
    exact leads
  have straight : Glob.isLost root.toList = false :=
    Bool.eq_false_iff.mpr fun lost =>
      Bool.false_ne_true ((Glob.relative_of_isLost lost).symm.trans absolute)
  obtain ⟨resolved, -, found⟩ := Glob.find_lastFolder sound leads lists straight
    (plain_sought plain) (isTelling_sought scenario)
  refine ⟨resolved, ?_⟩
  rw [reports, pattern_eq_below, found]
  exact congrArg Except.ok (sort_listed _ (sound.tidy place names lists))

/-- The reports below an absolute directory are those directories right under it whose name begins
as they should and whose path is not too long, in the order of the bytes of their names. -/
theorem reports_below (sound : volume.Sound) (absolute : Path.isAbsolute root = true)
    (leads : volume.resolve root = .ok place)
    (there : volume.root.at? place = some (.directory items))
    (nameable : ∀ item ∈ items, Nameable item.1)
    (plain : ∀ text ∈ scenario, '/' ∉ text.toList) :
    ∃ found : List String, reports volume root scenario = .ok (found.map (under root)) ∧
      found.Pairwise (fun first second => Text.Utf8.encode first < Text.Utf8.encode second) ∧
      (∀ name, name ∈ found ↔
        (∃ inner, volume.root.at? (place ++ [name]) = some (.directory inner)) ∧
          (sought scenario).toList <+: name.toList ∧
          (under root name).utf8ByteSize < pathLimit) ∧
      ∀ name ∈ found, volume.resolve (under root name) = .ok (place ++ [name]) := by
  have lists := Item.listed?_of_at? there
  obtain ⟨distinct, plainNames⟩ := sound.tidy place _ lists
  obtain ⟨resolved, told⟩ := reports_eq sound absolute leads lists plain
  have nameableNames (name : String) (member : name ∈ items.map Prod.fst) : Nameable name := by
    obtain ⟨item, among, rfl⟩ := List.mem_map.mp member
    exact nameable item among
  have seenIff (name : String) (member : name ∈ items.map Prod.fst) :=
    hasDirectory_lastFolder_iff sound absolute resolved (plainNames name member)
      (nameableNames name member)
  refine ⟨listed volume (lastFolder root) (sought scenario).toList (items.map Prod.fst), ?_, ?_,
    fun name => ?_, fun name member => ?_⟩
  · rw [told]
    refine congrArg Except.ok (List.map_congr_left fun name member => ?_)
    exact further_lastFolder absolute (plainNames name (mem_listed_iff.mp member).1)
  · exact (listed_pairwise _ distinct).imp Text.Utf8.encode_lt_encode
  · rw [mem_listed_iff]
    constructor
    · intro kept
      obtain ⟨member, seen, begins⟩ := kept
      obtain ⟨directory, short⟩ := (seenIff name member).mp seen
      exact ⟨directory, begins, short⟩
    · intro kept
      obtain ⟨directory, begins, short⟩ := kept
      have member : name ∈ items.map Prod.fst :=
        Item.mem_of_listed? lists (Item.listed?_isSome_iff.mpr directory)
      exact ⟨member, (seenIff name member).mpr ⟨directory, short⟩, begins⟩
  · obtain ⟨among, seen, -⟩ := mem_listed_iff.mp member
    exact resolve_under sound absolute resolved (plainNames name among)
      (nameableNames name among) seen

def starred : List (String × Item) :=
  [("zoom-2", .directory []), ("[x]-1", .directory []), ("x-1", .directory []),
    ("[x]-log", .file []), ("[x]", .directory [])]

def marked : Volume := ⟨.directory [("a[*]?", .directory starred)], []⟩

theorem neat_starred : ∀ entry ∈ starred, Volume.Neat entry.2 := by
  simp [starred, Volume.neat_bare, Volume.Neat.file]

theorem sound_marked : marked.Sound := by
  refine ⟨⟨["a[*]?"], rfl⟩, Volume.Neat.tidy (.directory ⟨by decide, by decide⟩ ?_)⟩
  exact List.forall_mem_singleton.mpr (.directory ⟨by decide, by decide⟩ neat_starred)

theorem reports_below_marked :
    marked.Sound ∧ Path.isAbsolute "/a[*]?/" = true ∧
      marked.resolve "/a[*]?/" = .ok ["a[*]?"] ∧
      marked.root.at? ["a[*]?"] = some (.directory starred) ∧
      (∀ item ∈ starred, Nameable item.1) ∧ (∀ text ∈ some "[x]", '/' ∉ text.toList) ∧
      ∃ found : List String,
        reports marked "/a[*]?/" (some "[x]") = .ok (found.map (under "/a[*]?/")) ∧
          found.Pairwise (fun first second => Text.Utf8.encode first < Text.Utf8.encode second) ∧
          (∀ name, name ∈ found ↔
            (∃ inner, marked.root.at? (["a[*]?"] ++ [name]) = some (.directory inner)) ∧
              (sought (some "[x]")).toList <+: name.toList ∧
              (under "/a[*]?/" name).utf8ByteSize < pathLimit) ∧
          ∀ name ∈ found,
            marked.resolve (under "/a[*]?/" name) = .ok (["a[*]?"] ++ [name]) := by
  have absolute : Path.isAbsolute "/a[*]?/" = true := by decide
  have leads : marked.resolve "/a[*]?/" = .ok ["a[*]?"] := rfl
  have there : marked.root.at? ["a[*]?"] = some (.directory starred) := rfl
  have nameable : ∀ item ∈ starred, Nameable item.1 := by decide
  have plain : ∀ text ∈ some "[x]", '/' ∉ text.toList := by decide
  exact ⟨sound_marked, absolute, leads, there, nameable, plain,
    reports_below sound_marked absolute leads there nameable plain⟩

/-! ## A report that is out of reach -/

def long (c : Char) (size : Nat) : String := String.ofList (List.replicate size c)

theorem eq_of_mem_long {c other : Char} {size : Nat} (member : other ∈ (long c size).toList) :
    other = c := by
  rw [long, String.toList_ofList] at member
  exact List.eq_of_mem_replicate member

theorem size_long (c : Char) (size : Nat) :
    (long c size).utf8ByteSize = size * c.utf8Size := by
  induction size with
  | zero => exact (Nat.zero_mul _).symm
  | succ size ih =>
      have first : long c (size + 1) = String.singleton c ++ long c size := by
        refine String.toList_injective ?_
        rw [long, long, String.toList_append, String.toList_ofList, String.toList_ofList,
          String.toList_singleton, List.replicate_succ]
        rfl
      rw [first, String.utf8ByteSize_append, ih, String.utf8ByteSize_singleton, Nat.succ_mul,
        Nat.add_comm]

theorem nameable_of_size (large : 2 < name.utf8ByteSize) (short : name.utf8ByteSize ≤ nameLimit)
    (unmarked : '\x00' ∉ name.toList) : Nameable name := by
  refine ⟨⟨?_, ?_, ?_⟩, unmarked, short⟩ <;> rintro rfl <;> revert large <;> decide

def folder : String := long 'd' 240

def kept : String := "zoom-" ++ long 'x' 235

def distant : Volume := ⟨.directory [(folder, .directory [(kept, .directory [])])], []⟩

def laps (count : Nat) : List String := (List.replicate count [folder, ".."]).flatten

def winding : String := String.join (("" :: laps 15).map (· ++ "/")) ++ folder

theorem size_folder : folder.utf8ByteSize = 240 := size_long 'd' 240

theorem size_kept : kept.utf8ByteSize = 240 := by
  rw [kept, String.utf8ByteSize_append, size_long]
  rfl

theorem plain_folder : '/' ∉ folder.toList := fun member =>
  absurd (eq_of_mem_long member) (by decide)

theorem nameable_folder : Nameable folder := by
  have limit : nameLimit = 255 := rfl
  have size := size_folder
  refine nameable_of_size (by omega) (by omega) fun member => ?_
  exact absurd (eq_of_mem_long member) (by decide)

theorem mem_kept {c : Char} (member : c ∈ kept.toList) : c ∈ "zoom-".toList ∨ c = 'x' := by
  rw [kept, String.toList_append, List.mem_append] at member
  exact member.imp_right eq_of_mem_long

theorem plain_kept : '/' ∉ kept.toList := fun member =>
  absurd (mem_kept member) (by decide)

theorem nameable_kept : Nameable kept := by
  have limit : nameLimit = 255 := rfl
  have size := size_kept
  refine nameable_of_size (by omega) (by omega) fun member => ?_
  exact absurd (mem_kept member) (by decide)

theorem mem_laps {count : Nat} {part : String} (member : part ∈ laps count) :
    part = folder ∨ part = ".." := by
  obtain ⟨lap, among, inside⟩ := List.mem_flatten.mp member
  rw [List.eq_of_mem_replicate among] at inside
  simpa using inside

theorem laps_succ (count : Nat) : laps (count + 1) = folder :: ".." :: laps count := by
  rw [laps, laps, List.replicate_succ, List.flatten_cons]
  rfl

theorem room_laps (count : Nat) : room (laps count) = 244 * count := by
  have up : "..".utf8ByteSize = 2 := rfl
  induction count with
  | zero => rfl
  | succ count ih =>
      rw [laps_succ, Glob.room_cons, Glob.room_cons, ih, size_folder, up]
      omega

theorem listed_distant : distant.root.listed? [] = some [folder] := rfl

theorem at?_folder : distant.root.at? [folder] = some (.directory [(kept, .directory [])]) := by
  simp [distant, Item.at?, Item.items]

theorem step_folder : distant.step [] folder = .ok [folder] :=
  Volume.step_eq_ok_iff.mpr (.down nameable_folder.named nameable_folder.short listed_distant
    List.mem_cons_self)

theorem walk_laps (count : Nat) : distant.walk [] (laps count) = .ok [] := by
  have lists := Item.listed?_of_at? at?_folder
  have up : distant.step [folder] ".." = .ok [] := Volume.step_eq_ok_iff.mpr (.up lists)
  induction count with
  | zero => rfl
  | succ count ih =>
      simp only [laps_succ, Volume.walk_cons, step_folder, up, Except.bind, ih]

theorem parts_winding : Path.parts winding = "" :: laps 15 ++ [folder] := by
  refine Path.parts_join_ended (fun part member => ?_) plain_folder
  rcases List.mem_cons.mp member with rfl | member
  · decide
  · rcases mem_laps member with rfl | rfl
    · exact plain_folder
    · decide

theorem size_winding : winding.utf8ByteSize = 3901 := by
  rw [winding, String.utf8ByteSize_append, Glob.size_join, Glob.room_cons, room_laps, size_folder]
  rfl

theorem isAbsolute_winding : Path.isAbsolute winding = true := by
  rw [winding, Path.isAbsolute, List.map_cons, String.join_cons, String.toList_append,
    String.toList_append]
  rfl

theorem unmarked_winding : '\x00' ∉ winding.toList := by
  intro member
  rw [winding, String.toList_append, List.mem_append, String.toList_join] at member
  rcases member with among | last
  · obtain ⟨ended, amongParts, inside⟩ := List.mem_flatMap.mp among
    obtain ⟨part, among, rfl⟩ := List.mem_map.mp amongParts
    rw [String.toList_append, List.mem_append] at inside
    rcases inside with inside | slash
    · rcases List.mem_cons.mp among with rfl | among
      · exact absurd inside (by decide)
      · rcases mem_laps among with rfl | rfl
        · exact absurd (eq_of_mem_long inside) (by decide)
        · exact absurd inside (by decide)
    · exact absurd slash (by decide)
  · exact absurd (eq_of_mem_long last) (by decide)

theorem resolve_winding : distant.resolve winding = .ok [folder] := by
  have limit : pathLimit = 4096 := rfl
  have size := size_winding
  have stays : distant.step [] "" = .ok [] :=
    Volume.step_eq_ok_iff.mpr (.stay (.inl rfl) listed_distant)
  refine resolve_eq_ok_iff.mpr ⟨checkPath_eq_ok_iff.mpr ⟨unmarked_winding, ?_, by omega⟩, ?_⟩
  · intro nothing
    rw [nothing] at size
    exact absurd size (by decide)
  · rw [Volume.start, if_pos isAbsolute_winding, parts_winding, Volume.walk_append,
      Volume.walk_cons, stays]
    simp only [Except.bind, walk_laps, Volume.walk_cons, step_folder]
    rfl

theorem size_under_winding : (under winding kept).utf8ByteSize = 4142 := by
  have slash : "/".utf8ByteSize = 1 := rfl
  have parts : (Path.parts winding).filter (· ≠ "") = laps 15 ++ [folder] := by
    rw [parts_winding, List.cons_append, List.filter_cons_of_neg (by decide)]
    refine List.filter_eq_self.mpr fun part member => decide_eq_true ?_
    rcases List.mem_append.mp member with among | last
    · rcases mem_laps among with rfl | rfl
      · exact nameable_folder.named.1
      · decide
    · rw [List.mem_singleton.mp last]
      exact nameable_folder.named.1
  rw [under, parts, String.utf8ByteSize_append, String.utf8ByteSize_append, Glob.size_join, slash,
    size_kept, Glob.room_append, room_laps, Glob.room_cons, size_folder]
  rfl

theorem neat_distant : Volume.Neat distant.root := by
  refine .directory ⟨List.nodup_singleton _, List.forall_mem_singleton.mpr plain_folder⟩ ?_
  refine List.forall_mem_singleton.mpr (.directory ?_ ?_)
  · exact ⟨List.nodup_singleton _, List.forall_mem_singleton.mpr plain_kept⟩
  · exact List.forall_mem_singleton.mpr Volume.neat_bare

theorem reports_winding :
    distant.Sound ∧ Path.isAbsolute winding = true ∧ distant.resolve winding = .ok [folder] ∧
      distant.root.at? [folder] = some (.directory [(kept, .directory [])]) ∧
      Nameable kept ∧ (∀ text ∈ some "zoom", '/' ∉ text.toList) ∧
      (sought (some "zoom")).toList <+: kept.toList ∧
      reports distant winding (some "zoom") = .ok [] := by
  have sound : distant.Sound := ⟨⟨[folder], listed_distant⟩, neat_distant.tidy⟩
  have plain : ∀ text ∈ some "zoom", '/' ∉ text.toList := by decide
  have begins : (sought (some "zoom")).toList <+: kept.toList := by
    rw [kept, String.toList_append]
    exact List.prefix_append _ _
  obtain ⟨resolved, told⟩ :=
    reports_eq sound isAbsolute_winding resolve_winding (Item.listed?_of_at? at?_folder) plain
  have unseen : ¬distant.hasDirectory (further (lastFolder winding) kept) = true := by
    rw [hasDirectory_lastFolder_iff sound isAbsolute_winding resolved plain_kept nameable_kept,
      size_under_winding]
    exact fun seen => absurd seen.2 (by decide)
  have nothing : listed distant (lastFolder winding) (sought (some "zoom")).toList [kept] = [] := by
    refine List.eq_nil_iff_forall_not_mem.mpr fun name member => ?_
    obtain ⟨among, seen, -⟩ := mem_listed_iff.mp member
    rw [List.mem_singleton.mp among] at seen
    exact unseen seen
  refine ⟨sound, isAbsolute_winding, resolve_winding, at?_folder, nameable_kept, plain, begins, ?_⟩
  rw [told]
  exact congrArg (fun names => Except.ok (names.map (further (lastFolder winding)))) nothing

end Rehearsal.Listing
