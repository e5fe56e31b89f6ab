import Mathlib.Data.List.Forall2
import Rehearsal.Proofs.Glob.Finding
import Rehearsal.Proofs.Report.Filing
import Rehearsal.Proofs.Report.Listing
import Rehearsal.Proofs.Trail.Calendar
import Rehearsal.Report.Basic
import Rehearsal.Scenario.Catalogue
/-!
# Reports that are collected under a root

Reports are made one after the other under a root that holds files at first, among other files that
are written. Those of a scenario are found again by its name, each of them and no others, and their
names put them in the order of their times.
-/

set_option autoImplicit false

namespace Rehearsal.Listing

open Glob (further isLost ahead isTelling)
open Rehearsal.Path (stem)
open Volume (checkPath checkPath_eq_ok_iff resolve_eq_ok_iff IsName)

/-! ## Names of reports -/

/-- A report of a scenario of the catalogue, at a time in a year of four digits. -/
structure Shot where
  scenario : String
  seconds : Nat
  nanoseconds : Nat
  known : scenario ∈ Catalogue.all.map Scenario.name
  last : (Instant.ofEpoch seconds nanoseconds).year ≤ 9999

namespace Shot

def time (shot : Shot) : Instant := .ofEpoch shot.seconds shot.nanoseconds

def name (shot : Shot) : String := Reporter.directoryName shot.scenario shot.time

def millisecond (shot : Shot) : Nat := Instant.milliseconds shot.seconds shot.nanoseconds

end Shot

variable {shot other : Shot} {scenario : String}

def openingOf (scenario : String) : List Char := scenario.toList ++ ['-']

theorem toList_name (shot : Shot) :
    shot.name.toList = openingOf shot.scenario ++ shot.time.stamp.toList := by
  have parts : shot.name = shot.scenario ++ "-" ++ shot.time.stamp := rfl
  rw [parts, String.toList_append, String.toList_append]
  rfl

theorem plain_openingOf (known : scenario ∈ Catalogue.all.map Scenario.name) :
    '/' ∉ openingOf scenario := by
  have all : ∀ scenario ∈ Catalogue.all.map Scenario.name, '/' ∉ openingOf scenario := by decide
  exact all scenario known

theorem plain_name (shot : Shot) : '/' ∉ shot.name.toList := by
  rw [toList_name, List.mem_append, not_or]
  exact ⟨plain_openingOf shot.known, Instant.slash_not_mem_stamp shot.time⟩

theorem isName_of_opening {name : String} (begins : openingOf scenario <+: name.toList) :
    IsName name := by
  have hyphen : '-' ∈ name.toList :=
    begins.subset (List.mem_append_right _ List.mem_cons_self)
  refine ⟨?_, ?_, ?_⟩ <;> rintro rfl <;> revert hyphen <;> decide

theorem opening_begins (shot : Shot) : openingOf shot.scenario <+: shot.name.toList :=
  ⟨_, (toList_name shot).symm⟩

/-- No scenario's name goes on, after a hyphen, to that of another. -/
theorem openings_apart {first second : String}
    (known : first ∈ Catalogue.all.map Scenario.name)
    (knownSecond : second ∈ Catalogue.all.map Scenario.name)
    (begins : openingOf first <+: openingOf second) : first = second := by
  have all : ∀ first ∈ Catalogue.all.map Scenario.name,
      ∀ second ∈ Catalogue.all.map Scenario.name,
        openingOf first <+: openingOf second → first = second := by decide
  exact all first known second knownSecond begins

theorem scenario_of_opening (known : scenario ∈ Catalogue.all.map Scenario.name)
    (begins : openingOf scenario <+: shot.name.toList) : shot.scenario = scenario := by
  rcases List.prefix_or_prefix_of_prefix begins (opening_begins shot) with shorter | longer
  · exact (openings_apart known shot.known shorter).symm
  · exact openings_apart shot.known known longer

theorem name_lt_name (same : shot.scenario = other.scenario)
    (earlier : shot.millisecond < other.millisecond) : shot.name < other.name := by
  rw [String.lt_iff, toList_name, toList_name, same]
  exact List.append_left_lt (Instant.stamp_lt_stamp earlier shot.last other.last)

/-! ## Collecting -/

variable {root : String} {shots : List Shot} {volume before after : Volume} {place : List String}

/-- How reports are collected under a root. It is there before the first of them is made, since a
run begins with making it. -/
inductive Collected (root : String) : List Shot → Volume → Prop where
  | bare {volume : Volume} {place names : List String} :
      volume.Sound → volume.Leads root place → volume.root.listed? place = some names →
        (∀ name ∈ names, volume.root.listed? (place ++ [name]) = none) → Collected root [] volume
  | written {shots : List Shot} {before after : Volume} {path : String} {contents : Bytes} :
      Collected root shots before → before.write path contents = .ok after →
        Collected root shots after
  | captured {σ : Type} {shots : List Shot} {before after : Volume} {pictures : Bool}
      {error : RunError} {context rest : Option (Procedure σ)} {diagnostics : Diagnostics}
      (shot : Shot) :
      Collected root shots before →
        Reporter.capture ⟨root, pictures⟩ Volume.store shot.scenario error shot.time context
            before = (diagnostics, after, rest) → diagnostics.directory.isSome = true →
          Collected root (shots ++ [shot]) after

/-- What a volume is where reports have been collected: their directories, and no others, are right
under the root. -/
structure Keeps (root : String) (place : List String) (shots : List Shot) (volume : Volume) :
    Prop where
  sound : volume.Sound
  leads : volume.Leads root place
  lists : ∃ names, volume.root.listed? place = some names
  directories : ∀ name, (volume.root.listed? (place ++ [name])).isSome = true ↔
    ∃ shot ∈ shots, shot.name = name
  stepped : ∀ shot ∈ shots, volume.step place shot.name = .ok (place ++ [shot.name])
  checked : ∀ shot ∈ shots, checkPath (Path.join root shot.name) = .ok ()

theorem leads_of_grows (grows : before.Grows after) (leads : before.Leads root place) :
    after.Leads root place := by
  rw [Volume.Leads, resolve_eq_ok_iff] at leads ⊢
  obtain ⟨checked, walked⟩ := leads
  rw [grows.start]
  exact ⟨checked, grows.walk walked⟩

theorem keeps_bare {names : List String} (sound : volume.Sound) (leads : volume.Leads root place)
    (lists : volume.root.listed? place = some names)
    (flat : ∀ name ∈ names, volume.root.listed? (place ++ [name]) = none) :
    Keeps root place [] volume := by
  refine ⟨sound, leads, ⟨names, lists⟩, fun name => ?_, List.forall_mem_nil _,
    List.forall_mem_nil _⟩
  constructor
  · intro there
    rw [flat name (Item.mem_of_listed? lists there)] at there
    exact absurd there Bool.false_ne_true
  · rintro ⟨shot, none, -⟩
    exact absurd none List.not_mem_nil

/-- Files, and directories right under the root for more reports, keep what has been collected. -/
theorem Keeps.adds {more : List Shot} (keeps : Keeps root place shots before)
    (adds : before.Adds after (more.map fun shot => place ++ [shot.name]))
    (stepped : ∀ shot ∈ more, after.step place shot.name = .ok (place ++ [shot.name]))
    (checked : ∀ shot ∈ more, checkPath (Path.join root shot.name) = .ok ()) :
    Keeps root place (shots ++ more) after := by
  obtain ⟨names, lists⟩ := keeps.lists
  obtain ⟨listed, listsAfter, -⟩ := adds.grows.names place names lists
  refine ⟨adds.sound keeps.sound, leads_of_grows adds.grows keeps.leads, ⟨listed, listsAfter⟩,
    fun name => ?_, fun shot member => ?_, fun shot member => ?_⟩
  · rw [adds.directories, keeps.directories]
    simp [or_and_right, exists_or]
  · rcases List.mem_append.mp member with old | new
    · exact adds.grows.step (keeps.stepped shot old)
    · exact stepped shot new
  · rcases List.mem_append.mp member with old | new
    · exact keeps.checked shot old
    · exact checked shot new

theorem Keeps.adds_nothing (keeps : Keeps root place shots before) (adds : before.Adds after []) :
    Keeps root place shots after := by
  have nothing : ([] : List Shot).map (fun shot => place ++ [shot.name]) = [] := rfl
  rw [← nothing] at adds
  rw [← List.append_nil shots]
  exact keeps.adds adds (List.forall_mem_nil _) (List.forall_mem_nil _)

theorem adds_of_filed {directory : String} {parts : List Report.Portion}
    {saved : List (Report.Artifact × Bytes)} {remarks : List (Report.Artifact × String)}
    (sound : before.Sound)
    (filed : Report.Filed Volume.store directory parts before saved remarks after) :
    before.Adds after [] := by
  induction filed with
  | done files => exact .refl files
  | saved written _ ih =>
      have adds := Volume.adds_of_write sound written
      exact adds.trans (ih (adds.sound sound))
  | refused _ _ ih => exact ih sound
  | lacking _ ih => exact ih sound

theorem Keeps.captured {σ : Type} {reporter : Reporter} {error : RunError}
    {context rest : Option (Procedure σ)} {diagnostics : Diagnostics} (shot : Shot)
    (keeps : Keeps reporter.root place shots before)
    (took : reporter.capture Volume.store shot.scenario error shot.time context before =
      (diagnostics, after, rest))
    (made : diagnostics.directory.isSome = true) :
    Keeps reporter.root place (shots ++ [shot]) after := by
  cases making : Volume.store.makeDirectories
      (Path.join reporter.root (Reporter.directoryName shot.scenario shot.time)) before with
  | error fault =>
      rw [reporter.capture_of_refused shot.scenario error context making] at took
      cases took
      exact absurd made Bool.false_ne_true
  | ok ready =>
      obtain ⟨names, lists⟩ := keeps.lists
      obtain ⟨adds, stepped, checked⟩ := Volume.adds_of_makeDirectories
        (keeps.leads.walk keeps.sound) lists (isName_of_opening (opening_begins shot))
        (plain_name shot) making
      obtain ⟨last, saved, remarks, filed, captured⟩ :=
        reporter.filed_of_capture shot.scenario error context making
      cases captured.symm.trans took
      have files := adds_of_filed (adds.sound keeps.sound) filed
      exact keeps.adds (adds.trans files)
        (List.forall_mem_singleton.mpr (files.grows.step stepped))
        (List.forall_mem_singleton.mpr checked)

theorem keeps_of_collected (collected : Collected root shots volume) :
    ∃ place, Keeps root place shots volume := by
  induction collected with
  | bare sound leads lists flat => exact ⟨_, keeps_bare sound leads lists flat⟩
  | written _ wrote ih =>
      obtain ⟨place, keeps⟩ := ih
      have kept := keeps.adds_nothing (Volume.adds_of_write keeps.sound wrote)
      exact ⟨place, kept⟩
  | captured shot _ took made ih =>
      obtain ⟨place, keeps⟩ := ih
      exact ⟨place, Keeps.captured shot keeps took made⟩

/-! ## Listing -/

/-- Whether a path leads to the directory of a report, as the path that it was made by does. -/
def Shows (volume : Volume) (root : String) (shot : Shot) (path : String) : Prop :=
  volume.hasDirectory path = true ∧
    ∃ place, volume.resolve path = .ok place ∧
      volume.resolve (Path.join root shot.name) = .ok place

theorem pattern_eq (root scenario : String) :
    pattern root (some scenario) = Glob.below root (openingOf scenario) :=
  (pattern_eq_below root (some scenario)).trans
    (congrArg (Glob.below root) String.toList_append)

namespace Keeps

variable (keeps : Keeps root place shots volume)

include keeps

theorem resolve_join (member : shot ∈ shots) :
    volume.resolve (Path.join root shot.name) = .ok (place ++ [shot.name]) := by
  refine resolve_eq_ok_iff.mpr ⟨keeps.checked shot member, ?_⟩
  have plain := plain_name shot
  rw [Volume.start, Path.isAbsolute_join root plain, Path.parts_join root plain,
    Volume.walk_append, ← Volume.start, Volume.walk_pieces (keeps.leads.walk keeps.sound)]
  exact congrArg (Except.bind · _) (keeps.stepped shot member)

variable {path : String} (resolved : volume.resolve path = .ok place)
  (short : (ahead path).utf8ByteSize ≤ (String.ofList (stem root.toList)).utf8ByteSize)

include resolved short

theorem checkPath_further (member : shot ∈ shots) :
    checkPath (further path shot.name) = .ok () := by
  have plain := plain_name shot
  have unmarkedPath := (checkPath_eq_ok_iff.mp (resolve_eq_ok_iff.mp resolved).1).1
  obtain ⟨unmarked, filled, fits⟩ := checkPath_eq_ok_iff.mp (keeps.checked shot member)
  have text : Path.join root shot.name = String.ofList (stem root.toList) ++ shot.name :=
    String.toList_injective <| by
      rw [Path.toList_join root (Path.isAbsolute_of_plain plain), String.toList_append,
        String.toList_ofList]
  rw [text, String.toList_append, List.mem_append, not_or] at unmarked
  rw [text, String.utf8ByteSize_append] at fits
  rw [checkPath_eq_ok_iff, Glob.further_eq path plain, String.toList_append, List.mem_append,
    not_or, String.utf8ByteSize_append]
  refine ⟨⟨Glob.unmarked_ahead unmarkedPath, unmarked.2⟩, fun nothing => ?_, by omega⟩
  exact (isName_of_opening (opening_begins shot)).1 (String.append_eq_empty_iff.mp nothing).2

theorem shows_further (member : shot ∈ shots) :
    Shows volume root shot (further path shot.name) := by
  have checked := keeps.checkPath_further resolved short member
  have stepped := keeps.stepped shot member
  refine ⟨?_, place ++ [shot.name], ?_, keeps.resolve_join member⟩
  · rw [Glob.hasDirectory_further_iff keeps.sound resolved (plain_name shot)
      (isName_of_opening (opening_begins shot))]
    exact ⟨checked, stepped, (keeps.directories _).mpr ⟨shot, member, rfl⟩⟩
  · rw [Glob.resolve_further keeps.sound resolved (plain_name shot), checked]
    exact stepped

theorem mem_listed_iff (known : scenario ∈ Catalogue.all.map Scenario.name) {names : List String}
    (lists : volume.root.listed? place = some names) (name : String) :
    name ∈ listed volume path (openingOf scenario) names ↔
      ∃ shot ∈ shots, shot.scenario = scenario ∧ shot.name = name := by
  rw [Listing.mem_listed_iff]
  constructor
  · rintro ⟨member, directory, begins⟩
    have plain := (keeps.sound.tidy place names lists).2 name member
    rw [Glob.hasDirectory_further_iff keeps.sound resolved plain (isName_of_opening begins)]
      at directory
    obtain ⟨shot, among, rfl⟩ := (keeps.directories name).mp directory.2.2
    exact ⟨shot, among, scenario_of_opening known begins, rfl⟩
  · rintro ⟨shot, among, rfl, rfl⟩
    have there := (keeps.directories shot.name).mpr ⟨shot, among, rfl⟩
    exact ⟨Item.mem_of_listed? lists there, (keeps.shows_further resolved short among).1,
      opening_begins shot⟩

end Keeps

def inOrder (scenario : String) (shots : List Shot) : List Shot :=
  (shots.filter fun shot => shot.scenario = scenario).mergeSort fun first second =>
    decide (first.millisecond ≤ second.millisecond)

theorem perm_inOrder (scenario : String) (shots : List Shot) :
    (inOrder scenario shots).Perm (shots.filter fun shot => shot.scenario = scenario) :=
  List.mergeSort_perm _ _

theorem mem_inOrder_iff :
    shot ∈ inOrder scenario shots ↔ shot ∈ shots ∧ shot.scenario = scenario := by
  rw [(perm_inOrder scenario shots).mem_iff, List.mem_filter, decide_eq_true_eq]

theorem inOrder_pairwise (apart : (shots.map Shot.millisecond).Nodup) (scenario : String) :
    (inOrder scenario shots).Pairwise fun first second =>
      first.millisecond < second.millisecond := by
  have sorted : (inOrder scenario shots).Pairwise fun first second =>
      decide (first.millisecond ≤ second.millisecond) = true :=
    List.pairwise_mergeSort (by simpa using fun _ _ _ => Nat.le_trans)
      (by simpa using fun _ _ => Nat.le_total _ _) _
  have distinct : ((inOrder scenario shots).map Shot.millisecond).Nodup := by
    refine ((perm_inOrder scenario shots).map Shot.millisecond).nodup_iff.mpr ?_
    exact (List.filter_sublist.map Shot.millisecond).nodup apart
  refine (sorted.and (List.pairwise_map.mp distinct)).imp fun both => ?_
  exact Nat.lt_of_le_of_ne (of_decide_eq_true both.1) both.2

theorem names_inOrder_pairwise (apart : (shots.map Shot.millisecond).Nodup) (scenario : String) :
    ((inOrder scenario shots).map Shot.name).Pairwise (· < ·) := by
  refine List.pairwise_map.mpr ((inOrder_pairwise apart scenario).imp_of_mem ?_)
  intro first second member memberSecond earlier
  have same := (mem_inOrder_iff.mp member).2.trans (mem_inOrder_iff.mp memberSecond).2.symm
  exact name_lt_name same earlier

/-- Lists of names that are in order are the same if their members are. -/
theorem eq_of_pairwise_lt {first second : List String} (sorted : first.Pairwise (· < ·))
    (sortedSecond : second.Pairwise (· < ·)) (members : ∀ name, name ∈ first ↔ name ∈ second) :
    first = second := by
  have apart {names : List String} (sorted : names.Pairwise (· < ·)) : names.Nodup := by
    refine sorted.imp fun less same => ?_
    exact String.lt_irrefl _ (same ▸ less)
  have perm := (List.perm_ext_iff_of_nodup (apart sorted) (apart sortedSecond)).mpr members
  refine perm.eq_of_pairwise (fun name later _ _ less more => ?_) sorted sortedSecond
  exact absurd (String.lt_trans less more) (String.lt_irrefl name)

theorem Keeps.sort_told {path : String} (keeps : Keeps root place shots volume)
    (resolved : volume.resolve path = .ok place)
    (short : (ahead path).utf8ByteSize ≤ (String.ofList (stem root.toList)).utf8ByteSize)
    (apart : (shots.map Shot.millisecond).Nodup)
    (known : scenario ∈ Catalogue.all.map Scenario.name) {names : List String}
    (lists : volume.root.listed? place = some names) :
    (((((names.mergeSort fun a b => decide (a ≤ b)).filter fun name =>
        (openingOf scenario).isPrefixOf name.toList).map (further path)).filter
          volume.hasDirectory).mergeSort fun a b => decide (a ≤ b)) =
      (inOrder scenario shots).map fun shot => further path shot.name := by
  have tidy := keeps.sound.tidy place names lists
  have same : listed volume path (openingOf scenario) names =
      (inOrder scenario shots).map Shot.name := by
    refine eq_of_pairwise_lt (listed_pairwise path tidy.1) (names_inOrder_pairwise apart scenario)
      fun name => ?_
    rw [keeps.mem_listed_iff resolved short known lists]
    simp only [List.mem_map, mem_inOrder_iff, and_assoc]
  refine (sort_listed path tidy).trans ?_
  rw [same, List.map_map]
  rfl

/-- The reports of a scenario are listed in the order of their times, unless the root begins with
the current directory and a slash too many. Then none of them is. -/
theorem reports_in_order (collected : Collected root shots volume)
    (apart : (shots.map Shot.millisecond).Nodup)
    (known : scenario ∈ Catalogue.all.map Scenario.name) :
    (isLost root.toList = false → ∃ listed paths,
      reports volume root (some scenario) = .ok paths ∧
        listed.Perm (shots.filter fun shot => shot.scenario = scenario) ∧
        listed.Pairwise (fun first second => first.millisecond < second.millisecond) ∧
        List.Forall₂ (Shows volume root) listed paths) ∧
    (isLost root.toList = true → reports volume root (some scenario) = .ok []) := by
  obtain ⟨place, keeps⟩ := keeps_of_collected collected
  obtain ⟨names, lists⟩ := keeps.lists
  have plain := plain_openingOf known
  constructor
  · intro straight
    have telling : isTelling (openingOf scenario) :=
      .inr (List.mem_append_right _ List.mem_cons_self)
    obtain ⟨path, resolved, short, found⟩ :=
      Glob.find_of_leads keeps.sound keeps.leads lists straight plain telling
    refine ⟨inOrder scenario shots, (inOrder scenario shots).map fun shot => further path shot.name,
      ?_, perm_inOrder scenario shots, inOrder_pairwise apart scenario, ?_⟩
    · rw [reports, pattern_eq, found]
      exact congrArg Except.ok (keeps.sort_told resolved short apart known lists)
    · refine List.forall₂_map_right_iff.mpr (List.forall₂_same.mpr fun shot member => ?_)
      exact keeps.shows_further resolved short (mem_inOrder_iff.mp member).1
  · intro lost
    rw [reports, pattern_eq, Glob.find_of_isLost lost plain]
    exact congrArg Except.ok List.mergeSort_nil

example :
    let report := Reporter.capture ⟨".//", false⟩ Volume.store "zoom" (.backend .notConnected)
      (.ofEpoch 0 0) (none : Option (Procedure Unit)) ⟨.directory [], []⟩
    report.1.directory = some ".//zoom-19700101T000000.000Z" ∧
      (reports report.2.1 ".//" (some "zoom")).toOption = some [] := by
  decide +kernel

theorem collected_nothing : Collected "." [] ⟨.directory [], []⟩ := by
  have sound : (⟨.directory [], []⟩ : Volume).Sound := ⟨⟨[], rfl⟩, Volume.neat_bare.tidy⟩
  exact @Collected.bare "." _ [] [] sound rfl rfl (List.forall_mem_nil _)

def unconnected (root : String) (shot : Shot) (before : Volume) :
    Diagnostics × Volume × Option (Procedure Unit) :=
  Reporter.capture ⟨root, false⟩ Volume.store shot.scenario (.backend .notConnected) shot.time none
    before

theorem collected_unconnected (shot : Shot) (collected : Collected root shots before)
    (made : (unconnected root shot before).1.directory.isSome = true) :
    Collected root (shots ++ [shot]) (unconnected root shot before).2.1 := by
  have took : unconnected root shot before = ((unconnected root shot before).1,
      (unconnected root shot before).2.1, (unconnected root shot before).2.2) := rfl
  exact .captured shot collected took made

def firstDay : Shot := ⟨"zoom", 0, 0, by decide, by decide⟩

def secondDay : Shot := ⟨"zoom", 86400, 5000000, by decide, by decide⟩

theorem reports_in_order_backwards : ∃ volume, Collected "." [secondDay, firstDay] volume ∧
    ([secondDay, firstDay].map Shot.millisecond).Nodup ∧
      "zoom" ∈ Catalogue.all.map Scenario.name ∧ ∃ listed paths,
        reports volume "." (some "zoom") = .ok paths ∧
          listed.Perm ([secondDay, firstDay].filter fun shot => shot.scenario = "zoom") ∧
          listed.Pairwise (fun first second => first.millisecond < second.millisecond) ∧
          List.Forall₂ (Shows volume ".") listed paths := by
  have made : (unconnected "." secondDay ⟨.directory [], []⟩).1.directory.isSome = true := by
    decide +kernel
  have one := collected_unconnected secondDay collected_nothing made
  have madeAgain : (unconnected "." firstDay
      (unconnected "." secondDay ⟨.directory [], []⟩).2.1).1.directory.isSome = true := by
    decide +kernel
  have two := collected_unconnected firstDay one madeAgain
  have known : "zoom" ∈ Catalogue.all.map Scenario.name := by decide
  have apart : ([secondDay, firstDay].map Shot.millisecond).Nodup := by decide
  exact ⟨_, two, apart, known, (reports_in_order two apart known).1 rfl⟩

end Rehearsal.Listing
