import Rehearsal.Proofs.Glob.Walking
/-!
# Finding below a directory

A pattern that is an escaped directory with an escaped text and a star behind it is always read, and
a search for it leads along the folders of the directory. It finds the names there that begin with
the text.
-/

set_option autoImplicit false

namespace Rehearsal

/-- Whether a directory leads to a place. No text stands for the current directory. -/
def Volume.Leads (volume : Volume) (root : String) (place : List String) : Prop :=
  volume.resolve (if root.isEmpty then "." else root) = .ok place

section

open Volume (resolve_eq_ok_iff checkPath_eq_ok_iff pathLimit)

variable {volume : Volume} {root : String} {place : List String}

theorem Volume.Leads.walk (sound : volume.Sound) (leads : volume.Leads root place) :
    volume.walk (volume.start root) (Path.parts root) = .ok place := by
  rw [Leads] at leads
  split at leads
  · next nothing =>
      obtain rfl := String.isEmpty_iff.mp nothing
      obtain ⟨names, lists⟩ := sound.here
      have walked := (resolve_eq_ok_iff.mp leads).2
      have stays (part : String) (dots : part = "" ∨ part = ".") :
          volume.walk volume.here [part] = .ok volume.here := by
        rw [Volume.walk_cons, Volume.step_of_listed lists, if_pos dots]
        rfl
      exact (stays "" (.inl rfl)).trans ((stays "." (.inr rfl)).symm.trans walked)
  · exact (resolve_eq_ok_iff.mp leads).2

theorem Volume.Leads.unmarked (leads : volume.Leads root place) : '\x00' ∉ root.toList := by
  rw [Leads] at leads
  split at leads
  · next nothing =>
      rw [String.isEmpty_iff.mp nothing]
      exact List.not_mem_nil
  · exact (checkPath_eq_ok_iff.mp (resolve_eq_ok_iff.mp leads).1).1

theorem Volume.Leads.short (leads : volume.Leads root place) : root.utf8ByteSize < pathLimit := by
  rw [Leads] at leads
  split at leads
  · next nothing =>
      rw [String.isEmpty_iff.mp nothing]
      decide
  · exact (checkPath_eq_ok_iff.mp (resolve_eq_ok_iff.mp leads).1).2.2

end

namespace Glob

open Rehearsal.Path (stem)
open Volume (resolve_eq_ok_iff)

variable {volume : Volume} {root : String} {place : List String}

/-! ## Reading the pattern of names below a directory -/

theorem toList_escape (text : String) : (escape text).toList = text.toList.flatMap escapeChar := by
  rw [escape, String.toList_ofList]

theorem slash_mem_escaped_iff (text : List Char) :
    '/' ∈ text.flatMap escapeChar ↔ '/' ∈ text := by
  have own (c : Char) : '/' ∈ escapeChar c ↔ c = '/' := by
    rw [escapeChar]
    split <;> simp [eq_comm]
  simp [List.mem_flatMap, own]

theorem escaped_eq_nil_iff (text : List Char) : text.flatMap escapeChar = [] ↔ text = [] := by
  have filled (c : Char) : escapeChar c ≠ [] := by
    rw [escapeChar]
    split <;> exact List.cons_ne_nil _ _
  simp only [List.flatMap_eq_nil_iff, filled, imp_false]
  exact List.eq_nil_iff_forall_not_mem.symm

theorem flatMap_escaped (parts : List (List Char)) :
    (parts.flatMap (· ++ ['/'])).flatMap escapeChar =
      (parts.map (List.flatMap escapeChar)).flatMap (· ++ ['/']) := by
  induction parts with
  | nil => rfl
  | cons part parts ih =>
      rw [List.flatMap_cons, List.flatMap_append, ih, List.map_cons, List.flatMap_cons,
        List.flatMap_append]
      rfl

theorem cut_escaped (text : List Char) :
    Path.cut (text.flatMap escapeChar) = (Path.cut text).map (List.flatMap escapeChar) := by
  obtain ⟨parts, last, cuts, same⟩ := Path.exists_cut text
  have plain (part : List Char) (member : part ∈ parts ++ [last]) : '/' ∉ part :=
    Path.slash_not_mem_cut (cuts ▸ member)
  rw [cuts, same, List.flatMap_append, flatMap_escaped, List.map_append]
  refine Path.cut_flatMap (fun escaped member => ?_) ?_
  · obtain ⟨part, among, rfl⟩ := List.mem_map.mp member
    rw [slash_mem_escaped_iff]
    exact plain part (List.mem_append_left _ among)
  · rw [slash_mem_escaped_iff]
    exact plain last (List.mem_append_right _ List.mem_cons_self)

theorem pieces_escaped (text : List Char) :
    pieces (text.flatMap escapeChar) = (pieces text).map (List.flatMap escapeChar) := by
  rw [pieces, pieces, cut_escaped, List.getLast?_map]
  have ends : (Path.cut text).getLast?.map (List.flatMap escapeChar) = some [] ↔
      (Path.cut text).getLast? = some [] := by
    cases (Path.cut text).getLast? with
    | none => simp
    | some last => simp only [Option.map_some, Option.some.injEq, escaped_eq_nil_iff]
  by_cases closed : (Path.cut text).getLast? = some []
  · rw [if_pos (ends.mpr closed), if_pos closed, List.map_dropLast]
  · rw [if_neg (mt ends.mp closed), if_neg closed]

theorem stem_escaped (text : List Char) :
    stem (text.flatMap escapeChar) = (stem text).flatMap escapeChar := by
  rw [stem, stem, pieces_escaped, flatMap_escaped]

def base (root : String) : String := if Path.isAbsolute root then "/" else "."

/-- The folders that lead from the path that a search begins at to a directory. -/
def foldersOf (root : String) : List String :=
  (pieces (if Path.isAbsolute root then root.toList.drop 1 else root.toList)).map String.ofList

theorem stem_slash (rest : List Char) : stem ('/' :: rest) = '/' :: stem rest := by
  rw [stem, ← List.nil_append ('/' :: rest), Path.pieces_append_slash List.not_mem_nil]
  rfl

theorem exists_of_isAbsolute {path : String} (absolute : Path.isAbsolute path = true) :
    ∃ rest, path.toList = '/' :: rest :=
  List.head?_eq_some_iff.mp (beq_iff_eq.mp absolute)

theorem mapM_ofText (opening : List Char) (parts : List (List Char)) :
    (parts.map (List.flatMap escapeChar) ++ [opening.flatMap escapeChar ++ ['*']]).mapM
        (fun piece => ofText (String.ofList piece)) =
      .ok ((parts.map String.ofList).map exactly ++ [beginning opening]) := by
  induction parts with
  | nil =>
      rw [List.map_nil, List.nil_append, List.mapM_cons, ofText_escaped_star]
      rfl
  | cons part parts ih =>
      rw [List.map_cons, List.cons_append, List.mapM_cons, ofText_escaped, ih]
      simp [bind, Except.bind, pure, Except.pure, exactly]

theorem isAbsolute_escape (root : String) :
    Path.isAbsolute (escape root) = Path.isAbsolute root := by
  rw [Path.isAbsolute, Path.isAbsolute, toList_escape]
  cases root.toList with
  | nil => rfl
  | cons c rest =>
      rw [List.flatMap_cons, escapeChar]
      split
      · next special => simp at special ⊢; rcases special with ((rfl | rfl) | rfl) | rfl <;> decide
      · rfl

/-- The text of the pattern of the names below a directory that begin with a text. -/
def below (root : String) (opening : List Char) : String :=
  Path.join (escape root) (String.ofList (opening.flatMap escapeChar ++ ['*']))

section

variable {opening : List Char} (plain : '/' ∉ opening)

include plain

theorem plain_beginning : '/' ∉ opening.flatMap escapeChar ++ ['*'] := by
  simpa using mt (slash_mem_escaped_iff opening).mp plain

theorem plain_lastPiece :
    '/' ∉ (String.ofList (opening.flatMap escapeChar ++ ['*'])).toList := by
  rw [String.toList_ofList]
  exact plain_beginning plain

theorem toList_below (root : String) :
    (below root opening).toList =
      (stem root.toList).flatMap escapeChar ++ (opening.flatMap escapeChar ++ ['*']) := by
  rw [below, Path.toList_join _ (Path.isAbsolute_of_plain (plain_lastPiece plain)), toList_escape,
    stem_escaped, String.toList_ofList]

theorem isAbsolute_below (root : String) :
    Path.isAbsolute (below root opening) = Path.isAbsolute root := by
  rw [below, Path.isAbsolute_join (escape root) (plain_lastPiece plain), isAbsolute_escape]

/-- The text is a pattern, whatever characters the directory has. -/
theorem ofText_below (root : String) :
    ofText (below root opening) = .ok (beginning (stem root.toList ++ opening)) := by
  have text := toList_below plain root
  rw [← List.append_assoc, ← List.flatMap_append] at text
  rw [← String.ofList_toList (s := below root opening), text, ofText_escaped_star, beginning]

theorem drop_below (root : String) :
    (if Path.isAbsolute root then (below root opening).toList.drop 1
      else (below root opening).toList) =
      (stem (if Path.isAbsolute root then root.toList.drop 1 else root.toList)).flatMap
          escapeChar ++ (opening.flatMap escapeChar ++ ['*']) := by
  rw [toList_below plain root]
  cases absolute : Path.isAbsolute root with
  | false => rfl
  | true =>
      -- The slash that an absolute path begins with is dropped, and the rest is cut.
      obtain ⟨rest, text⟩ := exists_of_isAbsolute absolute
      rw [if_pos rfl, if_pos rfl, text, stem_slash]
      rfl

theorem pieces_below (root : String) :
    pieces (if Path.isAbsolute root then (below root opening).toList.drop 1
      else (below root opening).toList) =
      (pieces (if Path.isAbsolute root then root.toList.drop 1 else root.toList)).map
          (List.flatMap escapeChar) ++ [opening.flatMap escapeChar ++ ['*']] := by
  rw [drop_below plain root, stem, flatMap_escaped]
  refine Path.pieces_flatMap (fun escaped member => ?_) (plain_beginning plain) (by simp)
  obtain ⟨piece, among, rfl⟩ := List.mem_map.mp member
  rw [slash_mem_escaped_iff]
  exact Path.slash_not_mem_pieces among

theorem find_below (volume : Volume) (root : String) :
    find volume (below root opening) =
      .ok (walk volume ((foldersOf root).map exactly ++ [beginning opening]) (base root)) := by
  have ends : (below root opening).toList.getLast? ≠ some '/' := by
    rw [toList_below plain root]
    simp
  simp only [find, ofText_below plain root, bind, Except.bind, isAbsolute_below plain root,
    pieces_below plain root, mapM_ofText, if_neg ends, foldersOf, base]
  rfl

end

/-! ## Finding the names below a directory -/

/-- Whether a path begins with the current directory, named once or more, and then has a slash too
many. -/
def isLost : List Char → Bool
  | '.' :: '/' :: '/' :: _ => true
  | '.' :: '/' :: rest => isLost rest
  | _ => false

theorem strays_of_plain {piece : List Char} (filled : piece ≠ []) (other : piece ≠ ['.'])
    (folders : List String) : strays (String.ofList piece :: folders) = false := by
  have noDot : String.ofList piece ≠ "." := fun same =>
    other (by rw [← String.toList_ofList (l := piece), same]; rfl)
  simp [strays, filled, noDot]

theorem strays_pieces {text : List Char} (relative : text.head? ≠ some '/') :
    strays ((pieces text).map String.ofList) = isLost text := by
  have dot : '/' ∉ ['.'] := by decide
  fun_induction isLost text with
  | case1 rest =>
      have cuts : pieces ('.' :: '/' :: '/' :: rest) = ['.'] :: [] :: pieces rest :=
        (Path.pieces_append_slash dot ('/' :: rest)).trans
          (congrArg _ (Path.pieces_append_slash List.not_mem_nil rest))
      rw [cuts]
      rfl
  | case2 rest single ih =>
      have cuts : pieces ('.' :: '/' :: rest) = ['.'] :: pieces rest :=
        Path.pieces_append_slash dot rest
      have further : rest.head? ≠ some '/' := fun slash => by
        obtain ⟨more, same⟩ := List.head?_eq_some_iff.mp slash
        exact single more same
      rw [cuts, ← ih further]
      rfl
  | case3 text _ other =>
      by_cases slash : '/' ∈ text
      · obtain ⟨piece, rest, rfl, plain⟩ := List.eq_append_cons_of_mem slash
        rw [Path.pieces_append_slash plain, List.map_cons]
        refine strays_of_plain ?_ ?_ _
        · rintro rfl
          exact relative rfl
        · rintro rfl
          exact other rest rfl
      · cases text with
        | nil => rfl
        | cons c rest =>
            have single := Path.pieces_of_plain slash (List.cons_ne_nil c rest)
            simp [single, strays]

theorem relative_of_isLost {root : String} (lost : isLost root.toList = true) :
    Path.isAbsolute root = false := by
  cases absolute : Path.isAbsolute root with
  | false => rfl
  | true =>
      obtain ⟨rest, text⟩ := exists_of_isAbsolute absolute
      rw [text] at lost
      exact absurd lost Bool.false_ne_true

theorem find_of_isLost {root : String} {opening : List Char} (lost : isLost root.toList = true)
    (plain : '/' ∉ opening) :
    find volume (below root opening) = .ok [] := by
  have relative := relative_of_isLost lost
  have noSlash : root.toList.head? ≠ some '/' := by simpa [Path.isAbsolute] using relative
  have astray : strays (foldersOf root) = true := by
    rw [foldersOf, relative, if_neg Bool.false_ne_true, strays_pieces noSlash, lost]
  rw [find_below plain volume root, base, relative, if_neg Bool.false_ne_true,
    walk_of_strays rfl astray]

theorem room_eq (parts : List (List Char)) :
    room (parts.map String.ofList) =
      (String.ofList (parts.flatMap (· ++ ['/']))).utf8ByteSize := by
  induction parts with
  | nil => rfl
  | cons part parts ih =>
      rw [List.map_cons, room_cons, ih, List.flatMap_cons, String.ofList_append,
        String.ofList_append, String.utf8ByteSize_append, String.utf8ByteSize_append]
      rfl

/-- The folders to a directory and the path that they begin at take what its stem takes. -/
theorem room_foldersOf (root : String) :
    (ahead (base root)).utf8ByteSize + room (foldersOf root) =
      (String.ofList (stem root.toList)).utf8ByteSize := by
  rw [foldersOf, room_eq, base]
  cases absolute : Path.isAbsolute root with
  | false => exact Nat.zero_add _
  | true =>
      obtain ⟨rest, text⟩ := exists_of_isAbsolute absolute
      have slash : ahead "/" = "/" := rfl
      have text' : String.ofList ('/' :: stem rest) = "/" ++ String.ofList (stem rest) :=
        @String.ofList_append ['/'] (stem rest)
      rw [if_pos rfl, if_pos rfl, text, stem_slash, slash, text', String.utf8ByteSize_append]
      rfl

theorem plain_foldersOf (root : String) : ∀ folder ∈ foldersOf root, '/' ∉ folder.toList := by
  intro folder member
  obtain ⟨piece, among, rfl⟩ := List.mem_map.mp member
  rw [String.toList_ofList]
  exact Path.slash_not_mem_pieces among

theorem unmarked_foldersOf (unmarked : '\x00' ∉ root.toList) :
    ∀ folder ∈ foldersOf root, '\x00' ∉ folder.toList := by
  intro folder member inside
  obtain ⟨piece, among, rfl⟩ := List.mem_map.mp member
  rw [String.toList_ofList] at inside
  have marked : '\x00' ∈ (pieces _).flatMap (· ++ ['/']) :=
    List.mem_flatMap.mpr ⟨piece, among, List.mem_append_left ['/'] inside⟩
  refine unmarked_stem ?_ marked
  split
  · exact mt (List.mem_of_mem_drop) unmarked
  · exact unmarked

theorem fits_foldersOf (leads : volume.Leads root place) (straight : isLost root.toList = false) :
    Fits (base root) (foldersOf root) := by
  refine ⟨unmarked_foldersOf leads.unmarked, ?_, fun here => ?_⟩
  · have most := size_stem_le root.toList
    rw [String.ofList_toList] at most
    rw [room_foldersOf]
    exact Nat.le_trans most leads.short
  · rw [base] at here
    split at here
    · exact absurd here Bool.false_ne_true
    · next relative =>
        have noSlash : root.toList.head? ≠ some '/' := by simpa [Path.isAbsolute] using relative
        rw [foldersOf, if_neg relative, strays_pieces noSlash, straight]

theorem walk_base (sound : volume.Sound)
    (walked : volume.walk (volume.start root) (Path.parts root) = .ok place) :
    ∃ first, volume.resolve (base root) = .ok first ∧
      volume.walk first (foldersOf root) = .ok place := by
  have pieces := Volume.walk_pieces walked
  rw [base, foldersOf]
  cases absolute : Path.isAbsolute root with
  | false =>
      obtain ⟨names, lists⟩ := sound.here
      refine ⟨volume.here, resolve_eq_ok_iff.mpr ⟨rfl, (walk_of_isHere rfl lists).2⟩, ?_⟩
      rw [Volume.start, absolute] at pieces
      exact pieces
  | true =>
      obtain ⟨names, lists⟩ := sound.root
      obtain ⟨rest, text⟩ := exists_of_isAbsolute absolute
      have stays : volume.step [] "" = .ok [] := by
        rw [Volume.step_of_listed lists, if_pos (.inl rfl)]
      refine ⟨[], resolve_eq_ok_iff.mpr ⟨rfl, ?_⟩, ?_⟩
      · change volume.walk [] ["", ""] = .ok []
        rw [Volume.walk_cons, stays]
        exact congrArg (Except.bind · _) stays
      · rw [Volume.start, absolute, if_pos rfl, text, ← List.nil_append ('/' :: rest),
          Path.pieces_append_slash List.not_mem_nil, List.map_cons, Volume.walk_cons] at pieces
        rw [if_pos rfl, text]
        exact (congrArg (Except.bind · _) stays).symm.trans pieces

/-- The path of the last folder that leads to a directory, as a search spells it. -/
def lastFolder (root : String) : String := (foldersOf root).foldl further (base root)

section

variable {names : List String} {opening : List Char} (sound : volume.Sound)
  (leads : volume.Leads root place) (lists : volume.root.listed? place = some names)
  (straight : isLost root.toList = false) (plain : '/' ∉ opening) (telling : isTelling opening)

include sound leads lists straight plain telling

theorem find_lastFolder :
    volume.resolve (lastFolder root) = .ok place ∧
      (ahead (lastFolder root)).utf8ByteSize ≤ (String.ofList (stem root.toList)).utf8ByteSize ∧
      find volume (below root opening) =
        .ok (((names.mergeSort fun a b => decide (a ≤ b)).filter fun name =>
          opening.isPrefixOf name.toList).map (further (lastFolder root))) := by
  obtain ⟨first, resolved, walked⟩ := walk_base sound (leads.walk sound)
  have plainFolders := plain_foldersOf root
  obtain ⟨same, resolvedLast⟩ := walk_folders sound resolved plainFolders
    (fits_foldersOf leads straight) walked [beginning opening]
  rw [← lastFolder] at same resolvedLast
  refine ⟨resolvedLast, ?_, ?_⟩
  · rw [← room_foldersOf]
    exact size_ahead_foldl_le plainFolders (base root)
  · rw [find_below plain volume root, same, walk_beginning telling resolvedLast lists]

/-- Below any other directory a search finds the names that begin with a text, in order, each as
what follows a path that leads to the directory. -/
theorem find_of_leads :
    ∃ path, volume.resolve path = .ok place ∧
      (ahead path).utf8ByteSize ≤ (String.ofList (stem root.toList)).utf8ByteSize ∧
      find volume (below root opening) =
        .ok (((names.mergeSort fun a b => decide (a ≤ b)).filter fun name =>
          opening.isPrefixOf name.toList).map (further path)) :=
  ⟨lastFolder root, find_lastFolder sound leads lists straight plain telling⟩

end

end Glob

end Rehearsal
