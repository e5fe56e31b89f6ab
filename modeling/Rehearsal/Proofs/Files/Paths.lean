import Rehearsal.Glob.Walk
/-!
# The parts of a path

A path is cut at its slashes into parts without slashes. A name below a directory is one part more
than the directory has, where a slash at the end of the directory begins no part of its own.
-/

set_option autoImplicit false

namespace Rehearsal.Path

open Glob (pieces)

variable {piece rest text : List Char}

theorem cut_slash (rest : List Char) : cut ('/' :: rest) = [] :: cut rest := by
  rw [cut]
  cases cuts : cut rest with
  | nil =>
      cases rest with
      | nil => cases cuts
      | cons c rest =>
          rw [cut] at cuts
          split at cuts
          · cases cuts
          · split at cuts <;> cases cuts
  | cons part parts => rfl

theorem cut_ne_nil (text : List Char) : cut text ≠ [] := by
  cases text with
  | nil => exact nofun
  | cons c rest =>
      rw [cut]
      split
      · exact nofun
      · split <;> exact nofun

theorem cut_cons {c : Char} (other : c ≠ '/') (rest : List Char) :
    ∃ part parts, cut rest = part :: parts ∧ cut (c :: rest) = (c :: part) :: parts := by
  obtain ⟨part, parts, same⟩ := List.exists_cons_of_ne_nil (cut_ne_nil rest)
  refine ⟨part, parts, same, ?_⟩
  rw [cut, same]
  exact if_neg other

theorem cut_append_slash (plain : '/' ∉ piece) (rest : List Char) :
    cut (piece ++ '/' :: rest) = piece :: cut rest := by
  induction piece with
  | nil => exact cut_slash rest
  | cons c piece ih =>
      obtain ⟨other, plain⟩ := not_or.mp (mt List.mem_cons.mpr plain)
      obtain ⟨part, parts, cuts, same⟩ := cut_cons (Ne.symm other) (piece ++ '/' :: rest)
      rw [ih plain] at cuts
      cases cuts
      exact same

theorem cut_of_plain (plain : '/' ∉ piece) : cut piece = [piece] := by
  induction piece with
  | nil => rfl
  | cons c piece ih =>
      obtain ⟨other, plain⟩ := not_or.mp (mt List.mem_cons.mpr plain)
      obtain ⟨part, parts, cuts, same⟩ := cut_cons (Ne.symm other) piece
      rw [ih plain] at cuts
      cases cuts
      exact same

theorem cut_flatMap {parts : List (List Char)} (plain : ∀ part ∈ parts, '/' ∉ part)
    (last : '/' ∉ piece) :
    cut (parts.flatMap (· ++ ['/']) ++ piece) = parts ++ [piece] := by
  induction parts with
  | nil => exact cut_of_plain last
  | cons part parts ih =>
      obtain ⟨plainPart, plainOthers⟩ := List.forall_mem_cons.mp plain
      rw [List.flatMap_cons, List.append_assoc, List.append_assoc, List.singleton_append,
        cut_append_slash plainPart, ih plainOthers, List.cons_append]

theorem slash_not_mem_cut (member : piece ∈ cut text) : '/' ∉ piece := by
  induction text generalizing piece with
  | nil =>
      obtain rfl := List.mem_singleton.mp member
      exact List.not_mem_nil
  | cons c text ih =>
      by_cases slash : c = '/'
      · subst slash
        rw [cut_slash] at member
        rcases List.mem_cons.mp member with rfl | member
        · exact List.not_mem_nil
        · exact ih member
      · obtain ⟨part, parts, cuts, same⟩ := cut_cons slash text
        rw [same] at member
        rcases List.mem_cons.mp member with rfl | member
        · exact List.not_mem_cons_of_ne_of_not_mem (Ne.symm slash) (ih (cuts ▸ List.mem_cons_self))
        · exact ih (cuts ▸ List.mem_cons_of_mem part member)

theorem flatMap_cut (text : List Char) : (cut text).flatMap (· ++ ['/']) = text ++ ['/'] := by
  induction text with
  | nil => rfl
  | cons c text ih =>
      by_cases slash : c = '/'
      · subst slash
        rw [cut_slash, List.flatMap_cons, ih]
        rfl
      · obtain ⟨part, parts, cuts, same⟩ := cut_cons slash text
        rw [cuts, List.flatMap_cons] at ih
        rw [same, List.flatMap_cons, List.cons_append, List.cons_append, ih]
        rfl

theorem exists_cut (text : List Char) :
    ∃ parts last, cut text = parts ++ [last] ∧ text = parts.flatMap (· ++ ['/']) ++ last := by
  obtain ⟨parts, last, same⟩ := (List.eq_nil_or_concat (cut text)).resolve_left (cut_ne_nil text)
  rw [List.concat_eq_append] at same
  have joined := flatMap_cut text
  rw [same, List.flatMap_append, List.flatMap_singleton, ← List.append_assoc] at joined
  exact ⟨parts, last, same, (List.append_cancel_right joined).symm⟩

/-! ## Directories -/

/-- What the paths below a directory begin with. -/
def stem (root : List Char) : List Char := (pieces root).flatMap (· ++ ['/'])

theorem slash_not_mem_pieces (member : piece ∈ pieces text) : '/' ∉ piece := by
  rw [pieces] at member
  split at member
  · exact slash_not_mem_cut (List.dropLast_subset _ member)
  · exact slash_not_mem_cut member

theorem pieces_append_slash (plain : '/' ∉ piece) (rest : List Char) :
    pieces (piece ++ '/' :: rest) = piece :: pieces rest := by
  obtain ⟨part, parts, same⟩ := List.exists_cons_of_ne_nil (cut_ne_nil rest)
  rw [pieces, pieces, cut_append_slash plain, same]
  split <;> simp_all

theorem pieces_of_plain (plain : '/' ∉ piece) (filled : piece ≠ []) : pieces piece = [piece] := by
  rw [pieces, cut_of_plain plain, List.getLast?_singleton, if_neg (by simpa using filled)]

theorem pieces_flatMap {parts : List (List Char)} (plain : ∀ part ∈ parts, '/' ∉ part)
    (last : '/' ∉ piece) (filled : piece ≠ []) :
    pieces (parts.flatMap (· ++ ['/']) ++ piece) = parts ++ [piece] := by
  rw [pieces, cut_flatMap plain last, List.getLast?_concat, if_neg (by simpa using filled)]

/-- Next to the pieces of a path, a slash at its end is the only part that it has. -/
theorem mem_parts {path part : String} (member : part ∈ parts path) :
    part = "" ∨ part ∈ (pieces path.toList).map String.ofList := by
  obtain ⟨piece, among, rfl⟩ := List.mem_map.mp member
  rw [pieces]
  split
  · next ends =>
      obtain ⟨before, cuts⟩ := List.getLast?_eq_some_iff.mp ends
      rw [cuts] at among ⊢
      rcases List.mem_append.mp among with earlier | last
      · exact .inr (List.mem_map_of_mem (List.dropLast_concat ▸ earlier))
      · exact .inl (by rw [List.mem_singleton.mp last, String.ofList_nil])
  · exact .inr (List.mem_map_of_mem among)

theorem stem_cases (root : List Char) :
    (stem root = root ∧ (root = [] ∨ root.getLast? = some '/')) ∨
      (stem root = root ++ ['/'] ∧ root ≠ [] ∧ root.getLast? ≠ some '/') := by
  obtain ⟨parts, last, cuts, text⟩ := exists_cut root
  have plain : '/' ∉ last := slash_not_mem_cut (cuts ▸ List.mem_append_right _ List.mem_cons_self)
  rw [stem, pieces, cuts, text]
  cases last with
  | nil =>
      refine .inl ⟨by simp, ?_⟩
      rcases List.eq_nil_or_concat parts with rfl | ⟨before, part, rfl⟩
      · exact .inl rfl
      · exact .inr (by simp)
  | cons c rest =>
      have other : (c :: rest).getLast? ≠ some '/' := fun same => plain (List.mem_of_getLast? same)
      exact .inr ⟨by simp, by simp, by simpa using other⟩

theorem toList_join (root : String) {name : String} (relative : isAbsolute name = false) :
    (join root name).toList = stem root.toList ++ name.toList := by
  rw [join, relative, Bool.false_or]
  rcases stem_cases root.toList with ⟨same, empty | ends⟩ | ⟨same, filled, goesOn⟩
  · have nothing : root.isEmpty = true := by simpa using empty
    rw [if_pos nothing, same, empty, List.nil_append]
  · have something : ¬root.isEmpty = true := by
      rintro nothing
      simp [String.isEmpty_iff.mp nothing] at ends
    rw [if_neg something, if_pos (by simpa using ends), String.toList_append, same]
  · have something : ¬root.isEmpty = true := by simpa using filled
    rw [if_neg something, if_neg (by simpa using goesOn), String.toList_append,
      String.toList_append, same]
    rfl

theorem isAbsolute_of_plain {name : String} (plain : '/' ∉ name.toList) :
    isAbsolute name = false := by
  rw [isAbsolute, beq_eq_false_iff_ne]
  exact fun same => plain (List.mem_of_head? same)

theorem parts_join (root : String) {name : String} (plain : '/' ∉ name.toList) :
    parts (join root name) = (pieces root.toList).map String.ofList ++ [name] := by
  rw [parts, toList_join root (isAbsolute_of_plain plain), stem,
    cut_flatMap (fun _ => slash_not_mem_pieces) plain, List.map_append, List.map_singleton,
    String.ofList_toList]

/-- Parts that are joined by slashes are the parts of a path. -/
theorem parts_join_ended {folders : List String} {name : String}
    (plain : ∀ folder ∈ folders, '/' ∉ folder.toList) (plainName : '/' ∉ name.toList) :
    parts (String.join (folders.map (· ++ "/")) ++ name) = folders ++ [name] := by
  have text : (String.join (folders.map (· ++ "/"))).toList =
      (folders.map String.toList).flatMap (· ++ ['/']) := by
    simp [String.toList_join, List.flatMap_map]
  have plainParts : ∀ part ∈ folders.map String.toList, '/' ∉ part := by
    intro part member
    obtain ⟨folder, among, rfl⟩ := List.mem_map.mp member
    exact plain folder among
  rw [parts, String.toList_append, text, cut_flatMap plainParts plainName]
  simp

theorem isAbsolute_join (root : String) {name : String} (plain : '/' ∉ name.toList) :
    isAbsolute (join root name) = isAbsolute root := by
  have relative := isAbsolute_of_plain plain
  rw [isAbsolute, toList_join root relative]
  rcases stem_cases root.toList with ⟨same, ends⟩ | ⟨same, filled, -⟩
  · rw [same]
    cases text : root.toList with
    | nil => simpa [isAbsolute, text] using relative
    | cons c rest => simp [isAbsolute, text]
  · obtain ⟨c, rest, text⟩ := List.exists_cons_of_ne_nil filled
    rw [same, isAbsolute, text]
    rfl

end Rehearsal.Path
