import FragmentImports.Proofs.FileTree
import FragmentImports.Proofs.OutputNames

/-!
Generated paths as texts. Below the directory of its document a generated file is reached through
the directories of the location and of the folder as module names, and it is called by the stem as a
module name with the extension behind it, so it is below any directory that it is written to.
-/

namespace FragmentImports

/-- The stem of a file name is what stands in front of its last dot, if something stands on both
sides of it, and else the whole name. -/
inductive HasStem : String → String → Prop where
  | dotted {stem rest : String} (filled : stem ≠ "") (named : rest ≠ "")
      (last : '.' ∉ rest.toList) : HasStem (stem ++ "." ++ rest) stem
  | whole {name : String} (unparted : ∀ stem rest : String, stem ≠ "" → rest ≠ "" →
      '.' ∉ rest.toList → name ≠ stem ++ "." ++ rest) : HasStem name name

theorem splitSuffix_of_undotted {name : List Char} (undotted : '.' ∉ name) :
    splitSuffix name = (name, []) := by
  have tail : name.reverse.takeWhile (· ≠ '.') = name.reverse := by
    rw [List.takeWhile_eq_self_iff]
    intro c member
    have inside := List.mem_reverse.1 member
    exact decide_eq_true fun dot => undotted (dot ▸ inside)
  rw [splitSuffix]
  simp only [tail, List.length_reverse, Nat.lt_irrefl, false_and, if_false]

theorem splitSuffix_append_dot {front rest : List Char} (last : '.' ∉ rest) :
    splitSuffix (front ++ '.' :: rest) =
      if front ≠ [] ∧ rest ≠ [] then (front, '.' :: rest) else (front ++ '.' :: rest, []) := by
  have tail : (front ++ '.' :: rest).reverse.takeWhile (· ≠ '.') = rest.reverse := by
    have before : ∀ c ∈ rest.reverse, decide (c ≠ '.') = true := by
      intro c member
      have inside := List.mem_reverse.1 member
      exact decide_eq_true fun dot => last (dot ▸ inside)
    rw [List.reverse_append, List.reverse_cons, List.append_assoc,
      List.takeWhile_append_of_pos before]
    simp
  have cut : (front ++ '.' :: rest).length - rest.length - 1 = front.length := by
    rw [List.length_append, List.length_cons]
    omega
  rw [splitSuffix]
  simp only [tail, List.length_reverse, cut, List.take_left, List.drop_left]
  have inside : (rest.length < (front ++ '.' :: rest).length ∧ 0 < front.length ∧
      front.length + 1 < (front ++ '.' :: rest).length) ↔ front ≠ [] ∧ rest ≠ [] := by
    rw [← List.length_pos_iff, ← List.length_pos_iff, List.length_append, List.length_cons]
    omega
  simp only [inside]

theorem exists_last_dot {name : List Char} (dotted : '.' ∈ name) :
    ∃ front rest, name = front ++ '.' :: rest ∧ '.' ∉ rest := by
  obtain ⟨back, front, whole, last⟩ := List.eq_append_cons_of_mem (List.mem_reverse.2 dotted)
  refine ⟨front.reverse, back.reverse, ?_, by simpa using last⟩
  rw [← List.reverse_reverse name, whole]
  simp

theorem toList_dotted (stem rest : String) :
    (stem ++ "." ++ rest).toList = stem.toList ++ '.' :: rest.toList := by
  simp

theorem HasStem.splitSuffix_fst {name stem : String} (parted : HasStem name stem) :
    (splitSuffix name.toList).1 = stem.toList := by
  cases parted with
  | @dotted stem rest filled named last =>
      have sides : stem.toList ≠ [] ∧ rest.toList ≠ [] :=
        ⟨mt String.toList_eq_nil_iff.1 filled, mt String.toList_eq_nil_iff.1 named⟩
      rw [toList_dotted, splitSuffix_append_dot last, if_pos sides]
  | whole unparted =>
      by_cases dotted : '.' ∈ name.toList
      · obtain ⟨front, rest, parts, last⟩ := exists_last_dot dotted
        have bare : ¬(front ≠ [] ∧ rest ≠ []) := by
          rintro ⟨filled, named⟩
          refine unparted (String.ofList front) (String.ofList rest)
            (mt String.ofList_eq_empty_iff.1 filled) (mt String.ofList_eq_empty_iff.1 named)
            (by rwa [String.toList_ofList]) ?_
          rw [← String.toList_inj, toList_dotted, String.toList_ofList, String.toList_ofList, parts]
        rw [parts, splitSuffix_append_dot last, if_neg bare]
      · rw [splitSuffix_of_undotted dotted]

theorem exists_hasStem (name : String) : ∃ stem, HasStem name stem := by
  by_cases parted : ∃ stem rest : String, stem ≠ "" ∧ rest ≠ "" ∧ '.' ∉ rest.toList ∧
      name = stem ++ "." ++ rest
  · obtain ⟨stem, rest, filled, named, last, rfl⟩ := parted
    exact ⟨stem, .dotted filled named last⟩
  · refine ⟨name, .whole ?_⟩
    intro stem rest filled named last same
    exact parted ⟨stem, rest, filled, named, last, same⟩

theorem hasStem_iff {name stem : String} :
    HasStem name stem ↔ stem = String.ofList (splitSuffix name.toList).1 := by
  constructor
  · intro parted
    rw [parted.splitSuffix_fst, String.ofList_toList]
  · rintro rfl
    obtain ⟨stem, parted⟩ := exists_hasStem name
    rw [parted.splitSuffix_fst, String.ofList_toList]
    exact parted

namespace Path

/-- A location leads through these directories to a file with this stem. -/
def LeadsTo (location : Path) (directories : List String) (stem : String) : Prop :=
  ∃ file, location.parts = directories ++ [file] ∧ HasStem file stem

theorem leadsTo_parent_stem {location : Path} (named : location.parts ≠ []) :
    location.LeadsTo location.parent.parts location.stem := by
  refine ⟨location.name, ?_, hasStem_iff.2 rfl⟩
  rw [parent, name, List.getLast?_eq_some_getLast named, Option.getD_some,
    List.dropLast_append_getLast]

theorem LeadsTo.eq_parent_stem {location : Path} {directories : List String} {stem : String}
    (leads : location.LeadsTo directories stem) :
    location.parts ≠ [] ∧ directories = location.parent.parts ∧ stem = location.stem := by
  obtain ⟨file, parts, parted⟩ := leads
  have last : location.name = file := by simp [name, parts]
  refine ⟨by simp [parts], by simp [parent, parts], ?_⟩
  rw [Path.stem, last]
  exact hasStem_iff.1 parted

end Path

namespace OutputLayout

variable {layout : OutputLayout} {location other : String}

theorem map_moduleSafePart_eq {parts : List String} (valid : ∀ part ∈ parts, Path.IsComponent part)
    (down : ".." ∉ parts) : parts.map moduleSafePart = parts.map moduleSafe :=
  List.map_congr_left fun part member =>
    moduleSafePart_eq (valid part member) fun climbs => down (climbs ▸ member)

theorem map_moduleSafePart_parent (inside : (Path.ofString location).Descends) :
    (Path.ofString location).parent.parts.map moduleSafePart =
      (Path.ofString location).parent.parts.map moduleSafe := by
  refine map_moduleSafePart_eq (fun part member => ?_) inside.parent.down
  exact Path.isComponent_of_mem (List.dropLast_subset _ member)

theorem Confined.parts_generated_eq (confined : layout.Confined)
    (inside : (Path.ofString location).Descends) :
    (layout.generated (Path.ofString location)).parts =
      ((Path.ofString location).parent.parts ++ (Path.ofString layout.folder).parts).map moduleSafe ++
        [moduleSafe (Path.ofString location).stem ++ layout.extension] := by
  have folder : (Path.ofString layout.folder).parts.map moduleSafePart =
      (Path.ofString layout.folder).parts.map moduleSafe :=
    map_moduleSafePart_eq (fun _ member => Path.isComponent_of_mem member) confined.folder.down
  have beside := map_moduleSafePart_parent inside
  rw [Path.parent] at beside
  rw [parts_generated, directory_eq confined.folder.relative, fileName, Path.parent,
    List.map_append, List.map_append, folder, beside]

/-- Below the directory of its document a generated file is called by the directories and the stem
of the location as module names. Its path stays below every directory that it is put behind, and
only locations with the same directories and the same stem as module names share it. -/
theorem generated_path_exactly (confined : layout.Confined)
    (inside : (Path.ofString location).Descends) (named : (Path.ofString location).parts ≠ []) :
    ∃ directories stem, (Path.ofString location).LeadsTo directories stem ∧
      let parts := (directories ++ (Path.ofString layout.folder).parts).map moduleSafe ++
        [moduleSafe stem ++ layout.extension]
      layout.filePath location = "/".intercalate parts ∧
        (layout.filePath location).toList.head? ≠ some '/' ∧
        (∀ part ∈ parts, Path.IsComponent part ∧ part ≠ "..") ∧
        (∀ (tree : FileTree) directory,
          tree.placeOf (joinPathTexts directory (layout.filePath location)) =
            tree.placeOf directory ++ parts) ∧
        ∀ other directories' stem', (Path.ofString other).Descends →
          (Path.ofString other).LeadsTo directories' stem' →
            (layout.filePath location = layout.filePath other ↔
              directories.map moduleSafe = directories'.map moduleSafe ∧
                moduleSafe stem = moduleSafe stem') := by
  have placed := confined.wellPlaced inside named
  have parts := confined.parts_generated_eq inside
  have relative : (layout.generated (Path.ofString location)).anchor = .relative :=
    placed.descends.relative
  refine ⟨_, _, Path.leadsTo_parent_stem named, ?_⟩
  simp only [← parts]
  refine ⟨?_, ?_, ?_, ?_, ?_⟩
  · rw [placed.filePath_eq, Path.render, relative, parts, if_neg (by simp)]
    exact String.empty_append
  · rw [placed.filePath_eq]
    exact Path.head?_render_ne relative placed.components
  · intro part member
    exact ⟨placed.components part member, fun climbs => placed.descends.down (climbs ▸ member)⟩
  · intro tree directory
    rw [placed.filePath_eq]
    exact tree.placeOf_render directory placed.descends placed.components
  · intro other directories' stem' below leads
    obtain ⟨otherNamed, rfl, rfl⟩ := leads.eq_parent_stem
    rw [confined.namesFile.filePath_eq_iff named otherNamed,
      confined.target_eq_iff inside below, Path.moduleNames, Path.moduleNames, Prod.mk.injEq,
      map_moduleSafePart_parent inside, map_moduleSafePart_parent below]

def nestedLayout : OutputLayout := { extension := ".gen.py", folder := "./gen//out-1" }

theorem generated_path_exactly_hidden :
    nestedLayout.Confined ∧ (Path.ofString "my-frags/./v1.2//.user.query.graphql").Descends ∧
      (Path.ofString "my-frags/./v1.2//.user.query.graphql").parts ≠ [] ∧
      nestedLayout.filePath "my-frags/./v1.2//.user.query.graphql" =
        "my_frags/v1_2/gen/out_1/_user_query.gen.py" ∧
      nestedLayout.filePath "my-frags/./v1.2//.user.query.graphql" =
        nestedLayout.filePath "my.frags/v1-2/.user-query.gql" := by
  have confined : nestedLayout.Confined := by decide
  obtain ⟨directories, stem, leads, path, -, -, -, shared⟩ := generated_path_exactly
    confined (by decide : (Path.ofString "my-frags/./v1.2//.user.query.graphql").Descends)
    (by decide)
  obtain ⟨-, rfl, rfl⟩ := leads.eq_parent_stem
  have packages : ((Path.ofString "my-frags/./v1.2//.user.query.graphql").parent.parts ++
      (Path.ofString nestedLayout.folder).parts).map moduleSafe =
        ["my_frags", "v1_2", "gen", "out_1"] := by decide +kernel
  have file : moduleSafe (Path.ofString "my-frags/./v1.2//.user.query.graphql").stem ++
      nestedLayout.extension = "_user_query.gen.py" := by decide +kernel
  rw [packages, file] at path
  refine ⟨confined, by decide, by decide, path, ?_⟩
  have directories : ∀ location ∈ ["my-frags/./v1.2//.user.query.graphql",
      "my.frags/v1-2/.user-query.gql"],
      (Path.ofString location).parent.parts.map moduleSafe = ["my_frags", "v1_2"] := by
    decide +kernel
  have stems : ∀ location ∈ ["my-frags/./v1.2//.user.query.graphql",
      "my.frags/v1-2/.user-query.gql"],
      moduleSafe (Path.ofString location).stem = "_user_query" := by
    decide +kernel
  rw [shared _ _ _ (by decide) (Path.leadsTo_parent_stem (by decide))]
  exact ⟨(directories _ (by simp)).trans (directories _ (by simp)).symm,
    (stems _ (by simp)).trans (stems _ (by simp)).symm⟩

end OutputLayout

end FragmentImports
