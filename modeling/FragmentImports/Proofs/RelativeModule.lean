import FragmentImports.ImportStatement
import FragmentImports.Proofs.OutputPath
import Mathlib.Data.List.Basic

/-!
Relative modules and the files that they name. A module text written for the way from a directory
to a module file leads back to that file.
-/

namespace FragmentImports

/-- The file that a relative module names in a directory: every dot in front but the first one
climbs, then the dotted components lead down to a module file. -/
def resolveModule (home : Path) (module : String) : Path :=
  let climbs := (module.toList.takeWhile (· = '.')).length - 1
  let down := ((module.toList.dropWhile (· = '.')).splitOn '.').map String.ofList
  let file := down.getLast?.getD "" ++ ".py"
  { home with
    parts := Path.collapse (home.anchor ≠ .relative)
      (home.parts ++ List.replicate climbs ".." ++ down.dropLast ++ [file]) }

section Marks

variable {α : Type} [DecidableEq α] {mark : α} {rest : List α}

theorem takeWhile_replicate_append (count : Nat) (other : rest.head? ≠ some mark) :
    (List.replicate count mark ++ rest).takeWhile (· = mark) = List.replicate count mark := by
  induction count with
  | zero =>
      cases rest with
      | nil => rfl
      | cons first tail =>
          have stops : first ≠ mark := by simpa using other
          simp [stops]
  | succ count ih => simpa [List.replicate_succ] using ih

theorem dropWhile_replicate_append (count : Nat) (other : rest.head? ≠ some mark) :
    (List.replicate count mark ++ rest).dropWhile (· = mark) = rest := by
  have whole := List.takeWhile_append_dropWhile (p := (· = mark))
    (l := List.replicate count mark ++ rest)
  rw [takeWhile_replicate_append count other] at whole
  exact List.append_cancel_left whole

end Marks

def moduleText (climbs : Nat) (names : List String) : String :=
  String.ofList (List.replicate (climbs + 1) '.') ++ ".".intercalate names

theorem toList_moduleText (climbs : Nat) (names : List String) :
    (moduleText climbs names).toList =
      List.replicate (climbs + 1) '.' ++ ['.'].intercalate (names.map String.toList) := by
  rw [moduleText, String.toList_append, String.toList_ofList, String.toList_intercalate]
  rfl

section Names

variable {front : List String} {last : String}

theorem head?_intercalate_names (filled : "" ∉ front)
    (undotted : ∀ name ∈ front ++ [last], '.' ∉ name.toList) :
    (['.'].intercalate ((front ++ [last]).map String.toList)).head? ≠ some '.' := by
  cases front with
  | nil =>
      rw [List.nil_append, List.map_singleton, List.intercalate_singleton]
      intro first
      exact undotted last (by simp) (List.mem_of_mem_head? first)
  | cons name rest =>
      have nonempty : name.toList ≠ [] := by
        intro empty
        exact filled (String.toList_eq_nil_iff.1 empty ▸ List.mem_cons_self)
      obtain ⟨c, tail, text⟩ := List.exists_cons_of_ne_nil nonempty
      rw [List.cons_append, List.map_cons, text, List.intercalate_cons_cons_left, List.head?_cons]
      intro first
      apply undotted name (by simp)
      rw [text, Option.some.inj first]
      exact List.mem_cons_self

theorem splitOn_intercalate_names (undotted : ∀ name ∈ front ++ [last], '.' ∉ name.toList) :
    ((['.'].intercalate ((front ++ [last]).map String.toList)).splitOn '.').map String.ofList =
      front ++ [last] := by
  have texts : ∀ text ∈ (front ++ [last]).map String.toList, '.' ∉ text :=
    List.forall_mem_map.2 undotted
  rw [List.splitOn_intercalate '.' texts (by simp), List.map_map]
  exact (List.map_congr_left fun name _ => String.ofList_toList).trans (List.map_id _)

/-- The components of a module text are read back when none of them holds a dot and at most the
last one is empty. -/
theorem resolveModule_moduleText (home : Path) (climbs : Nat) (filled : "" ∉ front)
    (undotted : ∀ name ∈ front ++ [last], '.' ∉ name.toList) :
    resolveModule home (moduleText climbs (front ++ [last])) =
      { home with
        parts := Path.collapse (home.anchor ≠ .relative)
          (home.parts ++ List.replicate climbs ".." ++ front ++ [last ++ ".py"]) } := by
  have start := head?_intercalate_names filled undotted
  simp only [resolveModule, toList_moduleText, takeWhile_replicate_append _ start,
    dropWhile_replicate_append _ start, splitOn_intercalate_names undotted,
    List.length_replicate, Nat.add_sub_cancel, List.getLast?_concat, List.dropLast_concat,
    Option.getD_some]

end Names

theorem resolveModule_cases (home : Path) (module : String) : ∃ front last,
    resolveModule home module = ⟨home.anchor, front ++ [last ++ ".py"]⟩ ∧
      '.' ∉ last.toList ∧ ∀ c ∈ last.toList, c ∈ module.toList := by
  obtain ⟨before, text, split⟩ := (List.eq_nil_or_concat'
    ((module.toList.dropWhile (· = '.')).splitOn '.')).resolve_left (List.splitOn_ne_nil _ _)
  have member : text ∈ (module.toList.dropWhile (· = '.')).splitOn '.' := by
    rw [split]
    exact List.mem_append_right _ List.mem_cons_self
  obtain ⟨undotted, inside⟩ := Path.unsplit_of_mem_splitOn member
  have file : ".." ∉ [String.ofList text ++ ".py"] := by
    intro climbs
    exact moduleFile_ne _ (by decide) (List.mem_singleton.1 climbs).symm
  have named : resolveModule home module = ⟨home.anchor, Path.collapse (home.anchor ≠ .relative)
      (home.parts ++ List.replicate ((module.toList.takeWhile (· = '.')).length - 1) ".." ++
        before.map String.ofList) ++ [String.ofList text ++ ".py"]⟩ := by
    simp only [resolveModule, split, List.map_append, List.map_singleton, List.getLast?_concat,
      List.dropLast_concat, Option.getD_some, Path.collapse_append_down file]
  refine ⟨_, String.ofList text, named, ?_, ?_⟩
  · rwa [String.toList_ofList]
  · intro c present
    rw [String.toList_ofList] at present
    exact (List.dropWhile_suffix _).subset (inside c present)

theorem dropModuleExtension_append (name : String) :
    dropModuleExtension (name ++ ".py") = name := by
  have ends : ".py".toList.isSuffixOf (name ++ ".py").toList = true := by
    rw [List.isSuffixOf_iff_suffix, String.toList_append]
    exact List.suffix_append _ _
  have front : (name ++ ".py").toList.take ((name ++ ".py").toList.length - 3) = name.toList := by
    simp
  rw [dropModuleExtension, if_pos ends, front, String.ofList_toList]

theorem dottedName_concat (front : List String) (name : String) :
    dottedName (front ++ [name ++ ".py"]) =
      ".".intercalate ((front ++ [name]).map moduleSafePart) := by
  rw [dottedName, List.getLast?_concat, List.dropLast_concat, Option.toList_some,
    List.map_singleton, dropModuleExtension_append]

theorem head?_moduleFile_ne {front : List String} (name : String) (plain : ".." ∉ front) :
    (front ++ [name ++ ".py"]).head? ≠ some ".." := by
  intro first
  rcases List.mem_append.1 (List.mem_of_mem_head? first) with climbing | file
  · exact plain climbing
  · exact moduleFile_ne name (by decide) (List.mem_singleton.1 file).symm

theorem relativeModule_of_steps {cwd : List String} {source target : Path} {climbs : Nat}
    {front : List String} {name : String}
    (way : Path.steps (source.normalize.parent.fromRoot cwd) (target.normalize.fromRoot cwd) =
      List.replicate climbs ".." ++ (front ++ [name ++ ".py"]))
    (plain : ".." ∉ front) :
    relativeModule cwd source target =
      moduleText climbs ((front ++ [name]).map moduleSafePart) := by
  rw [relativeModule, way]
  simp only [takeWhile_replicate_append _ (head?_moduleFile_ne name plain), List.length_replicate]
  rw [List.drop_left' List.length_replicate, dottedName_concat, moduleText]

/-- Below one directory the module depends on the paths in it alone: it climbs from what is not
common to both of them. -/
theorem relativeModule_join (cwd : List String) {base importer exporter : Path}
    {directory : List String} {name : String}
    (source : importer.Descends)
    (target : exporter.Descends) (placed : importer.parts ≠ [])
    (file : exporter.parts = directory ++ [name ++ ".py"])
    (outside : name ++ ".py" ∉ importer.parent.parts) : ∃ common up front,
      importer.parent.parts = common ++ up ∧ directory = common ++ front ∧
        relativeModule cwd (base.join importer) (base.join exporter) =
          moduleText up.length ((front ++ [name]).map moduleSafePart) := by
  have apart : ¬directory ++ [name ++ ".py"] <+: importer.parent.parts := by
    intro above
    exact outside (above.subset (List.mem_append_right _ List.mem_cons_self))
  obtain ⟨common, up, front, here, rfl, way⟩ := Path.exists_steps_concat apart
  refine ⟨common, up, front, here, rfl, relativeModule_of_steps ?_ ?_⟩
  · rw [Path.steps_join cwd source placed target, file, way]
  · intro climbs
    apply target.down
    rw [file]
    simp [climbs]

theorem mem_intercalate {separator : List Char} {texts : List (List Char)} {c : Char}
    (member : c ∈ separator.intercalate texts) : c ∈ separator ∨ ∃ text ∈ texts, c ∈ text := by
  induction texts with
  | nil => cases member
  | cons first rest ih =>
      by_cases alone : rest = []
      · subst alone
        rw [List.intercalate_singleton] at member
        exact Or.inr ⟨first, List.mem_cons_self, member⟩
      · rw [List.intercalate_cons_of_ne_nil alone, List.mem_append, List.mem_append] at member
        rcases member with (inFirst | between) | later
        · exact Or.inr ⟨first, List.mem_cons_self, inFirst⟩
        · exact Or.inl between
        · obtain between | ⟨text, inRest, present⟩ := ih later
          · exact Or.inl between
          · exact Or.inr ⟨text, List.mem_cons_of_mem _ inRest, present⟩

theorem mem_moduleText {climbs : Nat} {names : List String} {c : Char}
    (member : c ∈ (moduleText climbs names).toList) :
    c = '.' ∨ ∃ name ∈ names, c ∈ name.toList := by
  rw [toList_moduleText, List.mem_append] at member
  rcases member with dots | dotted
  · exact Or.inl (List.eq_of_mem_replicate dots)
  · obtain dot | ⟨text, inside, present⟩ := mem_intercalate dotted
    · exact Or.inl (List.mem_singleton.1 dot)
    · obtain ⟨name, listed, rfl⟩ := List.mem_map.1 inside
      exact Or.inr ⟨name, listed, present⟩

theorem mem_moduleSafePart {part : String} (unslashed : '/' ∉ part.toList) {c : Char}
    (member : c ∈ (moduleSafePart part).toList) : c ≠ '-' ∧ c ≠ ' ' ∧ c ≠ '/' := by
  unfold moduleSafePart at member
  split at member
  · next moving =>
      rcases moving with rfl | rfl | rfl
      · have dot : c = '.' := by simpa using member
        subst dot
        decide
      · have dot : c = '.' := by simpa using member
        subst dot
        decide
      · exact absurd (by decide) unslashed
  · obtain ⟨-, dash, blank⟩ := isModuleName_moduleSafe part c member
    refine ⟨dash, blank, ?_⟩
    rintro rfl
    exact unslashed (mem_of_mem_moduleSafe member (by decide))

theorem moduleSafePart_eq_self {part : String} (named : IsModuleName part) :
    moduleSafePart part = part := by
  unfold moduleSafePart
  split
  · rfl
  · exact moduleSafe_eq_self named

theorem resolveModule_of_moduleNames {home : Path} {common up front : List String} {name : String}
    (here : home.parts = common ++ up) (plain : ".." ∉ home.parts) (filled : "" ∉ front)
    (named : ∀ part ∈ front ++ [name], IsModuleName part) :
    resolveModule home (moduleText up.length ((front ++ [name]).map moduleSafePart)) =
      ⟨home.anchor, common ++ (front ++ [name ++ ".py"])⟩ := by
  have kept : (front ++ [name]).map moduleSafePart = front ++ [name] :=
    (List.map_congr_left fun part member => moduleSafePart_eq_self (named part member)).trans
      (List.map_id _)
  have undotted : ∀ part ∈ front ++ [name], '.' ∉ part.toList := by
    intro part member dot
    exact (named part member '.' dot).1 rfl
  have descent : ".." ∉ front ++ [name ++ ".py"] := by
    rw [List.mem_append, List.mem_singleton, not_or]
    refine ⟨fun climbs => ?_, (moduleFile_ne name (by decide)).symm⟩
    exact (named ".." (List.mem_append_left _ climbs)).ne_climb rfl
  rw [here, List.mem_append, not_or] at plain
  rw [kept, resolveModule_moduleText home up.length filled undotted, here,
    List.append_assoc _ front, Path.collapse_append_down descent,
    Path.collapse_append_climb plain.2, Path.collapse_eq_self plain.1]

theorem resolveModule_moduleSafe (home : Path) (climbs : Nat) {parts : List String}
    (unslashed : ∀ part ∈ parts, '/' ∉ part.toList) : ∃ front last,
      resolveModule home (moduleText climbs (parts.map moduleSafePart)) =
          ⟨home.anchor, front ++ [last ++ ".py"]⟩ ∧
        IsModuleName last ∧ '/' ∉ last.toList := by
  obtain ⟨front, last, named, undotted, inside⟩ :=
    resolveModule_cases home (moduleText climbs (parts.map moduleSafePart))
  have plain : ∀ c ∈ last.toList, c ≠ '-' ∧ c ≠ ' ' ∧ c ≠ '/' := by
    intro c present
    rcases mem_moduleText (inside c present) with rfl | ⟨name, safe, char⟩
    · exact absurd present undotted
    · obtain ⟨part, listed, rfl⟩ := List.mem_map.1 safe
      exact mem_moduleSafePart (unslashed part listed) char
  refine ⟨front, last, named, fun c present => ?_, fun slash => (plain '/' slash).2.2 rfl⟩
  obtain ⟨dash, blank, -⟩ := plain c present
  exact ⟨fun dot => undotted (dot ▸ present), dash, blank⟩

end FragmentImports
