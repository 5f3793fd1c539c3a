import FragmentImports.Proofs.RelativeModule

/-!
Relative modules undo module resolution. Whatever the two paths are, the module text written for the
way from the directory of one file to another one leads back to the absolute path of that file,
unless the file is called like the directory itself or one above it.
-/

namespace FragmentImports

namespace Path

def absolute (cwd : List String) (path : Path) : Path where
  anchor := if path.anchor = .relative then .root else path.anchor
  parts := path.fromRoot cwd

theorem foldl_descend_collapse (rooted : Bool) (behind parts : List String) :
    (collapse false parts).foldl (descend rooted) behind =
      parts.foldl (descend rooted) behind := by
  induction parts using List.reverseRecOn with
  | nil => rfl
  | append_singleton front last ih =>
      rw [collapse] at ih
      rw [collapse, List.foldl_append, List.foldl_append, ← ih]
      generalize front.foldl (descend false) [] = resolved
      simp only [List.foldl_cons, List.foldl_nil]
      by_cases climbs : last = ".."
      · subst climbs
        cases resolved with
        | nil => rfl
        | cons above rest =>
            by_cases stuck : above = ".."
            · subst stuck
              have kept : descend false (".." :: rest) ".." = ".." :: ".." :: rest := rfl
              rw [kept, List.reverse_cons, List.foldl_append]
              rfl
            · rw [descend_climb stuck, List.reverse_cons, List.foldl_append, List.foldl_cons,
                List.foldl_nil, descend_down stuck, descend_climb stuck]
      · rw [descend_down climbs, List.reverse_cons, List.foldl_append]
        rfl

theorem collapse_append_collapse (rooted : Bool) (front parts : List String) :
    collapse rooted (front ++ collapse false parts) = collapse rooted (front ++ parts) := by
  calc
    _ = ((collapse false parts).foldl (descend rooted)
          (front.foldl (descend rooted) [])).reverse := by
      rw [collapse, List.foldl_append]
    _ = (parts.foldl (descend rooted) (front.foldl (descend rooted) [])).reverse := by
      rw [foldl_descend_collapse]
    _ = collapse rooted (front ++ parts) := by
      rw [collapse, List.foldl_append]

theorem not_mem_collapse_true (parts : List String) : ".." ∉ collapse true parts := by
  rw [collapse, List.mem_reverse]
  induction parts using List.reverseRecOn with
  | nil => exact List.not_mem_nil
  | append_singleton front last ih =>
      rw [List.foldl_append, List.foldl_cons, List.foldl_nil]
      generalize front.foldl (descend true) [] = resolved at ih
      by_cases climbs : last = ".."
      · subst climbs
        cases resolved with
        | nil => exact List.not_mem_nil
        | cons above rest =>
            rw [List.mem_cons, not_or] at ih
            rw [descend_climb (Ne.symm ih.1)]
            exact ih.2
      · rw [descend_down climbs, List.mem_cons, not_or]
        exact ⟨Ne.symm climbs, ih⟩

theorem not_mem_fromRoot (cwd : List String) (path : Path) : ".." ∉ path.fromRoot cwd :=
  not_mem_collapse_true _

theorem fromRoot_normalize (cwd : List String) (path : Path) :
    path.normalize.fromRoot cwd = path.fromRoot cwd := by
  simp only [fromRoot, normalize]
  by_cases relative : path.anchor = .relative
  · simp only [relative, if_true, ne_eq, not_true_eq_false, decide_false]
    exact collapse_append_collapse true cwd path.parts
  · simp only [relative, if_false, ne_eq, not_false_eq_true, decide_true]
    exact collapse_eq_self (not_mem_collapse_true path.parts)

theorem mem_fromRoot {cwd : List String} {path : Path} {part : String}
    (member : part ∈ path.fromRoot cwd) : part ∈ cwd ∨ part ∈ path.parts := by
  have inside := mem_collapse member
  split at inside
  · exact List.mem_append.1 inside
  · exact Or.inr inside

theorem fromRoot_concat (cwd : List String) {anchor : Anchor} {front : List String} {file : String}
    (plain : file ≠ "..") :
    fromRoot cwd ⟨anchor, front ++ [file]⟩ = fromRoot cwd ⟨anchor, front⟩ ++ [file] := by
  have down : ".." ∉ [file] := by simpa using Ne.symm plain
  simp only [fromRoot]
  split
  · rw [← List.append_assoc, collapse_append_down down]
  · rw [collapse_append_down down]

theorem steps_of_prefix {home target : List String} (above : target <+: home) :
    steps home target = List.replicate (home.length - target.length) ".." := by
  obtain ⟨rest, rfl⟩ := above
  have way := steps_append_left target rest []
  rw [List.append_nil] at way
  rw [way, List.length_append, Nat.add_sub_cancel_left]
  cases rest with
  | nil => rfl
  | cons first tail => simp [steps]

end Path

/-- The components of the way from the directory of one file to another one, as a relative path. -/
def wayBetween (cwd : List String) (source target : Path) : List String :=
  Path.steps (source.normalize.parent.fromRoot cwd) (target.normalize.fromRoot cwd)

def homeOf (cwd : List String) (source : Path) : Path := source.normalize.parent.absolute cwd

/-- The target is a module file, and the components on the way down to it, if the way goes down at
all, can stand in a module name. -/
structure WayToModule (cwd : List String) (source target : Path) (stem : String) : Prop where
  file : target.name = stem ++ ".py"
  filled : stem ≠ ""
  named : IsModuleName stem
  below : ∀ part ∈ ((wayBetween cwd source target).dropWhile (· = "..")).dropLast,
    IsModuleName part

instance (cwd : List String) (source target : Path) (stem : String) :
    Decidable (WayToModule cwd source target stem) :=
  decidable_of_iff (target.name = stem ++ ".py" ∧ stem ≠ "" ∧ IsModuleName stem ∧
      ∀ part ∈ ((wayBetween cwd source target).dropWhile (· = "..")).dropLast, IsModuleName part)
    ⟨fun ⟨file, filled, named, below⟩ => ⟨file, filled, named, below⟩,
      fun ⟨file, filled, named, below⟩ => ⟨file, filled, named, below⟩⟩

section Resolution

variable {cwd : List String} {source target : Path} {stem : String}

theorem parts_resolveModule_dots_ne (home : Path) (count : Nat) {front : List String}
    (filled : stem ≠ "") :
    (resolveModule home (String.ofList (List.replicate count '.'))).parts ≠
      front ++ [stem ++ ".py"] := by
  intro same
  obtain ⟨before, last, named, undotted, inside⟩ :=
    resolveModule_cases home (String.ofList (List.replicate count '.'))
  have nothing : last = "" := by
    apply String.toList_eq_nil_iff.1
    apply List.eq_nil_iff_forall_not_mem.2
    intro c present
    have dot := inside c present
    rw [String.toList_ofList] at dot
    exact undotted (List.eq_of_mem_replicate dot ▸ present)
  rw [named] at same
  have file : last ++ ".py" = stem ++ ".py" :=
    List.singleton_inj.1 (List.append_inj' same rfl).2
  apply filled
  rw [← (String.append_left_inj _).1 file, nothing]

theorem relativeModule_of_climbs {climbs : Nat}
    (way : wayBetween cwd source target = List.replicate climbs "..") :
    relativeModule cwd source target = String.ofList (List.replicate (climbs + 1) '.') := by
  have ups : (List.replicate climbs "..").takeWhile (· = "..") = List.replicate climbs ".." := by
    simp
  rw [wayBetween] at way
  simp [relativeModule, way, ups, dottedName]

theorem exists_parts_eq_concat {path : Path} {file : String} (named : path.name = file)
    (filled : file ≠ "") : ∃ front, path.parts = front ++ [file] := by
  rcases List.eq_nil_or_concat' path.parts with empty | ⟨front, last, split⟩
  · apply absurd _ filled
    rw [← named, Path.name, empty]
    rfl
  · refine ⟨front, ?_⟩
    rw [← named, Path.name, split, List.getLast?_concat, Option.getD_some]

theorem exists_fromRoot_eq_concat (cwd : List String) (file : target.name = stem ++ ".py") :
    ∃ front, target.fromRoot cwd = front ++ [stem ++ ".py"] := by
  have filled : stem ++ ".py" ≠ "" := moduleFile_ne stem (by decide)
  obtain ⟨anchor, parts⟩ := target
  obtain ⟨front, split⟩ := exists_parts_eq_concat file filled
  cases split
  exact ⟨_, Path.fromRoot_concat cwd (moduleFile_ne stem (by decide))⟩

theorem resolveModule_relativeModule (rooted : ∀ part ∈ cwd, Path.IsComponent part)
    (components : ∀ part ∈ target.parts, Path.IsComponent part)
    (names : WayToModule cwd source target stem)
    (apart : ¬target.fromRoot cwd <+: (homeOf cwd source).parts) :
    resolveModule (homeOf cwd source) (relativeModule cwd source target) =
      ⟨(homeOf cwd source).anchor, target.fromRoot cwd⟩ := by
  obtain ⟨directory, whole⟩ := exists_fromRoot_eq_concat cwd names.file
  rw [whole] at apart
  obtain ⟨common, up, front, here, there, way⟩ := Path.exists_steps_concat apart
  rw [← whole, ← Path.fromRoot_normalize cwd target] at way
  have inside : ∀ part ∈ front, part ∈ target.fromRoot cwd := by
    intro part member
    rw [whole, there]
    exact List.mem_append_left _ (List.mem_append_right _ member)
  have plain : ".." ∉ front := by
    intro climbs
    exact Path.not_mem_fromRoot cwd target (inside ".." climbs)
  have filled : "" ∉ front := by
    intro empty
    rcases Path.mem_fromRoot (inside "" empty) with directory | part
    · exact (rooted "" directory).nonempty rfl
    · exact (components "" part).nonempty rfl
  have descent : (wayBetween cwd source target).dropWhile (· = "..") =
      front ++ [stem ++ ".py"] := by
    rw [wayBetween]
    exact way ▸ dropWhile_replicate_append up.length (head?_moduleFile_ne stem plain)
  have named : ∀ part ∈ front ++ [stem], IsModuleName part := by
    have below := names.below
    rw [descent, List.dropLast_concat] at below
    exact List.forall_mem_append.2 ⟨below, by simpa using names.named⟩
  have text : relativeModule cwd source target =
      moduleText up.length ((front ++ [stem]).map moduleSafePart) :=
    relativeModule_of_steps way plain
  rw [text, resolveModule_of_moduleNames here (Path.not_mem_fromRoot cwd _) filled named, whole,
    there, List.append_assoc]

theorem parts_resolveModule_relativeModule_ne (names : WayToModule cwd source target stem)
    (above : target.fromRoot cwd <+: (homeOf cwd source).parts) :
    (resolveModule (homeOf cwd source) (relativeModule cwd source target)).parts ≠
      target.fromRoot cwd := by
  have way : wayBetween cwd source target = List.replicate
      ((homeOf cwd source).parts.length - (target.fromRoot cwd).length) ".." := by
    rw [wayBetween, Path.fromRoot_normalize cwd target]
    exact Path.steps_of_prefix above
  obtain ⟨front, whole⟩ := exists_fromRoot_eq_concat cwd names.file
  rw [relativeModule_of_climbs way, whole]
  exact parts_resolveModule_dots_ne _ _ names.filled

/-- Resolving the relative module of a file in the directory of its importer gives the absolute path
of the file exactly when that path is neither this directory nor one above it, and starts at the
same anchor. Whatever the anchors are, the components are those of the file. -/
theorem relativeModule_inverts_resolution (rooted : ∀ part ∈ cwd, Path.IsComponent part)
    {importer imported : String}
    (names : WayToModule cwd (.ofString importer) (.ofString imported) stem) :
    let home := homeOf cwd (.ofString importer)
    let place := (Path.ofString imported).absolute cwd
    let resolved := resolveModule home
      (relativeModule cwd (.ofString importer) (.ofString imported))
    (resolved = place ↔ ¬place.parts <+: home.parts ∧ place.anchor = home.anchor) ∧
      (resolved.parts = place.parts ↔ ¬place.parts <+: home.parts) := by
  intro home place resolved
  have components : ∀ part ∈ (Path.ofString imported).parts, Path.IsComponent part := by
    intro part member
    exact Path.isComponent_of_mem member
  have reached : ¬place.parts <+: home.parts → resolved = ⟨home.anchor, place.parts⟩ :=
    resolveModule_relativeModule rooted components names
  have missed : place.parts <+: home.parts → resolved.parts ≠ place.parts :=
    parts_resolveModule_relativeModule_ne names
  constructor
  · constructor
    · intro same
      have apart : ¬place.parts <+: home.parts := by
        intro above
        exact missed above (congrArg Path.parts same)
      have facing := congrArg Path.anchor (same.symm.trans (reached apart))
      exact ⟨apart, facing⟩
    · intro facing
      rw [reached facing.1, ← facing.2]
  · constructor
    · intro same above
      exact missed above same
    · intro apart
      rw [reached apart]

end Resolution

theorem relativeModule_inverts_resolution_climbing :
    WayToModule ["work", "project"] (.ofString "/srv/./app/../q.py")
        (.ofString "../shared//user.py") "user" ∧
      resolveModule (homeOf ["work", "project"] (.ofString "/srv/./app/../q.py"))
          (relativeModule ["work", "project"] (.ofString "/srv/./app/../q.py")
            (.ofString "../shared//user.py")) =
        ⟨.root, ["work", "shared", "user.py"]⟩ := by
  have rooted : ∀ part ∈ ["work", "project"], Path.IsComponent part := by decide
  have names : WayToModule ["work", "project"] (.ofString "/srv/./app/../q.py")
      (.ofString "../shared//user.py") "user" := by decide
  have inverts := relativeModule_inverts_resolution rooted names
  exact ⟨names, (inverts.1.2 ⟨by decide, by decide⟩).trans (by decide)⟩

/-- A module does not lead to a file whose path is a directory above the importer, for want of a
component to name it by, nor from the root to the other anchor. -/
theorem relativeModule_misses :
    WayToModule ["work"] (.ofString "user.py/ops/query.py") (.ofString "user.py") "user" ∧
      relativeModule ["work"] (.ofString "user.py/ops/query.py") (.ofString "user.py") = ".." ∧
      resolveModule (homeOf ["work"] (.ofString "user.py/ops/query.py")) ".." ≠
        (Path.ofString "user.py").absolute ["work"] ∧
      resolveModule (homeOf ["work"] (.ofString "user.py/ops/query.py")) "...user" =
        (Path.ofString "user.py").absolute ["work"] ∧
      WayToModule ["work"] (.ofString "/a/x.py") (.ofString "//a/y.py") "y" ∧
      relativeModule ["work"] (.ofString "/a/x.py") (.ofString "//a/y.py") = ".y" ∧
      resolveModule (homeOf ["work"] (.ofString "/a/x.py")) ".y" ≠
        (Path.ofString "//a/y.py").absolute ["work"] := by
  decide +kernel

end FragmentImports
