import FragmentImports.Files.Tree
import FragmentImports.Proofs.OrderedMap
import FragmentImports.Proofs.Outcome
import FragmentImports.Proofs.Path

/-!
Laws of file trees. Where a path text leads is told by the text and the working directory, and a
change of a tree keeps its directories and every file at a place that it does not write.
-/

namespace FragmentImports

namespace FileTree

/-- Where components lead from a place when nothing stands in the way. -/
def walk : (place : List String) → List String → List String
  | place, [] => place
  | place, part :: rest =>
      if part = "" ∨ part = "." then walk place rest
      else if part = ".." then walk place.dropLast rest
      else walk (place ++ [part]) rest

def placeOf (tree : FileTree) (text : String) : List String :=
  walk (tree.startOf text.toList) (partsOf text.toList)

theorem walk_append (place front back : List String) :
    walk place (front ++ back) = walk (walk place front) back := by
  fun_induction walk place front with
  | case1 place => rfl
  | case2 place part rest still ih => rw [List.cons_append, walk, if_pos still, ih]
  | case3 place rest still ih => rw [List.cons_append, walk, if_neg still, if_pos rfl, ih]
  | case4 place part rest still down ih =>
      rw [List.cons_append, walk, if_neg still, if_neg down, ih]

theorem walk_components (place : List String) (pieces : List (List Char)) :
    walk place (((pieces.filter fun piece => piece ≠ [] ∧ piece ≠ ['.'])).map String.ofList) =
      walk place (pieces.map String.ofList) := by
  induction pieces generalizing place with
  | nil => rfl
  | cons piece rest ih =>
      by_cases still : piece = [] ∨ piece = ['.']
      · have skipped : String.ofList piece = "" ∨ String.ofList piece = "." := by
          rcases still with rfl | rfl
          · exact Or.inl rfl
          · exact Or.inr rfl
        rw [List.filter_cons_of_neg (by grind), List.map_cons, walk, if_pos skipped, ih]
      · have moves : ¬(String.ofList piece = "" ∨ String.ofList piece = ".") := by
          rintro (empty | dot)
          · exact still (Or.inl (String.ofList_inj.1 empty))
          · exact still (Or.inr (String.ofList_inj.1 dot))
        rw [List.filter_cons_of_pos (by grind), List.map_cons, List.map_cons, walk, walk,
          if_neg moves, if_neg moves, ih, ih]

theorem walk_partsOf (place : List String) (text : List Char) :
    walk place (partsOf text) = walk place (Path.components text) :=
  (walk_components place (text.splitOn '/')).symm

theorem walk_down (place : List String) {parts : List String}
    (valid : ∀ part ∈ parts, Path.IsComponent part) (down : ".." ∉ parts) :
    walk place parts = place ++ parts := by
  induction parts generalizing place with
  | nil => simp [walk]
  | cons part rest ih =>
      rw [List.forall_mem_cons] at valid
      rw [List.mem_cons, not_or] at down
      rw [walk, if_neg (not_or.2 ⟨valid.1.nonempty, valid.1.moves⟩), if_neg (Ne.symm down.1),
        ih (place ++ [part]) valid.2 down.2, List.append_assoc, List.singleton_append]

variable {tree later : FileTree} {text content : String}

theorem follow_eq_ok {place target parts : List String}
    (followed : tree.follow place parts = .ok target) : target = walk place parts := by
  fun_induction follow tree place parts with
  | case1 place => exact (Except.ok.inj followed).symm
  | case2 place part rest absent => cases followed
  | case3 place part rest content file => cases followed
  | case4 place part rest inside still ih => rw [walk, if_pos still, ih followed]
  | case5 place rest inside still ih => rw [walk, if_neg still, if_pos rfl, ih followed]
  | case6 place part rest inside still down long => cases followed
  | case7 place part rest inside still down fits ih =>
      rw [walk, if_neg still, if_neg down, ih followed]

theorem find_eq_ok_iff {place : List String} {node : FileNode} :
    tree.find text = .ok (place, node) ↔
      text ≠ "" ∧ '\x00' ∉ text.toList ∧ fitsPath text ∧
        tree.follow (tree.startOf text.toList) (partsOf text.toList) = .ok place ∧
          tree.node? place = some node := by
  unfold find
  simp only [bind, Except.bind, pure, Except.pure, throw, throwThe, MonadExceptOf.throw]
  by_cases filled : text = ""
  · simp [filled]
  by_cases unbroken : '\x00' ∈ text.toList
  · simp [filled, unbroken]
  by_cases fits : fitsPath text
  · cases led : tree.follow (tree.startOf text.toList) (partsOf text.toList) with
    | error fault => simp [filled, unbroken, fits]
    | ok target =>
        cases held : tree.node? target with
        | none => grind
        | some node => grind
  · simp [filled, unbroken, fits]

theorem readBytes_eq_ok_iff {content : ByteArray} :
    tree.readBytes text = .ok content ↔ ∃ place, tree.find text = .ok (place, .file content) := by
  rw [readBytes]
  cases tree.find text with
  | error fault => simp [bind, Except.bind]
  | ok found =>
      obtain ⟨place, node⟩ := found
      cases node with
      | directory => simp [bind, Except.bind, throw, throwThe, MonadExceptOf.throw]
      | file held => simp [bind, Except.bind, pure, Except.pure]

theorem node?_put {place : List String} (below : place ≠ []) (node : FileNode)
    (other : List String) :
    (tree.put place node).node? other = if place = other then some node else tree.node? other := by
  rw [node?, node?, put, OrderedMap.get?_insert]
  by_cases root : other = []
  · rw [if_pos root, if_pos root, if_neg (root ▸ below)]
  · rw [if_neg root, if_neg root]

/-- What every change of a tree keeps: its directories, and the files that are not written. -/
structure Grows (tree later : FileTree) (written : List (List String)) : Prop where
  cwd : later.cwd = tree.cwd
  directories : ∀ place, tree.node? place = some .directory → later.node? place = some .directory
  files : ∀ place content, place ∉ written → tree.node? place = some (.file content) →
    later.node? place = some (.file content)

theorem Grows.refl (tree : FileTree) (written : List (List String)) : tree.Grows tree written :=
  ⟨rfl, fun _ inside => inside, fun _ _ _ inside => inside⟩

theorem Grows.trans {last : FileTree} {first second : List (List String)}
    (before : tree.Grows later first) (after : later.Grows last second) :
    tree.Grows last (first ++ second) where
  cwd := after.cwd.trans before.cwd
  directories := fun place inside => after.directories place (before.directories place inside)
  files := fun place content other inside => by
    rw [List.mem_append, not_or] at other
    exact after.files place content other.2 (before.files place content other.1 inside)

theorem grows_put {place : List String} (free : tree.node? place ≠ some .directory)
    (node : FileNode) : tree.Grows (tree.put place node) [place] where
  cwd := rfl
  directories := fun other inside => by
    have below : place ≠ [] := fun root => free (if_pos root)
    have apart : place ≠ other := fun same => free (same ▸ inside)
    rw [node?_put below, if_neg apart, inside]
  files := fun other content written inside => by
    have below : place ≠ [] := fun root => free (if_pos root)
    have apart : place ≠ other := fun same => written (same ▸ List.mem_singleton_self _)
    rw [node?_put below, if_neg apart, inside]

theorem Grows.of_absent {place : List String} (grows : tree.Grows later [place])
    (absent : tree.node? place = none) : tree.Grows later [] where
  cwd := grows.cwd
  directories := grows.directories
  files := fun other content _ inside => by
    refine grows.files other content ?_ inside
    rw [List.mem_singleton]
    rintro rfl
    exact absurd inside (by simp [absent])

theorem Grows.placeOf_eq {written : List (List String)} (grows : tree.Grows later written)
    (text : String) : later.placeOf text = tree.placeOf text := by
  rw [placeOf, placeOf, startOf, startOf, grows.cwd]

theorem Grows.follow {written : List (List String)} (grows : tree.Grows later written)
    {place target parts : List String} (followed : tree.follow place parts = .ok target) :
    later.follow place parts = .ok target := by
  fun_induction FileTree.follow tree place parts with
  | case1 place => exact followed
  | case2 place part rest absent => cases followed
  | case3 place part rest content file => cases followed
  | case4 place part rest inside still ih =>
      rw [FileTree.follow, grows.directories place inside]
      simpa only [if_pos still] using ih followed
  | case5 place rest inside still ih =>
      rw [FileTree.follow, grows.directories place inside]
      simpa only [if_neg still, if_pos] using ih followed
  | case6 place part rest inside still down long => cases followed
  | case7 place part rest inside still down fits ih =>
      rw [FileTree.follow, grows.directories place inside]
      simpa only [if_neg still, if_neg down, if_neg fits] using ih followed

theorem Grows.readBytes {written : List (List String)} (grows : tree.Grows later written)
    {content : ByteArray} (held : tree.readBytes text = .ok content)
    (other : tree.placeOf text ∉ written) : later.readBytes text = .ok content := by
  obtain ⟨place, found⟩ := readBytes_eq_ok_iff.1 held
  obtain ⟨filled, unbroken, fits, followed, inside⟩ := find_eq_ok_iff.1 found
  have lexical : place = tree.placeOf text := follow_eq_ok followed
  have start : later.startOf text.toList = tree.startOf text.toList := by
    rw [startOf, startOf, grows.cwd]
  have kept : later.find text = .ok (place, .file content) := by
    rw [find_eq_ok_iff, start]
    exact ⟨filled, unbroken, fits, grows.follow followed,
      grows.files place content (lexical ▸ other) inside⟩
  exact readBytes_eq_ok_iff.2 ⟨place, kept⟩

theorem grows_makeAlong (tree : FileTree) (place parts : List String) :
    tree.Grows (tree.makeAlong place parts).1 [] := by
  fun_induction makeAlong tree place parts with
  | case1 tree place => exact Grows.refl tree []
  | case2 tree place part rest still ih => exact ih
  | case3 tree place rest still ih => exact ih
  | case4 tree place part rest still down next inside ih => exact ih
  | case5 tree => exact Grows.refl tree []
  | case6 tree => exact Grows.refl tree []
  | case7 tree => exact Grows.refl tree []
  | case8 tree place part rest still down next absent whole fits ih =>
      have free : tree.node? next ≠ some .directory := by simp [absent]
      exact ((grows_put free .directory).of_absent absent).trans ih

theorem file_of_makeAlong {place parts other : List String} {content : ByteArray}
    (held : (tree.makeAlong place parts).1.node? other = some (.file content)) :
    tree.node? other = some (.file content) := by
  fun_induction makeAlong tree place parts with
  | case1 tree place => exact held
  | case2 tree place part rest still ih => exact ih held
  | case3 tree place rest still ih => exact ih held
  | case4 tree place part rest still down next inside ih => exact ih held
  | case5 tree => exact held
  | case6 tree => exact held
  | case7 tree => exact held
  | case8 tree place part rest still down next absent whole fits ih =>
      have before := ih held
      have below : next ≠ [] := by simp [next]
      rw [node?_put below] at before
      split at before
      · cases before
      · exact before

theorem makeDirectories_eq (tree : FileTree) (text : String) :
    (tree.makeDirectories text).1 = tree ∨ ∃ place parts,
      (tree.makeDirectories text).1 = (tree.makeAlong place parts).1 := by
  unfold makeDirectories
  split
  · exact Or.inl rfl
  · refine Or.inr ⟨tree.startOf text.toList, fittingParts 0 (partsOf text.toList), ?_⟩
    dsimp only
    split
    · next made along => rw [along]
    · next made fault along => rw [along]

theorem grows_makeDirectories (tree : FileTree) (text : String) :
    tree.Grows (tree.makeDirectories text).1 [] := by
  rcases tree.makeDirectories_eq text with same | ⟨place, parts, along⟩
  · rw [same]
    exact Grows.refl tree []
  · rw [along]
    exact grows_makeAlong tree place parts

theorem file_of_makeDirectories {other : List String} {content : ByteArray}
    (held : (tree.makeDirectories text).1.node? other = some (.file content)) :
    tree.node? other = some (.file content) := by
  rcases tree.makeDirectories_eq text with same | ⟨place, parts, along⟩
  · rwa [same] at held
  · rw [along] at held
    exact file_of_makeAlong held

theorem writeFile_eq_ok (wrote : tree.writeFile text content = .ok later) :
    '\x00' ∉ text.toList ∧ fitsPath text ∧
      tree.follow (tree.startOf text.toList) (partsOf text.toList) = .ok (tree.placeOf text) ∧
        tree.node? (tree.placeOf text) ≠ some .directory ∧
          later = tree.put (tree.placeOf text) (.file content.toUTF8) := by
  unfold writeFile at wrote
  simp only [bind, Except.bind, pure, Except.pure, throw, throwThe, MonadExceptOf.throw] at wrote
  split at wrote
  · cases wrote
  next unbroken =>
  split at wrote
  · cases wrote
  next fits =>
  split at wrote
  · cases wrote
  next place followed =>
  obtain rfl : place = tree.placeOf text := follow_eq_ok followed
  refine ⟨by simpa using unbroken, by simpa using fits, followed, ?_⟩
  split at wrote
  · cases wrote
  · next before held => exact ⟨by simp [held], (Except.ok.inj wrote).symm⟩
  · next held =>
      split at wrote
      · cases wrote
      split at wrote
      · exact ⟨by simp [held], (Except.ok.inj wrote).symm⟩
      · cases wrote

theorem grows_writeFile (wrote : tree.writeFile text content = .ok later) :
    tree.Grows later [tree.placeOf text] := by
  obtain ⟨-, -, -, free, rfl⟩ := writeFile_eq_ok wrote
  exact grows_put free _

theorem file_of_writeFile {other : List String} {bytes : ByteArray}
    (wrote : tree.writeFile text content = .ok later)
    (held : later.node? other = some (.file bytes)) :
    other = tree.placeOf text ∧ bytes = content.toUTF8 ∨
      tree.node? other = some (.file bytes) := by
  obtain ⟨-, -, -, free, rfl⟩ := writeFile_eq_ok wrote
  have below : tree.placeOf text ≠ [] := fun root => free (if_pos root)
  rw [node?_put below] at held
  split at held
  · next same =>
      cases held
      exact Or.inl ⟨same.symm, rfl⟩
  · exact Or.inr held

theorem readBytes_of_writeFile (wrote : tree.writeFile text content = .ok later) :
    later.readBytes text = .ok content.toUTF8 := by
  have grows := grows_writeFile wrote
  obtain ⟨unbroken, fits, followed, free, rfl⟩ := writeFile_eq_ok wrote
  have below : tree.placeOf text ≠ [] := fun root => free (if_pos root)
  -- the empty text leads to the working directory, which a way ends at only if it is a directory
  have filled : text ≠ "" := by
    rintro rfl
    have parts : partsOf "".toList = [""] := rfl
    have here : tree.placeOf "" = tree.cwd := rfl
    rw [here] at free
    rw [parts, FileTree.follow] at followed
    split at followed
    · cases followed
    · cases followed
    · next inside => exact free inside
  refine readBytes_eq_ok_iff.2 ⟨tree.placeOf text, ?_⟩
  rw [find_eq_ok_iff, node?_put below, if_pos rfl]
  exact ⟨filled, unbroken, fits, grows.follow followed, rfl⟩

theorem partsOf_append_slash (front back : List Char) :
    partsOf (front ++ '/' :: back) = partsOf front ++ partsOf back := by
  rw [partsOf, List.splitOn_append_cons_self, List.map_append]
  rfl

theorem startOf_append (tree : FileTree) {front : List Char} (filled : front ≠ [])
    (back : List Char) : tree.startOf (front ++ back) = tree.startOf front := by
  rw [startOf, startOf, List.head?_append_of_ne_nil _ filled]

theorem walk_append_slash (tree : FileTree) (front back : List Char) :
    walk (tree.startOf (front ++ '/' :: back)) (partsOf (front ++ '/' :: back)) =
      walk (walk (tree.startOf (front ++ ['/'])) (partsOf (front ++ ['/']))) (partsOf back) := by
  have start : tree.startOf (front ++ '/' :: back) = tree.startOf (front ++ ['/']) := by
    rw [List.append_cons, startOf_append tree (by simp)]
  rw [start, partsOf_append_slash, partsOf_append_slash, walk_append, walk_append]
  rfl

theorem walk_closed (tree : FileTree) {front : List Char} (filled : front ≠ []) :
    walk (tree.startOf (front ++ ['/'])) (partsOf (front ++ ['/'])) =
      walk (tree.startOf front) (partsOf front) := by
  rw [startOf_append tree filled, partsOf_append_slash, walk_append]
  rfl

theorem placeOf_joinPathTexts (tree : FileTree) (directory : String) {text : String}
    (relative : text.toList.head? ≠ some '/') :
    tree.placeOf (joinPathTexts directory text) =
      walk (tree.placeOf directory) (partsOf text.toList) := by
  by_cases empty : directory = ""
  · subst empty
    rw [joinPathTexts, if_pos (Or.inr rfl), placeOf, startOf, if_neg relative]
    rfl
  have filled : directory.toList ≠ [] := fun nil => empty (String.toList_eq_nil_iff.1 nil)
  rw [joinPathTexts, if_neg (not_or.2 ⟨relative, empty⟩)]
  by_cases closed : directory.toList.getLast? = some '/'
  · obtain ⟨front, whole⟩ := List.getLast?_eq_some_iff.1 closed
    rw [if_pos closed, placeOf, placeOf, String.toList_append, whole, List.append_assoc]
    exact walk_append_slash tree front text.toList
  · rw [if_neg closed, placeOf, placeOf, ← walk_closed tree filled, ← walk_append_slash]
    simp only [String.toList_append, List.append_assoc]
    rfl

/-- A path that descends leads below the directory that its text is put behind. -/
theorem placeOf_render (tree : FileTree) (directory : String) {path : Path} (inner : path.Descends)
    (valid : ∀ part ∈ path.parts, Path.IsComponent part) :
    tree.placeOf (joinPathTexts directory path.render) =
      tree.placeOf directory ++ path.parts := by
  have unrooted := Path.head?_render_ne inner.relative valid
  rw [placeOf_joinPathTexts tree directory unrooted, walk_partsOf, Path.components_render valid,
    walk_down _ valid inner.down]

end FileTree

end FragmentImports
