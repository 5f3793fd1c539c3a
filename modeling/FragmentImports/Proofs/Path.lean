import FragmentImports.Path
import Mathlib.Data.List.Basic
import Mathlib.Data.List.Induction
import Mathlib.Data.List.TakeWhile

/-!
Laws of paths. A printed path is read back as it was, a path that only descends is left alone by
normalization wherever it is joined to, and the steps between two directories lead from one to the
other.
-/

namespace FragmentImports

theorem Anchor.ofText_append (anchor : Anchor) {text : List Char} (start : text.head? ≠ some '/') :
    Anchor.ofText (anchor.render.toList ++ text) = anchor := by
  cases text with
  | nil => cases anchor <;> rfl
  | cons c rest =>
      have other : c ≠ '/' := by simpa using start
      cases anchor with
      | relative => simp [Anchor.ofText, Anchor.render, other]
      | root => simp [Anchor.ofText, Anchor.render, other]
      | doubled => simp [Anchor.ofText, Anchor.render, other]

namespace Path

/-- A text that stands for itself between the slashes of a path. -/
structure IsComponent (part : String) : Prop where
  nonempty : part ≠ ""
  moves : part ≠ "."
  unslashed : '/' ∉ part.toList

instance (part : String) : Decidable (IsComponent part) :=
  decidable_of_iff (part ≠ "" ∧ part ≠ "." ∧ '/' ∉ part.toList)
    ⟨fun ⟨nonempty, moves, unslashed⟩ => ⟨nonempty, moves, unslashed⟩,
      fun ⟨nonempty, moves, unslashed⟩ => ⟨nonempty, moves, unslashed⟩⟩

/-- A path that stays below whatever it is joined to. -/
structure Descends (path : Path) : Prop where
  relative : path.anchor = .relative
  down : ".." ∉ path.parts

instance (path : Path) : Decidable path.Descends :=
  decidable_of_iff (path.anchor = .relative ∧ ".." ∉ path.parts)
    ⟨fun ⟨relative, down⟩ => ⟨relative, down⟩, fun ⟨relative, down⟩ => ⟨relative, down⟩⟩

theorem IsComponent.exists_toList_cons {part : String} (valid : IsComponent part) :
    ∃ c rest, part.toList = c :: rest ∧ c ≠ '/' := by
  have nonempty : part.toList ≠ [] := fun empty => valid.nonempty (String.toList_eq_nil_iff.1 empty)
  obtain ⟨c, rest, text⟩ := List.exists_cons_of_ne_nil nonempty
  refine ⟨c, rest, text, ?_⟩
  rintro rfl
  exact valid.unslashed (text ▸ List.mem_cons_self)

theorem unsplit_of_mem_splitOn {text part : List Char} {mark : Char}
    (member : part ∈ text.splitOn mark) : mark ∉ part ∧ ∀ c ∈ part, c ∈ text := by
  induction text generalizing part with
  | nil =>
      rw [List.splitOn_nil, List.mem_singleton] at member
      subst member
      simp
  | cons first rest ih =>
      obtain ⟨head, tail, split⟩ := List.exists_cons_of_ne_nil (List.splitOn_ne_nil mark rest)
      have inner : ∀ piece ∈ head :: tail, mark ∉ piece ∧ ∀ c ∈ piece, c ∈ first :: rest := by
        intro piece inside
        obtain ⟨free, chars⟩ := ih (split ▸ inside)
        exact ⟨free, fun c present => List.mem_cons_of_mem _ (chars c present)⟩
      rw [List.splitOn_cons_eq_if_modifyHead, split] at member
      -- a mark closes an empty piece, any other character goes in front of the first piece
      by_cases boundary : first = mark
      · rw [if_pos (beq_iff_eq.2 boundary)] at member
        rcases List.mem_cons.1 member with rfl | later
        · simp
        · exact inner part later
      · rw [if_neg (by simpa using boundary), List.modifyHead_cons] at member
        rcases List.mem_cons.1 member with rfl | later
        · obtain ⟨free, chars⟩ := inner head List.mem_cons_self
          refine ⟨?_, List.forall_mem_cons.2 ⟨List.mem_cons_self, chars⟩⟩
          simpa [eq_comm] using And.intro boundary free
        · exact inner part (List.mem_cons_of_mem _ later)

theorem isComponent_of_mem {text : List Char} {part : String} (member : part ∈ components text) :
    IsComponent part := by
  obtain ⟨piece, inside, rfl⟩ := List.mem_map.1 member
  obtain ⟨split, meaning⟩ := List.mem_filter.1 inside
  obtain ⟨nonempty, moves⟩ := of_decide_eq_true meaning
  constructor
  · intro empty
    exact nonempty (by simpa using congrArg String.toList empty)
  · intro dot
    exact moves (by simpa using congrArg String.toList dot)
  · rw [String.toList_ofList]
    exact (unsplit_of_mem_splitOn split).1

@[simp]
theorem components_nil : components [] = [] := rfl

theorem components_append_slash (front back : List Char) :
    components (front ++ '/' :: back) = components front ++ components back := by
  rw [components, List.splitOn_append_cons_self, List.filter_append, List.map_append]
  rfl

theorem components_toList {part : String} (valid : IsComponent part) :
    components part.toList = [part] := by
  have meaning : part.toList ≠ [] ∧ part.toList ≠ ['.'] := by
    constructor
    · intro empty
      exact valid.nonempty (String.toList_eq_nil_iff.1 empty)
    · intro dot
      exact valid.moves (String.toList_inj.1 dot)
  rw [components, List.splitOn_eq_singleton valid.unslashed, List.filter_cons_of_pos,
    List.filter_nil, List.map_singleton, String.ofList_toList]
  exact decide_eq_true meaning

theorem render_concat (anchor : Anchor) (front : List String) (last : String) :
    render ⟨anchor, front ++ [last]⟩ = anchor.render ++ "/".intercalate (front ++ [last]) := by
  rw [render, if_neg]
  simp

theorem components_render_concat (anchor : Anchor) (front : List String) (last : String) :
    components (render ⟨anchor, front ++ [last]⟩).toList =
      components (anchor.render ++ "/".intercalate front).toList ++ components last.toList := by
  rw [render_concat]
  by_cases alone : front = []
  · subst alone
    simp only [List.nil_append, String.intercalate_singleton, String.intercalate_nil,
      String.toList_append]
    cases anchor with
    | relative => rfl
    | root => exact components_append_slash [] last.toList
    | doubled => exact components_append_slash ['/'] last.toList
  · rw [String.intercalate_append_of_ne_nil alone (List.cons_ne_nil last []),
      String.intercalate_singleton, ← components_append_slash]
    simp

theorem components_render {path : Path} (valid : ∀ part ∈ path.parts, IsComponent part) :
    components path.render.toList = path.parts := by
  obtain ⟨anchor, parts⟩ := path
  induction parts using List.reverseRecOn with
  | nil => cases anchor <;> rfl
  | append_singleton front last ih =>
      have before : ∀ part ∈ front, IsComponent part := by
        intro part member
        exact valid part (List.mem_append_left _ member)
      -- an empty relative path is printed as a dot, which is read as nothing
      have printed : components (anchor.render ++ "/".intercalate front).toList = front := by
        by_cases empty : anchor = .relative ∧ front = []
        · obtain ⟨rfl, rfl⟩ := empty
          rfl
        · have text := ih before
          rwa [render, if_neg empty] at text
      rw [components_render_concat, components_toList (valid last (by simp)), printed]

theorem ofString_render {path : Path} (valid : ∀ part ∈ path.parts, IsComponent part) :
    ofString path.render = path := by
  obtain ⟨anchor, parts⟩ := path
  have read := components_render valid
  rw [ofString, read]
  congr 1
  cases parts with
  | nil => cases anchor <;> rfl
  | cons first rest =>
      have head : ("/".intercalate (first :: rest)).toList.head? ≠ some '/' := by
        obtain ⟨c, tail, text, other⟩ := (valid first List.mem_cons_self).exists_toList_cons
        rw [String.toList_intercalate, List.map_cons, text, List.intercalate_cons_cons_left,
          List.head?_cons]
        simpa using other
      rw [render, if_neg (by simp), String.toList_append]
      exact Anchor.ofText_append anchor head

theorem head?_render_ne {path : Path} (relative : path.anchor = .relative)
    (valid : ∀ part ∈ path.parts, IsComponent part) : path.render.toList.head? ≠ some '/' := by
  intro rooted
  have read : Anchor.ofText path.render.toList = path.anchor :=
    congrArg Path.anchor (ofString_render valid)
  obtain ⟨rest, text⟩ := List.head?_eq_some_iff.1 rooted
  rw [text, relative] at read
  unfold Anchor.ofText at read
  grind

theorem ofString_component {part : String} (valid : IsComponent part) :
    ofString part = ⟨.relative, [part]⟩ := by
  have read : ofString (render ⟨.relative, [part]⟩) = ⟨.relative, [part]⟩ :=
    ofString_render (by simpa using valid)
  rwa [← List.nil_append [part], render_concat, List.nil_append, String.intercalate_singleton,
    Anchor.render, String.empty_append] at read

theorem name_ofString_render_concat (anchor : Anchor) (front : List String) {last : String}
    (valid : IsComponent last) : (ofString (render ⟨anchor, front ++ [last]⟩)).name = last := by
  rw [name, ofString, components_render_concat, components_toList valid]
  simp

theorem descend_down {rooted : Bool} {behind : List String} {part : String}
    (plain : part ≠ "..") : descend rooted behind part = part :: behind := by
  unfold descend
  rw [if_pos plain]

theorem descend_climb {rooted : Bool} {last : String} {rest : List String} (plain : last ≠ "..") :
    descend rooted (last :: rest) ".." = rest := by
  unfold descend
  rw [if_neg (not_not_intro rfl)]
  exact if_neg plain

theorem foldl_descend_down {rooted : Bool} {behind down : List String} (plain : ".." ∉ down) :
    down.foldl (descend rooted) behind = down.reverse ++ behind := by
  induction down generalizing behind with
  | nil => rfl
  | cons part rest ih =>
      rw [List.mem_cons, not_or] at plain
      rw [List.foldl_cons, descend_down (Ne.symm plain.1), ih plain.2, List.reverse_cons,
        List.append_assoc, List.singleton_append]

theorem collapse_append_down {rooted : Bool} {front down : List String} (plain : ".." ∉ down) :
    collapse rooted (front ++ down) = collapse rooted front ++ down := by
  rw [collapse, List.foldl_append, foldl_descend_down plain, List.reverse_append,
    List.reverse_reverse, collapse]

theorem collapse_eq_self {rooted : Bool} {parts : List String} (plain : ".." ∉ parts) :
    collapse rooted parts = parts := by
  rw [collapse, foldl_descend_down plain, List.append_nil, List.reverse_reverse]

theorem mem_descend {rooted : Bool} {behind : List String} {first part : String}
    (member : part ∈ descend rooted behind first) : part = first ∨ part ∈ behind := by
  by_cases climbs : first = ".."
  · subst climbs
    cases behind with
    | nil => cases rooted with
      | true => cases member
      | false => exact Or.inl (List.mem_singleton.1 member)
    | cons last rest =>
        by_cases stuck : last = ".."
        · subst stuck
          exact List.mem_cons.1 member
        · rw [descend_climb stuck] at member
          exact Or.inr (List.mem_cons_of_mem _ member)
  · rw [descend_down climbs] at member
    exact List.mem_cons.1 member

theorem mem_collapse {rooted : Bool} {parts : List String} {part : String}
    (member : part ∈ collapse rooted parts) : part ∈ parts := by
  induction parts using List.reverseRecOn with
  | nil => cases member
  | append_singleton front last ih =>
      rw [collapse, List.foldl_append, List.mem_reverse] at member
      rcases mem_descend member with rfl | before
      · exact List.mem_append_right _ (List.mem_singleton_self _)
      · exact List.mem_append_left _ (ih (List.mem_reverse.2 before))

theorem foldl_descend_climb {rooted : Bool} {behind up : List String} (plain : ".." ∉ up) :
    (List.replicate up.length "..").foldl (descend rooted) (up ++ behind) = behind := by
  induction up with
  | nil => rfl
  | cons part rest ih =>
      rw [List.mem_cons, not_or] at plain
      rw [List.length_cons, List.replicate_succ, List.foldl_cons, List.cons_append,
        descend_climb (Ne.symm plain.1), ih plain.2]

theorem collapse_append_climb {rooted : Bool} {front up : List String} (plain : ".." ∉ up) :
    collapse rooted (front ++ up ++ List.replicate up.length "..") = collapse rooted front := by
  have reversed : ".." ∉ up.reverse := by simpa using plain
  rw [collapse, List.foldl_append, List.foldl_append, foldl_descend_down plain,
    ← List.length_reverse, foldl_descend_climb reversed]
  rfl

theorem collapse_concat {front : List String} (plain : ".." ∉ front) (last : String) :
    collapse false (front ++ [last]) = [".."] ∨ ".." ∉ collapse false (front ++ [last]) := by
  by_cases climbs : last = ".."
  · subst climbs
    cases front using List.reverseRecOn with
    | nil => exact Or.inl rfl
    | append_singleton before above =>
        right
        rw [List.mem_append, List.mem_singleton, not_or] at plain
        have undone : collapse false (before ++ [above] ++ [".."]) = collapse false before :=
          @collapse_append_climb false before [above] (by simpa using plain.2)
        rw [undone, collapse_eq_self plain.1]
        exact plain.1
  · right
    have whole : ".." ∉ front ++ [last] :=
      List.not_mem_append plain (by simpa using Ne.symm climbs)
    rw [collapse_eq_self whole]
    exact whole

theorem Descends.normalize {path : Path} (inner : path.Descends) : path.normalize = path := by
  rw [Path.normalize, collapse_eq_self inner.down]

theorem Descends.parent {path : Path} (inner : path.Descends) : path.parent.Descends where
  relative := inner.relative
  down := fun member => inner.down (List.dropLast_subset _ member)

theorem Descends.join {base path : Path} (outer : base.Descends) (inner : path.Descends) :
    (base.join path).Descends := by
  rw [Path.join, if_pos inner.relative]
  exact ⟨outer.relative, List.not_mem_append outer.down inner.down⟩

variable {base path : Path}

theorem normalize_join (inner : path.Descends) :
    (base.join path).normalize = base.normalize.join path := by
  simp only [join, normalize, inner.relative, if_true, collapse_append_down inner.down]

theorem parent_join (inner : path.Descends) (named : path.parts ≠ []) :
    (base.join path).parent = base.join path.parent := by
  rw [join, join, if_pos inner.relative, if_pos inner.parent.relative, parent,
    List.dropLast_append_of_ne_nil named, parent]

theorem fromRoot_join (cwd : List String) (inner : path.Descends) :
    (base.join path).fromRoot cwd = base.fromRoot cwd ++ path.parts := by
  simp only [join, if_pos inner.relative, fromRoot]
  split
  · rw [← List.append_assoc, collapse_append_down inner.down]
  · rw [collapse_append_down inner.down]

theorem steps_append_left (common home target : List String) :
    steps (common ++ home) (common ++ target) = steps home target := by
  induction common with
  | nil => rfl
  | cons part rest ih => rw [List.cons_append, List.cons_append, steps, if_pos rfl, ih]

/-- Below a directory the way from a file to another one does not depend on that directory. -/
theorem steps_join (cwd : List String) {source target : Path}
    (importer : source.Descends) (placed : source.parts ≠ []) (inner : target.Descends) :
    steps ((base.join source).normalize.parent.fromRoot cwd)
        ((base.join target).normalize.fromRoot cwd) =
      steps source.parent.parts target.parts := by
  rw [normalize_join importer, normalize_join inner, parent_join importer placed,
    fromRoot_join cwd importer.parent, fromRoot_join cwd inner, steps_append_left]

theorem exists_steps (home target : List String) : ∃ common up down,
    home = common ++ up ∧ target = common ++ down ∧
      steps home target = List.replicate up.length ".." ++ down := by
  fun_induction steps home target with
  | case1 up part down ih =>
      obtain ⟨common, left, right, rfl, rfl, way⟩ := ih
      exact ⟨part :: common, left, right, rfl, rfl, way⟩
  | case2 here up target down apart =>
      exact ⟨[], here :: up, target :: down, rfl, rfl, rfl⟩
  | case3 up down shape => exact ⟨[], up, down, rfl, rfl, rfl⟩

/-- The way to a file ends with that file unless it is called like the directory or one above. -/
theorem exists_steps_concat {home directory : List String} {file : String}
    (apart : ¬directory ++ [file] <+: home) : ∃ common up front,
      home = common ++ up ∧ directory = common ++ front ∧
        steps home (directory ++ [file]) = List.replicate up.length ".." ++ (front ++ [file]) := by
  obtain ⟨common, up, down, here, there, way⟩ := exists_steps home (directory ++ [file])
  rcases List.eq_nil_or_concat' down with rfl | ⟨front, last, rfl⟩
  · apply absurd _ apart
    rw [there, List.append_nil, here]
    exact List.prefix_append common up
  · rw [← List.append_assoc] at there
    obtain ⟨equal, same⟩ := List.append_inj' there rfl
    rw [way, ← List.singleton_inj.1 same]
    exact ⟨common, up, front, here, equal, rfl⟩

end Path

end FragmentImports
