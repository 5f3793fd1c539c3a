import FragmentImports.Proofs.ModuleTokens
import FragmentImports.Proofs.RelativeModule
import FragmentImports.Proofs.WordBoundaries

/-!
Laws of the conversion to PascalCase. The words of a text hold its letters and digits, each in its
place, so a conversion loses nothing but the case and the characters that separate words. An
underscore parts a text into two that are converted apart.
-/

namespace FragmentImports

namespace Words

theorem of_isAlphanum {p : Char → Prop} {c : Char}
    (all : ∀ code < 128, (Char.ofNat code).isAlphanum = true → p (Char.ofNat code))
    (letter : c.isAlphanum = true) : p c := by
  have goes : Document.isNameContinue c = true := by rw [Document.isNameContinue, letter]; rfl
  have held := all c.toNat (ModuleText.toNat_of_isNameContinue goes)
  rw [Char.ofNat_toNat] at held
  exact held letter

theorem isAlphanum_recased {c : Char} (letter : c.isAlphanum = true) :
    c.toUpper.isAlphanum = true ∧ c.toLower.isAlphanum = true :=
  of_isAlphanum (p := fun c => c.toUpper.isAlphanum = true ∧ c.toLower.isAlphanum = true)
    (by decide) letter

theorem toLower_recased {c : Char} (letter : c.isAlphanum = true) :
    c.toUpper.toLower = c.toLower ∧ c.toLower.toLower = c.toLower :=
  of_isAlphanum (p := fun c => c.toUpper.toLower = c.toLower ∧ c.toLower.toLower = c.toLower)
    (by decide) letter

theorem isAlphanum_of_mem_joined {text : List Char} {c : Char} (member : c ∈ joined text) :
    c.isAlphanum = true := by
  rw [joined, List.mem_flatten] at member
  obtain ⟨word, converted, inside⟩ := member
  obtain ⟨run, listed, rfl⟩ := List.mem_map.1 converted
  have letters := isAlphanum_of_mem_split listed
  cases run with
  | nil => cases inside
  | cons first rest =>
      rw [List.forall_mem_cons] at letters
      rcases List.mem_cons.1 inside with rfl | later
      · exact (isAlphanum_recased letters.1).1
      · obtain ⟨before, present, rfl⟩ := List.mem_map.1 later
        exact (isAlphanum_recased (letters.2 before present)).2

theorem head?_joined (text : List Char) :
    (joined text).head? = (text.filter Char.isAlphanum).head?.map Char.toUpper := by
  rw [← flatten_split, joined]
  cases words : split text with
  | nil => rfl
  | cons word later =>
      obtain ⟨first, rest, rfl⟩ := List.exists_cons_of_ne_nil
        (nonempty_of_mem_split (words ▸ List.mem_cons_self))
      rfl

theorem map_toLower_capitalize {word : List Char} (letters : ∀ c ∈ word, c.isAlphanum = true) :
    (capitalize word).map Char.toLower = word.map Char.toLower := by
  cases word with
  | nil => rfl
  | cons first rest =>
      rw [List.forall_mem_cons] at letters
      have lowered : rest.map (Char.toLower ∘ Char.toLower) = rest.map Char.toLower :=
        List.map_congr_left fun c member => (toLower_recased (letters.2 c member)).2
      rw [capitalize, List.map_cons, List.map_map, lowered, (toLower_recased letters.1).1,
        List.map_cons]

theorem map_toLower_joined (text : List Char) :
    (joined text).map Char.toLower = (text.filter Char.isAlphanum).map Char.toLower := by
  have words : (split text).map (List.map Char.toLower ∘ capitalize) =
      (split text).map (List.map Char.toLower) :=
    List.map_congr_left fun word listed => map_toLower_capitalize (isAlphanum_of_mem_split listed)
  rw [← flatten_split, joined, List.map_flatten, List.map_map, words, List.map_flatten]

theorem length_joined (text : List Char) :
    (joined text).length = (text.filter Char.isAlphanum).length := by
  have lengths := congrArg List.length (map_toLower_joined text)
  rwa [List.length_map, List.length_map] at lengths

theorem filter_isNameContinue {piece : List Char} (unmarked : '_' ∉ piece) :
    piece.filter Document.isNameContinue = piece.filter Char.isAlphanum := by
  apply List.filter_congr
  intro c member
  have other : c ≠ '_' := fun same => unmarked (same ▸ member)
  simp [Document.isNameContinue, other]

theorem map_toLower_intercalate_joined {pieces : List (List Char)}
    (unmarked : ∀ piece ∈ pieces, '_' ∉ piece) :
    (['_'].intercalate (pieces.map joined)).map Char.toLower =
      ((['_'].intercalate pieces).filter Document.isNameContinue).map Char.toLower := by
  induction pieces with
  | nil => rfl
  | cons first rest ih =>
      rw [List.forall_mem_cons] at unmarked
      have head := map_toLower_joined first
      rw [← filter_isNameContinue unmarked.1] at head
      by_cases alone : rest = []
      · subst alone
        simpa using head
      · have mark : ['_'].filter Document.isNameContinue = ['_'] := by decide
        rw [List.map_cons, List.intercalate_cons_of_ne_nil (by simpa using alone),
          List.intercalate_cons_of_ne_nil alone]
        simp only [List.map_append, List.filter_append, head, mark, ih unmarked.2]

/-- Up to their case the letters, digits and underscores of a text all stay. -/
theorem map_toLower_pascal (text : List Char) :
    (pascal false text).map Char.toLower =
      (text.filter Document.isNameContinue).map Char.toLower := by
  have unmarked : ∀ piece ∈ text.splitOn '_', '_' ∉ piece :=
    fun piece member => (Path.unsplit_of_mem_splitOn member).1
  have whole := map_toLower_intercalate_joined unmarked
  rwa [List.intercalate_splitOn] at whole

theorem isNameContinue_of_mem_pascal {drop : Bool} {text : List Char} {c : Char}
    (member : c ∈ pascal drop text) : Document.isNameContinue c = true := by
  rw [Document.isNameContinue, Bool.or_eq_true, decide_eq_true_eq]
  cases drop with
  | true => exact Or.inl (isAlphanum_of_mem_joined member)
  | false =>
      rcases mem_intercalate member with mark | ⟨word, listed, inside⟩
      · exact Or.inr (List.mem_singleton.1 mark)
      · obtain ⟨piece, -, rfl⟩ := List.mem_map.1 listed
        exact Or.inl (isAlphanum_of_mem_joined inside)

theorem exists_pascal_eq_cons {text : List Char} (plain : isPlainName text = true) :
    ∃ first rest, pascal false text = first :: rest ∧
      Document.isNameStart first = true ∧ first.isLower = false := by
  cases text with
  | nil => cases plain
  | cons c rest =>
      rw [isPlainName, Bool.and_eq_true] at plain
      obtain ⟨head, tail, split⟩ := List.exists_cons_of_ne_nil (List.splitOn_ne_nil '_' rest)
      have parts := @List.splitOn_cons_eq_if_modifyHead _ _ '_' c rest
      by_cases mark : c = '_'
      · subst mark
        rw [if_pos (by decide), split] at parts
        refine ⟨'_', ['_'].intercalate ((head :: tail).map joined), ?_, by decide, by decide⟩
        rw [pascal, if_neg (by decide), parts, List.map_cons,
          List.intercalate_cons_of_ne_nil (by simp)]
        rfl
      · rw [if_neg (by simpa using mark), split, List.modifyHead_cons] at parts
        obtain ⟨letter, starts, capital⟩ := ModuleText.of_isNameStart (p := fun c => c ≠ '_' →
          c.isAlphanum = true ∧ Document.isNameStart c.toUpper = true ∧ c.toUpper.isLower = false)
          (by decide) plain.1 mark
        have first : (joined (c :: head)).head? = some c.toUpper := by
          rw [head?_joined, List.filter_cons_of_pos letter]
          rfl
        obtain ⟨more, word⟩ := List.head?_eq_some_iff.1 first
        refine ⟨c.toUpper, ['_'].intercalate (more :: tail.map joined), ?_, starts, capital⟩
        rw [pascal, if_neg (by decide), parts, List.map_cons, word, List.intercalate_cons_cons_left]

theorem joined_append_mark {mark : Char} (outside : mark.isAlphanum = false)
    (front back : List Char) : joined (front ++ mark :: back) = joined front ++ joined back := by
  rw [joined, split_append_mark outside, List.map_append, List.flatten_append]
  rfl

theorem intercalate_append {α : Type} (separator : List α) {front back : List (List α)}
    (filled : front ≠ []) (more : back ≠ []) :
    separator.intercalate (front ++ back) =
      separator.intercalate front ++ separator ++ separator.intercalate back := by
  induction front with
  | nil => exact absurd rfl filled
  | cons first rest ih =>
      by_cases alone : rest = []
      · subst alone
        simp [List.intercalate_cons_of_ne_nil more]
      · rw [List.cons_append, List.intercalate_cons_of_ne_nil (by simp [alone]), ih alone,
          List.intercalate_cons_of_ne_nil alone]
        simp only [List.append_assoc]

theorem pascal_nil (drop : Bool) : pascal drop [] = [] := by
  cases drop <;> rfl

def underscore (dropUnderscores : Bool) : List Char := if dropUnderscores then [] else ['_']

/-- An underscore parts a text into two that are converted apart. -/
theorem pascal_append_underscore (dropUnderscores : Bool) (front back : List Char) :
    pascal dropUnderscores (front ++ '_' :: back) =
      pascal dropUnderscores front ++ underscore dropUnderscores ++
        pascal dropUnderscores back := by
  cases dropUnderscores with
  | true =>
      have parted := @joined_append_mark '_' (by decide) front back
      simpa [pascal, underscore] using parted
  | false =>
      have pieces : ∀ text : List Char, (text.splitOn '_').map joined ≠ [] := by
        intro text
        simp [List.splitOn_ne_nil]
      simp only [pascal, underscore, Bool.false_eq_true, if_false, List.splitOn_append_cons_self,
        List.map_append]
      exact intercalate_append ['_'] (pieces front) (pieces back)

end Words

theorem toList_pascalCase (text : String) (drop : Bool) :
    (pascalCase text drop).toList = Words.pascal drop text.toList := String.toList_ofList

end FragmentImports
