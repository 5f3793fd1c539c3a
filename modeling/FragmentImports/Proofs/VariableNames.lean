import FragmentImports.Proofs.SharedSymbols

/-!
The name of a document variable beside the name of a fragment's type. A capitalised word that is put
behind a text becomes its last word and leaves the words in front as they are, however the text
ends, so the variable is called like the type with the word for a document behind it.
-/

namespace FragmentImports

namespace Words

variable {c : Char}

theorem toUpper_of_isUpper (capital : c.isUpper = true) : c.toUpper = c :=
  of_isAlphanum (p := fun c => c.isUpper = true → c.toUpper = c) (by decide)
    (isAlphanum_of_isUpper capital) capital

theorem toLower_of_isLower (small : c.isLower = true) : c.toLower = c :=
  of_isAlphanum (p := fun c => c.isLower = true → c.toLower = c) (by decide)
    (isAlphanum_of_isLower small) small

theorem pascal_of_unmarked {text : List Char} (unmarked : '_' ∉ text) (drop : Bool) :
    pascal drop text = joined text := by
  cases drop with
  | true => rfl
  | false => simp [pascal, List.splitOn_eq_singleton unmarked]

inductive IsCapitalized : List Char → Prop where
  | intro {initial second : Char} {rest : List Char} (capital : initial.isUpper = true)
      (small : ∀ c ∈ second :: rest, c.isLower = true) : IsCapitalized (initial :: second :: rest)

theorem not_endsWord_of_isLower {d : Char} (small : d.isLower = true) (more : List Char) :
    endsWord c (d :: more) = false := by
  simp [endsWord, endsAtGap, endsAtCapital, endsAcronym, isAlphanum_of_isLower small,
    not_isUpper_of_isLower small]

theorem split_cons_of_small {more : List Char} (letter : c.isAlphanum = true)
    (small : ∀ d ∈ more, d.isLower = true) : split (c :: more) = [c :: more] := by
  induction more generalizing c with
  | nil =>
      rw [split_cons_of_letter letter]
      rfl
  | cons d later ih =>
      rw [List.forall_mem_cons] at small
      rw [split_cons_of_letter letter, not_endsWord_of_isLower small.1, if_neg (by decide),
        ih (isAlphanum_of_isLower small.1) small.2]
      rfl

section Word

variable {word : List Char} (capitalized : IsCapitalized word)

include capitalized

theorem IsCapitalized.isAlphanum : ∀ c ∈ word, c.isAlphanum = true := by
  obtain ⟨capital, small⟩ := capitalized
  exact List.forall_mem_cons.2
    ⟨isAlphanum_of_isUpper capital, fun c member => isAlphanum_of_isLower (small c member)⟩

theorem IsCapitalized.capitalize_eq : capitalize word = word := by
  obtain ⟨capital, small⟩ := capitalized
  rw [capitalize, toUpper_of_isUpper capital]
  congr 1
  exact (List.map_congr_left fun c member => toLower_of_isLower (small c member)).trans
    (List.map_id _)

theorem IsCapitalized.endsWord_front (letter : c.isAlphanum = true) : endsWord c word = true := by
  obtain ⟨capital, small⟩ := capitalized
  rw [List.forall_mem_cons] at small
  rcases isAlphanum_iff.1 letter with large | other
  · simp [endsWord, endsAcronym, large, capital, small.1]
  · simp [endsWord, endsAtCapital, other, capital]

/-- Behind a text a capitalised word is a word of its own, and the words in front of it are those of
the text. -/
theorem IsCapitalized.split_append (front : List Char) :
    split (front ++ word) = split front ++ [word] := by
  have ends : ∀ c, c.isAlphanum = true → endsWord c word = true :=
    fun _ letter => capitalized.endsWord_front letter
  obtain ⟨capital, small⟩ := capitalized
  have large := (Bool.or_eq_false_iff.1 (isSmall_of_isUpper capital)).1
  rw [Words.split_append ends large, split_cons_of_small (isAlphanum_of_isUpper capital) small]

theorem IsCapitalized.joined_append (front : List Char) :
    joined (front ++ word) = joined front ++ word := by
  rw [joined, capitalized.split_append, List.map_append, List.flatten_append, List.map_singleton,
    capitalized.capitalize_eq, List.flatten_singleton, joined]

theorem IsCapitalized.pascal_append (drop : Bool) (front : List Char) :
    pascal drop (front ++ word) = pascal drop front ++ word := by
  induction size : front.length using Nat.strong_induction_on generalizing front with
  | _ length ih =>
      by_cases marked : '_' ∈ front
      · obtain ⟨before, after, rfl⟩ := List.append_of_mem marked
        have shorter : after.length < length := by
          rw [← size, List.length_append, List.length_cons]
          omega
        rw [List.append_assoc, List.cons_append, pascal_append_underscore, ih _ shorter after rfl,
          pascal_append_underscore, List.append_assoc, List.append_assoc, List.append_assoc]
      · have unmarked : '_' ∉ front ++ word := by
          refine List.not_mem_append marked fun member => ?_
          exact absurd (capitalized.isAlphanum '_' member) (by decide)
        rw [pascal_of_unmarked unmarked, pascal_of_unmarked marked, capitalized.joined_append]

end Word

end Words

theorem pascalCase_append_word {word : String} (capitalized : Words.IsCapitalized word.toList)
    (text : String) (drop : Bool) :
    pascalCase (text ++ word) drop = pascalCase text drop ++ word := by
  rw [← String.toList_inj, toList_pascalCase, String.toList_append, capitalized.pascal_append,
    String.toList_append, toList_pascalCase]

namespace NamingConvention

variable {naming : NamingConvention}

theorem variableSuffix_eq (suffixed : naming.fragmentVariableSuffix = "FragmentDoc")
    (name : String) : naming.variableSuffix name =
      naming.fragmentSuffix name ++ if naming.omitOperationSuffix then "" else "Doc" := by
  have begins : startsWithFragment "FragmentDoc" = true := by decide
  rw [variableSuffix, fragmentSuffix, suffixed, begins, Bool.and_true]
  cases naming.omitOperationSuffix with
  | true => rfl
  | false => cases naming.dedupeOperationSuffix && endsInFragment name <;> rfl

/-- With the default affixes of variables, the variable of a fragment is called like its type
without the affixes of types, with the word for a document behind it unless suffixes are omitted. -/
theorem variableName_beside_typeName (unprefixed : naming.fragmentVariablePrefix = "")
    (suffixed : naming.fragmentVariableSuffix = "FragmentDoc") (name : String) :
    let bare : NamingConvention := { naming with typesPrefix := "", typesSuffix := "" }
    naming.typeName name = naming.typesPrefix ++ bare.typeName name ++ naming.typesSuffix ∧
      naming.variableName name =
        bare.typeName name ++ if naming.omitOperationSuffix then "" else "Doc" := by
  intro bare
  have plain : bare.typeName name =
      pascalCase (name ++ naming.fragmentSuffix name) naming.transformUnderscore := by
    rw [typeName_eq, String.empty_append, String.append_empty]
    rfl
  refine ⟨?_, ?_⟩
  · rw [typeName_eq, plain]
  · rw [variableName_eq, unprefixed, String.empty_append, variableSuffix_eq suffixed, plain,
      ← String.append_assoc]
    cases naming.omitOperationSuffix with
    | true => simp
    | false =>
        have capitalized : Words.IsCapitalized "Doc".toList :=
          .intro (by decide) (List.all_eq_true.1 (by decide))
        exact pascalCase_append_word capitalized _ _

theorem variableName_beside_typeName_acronym :
    let naming : NamingConvention := { typesPrefix := "I", dedupeOperationSuffix := true }
    naming.fragmentVariablePrefix = "" ∧ naming.fragmentVariableSuffix = "FragmentDoc" ∧
      naming.typeName "user_XMLFRAGMENT" = "IUser_Xmlfragment" ∧
      naming.variableName "user_XMLFRAGMENT" = "User_XmlfragmentDoc" := by
  intro naming
  obtain ⟨type, variable_⟩ := @variableName_beside_typeName naming rfl rfl "user_XMLFRAGMENT"
  refine ⟨rfl, rfl, ?_, ?_⟩
  · rw [type]
    decide +kernel
  · rw [variable_]
    decide +kernel

end NamingConvention

end FragmentImports
