import FragmentImports.Distinct
import FragmentImports.Naming
import FragmentImports.Proofs.PascalCase

/-!
When two symbols are the same. A convention puts fixed texts around what it converts, so symbols
agree when the converted texts do: two types of a fragment share a symbol exactly when they are
converted to the same name, and a fragment tells its symbols up to the case of its letters.
-/

namespace FragmentImports

namespace NamingConvention

variable {naming : NamingConvention} {name one other : String}

theorem typeName_eq (naming : NamingConvention) (name : String) :
    naming.typeName name = naming.typesPrefix ++
      pascalCase (name ++ naming.fragmentSuffix name) naming.transformUnderscore ++
        naming.typesSuffix := by
  rw [typeName, convert, if_pos rfl, if_pos rfl, String.empty_append]

theorem variableName_eq (naming : NamingConvention) (name : String) :
    naming.variableName name =
      pascalCase (naming.fragmentVariablePrefix ++ name ++ naming.variableSuffix name)
        naming.transformUnderscore := by
  rw [variableName, convert, if_neg Bool.false_ne_true, if_neg Bool.false_ne_true,
    String.empty_append, String.append_empty]

def specializedSymbol (naming : NamingConvention) (name converted : String) : String :=
  let mark := String.ofList (Words.underscore naming.transformUnderscore)
  naming.typesPrefix ++ (pascalCase name naming.transformUnderscore ++ mark ++ (converted ++ mark ++
    pascalCase (naming.fragmentSuffix name) naming.transformUnderscore)) ++ naming.typesSuffix

theorem specializedTypeName_eq (naming : NamingConvention) (name type : String) :
    naming.specializedTypeName name type =
      naming.specializedSymbol name (pascalCase type naming.transformUnderscore) := by
  have text : ("" ++ name ++ ("_" ++ type ++ "_" ++ naming.fragmentSuffix name)).toList =
      name.toList ++ '_' :: (type.toList ++ '_' :: (naming.fragmentSuffix name).toList) := by
    simp
  rw [specializedTypeName, convert, specializedSymbol, if_pos rfl, if_pos rfl]
  congr 2
  rw [← String.toList_inj, toList_pascalCase, text, Words.pascal_append_underscore,
    Words.pascal_append_underscore]
  simp [toList_pascalCase]

theorem specializedSymbol_injective (naming : NamingConvention) (name : String) :
    Function.Injective (naming.specializedSymbol name) := by
  intro one other same
  rw [specializedSymbol, specializedSymbol, String.append_left_inj, String.append_right_inj,
    String.append_right_inj, String.append_left_inj, String.append_left_inj] at same
  exact same

theorem specializedTypeName_eq_iff :
    naming.specializedTypeName name one = naming.specializedTypeName name other ↔
      pascalCase one naming.transformUnderscore = pascalCase other naming.transformUnderscore := by
  rw [specializedTypeName_eq, specializedTypeName_eq]
  exact (naming.specializedSymbol_injective name).eq_iff

/-- Every type has a symbol of its own, in the order of the types, exactly when no two of several
types are converted to the same name. There are as many symbols as converted names in any case. -/
theorem symbol_for_each_type_iff (naming : NamingConvention) (name first second : String)
    (others : List String) :
    let types := first :: second :: others
    let converted := types.map fun type => pascalCase type naming.transformUnderscore
    let symbols := fragmentSymbols naming false name types
    symbols = (distinct converted).map (naming.specializedSymbol name) ∧
      (symbols = types.map (naming.specializedTypeName name) ↔ converted.Nodup) ∧
      (symbols.length = types.length ↔ converted.Nodup) := by
  intro types converted symbols
  have renamed : types.map (naming.specializedTypeName name) =
      converted.map (naming.specializedSymbol name) := by
    rw [List.map_map]
    exact List.map_congr_left fun type _ => naming.specializedTypeName_eq name type
  have injective := naming.specializedSymbol_injective name
  have listed : symbols = (distinct converted).map (naming.specializedSymbol name) := by
    calc
      _ = distinct (types.map (naming.specializedTypeName name)) := rfl
      _ = distinct (converted.map (naming.specializedSymbol name)) := by rw [renamed]
      _ = (distinct converted).map (naming.specializedSymbol name) := distinct_map injective _
  have many : converted.length = types.length := List.length_map _
  refine ⟨listed, ?_, ?_⟩
  · rw [listed, renamed, List.map_inj_right (fun _ _ => injective.eq_iff.1), distinct_eq_self_iff]
  · rw [listed, List.length_map, ← many, length_distinct_eq_iff]

theorem types_share_symbol :
    (∀ name ∈ ["F", "User", "user"], isPlainName name.toList = true) ∧ ["User", "user"].Nodup ∧
      fragmentSymbols {} false "F" ["User", "user"] = ["F_User_Fragment"] := by
  decide +kernel

theorem toLower_eq_of_pascalCase_eq (front back : String) (plain : isPlainName one.toList = true)
    (named : isPlainName other.toList = true)
    (same : pascalCase (front ++ one ++ back) = pascalCase (front ++ other ++ back)) :
    one.toLower = other.toLower := by
  have whole : ∀ name : String, isPlainName name.toList = true →
      (pascalCase (front ++ name ++ back)).toList.map Char.toLower =
        (front.toList.filter Document.isNameContinue).map Char.toLower ++
          name.toList.map Char.toLower ++
          (back.toList.filter Document.isNameContinue).map Char.toLower := by
    intro name plain
    have kept : name.toList.filter Document.isNameContinue = name.toList :=
      List.filter_eq_self.2 fun c member => ModuleText.isNameContinue_of_mem plain member
    rw [toList_pascalCase, Words.map_toLower_pascal]
    simp only [String.toList_append, List.filter_append, List.map_append, kept]
  have texts := whole one plain
  rw [same, whole other named] at texts
  have names := List.append_cancel_left (List.append_cancel_right texts)
  have lowered : ∀ name : String, name.toLower.toList = name.toList.map Char.toLower :=
    fun _ => String.toList_map
  rw [← String.toList_inj, lowered, lowered, names]

/-- Where underscores stay and every fragment gets the same suffix, fragments share the symbol of
their type or of their variable only if their names are the same up to case. Types share a symbol of
one fragment exactly when they are converted to the same name, so they are the same up to case. -/
theorem names_of_shared_symbols (kept : naming.transformUnderscore = false)
    (suffixed : naming.dedupeOperationSuffix = false) (plain : isPlainName one.toList = true)
    (named : isPlainName other.toList = true) :
    (naming.typeName one = naming.typeName other → one.toLower = other.toLower) ∧
      (naming.variableName one = naming.variableName other → one.toLower = other.toLower) ∧
      (∀ name, naming.specializedTypeName name one = naming.specializedTypeName name other ↔
        pascalCase one = pascalCase other) ∧
      (pascalCase one = pascalCase other → one.toLower = other.toLower) := by
  have suffixes : naming.fragmentSuffix one = naming.fragmentSuffix other ∧
      naming.variableSuffix one = naming.variableSuffix other := by
    constructor
    · rw [fragmentSuffix, fragmentSuffix, suffixed, Bool.false_and, Bool.false_and]
    · rw [variableSuffix, variableSuffix, suffixed]
      rfl
  refine ⟨?_, ?_, ?_, ?_⟩
  · intro same
    rw [typeName_eq, typeName_eq, String.append_left_inj, String.append_right_inj, kept,
      suffixes.1] at same
    apply toLower_eq_of_pascalCase_eq "" (naming.fragmentSuffix other) plain named
    rwa [String.empty_append, String.empty_append]
  · intro same
    rw [variableName_eq, variableName_eq, kept, suffixes.2] at same
    exact toLower_eq_of_pascalCase_eq _ _ plain named same
  · intro name
    rw [specializedTypeName_eq_iff, kept]
  · intro same
    apply toLower_eq_of_pascalCase_eq "" "" plain named
    simpa using same

theorem names_of_shared_symbols_acronym :
    let naming : NamingConvention := { typesPrefix := "I", omitOperationSuffix := true }
    naming.transformUnderscore = false ∧ naming.dedupeOperationSuffix = false ∧
      isPlainName "userURL".toList = true ∧ isPlainName "userUrl".toList = true ∧
      naming.typeName "userURL" = naming.typeName "userUrl" ∧
      naming.specializedTypeName "F" "userURL" = naming.specializedTypeName "F" "userUrl" ∧
      "userURL".toLower = "userUrl".toLower := by
  intro naming
  have shared : naming.typeName "userURL" = naming.typeName "userUrl" := by decide +kernel
  obtain ⟨types, -, specialized, -⟩ := @names_of_shared_symbols naming "userURL" "userUrl" rfl rfl
    (by decide) (by decide)
  exact ⟨rfl, rfl, by decide, by decide, shared, (specialized "F").2 (by decide +kernel),
    types shared⟩

end NamingConvention

end FragmentImports
