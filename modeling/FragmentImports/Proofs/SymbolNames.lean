import FragmentImports.Naming
import FragmentImports.Proofs.PascalCase

/-!
The symbols of a fragment as names of a module. A converted name starts with an underscore or with a
capital, so it is no keyword unless it is one of the constants; only where underscores are dropped
can it start with a digit or be empty.
-/

namespace FragmentImports

theorem keyword_shape : ∀ letters ∈ ModuleText.keywords,
    letters ∈ ModuleText.constants ∨ letters.head?.any Char.isLower = true := by decide

theorem constant_shape : ∀ letters ∈ ModuleText.constants,
    letters ∈ ModuleText.keywords ∧ letters.length < 8 ∧ '_' ∉ letters := by decide

theorem mem_keywords_iff {letters : List Char} (capital : letters.head?.any Char.isLower = false) :
    letters ∈ ModuleText.keywords ↔ letters ∈ ModuleText.constants := by
  constructor
  · intro reserved
    rcases keyword_shape letters reserved with constant | lower
    · exact constant
    · rw [capital] at lower
      cases lower
  · intro constant
    exact (constant_shape letters constant).1

namespace ModuleText

theorem isIdentifier_of_isPlainName {letters : List Char} (plain : isPlainName letters = true) :
    isIdentifier letters = true := by
  cases letters with
  | nil => cases plain
  | cons first rest =>
      rw [isPlainName, Bool.and_eq_true, List.all_eq_true] at plain
      rw [isIdentifier, Bool.and_eq_true, List.all_eq_true]
      exact ⟨of_isNameStart (p := fun c => isIdentifierStart c = true) (by decide) plain.1,
        fun c member => of_isNameContinue (p := fun c => isIdentifierContinue c = true) (by decide)
          (plain.2 c member)⟩

theorem isName_of_isPlainName {letters : List Char} (plain : isPlainName letters = true)
    (other : letters ∉ keywords) : isName letters = true := by
  rw [isName, isIdentifier_of_isPlainName plain, Bool.true_and]
  simpa using other

end ModuleText

structure IsImportable (text : String) : Prop where
  plain : isPlainName text.toList = true
  unreserved : text.toList ∉ ModuleText.keywords

theorem isImportable_iff {text : String} : IsImportable text ↔
    isPlainName text.toList = true ∧ text.toList ∉ ModuleText.keywords :=
  ⟨fun importable => ⟨importable.plain, importable.unreserved⟩,
    fun ⟨plain, unreserved⟩ => ⟨plain, unreserved⟩⟩

/-- Of the texts of letters, digits and underscores, those that an import can name are the names of
a module. -/
theorem isName_iff_isImportable {text : String}
    (goes : ∀ c ∈ text.toList, Document.isNameContinue c = true) :
    ModuleText.isName text.toList = true ↔ IsImportable text := by
  constructor
  · intro named
    rw [ModuleText.isName, Bool.and_eq_true] at named
    refine ⟨?_, by simpa using named.2⟩
    cases letters : text.toList with
    | nil =>
        rw [letters] at named
        cases named.1
    | cons first rest =>
        rw [letters] at named goes
        rw [List.forall_mem_cons] at goes
        rw [isIdentifier, Bool.and_eq_true] at named
        have starts : Document.isNameStart first = true :=
          ModuleText.of_isNameContinue (p := fun c => isIdentifierStart c = true →
            Document.isNameStart c = true) (by decide) goes.1 named.1.1
        rw [isPlainName, starts, Bool.true_and, List.all_eq_true]
        exact goes.2
  · intro importable
    exact ModuleText.isName_of_isPlainName importable.plain importable.unreserved

theorem isImportable_pascalCase_iff {text : String} (plain : isPlainName text.toList = true) :
    IsImportable (pascalCase text) ↔ (pascalCase text).toList ∉ ModuleText.constants := by
  obtain ⟨first, rest, pascal, starts, capital⟩ := Words.exists_pascal_eq_cons plain
  have letters : (pascalCase text).toList = first :: rest := by rw [toList_pascalCase, pascal]
  have named : isPlainName (pascalCase text).toList = true := by
    rw [letters, isPlainName, starts, Bool.true_and, List.all_eq_true]
    intro c member
    exact Words.isNameContinue_of_mem_pascal (pascal ▸ List.mem_cons_of_mem _ member)
  have reserved := @mem_keywords_iff (pascalCase text).toList (by simpa [letters] using capital)
  rw [isImportable_iff, reserved, and_iff_right named]

theorem isImportable_joined_iff {text : String} :
    IsImportable (pascalCase text true) ↔
      (∃ c, text.toList.find? Char.isAlphanum = some c ∧ c.isDigit = false) ∧
        (pascalCase text true).toList ∉ ModuleText.constants := by
  have letters : (pascalCase text true).toList = Words.joined text.toList :=
    toList_pascalCase text true
  have head := Words.head?_joined text.toList
  rw [List.head?_filter] at head
  rw [letters]
  cases first : text.toList.find? Char.isAlphanum with
  | none =>
      rw [first, Option.map_none, List.head?_eq_none_iff] at head
      refine iff_of_false (fun importable => ?_) (by simp)
      have plain := importable.plain
      rw [letters, head] at plain
      cases plain
  | some c =>
      have letter : c.isAlphanum = true := List.find?_some first
      obtain ⟨starts, capital⟩ := Words.of_isAlphanum (p := fun c =>
        (Document.isNameStart c.toUpper = !c.isDigit) ∧ c.toUpper.isLower = false)
        (by decide) letter
      rw [first, Option.map_some, List.head?_eq_some_iff] at head
      obtain ⟨rest, word⟩ := head
      have reserved := @mem_keywords_iff (Words.joined text.toList) (by rw [word]; exact capital)
      have goes : rest.all Document.isNameContinue = true := by
        rw [List.all_eq_true]
        intro d member
        have kept : d ∈ Words.joined text.toList := word ▸ List.mem_cons_of_mem _ member
        rw [Document.isNameContinue, Words.isAlphanum_of_mem_joined kept, Bool.true_or]
      have plain : isPlainName (Words.joined text.toList) = true ↔ c.isDigit = false := by
        rw [word, isPlainName, goes, Bool.and_true, starts, Bool.not_eq_true']
      rw [isImportable_iff, letters, plain, reserved]
      simp

theorem isPlainName_append {name after : String} (plain : isPlainName name.toList = true)
    (goes : after.toList.all Document.isNameContinue = true) :
    isPlainName (name ++ after).toList = true := by
  rw [String.toList_append]
  cases letters : name.toList with
  | nil => rw [letters] at plain; cases plain
  | cons first rest =>
      rw [letters, isPlainName, Bool.and_eq_true] at plain
      rw [List.cons_append, isPlainName, Bool.and_eq_true, List.all_append, Bool.and_eq_true]
      exact ⟨plain.1, plain.2, goes⟩

theorem not_constant_of_long {text : String} (drop : Bool)
    (long : 8 ≤ (text.toList.filter Char.isAlphanum).length) :
    (pascalCase text drop).toList ∉ ModuleText.constants := by
  intro constant
  have short := (constant_shape _ constant).2.1
  rw [toList_pascalCase] at short
  have kept : (text.toList.filter Char.isAlphanum).length ≤
      (Words.pascal drop text.toList).length := by
    cases drop with
    | true => exact (Words.length_joined text.toList).ge
    | false =>
        have lengths := congrArg List.length (Words.map_toLower_pascal text.toList)
        rw [List.length_map, List.length_map] at lengths
        rw [lengths, ← List.countP_eq_length_filter, ← List.countP_eq_length_filter]
        apply List.countP_mono_left
        intro c _ letter
        rw [Document.isNameContinue, letter, Bool.true_or]
  omega

theorem not_constant_of_underscore {text : String} (marked : '_' ∈ text.toList) :
    (pascalCase text).toList ∉ ModuleText.constants := by
  intro constant
  apply (constant_shape _ constant).2.2
  obtain ⟨front, back, parts⟩ := List.append_of_mem marked
  rw [toList_pascalCase, parts, Words.pascal_append_underscore]
  simp [Words.underscore]

/-- What a name has to be like for the symbol made from it to be a name of a module. Without
underscores a symbol starts with the first letter or digit of the name; without a suffix it is
nothing but the converted name. -/
structure MakesSymbol (bare drop : Bool) (base : String) : Prop where
  starts : drop = true → (base.toList.find? Char.isAlphanum).any Char.isDigit = false
  filled : drop = true → bare = true → base.toList.find? Char.isAlphanum ≠ none
  unreserved : bare = true → (pascalCase base drop).toList ∉ ModuleText.constants

theorem makesSymbol_iff {bare drop : Bool} {base : String} : MakesSymbol bare drop base ↔
    (drop = true → (base.toList.find? Char.isAlphanum).any Char.isDigit = false) ∧
      (drop = true → bare = true → base.toList.find? Char.isAlphanum ≠ none) ∧
      (bare = true → ModuleText.constants.contains (pascalCase base drop).toList = false) := by
  simp only [List.contains_eq_mem, decide_eq_false_iff_not]
  exact ⟨fun ⟨starts, filled, unreserved⟩ => ⟨starts, filled, unreserved⟩,
    fun ⟨starts, filled, unreserved⟩ => ⟨starts, filled, unreserved⟩⟩

instance (bare drop : Bool) (base : String) : Decidable (MakesSymbol bare drop base) :=
  decidable_of_iff' _ makesSymbol_iff

/-- What is written behind the name that a symbol is made from: the word that marks fragment symbols
is in it or in front of it, or the name ends a symbol without a suffix. -/
structure Ending (bare : Bool) (base after : String) : Prop where
  goes : after.toList.all Document.isNameContinue = true
  cut : bare = true → after = "" ∨ after = "_" ∧ '_' ∈ base.toList
  long : bare = false → 8 ≤ ((base ++ after).toList.filter Char.isAlphanum).length
  capital : bare = false → base.toList.find? Char.isAlphanum = none →
    after.toList.find? Char.isAlphanum = some 'F'

theorem Ending.find?_eq {base after : String} (ending : Ending true base after) :
    (base ++ after).toList.find? Char.isAlphanum = base.toList.find? Char.isAlphanum := by
  have blank : after.toList.find? Char.isAlphanum = none := by
    rcases ending.cut rfl with rfl | ⟨rfl, -⟩ <;> decide
  rw [String.toList_append, List.find?_append, blank, Option.or_none]

theorem Ending.constant_iff {base after : String} (ending : Ending true base after) (drop : Bool) :
    (pascalCase (base ++ after) drop).toList ∈ ModuleText.constants ↔
      (pascalCase base drop).toList ∈ ModuleText.constants := by
  rcases ending.cut rfl with rfl | ⟨rfl, marked⟩
  · rw [String.append_empty]
  · cases drop with
    | true =>
        have parted := Words.pascal_append_underscore true base.toList []
        have same : (pascalCase (base ++ "_") true).toList = (pascalCase base true).toList := by
          rw [toList_pascalCase, toList_pascalCase, String.toList_append]
          simpa [Words.underscore, Words.pascal_nil] using parted
        rw [same]
    | false =>
        have longer : '_' ∈ (base ++ "_").toList := by
          rw [String.toList_append]
          exact List.mem_append_left _ marked
        exact iff_of_false (not_constant_of_underscore longer) (not_constant_of_underscore marked)

section Made

variable {bare drop : Bool} {base after : String}

theorem Ending.isImportable_iff_of_kept (plain : isPlainName base.toList = true)
    (ending : Ending bare base after) :
    IsImportable (pascalCase (base ++ after)) ↔ MakesSymbol bare false base := by
  rw [isImportable_pascalCase_iff (isPlainName_append plain ending.goes)]
  cases bare with
  | false =>
      have other := not_constant_of_long false (ending.long rfl)
      exact iff_of_true other ⟨nofun, nofun, nofun⟩
  | true =>
      rw [not_congr (ending.constant_iff false)]
      exact ⟨fun other => ⟨nofun, nofun, fun _ => other⟩, fun made => made.unreserved rfl⟩

theorem Ending.isImportable_iff_of_dropped (ending : Ending bare base after) :
    IsImportable (pascalCase (base ++ after) true) ↔ MakesSymbol bare true base := by
  rw [isImportable_joined_iff]
  cases first : base.toList.find? Char.isAlphanum with
  | none =>
      cases bare with
      | false =>
          rw [String.toList_append, List.find?_append, first, Option.none_or,
            ending.capital rfl first]
          have other := not_constant_of_long true (ending.long rfl)
          exact iff_of_true ⟨⟨'F', rfl, by decide⟩, other⟩ ⟨fun _ => by simp [first], nofun, nofun⟩
      | true =>
          rw [ending.find?_eq, first]
          exact iff_of_false (by simp) fun made => made.filled rfl rfl first
  | some c =>
      have starts : (base.toList.find? Char.isAlphanum).any Char.isDigit = c.isDigit := by
        rw [first, Option.any_some]
      have reserved : (pascalCase (base ++ after) true).toList ∉ ModuleText.constants ↔
          (bare = true → (pascalCase base true).toList ∉ ModuleText.constants) := by
        cases bare with
        | false => simpa using not_constant_of_long true (ending.long rfl)
        | true => simpa using not_congr (ending.constant_iff true)
      rw [String.toList_append, List.find?_append, first, Option.some_or, reserved]
      constructor
      · rintro ⟨⟨d, same, letter⟩, other⟩
        cases same
        exact ⟨fun _ => starts.trans letter, by simp [first], other⟩
      · intro made
        exact ⟨⟨c, rfl, starts.symm.trans (made.starts rfl)⟩, made.unreserved⟩

theorem Ending.isImportable_iff (plain : isPlainName base.toList = true)
    (ending : Ending bare base after) :
    IsImportable (pascalCase (base ++ after) drop) ↔ MakesSymbol bare drop base := by
  cases drop with
  | false => exact ending.isImportable_iff_of_kept plain
  | true => exact ending.isImportable_iff_of_dropped

end Made

theorem long_of_endsInFragment {name : String} (plain : isPlainName name.toList = true)
    (ends : endsInFragment name = true) : 8 ≤ (name.toList.filter Char.isAlphanum).length := by
  rw [endsInFragment, List.isSuffixOf_iff_suffix] at ends
  obtain ⟨front, whole⟩ := ends
  have recased : ((name.toList.map Char.toLower).filter Char.isAlphanum).length =
      (name.toList.filter Char.isAlphanum).length := by
    rw [List.filter_map, List.length_map]
    congr 1
    apply List.filter_congr
    intro c member
    exact ModuleText.of_isNameContinue (p := fun c => c.toLower.isAlphanum = c.isAlphanum)
      (by decide) (ModuleText.isNameContinue_of_mem plain member)
  have word : (fragmentWord.filter Char.isAlphanum).length = 8 := by decide
  rw [← recased, ← whole, List.filter_append, List.length_append, word]
  exact Nat.le_add_left 8 _

namespace NamingConvention

def ofOptions (dedupe bare drop : Bool) : NamingConvention where
  dedupeOperationSuffix := dedupe
  omitOperationSuffix := bare
  transformUnderscore := drop

variable {dedupe bare drop : Bool} {name type : String}

theorem fragmentSuffix_ofOptions : (ofOptions dedupe bare drop).fragmentSuffix name =
    if bare then "" else if dedupe && endsInFragment name then "" else "Fragment" := rfl

theorem variableSuffix_ofOptions : (ofOptions dedupe bare drop).variableSuffix name =
    if bare then "" else if dedupe && endsInFragment name then "Doc" else "FragmentDoc" := by
  have starts : startsWithFragment "FragmentDoc" = true := by decide
  have rest : String.ofList ("FragmentDoc".toList.drop fragmentWord.length) = "Doc" := by decide
  have suffix : (ofOptions dedupe bare drop).fragmentVariableSuffix = "FragmentDoc" := rfl
  rw [variableSuffix, suffix, starts, Bool.and_true, rest]
  rfl

theorem ending_suffixes (dedupe bare drop : Bool) (plain : isPlainName name.toList = true) :
    Ending bare name ((ofOptions dedupe bare drop).fragmentSuffix name) ∧
      Ending bare name ((ofOptions dedupe bare drop).variableSuffix name) := by
  rw [fragmentSuffix_ofOptions, variableSuffix_ofOptions]
  cases bare with
  | true =>
      have cut : Ending true name "" :=
        ⟨by decide, fun _ => Or.inl rfl, nofun, nofun⟩
      exact ⟨cut, cut⟩
  | false =>
      cases repeated : dedupe && endsInFragment name with
      | false =>
          have marked : ∀ after : String, after.toList.all Document.isNameContinue = true →
              8 ≤ (after.toList.filter Char.isAlphanum).length →
              after.toList.find? Char.isAlphanum = some 'F' → Ending false name after := by
            intro after goes long first
            refine ⟨goes, nofun, fun _ => ?_, fun _ _ => first⟩
            rw [String.toList_append, List.filter_append, List.length_append]
            exact Nat.le_add_left_of_le long
          exact ⟨marked "Fragment" (by decide) (by decide) (by decide),
            marked "FragmentDoc" (by decide) (by decide) (by decide)⟩
      | true =>
          have long := long_of_endsInFragment plain (Bool.and_eq_true_iff.1 repeated).2
          have named : ∀ after : String, after.toList.all Document.isNameContinue = true →
              Ending false name after := by
            intro after goes
            refine ⟨goes, nofun, fun _ => ?_, fun _ none => ?_⟩
            · rw [String.toList_append, List.filter_append, List.length_append]
              exact Nat.le_add_right_of_le long
            · rw [← List.head?_filter, List.head?_eq_none_iff] at none
              rw [none] at long
              cases long
          exact ⟨named "" (by decide), named "Doc" (by decide)⟩

end NamingConvention

theorem Ending.specialized {bare : Bool} {name after : String} (ending : Ending bare name after)
    (type : String) (cut : bare = true → after = "") :
    Ending bare (name ++ "_" ++ type) ("_" ++ after) where
  goes := by
    rw [String.toList_append, List.all_append, ending.goes]
    rfl
  cut := by
    intro cuts
    rw [cut cuts]
    refine Or.inr ⟨rfl, ?_⟩
    simp
  long := by
    intro whole
    have long := ending.long whole
    simp only [String.toList_append, List.filter_append, List.length_append] at long ⊢
    omega
  capital := by
    intro whole none
    have mark : "_".toList.find? Char.isAlphanum = Option.none := by decide
    simp only [String.toList_append, List.find?_append, Option.or_eq_none_iff] at none
    rw [String.toList_append, List.find?_append, mark, Option.none_or]
    exact ending.capital whole none.1.1

namespace NamingConvention

variable (dedupe bare drop : Bool) {name type : String}

theorem convert_ofOptions (affixes : Affixes) :
    (ofOptions dedupe bare drop).convert name affixes =
      pascalCase (affixes.before ++ name ++ affixes.after) drop := by
  have front : (ofOptions dedupe bare drop).typesPrefix = "" := rfl
  have back : (ofOptions dedupe bare drop).typesSuffix = "" := rfl
  rw [convert, front, back, ite_self, ite_self, String.empty_append, String.append_empty]
  rfl

theorem isImportable_plain_iff (plain : isPlainName name.toList = true) :
    (IsImportable ((ofOptions dedupe bare drop).variableName name) ↔ MakesSymbol bare drop name) ∧
      (IsImportable ((ofOptions dedupe bare drop).typeName name) ↔ MakesSymbol bare drop name) := by
  obtain ⟨forType, forVariable⟩ := ending_suffixes dedupe bare drop plain
  have written : ∀ after : String, Ending bare name after →
      (IsImportable (pascalCase ("" ++ name ++ after) drop) ↔ MakesSymbol bare drop name) := by
    intro after ending
    rw [String.empty_append]
    exact ending.isImportable_iff plain
  rw [variableName, typeName, convert_ofOptions, convert_ofOptions]
  exact ⟨written _ forVariable, written _ forType⟩

theorem isImportable_specialized_iff (plain : isPlainName name.toList = true)
    (typed : isPlainName type.toList = true) :
    IsImportable ((ofOptions dedupe bare drop).specializedTypeName name type) ↔
      MakesSymbol bare drop (name ++ "_" ++ type) := by
  have base : isPlainName (name ++ "_" ++ type).toList = true := by
    refine isPlainName_append (isPlainName_append plain (by decide)) ?_
    rw [List.all_eq_true]
    exact fun c member => ModuleText.isNameContinue_of_mem typed member
  have cut : bare = true → (ofOptions dedupe bare drop).fragmentSuffix name = "" := by
    rintro rfl
    rfl
  have ending := (ending_suffixes dedupe bare drop plain).1.specialized type cut
  rw [← ending.isImportable_iff base, specializedTypeName, convert_ofOptions]
  simp only [String.empty_append, String.append_assoc]

end NamingConvention

theorem mem_fragmentSymbols_cases {naming : NamingConvention} {includeVariable : Bool}
    {name symbol : String} {possibleTypes : List String}
    (member : symbol ∈ fragmentSymbols naming includeVariable name possibleTypes) :
    (symbol = naming.variableName name ∨ symbol = naming.typeName name) ∨
      ∃ type ∈ possibleTypes, symbol = naming.specializedTypeName name type := by
  unfold fragmentSymbols at member
  rw [mem_distinct, List.mem_append] at member
  rcases member with document | type
  · cases includeVariable with
    | false => cases document
    | true => exact Or.inl (Or.inl (List.mem_singleton.1 document))
  · rcases possibleTypes with _ | ⟨first, _ | ⟨second, others⟩⟩
    · cases type
    · exact Or.inl (Or.inr (List.mem_singleton.1 type))
    · obtain ⟨possible, listed, rfl⟩ := List.mem_map.1 type
      exact Or.inr ⟨possible, listed, rfl⟩

theorem isImportable_of_mem_fragmentSymbols {includeVariable : Bool} {name symbol : String}
    {possibleTypes : List String} (plain : isPlainName name.toList = true)
    (types : ∀ type ∈ possibleTypes, isPlainName type.toList = true)
    (member : symbol ∈ fragmentSymbols {} includeVariable name possibleTypes) :
    IsImportable symbol := by
  have made : ∀ base, MakesSymbol false false base := fun _ => ⟨nofun, nofun, nofun⟩
  have whole := NamingConvention.isImportable_plain_iff false false false plain
  rcases mem_fragmentSymbols_cases member with (rfl | rfl) | ⟨type, listed, rfl⟩
  · exact whole.1.2 (made name)
  · exact whole.2.2 (made name)
  · have specialized := @NamingConvention.isImportable_specialized_iff false false false name type
      plain (types type listed)
    exact specialized.2 (made _)

/-- With the default affixes a symbol is a name of a module exactly when the name that it is made
from makes symbols: that of the fragment, for a specialised type with that of the type behind it. -/
theorem isName_symbol_iff (dedupe bare drop includeVariable : Bool) {name : String}
    {possibleTypes : List String} (plain : isPlainName name.toList = true)
    (types : ∀ type ∈ possibleTypes, isPlainName type.toList = true) :
    let naming := NamingConvention.ofOptions dedupe bare drop
    ∀ symbol ∈ fragmentSymbols naming includeVariable name possibleTypes,
      ((symbol = naming.variableName name ∨ symbol = naming.typeName name) ∧
        (ModuleText.isName symbol.toList = true ↔ MakesSymbol bare drop name)) ∨
      ∃ type ∈ possibleTypes, symbol = naming.specializedTypeName name type ∧
        (ModuleText.isName symbol.toList = true ↔ MakesSymbol bare drop (name ++ "_" ++ type)) := by
  intro naming symbol member
  have whole := NamingConvention.isImportable_plain_iff dedupe bare drop plain
  have agree : ∀ affixes, ModuleText.isName (naming.convert name affixes).toList = true ↔
      IsImportable (naming.convert name affixes) := by
    intro affixes
    apply isName_iff_isImportable
    intro c inside
    rw [NamingConvention.convert_ofOptions, toList_pascalCase] at inside
    exact Words.isNameContinue_of_mem_pascal inside
  rcases mem_fragmentSymbols_cases member with (rfl | rfl) | ⟨type, listed, rfl⟩
  · exact Or.inl ⟨Or.inl rfl, (agree _).trans whole.1⟩
  · exact Or.inl ⟨Or.inr rfl, (agree _).trans whole.2⟩
  · have specialized := NamingConvention.isImportable_specialized_iff dedupe bare drop plain
      (types type listed)
    exact Or.inr ⟨type, listed, rfl, (agree _).trans specialized⟩

theorem isName_symbol_iff_marks :
    isPlainName "_".toList = true ∧ (∀ type ∈ ["_1", "bot"], isPlainName type.toList = true) ∧
      fragmentSymbols (NamingConvention.ofOptions false true true) true "_" ["_1", "bot"] =
        ["", "1", "Bot"] ∧
      ∀ symbol ∈ fragmentSymbols (NamingConvention.ofOptions false true true) true "_"
        ["_1", "bot"], ModuleText.isName symbol.toList = true ↔ symbol = "Bot" := by
  refine ⟨by decide, by decide, by decide +kernel, ?_⟩
  intro symbol member
  rcases isName_symbol_iff false true true true (by decide) (by decide) symbol member with
    ⟨rfl | rfl, named⟩ | ⟨type, listed, rfl, named⟩
  · rw [named]
    decide +kernel
  · rw [named]
    decide +kernel
  · rw [named]
    revert type
    decide +kernel

/-- Without a suffix a symbol can be a constant, and without underscores it can start with a digit
or be empty. -/
theorem symbols_beside_names :
    (∀ name ∈ ["none", "_1", "_"], isPlainName name.toList = true) ∧
      isPlainName "User".toList = true ∧
      fragmentSymbols (NamingConvention.ofOptions false true false) false "none" ["User"] =
        ["None"] ∧
      fragmentSymbols (NamingConvention.ofOptions false false true) false "_1" ["User"] =
        ["1Fragment"] ∧
      fragmentSymbols (NamingConvention.ofOptions false true true) false "_" ["User"] = [""] ∧
      ∀ symbol ∈ ["None", "1Fragment", ""], ModuleText.isName symbol.toList = false := by
  decide +kernel

end FragmentImports
