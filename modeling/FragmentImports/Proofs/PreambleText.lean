import FragmentImports.Preamble
import FragmentImports.Proofs.ImportSymbols
import FragmentImports.Proofs.ModuleStatements
import FragmentImports.Proofs.SymbolNames
import Mathlib.Data.Bool.AllAny

/-!
The text of a preamble as a module: its heading is one text, its imports and its table are read as
they are written.
-/

namespace FragmentImports

namespace ModuleText

open Statement

variable {layout : Layout} {rest first : List Char} {others : List (List Char)}
  {tokens : List Token}

theorem endsDots_of_isPlainName (plain : isPlainName first = true) (rest : List Char) :
    EndsDots (first ++ rest) := by
  cases first with
  | nil => cases plain
  | cons c more =>
      rw [isPlainName, Bool.and_eq_true] at plain
      rintro _ ⟨⟩
      exact of_isNameStart (p := fun c => c ≠ '.' ∧ c.isDigit = false) (by decide) plain.1

theorem endsDots_intercalate (plain : isPlainName first = true) (separator : List Char) :
    EndsDots (separator.intercalate (first :: others) ++ rest) := by
  cases others with
  | nil =>
      rw [List.intercalate_singleton]
      exact endsDots_of_isPlainName plain rest
  | cons second more =>
      rw [List.intercalate_cons_of_ne_nil (by simp), List.append_assoc, List.append_assoc]
      exact endsDots_of_isPlainName plain _

theorem Lexes.dotted (lexed : Lexes layout rest tokens) (ends : EndsWord rest)
    (plain : ∀ name ∈ first :: others, isPlainName name = true) :
    Lexes layout (['.'].intercalate (first :: others) ++ rest)
      (dottedTokens first others ++ tokens) := by
  induction others generalizing first with
  | nil =>
      rw [List.intercalate_singleton]
      exact lexed.word (plain first List.mem_cons_self) ends
  | cons second more ih =>
      obtain ⟨start, later⟩ := List.forall_mem_cons.1 plain
      rw [List.intercalate_cons_of_ne_nil (by simp), List.append_assoc, List.append_assoc]
      have dot := (ih later).dots (endsDots_intercalate (later second List.mem_cons_self) _) 1
      have word := dot.word start (by rintro _ ⟨⟩; decide)
      simpa [dottedTokens, dotTokens] using word

theorem Lexes.symbols (lexed : Lexes layout rest tokens) (ends : EndsWord rest)
    (plain : ∀ name ∈ first :: others, isPlainName name = true) :
    Lexes layout (", ".toList.intercalate (first :: others) ++ rest)
      (symbolTokens first others ++ tokens) := by
  induction others generalizing first with
  | nil =>
      rw [List.intercalate_singleton]
      exact lexed.word (plain first List.mem_cons_self) ends
  | cons second more ih =>
      obtain ⟨start, later⟩ := List.forall_mem_cons.1 plain
      rw [List.intercalate_cons_of_ne_nil (by simp), List.append_assoc, List.append_assoc]
      have word := (ih later).space.comma.word start (by rintro _ ⟨⟩; decide)
      simpa [symbolTokens, Reader.listedTokens] using word

theorem lexesLine_import {climbs : Nat} {symbol : List Char} {symbols : List (List Char)}
    (modules : ∀ name ∈ first :: others, isPlainName name = true)
    (listed : ∀ name ∈ symbol :: symbols, isPlainName name = true) :
    LexesLine ("from ".toList ++ (List.replicate climbs '.' ++
        (['.'].intercalate (first :: others) ++
          (" import ".toList ++ ", ".toList.intercalate (symbol :: symbols)))))
      (importTokens (dotTokens climbs) (dottedTokens first others)
        (symbolTokens symbol symbols)) := by
  refine ⟨⟨'f', _, rfl, by decide⟩, fun rest tokens behind => ?_⟩
  have names := (behind.symbols (by rintro _ ⟨⟩; decide) listed).space
  have taken : Lexes {} ("import".toList ++ _) (.keyword "import" :: _) :=
    names.word (by decide) (by rintro _ ⟨⟩; decide)
  have module := taken.space.dotted (by rintro _ ⟨⟩; decide) modules
  have start := modules first List.mem_cons_self
  have dots := (module.dots (endsDots_intercalate start _) climbs).space
  have line : Lexes {} ("from".toList ++ _) (.keyword "from" :: _) :=
    dots.word (by decide) (by rintro _ ⟨⟩; decide)
  simpa [importTokens] using line

theorem lexesLine_heading {location : List Char}
    (verbatim : ∀ c ∈ location, IsVerbatim '"' c) :
    LexesLine ("\"\"\"Fragment imports for ".toList ++
      (location ++ ". Generated file, do not edit.\"\"\"".toList)) [.text false] := by
  refine ⟨⟨'"', _, rfl, by decide⟩, fun rest tokens behind => ?_⟩
  have content : ∀ c ∈ "Fragment imports for ".toList ++ location ++
      ". Generated file, do not edit.".toList, IsVerbatim '"' c := by
    simp only [List.forall_mem_append]
    exact ⟨⟨List.all_iff_forall_prop.1 (by decide), verbatim⟩,
      List.all_iff_forall_prop.1 (by decide)⟩
  have line := behind.tripleQuoted content
  simpa using line

end ModuleText

theorem toList_quoted {name : String} (plain : isPlainName name.toList = true) :
    (quoted name).toList = '\'' :: (name.toList ++ ['\'']) := by
  have letters : ∀ c ∈ name.toList, c ≠ '\'' ∧ Quoted.escape '\'' c = [c] := fun c member =>
    ModuleText.of_isNameContinue (p := fun c => c ≠ '\'' ∧ Quoted.escape '\'' c = [c]) (by decide)
      (ModuleText.isNameContinue_of_mem plain member)
  have quote : Quoted.quoteFor name.toList = '\'' := by
    have unquoted : name.toList.contains '\'' = false := by
      simpa using fun member => (letters _ member).1 rfl
    rw [Quoted.quoteFor, unquoted]
    rfl
  have kept : name.toList.flatMap (Quoted.escape '\'') = name.toList := by
    rw [List.flatMap_congr fun c member => (letters c member).2, List.flatMap_singleton']
  rw [quoted, String.toList_ofList, Quoted.literal, quote, kept]

structure ExternalFragment.IsShown (fragment : ExternalFragment) : Prop where
  named : isPlainName fragment.name.toList = true
  typed : isPlainName fragment.onType.toList = true
  counted : ∃ depth : Nat, fragment.depth = depth ∧ depth < 10 ^ ModuleText.Number.wholeDigits

namespace ModuleText

open Statement

def rowTokens : List Token :=
  .mark "(" ::
    ([.text false] ++ Reader.listedTokens [[.number false], [.text false]] ++ [.mark ")"])

theorem Lexes.row {layout : Layout} {rest : List Char} {tokens : List Token}
    {fragment : ExternalFragment} (lexed : Lexes layout rest tokens) (inside : layout.brackets ≠ [])
    (room : layout.brackets.length < Layout.bracketBound) (shown : fragment.IsShown) :
    Lexes layout (fragment.row.toList ++ rest) (rowTokens ++ [.mark ","] ++ tokens) := by
  obtain ⟨depth, counted, fits⟩ := shown.counted
  have verbatim : ∀ name, isPlainName name = true → ∀ c ∈ name, IsVerbatim '\'' c :=
    fun name plain c member => of_isNameContinue (p := IsVerbatim '\'') (by decide)
      (isNameContinue_of_mem plain member)
  have filled : ∀ name, isPlainName name = true → name ≠ [] := by
    rintro _ plain rfl
    cases plain
  have closed := (lexed.break inside).comma.closeParenthesis
  have type := (closed.quoted (verbatim _ shown.typed) (filled _ shown.typed)).space.comma
  have number := (type.number fits).space.comma
  have name := number.quoted (verbatim _ shown.named) (filled _ shown.named)
  have row := (name.parenthesis room).space.space.space.space
  have digits : fragment.depth.repr.toList = Nat.toDigits 10 depth := by
    rw [counted]
    exact String.toList_ofList
  simpa [ExternalFragment.row, toList_quoted, shown.named, shown.typed, digits, rowTokens,
    Reader.listedTokens] using row

theorem Lexes.rows {layout : Layout} {rest : List Char} {tokens : List Token}
    {external : List ExternalFragment} (lexed : Lexes layout rest tokens)
    (inside : layout.brackets ≠ []) (room : layout.brackets.length < Layout.bracketBound)
    (shown : ∀ fragment ∈ external, fragment.IsShown) :
    Lexes layout ((external.flatMap fun fragment => fragment.row.toList) ++ rest)
      ((List.replicate external.length rowTokens).flatMap (· ++ [.mark ","]) ++ tokens) := by
  induction external with
  | nil => exact lexed
  | cons fragment later ih =>
      obtain ⟨first, more⟩ := List.forall_mem_cons.1 shown
      rw [List.flatMap_cons, List.length_cons, List.replicate_succ, List.flatMap_cons,
        List.append_assoc, List.append_assoc]
      exact (ih more).row inside room first

def tableTokens (rows : List (List Token)) : List Token :=
  .keyword "EXTERNAL_FRAGMENTS" :: .mark "=" :: .mark "[" ::
    (rows.flatMap (· ++ [.mark ","]) ++ [.mark "]"])

theorem lexesLine_table {external : List ExternalFragment}
    (shown : ∀ fragment ∈ external, fragment.IsShown) :
    LexesLine ("EXTERNAL_FRAGMENTS = [\n".toList ++
        ((external.flatMap fun fragment => fragment.row.toList) ++ [']']))
      (tableTokens (List.replicate external.length rowTokens)) := by
  refine ⟨⟨'E', _, rfl, by decide⟩, fun rest tokens behind => ?_⟩
  have rows := ((behind.closeBracket).rows (by simp) (by decide) shown).break (by simp)
  have opened := (rows.bracket (by decide)).space.equals.space
  have line : Lexes {} ("EXTERNAL_FRAGMENTS".toList ++ _) (.keyword "EXTERNAL_FRAGMENTS" :: _) :=
    opened.word (by decide) (by rintro _ ⟨⟩; decide)
  simpa [tableTokens] using line

/-- From the start of a line on, a text is made of statements, each on a line of its own, however
deep expressions may be nested. -/
def IsLines (text : List Char) : Prop :=
  ∃ lines : List (List Token), LexesLines text (lines.flatMap (· ++ [.newline])) ∧
    ∀ line ∈ lines, ∀ bound, IsLine (Expression.nested (bound + 3)) line

theorem isLines_nil : IsLines [] := ⟨[], lexesLines_nil, by simp⟩

theorem IsLines.blank {text : List Char} (lines : IsLines text) : IsLines ('\n' :: text) := by
  obtain ⟨tokens, lexed, each⟩ := lines
  exact ⟨tokens, lexed.blank, each⟩

theorem IsLines.comment {text comment : List Char} (lines : IsLines text)
    (inLine : '\n' ∉ comment) : IsLines ('#' :: (comment ++ '\n' :: text)) := by
  obtain ⟨tokens, lexed, each⟩ := lines
  exact ⟨tokens, lexed.comment inLine, each⟩

theorem IsLines.line {text line : List Char} {front : List Token} (lines : IsLines text)
    (lexed : LexesLine line front)
    (statement : ∀ bound, IsLine (Expression.nested (bound + 3)) front) :
    IsLines (line ++ '\n' :: text) := by
  obtain ⟨tokens, behind, each⟩ := lines
  refine ⟨front :: tokens, ?_, List.forall_mem_cons.2 ⟨statement, each⟩⟩
  rw [List.flatMap_cons, List.append_assoc]
  exact lexed.lines behind

theorem isModule_of_isLines {text : List Char} (lines : IsLines (text ++ ['\n']))
    (unified : '\r' ∉ text) (filled : text ≠ []) : isModule (text ++ ['\n']) = true := by
  obtain ⟨tokens, lexed, each⟩ := lines
  obtain ⟨c, rest, rfl⟩ := List.exists_cons_of_ne_nil filled
  rw [isModule, lexed.tokens? unified, Option.any_some]
  have deep : (c :: rest ++ ['\n']).length = rest.length + 2 := by simp
  rw [deep]
  exact takesAll_lines fun line member => each line member rest.length

theorem isItem_row (bound : Nat) : Expression.IsItem (Expression.nested (bound + 2)) rowTokens :=
  Expression.isItem_tuple (Expression.isItem_text bound)
    (by simpa using ⟨Expression.isItem_number bound, Expression.isItem_text bound⟩) (by simp)

theorem isLine_table (count bound : Nat) :
    IsLine (Expression.nested (bound + 3)) (tableTokens (List.replicate count rowTokens)) := by
  have named : isName "EXTERNAL_FRAGMENTS".toList = true :=
    isName_of_isPlainName (by decide) (by decide)
  refine isLine_list named (by decide) fun row member => ?_
  rw [List.eq_of_mem_replicate member]
  exact isItem_row bound

end ModuleText

/-- A statement that imports names from a relative module. -/
def IsRelativeImport (statement : String) : Prop :=
  ∃ climbs modules symbols, modules ≠ [] ∧ symbols ≠ [] ∧
    (∀ module ∈ modules, IsImportable module) ∧ (∀ symbol ∈ symbols, IsImportable symbol) ∧
    statement = "from " ++ moduleText climbs modules ++ " import " ++ ", ".intercalate symbols

theorem mem_dotTokens {count : Nat} :
    ∀ dot ∈ ModuleText.dotTokens count, dot ∈ [.mark ".", .mark "..."] := by
  fun_induction ModuleText.dotTokens count with
  | case1 => simp
  | case2 => simp
  | case3 => simp
  | case4 count ih => simpa using ih

theorem toList_importText (climbs : Nat) (modules symbols : List String) :
    ("from " ++ moduleText climbs modules ++ " import " ++ ", ".intercalate symbols).toList =
      "from ".toList ++ (List.replicate (climbs + 1) '.' ++
        (['.'].intercalate (modules.map String.toList) ++
          (" import ".toList ++ ", ".toList.intercalate (symbols.map String.toList)))) := by
  simp only [String.toList_append, toList_moduleText, String.toList_intercalate, List.append_assoc]

namespace Preamble

open ModuleText ModuleText.Statement

theorem toList_heading (location : String) : (heading location).toList =
    "\"\"\"Fragment imports for ".toList ++ (location.toList ++
      ". Generated file, do not edit.\"\"\"".toList) ++ ['\n'] := by
  have ending : ". Generated file, do not edit.\"\"\"\n".toList =
      ". Generated file, do not edit.\"\"\"".toList ++ ['\n'] := by simp
  delta heading
  rw [String.toList_append, String.toList_append, List.append_assoc, List.append_assoc,
    List.append_assoc]
  exact congrArg (fun back : List Char => _ ++ (_ ++ back)) ending

theorem toList_table (external : List ExternalFragment) : (table external).toList =
    '\n' :: '#' :: (" (name, depth, on_type) of fragments defined in other documents".toList ++
      '\n' :: ("EXTERNAL_FRAGMENTS = [\n".toList ++
        ((external.flatMap fun fragment => fragment.row.toList) ++ [']']))) ++ ['\n'] := by
  have head : String.toList
    "\n# (name, depth, on_type) of fragments defined in other documents\nEXTERNAL_FRAGMENTS = [\n" =
        '\n' :: '#' :: (" (name, depth, on_type) of fragments defined in other documents".toList ++
          '\n' :: "EXTERNAL_FRAGMENTS = [\n".toList) := by simp
  have ending : "]\n".toList = [']'] ++ ['\n'] := by simp
  delta table
  rw [String.toList_append, String.toList_append, String.toList_join, List.flatMap_map]
  refine (congrArg₂ (fun front back : List Char => front ++ _ ++ back) head ending).trans ?_
  simp only [List.append_assoc, List.cons_append, List.nil_append]

theorem isLines_table {external : List ExternalFragment}
    (shown : ∀ fragment ∈ external, fragment.IsShown) : IsLines (table external).toList := by
  have line := isLines_nil.line (lexesLine_table shown) (isLine_table external.length)
  have whole := (line.comment (by decide : '\n' ∉
    " (name, depth, on_type) of fragments defined in other documents".toList)).blank
  rw [toList_table]
  simp only [List.append_assoc, List.cons_append] at whole ⊢
  exact whole

theorem isLines_import {statement : String} {rest : List Char} (lines : IsLines rest)
    (imports : IsRelativeImport statement) : IsLines (statement.toList ++ '\n' :: rest) := by
  obtain ⟨climbs, modules, symbols, named, listed, parts, names, rfl⟩ := imports
  obtain ⟨module, later, rfl⟩ := List.exists_cons_of_ne_nil named
  obtain ⟨symbol, others, rfl⟩ := List.exists_cons_of_ne_nil listed
  have plain : ∀ texts : List String, (∀ text ∈ texts, IsImportable text) →
      ∀ name ∈ texts.map String.toList, isPlainName name = true :=
    fun texts importable => List.forall_mem_map.2 fun text member => (importable text member).plain
  have words : ∀ texts : List String, (∀ text ∈ texts, IsImportable text) →
      ∀ name ∈ texts.map String.toList, isName name = true :=
    fun texts importable => List.forall_mem_map.2 fun text member =>
      isName_of_isPlainName (importable text member).plain (importable text member).unreserved
  rw [toList_importText]
  exact lines.line (lexesLine_import (plain _ parts) (plain _ names))
    fun bound => isLine_import mem_dotTokens (words _ parts) (words _ names)

theorem isLines_imports {statements : List String} {rest : List Char} (lines : IsLines rest)
    (imports : ∀ statement ∈ statements, IsRelativeImport statement) :
    IsLines (statements.flatMap (fun statement => statement.toList ++ ['\n']) ++ rest) := by
  induction statements with
  | nil => exact lines
  | cons statement later ih =>
      obtain ⟨first, more⟩ := List.forall_mem_cons.1 imports
      rw [List.flatMap_cons, List.append_assoc, List.append_assoc]
      exact isLines_import (ih more) first

theorem toList_importBlock (statements : List String) : (importBlock statements).toList =
    if statements = [] then []
    else '\n' :: statements.flatMap fun statement => statement.toList ++ ['\n'] := by
  unfold importBlock
  split
  · rfl
  · simp [String.toList_join, List.flatMap_map]

theorem isLines_importBlock {statements : List String} {rest : List Char} (lines : IsLines rest)
    (imports : ∀ statement ∈ statements, IsRelativeImport statement) :
    IsLines ((importBlock statements).toList ++ rest) := by
  rw [toList_importBlock]
  split
  · exact lines
  · exact (isLines_imports lines imports).blank

theorem toList_text (location : String) (statements : List String)
    (external : List ExternalFragment) : (text location statements external).toList =
      (heading location).toList ++
        ((importBlock statements).toList ++ (table external).toList) := by
  delta text
  rw [String.toList_append, String.toList_append, List.append_assoc]

theorem isLines_text {location : String} {statements : List String}
    {external : List ExternalFragment} (verbatim : ∀ c ∈ location.toList, IsVerbatim '"' c)
    (imports : ∀ statement ∈ statements, IsRelativeImport statement)
    (shown : ∀ fragment ∈ external, fragment.IsShown) :
    IsLines (text location statements external).toList := by
  have behind := isLines_importBlock (isLines_table shown) imports
  have lines := behind.line (lexesLine_heading verbatim) fun bound => isLine_text (bound + 2)
  rw [toList_text, toList_heading, List.append_assoc]
  exact lines

def isKept (c : Char) : Bool := c != '\r' && c != '\x00'

theorem all_isKept_of_isPlainName {name : String} (plain : isPlainName name.toList = true) :
    name.toList.all isKept = true :=
  List.all_eq_true.2 fun _ member =>
    of_isNameContinue (p := fun c => isKept c = true) (by decide)
      (isNameContinue_of_mem plain member)

theorem all_isKept_import {statement : String} (imports : IsRelativeImport statement) :
    statement.toList.all isKept = true := by
  obtain ⟨climbs, modules, symbols, -, -, parts, names, rfl⟩ := imports
  have words : ∀ {separator : List Char} {texts : List String}, separator.all isKept = true →
      (∀ text ∈ texts, IsImportable text) →
      (separator.intercalate (texts.map String.toList)).all isKept = true := by
    intro separator texts between importable
    refine List.all_eq_true.2 fun c member => ?_
    rcases mem_intercalate member with mark | ⟨word, listed, inside⟩
    · exact List.all_eq_true.1 between c mark
    · obtain ⟨text, present, rfl⟩ := List.mem_map.1 listed
      exact List.all_eq_true.1 (all_isKept_of_isPlainName (importable text present).plain) c inside
  have dots : (List.replicate (climbs + 1) '.').all isKept = true := by
    rw [List.all_replicate]
    rfl
  rw [toList_importText]
  simp only [List.all_append, Bool.and_eq_true]
  exact ⟨by decide, dots, words (by decide) parts, by decide, words (by decide) names⟩

theorem all_isKept_row {fragment : ExternalFragment} (shown : fragment.IsShown) :
    fragment.row.toList.all isKept = true := by
  obtain ⟨depth, counted, -⟩ := shown.counted
  have digits : (toString fragment.depth).toList.all isKept = true := by
    rw [counted]
    refine List.all_eq_true.2 fun c member => ?_
    change c ∈ (String.ofList (Nat.toDigits 10 depth)).toList at member
    rw [String.toList_ofList] at member
    have digit := Nat.isDigit_of_mem_toDigits (by decide) (by decide) member
    exact of_isNameContinue (p := fun c => isKept c = true) (by decide)
      (by simp [Document.isNameContinue, Char.isAlphanum, digit])
  have quotes : ∀ {name : String}, isPlainName name.toList = true →
      (quoted name).toList.all isKept = true := by
    intro name plain
    rw [toList_quoted plain, List.all_cons, List.all_append, all_isKept_of_isPlainName plain]
    rfl
  delta ExternalFragment.row
  simp only [String.toList_append, List.all_append, Bool.and_eq_true]
  exact ⟨⟨⟨⟨⟨⟨by decide, quotes shown.named⟩, by decide⟩, digits⟩, by decide⟩, quotes shown.typed⟩,
    by decide⟩

theorem all_isKept_table {external : List ExternalFragment}
    (shown : ∀ fragment ∈ external, fragment.IsShown) :
    (table external).toList.all isKept = true := by
  rw [toList_table]
  have rows : (external.flatMap fun fragment => fragment.row.toList).all isKept = true := by
    rw [List.all_flatMap]
    exact List.all_eq_true.2 fun fragment member => all_isKept_row (shown fragment member)
  simp only [List.all_cons, List.all_append, Bool.and_eq_true]
  exact ⟨⟨by decide, by decide, by decide, by decide, by decide, rows, by decide⟩, by decide⟩

theorem all_isKept_importBlock {statements : List String}
    (imports : ∀ statement ∈ statements, IsRelativeImport statement) :
    (importBlock statements).toList.all isKept = true := by
  rw [toList_importBlock]
  split
  · rfl
  · rw [List.all_cons, List.all_flatMap, Bool.and_eq_true]
    refine ⟨by decide, List.all_eq_true.2 fun statement member => ?_⟩
    rw [List.all_append, all_isKept_import (imports statement member)]
    rfl

theorem all_isKept_text {location : String} {statements : List String}
    {external : List ExternalFragment} (written : location.toList.all isKept = true)
    (imports : ∀ statement ∈ statements, IsRelativeImport statement)
    (shown : ∀ fragment ∈ external, fragment.IsShown) :
    (text location statements external).toList.all isKept = true := by
  rw [toList_text, toList_heading]
  simp only [List.all_append, Bool.and_eq_true]
  exact ⟨⟨⟨by decide, written, by decide⟩, by decide⟩, all_isKept_importBlock imports,
    all_isKept_table shown⟩

theorem exists_toList_text (location : String) (statements : List String)
    (external : List ExternalFragment) : ∃ front behind,
      (text location statements external).toList = front ++ '\n' :: behind ++ ['\n'] := by
  obtain ⟨inner, shape⟩ : ∃ inner, (table external).toList = '\n' :: inner ++ ['\n'] :=
    ⟨_, toList_table external⟩
  refine ⟨(heading location).toList ++ (importBlock statements).toList, inner, ?_⟩
  rw [toList_text, shape]
  simp only [List.append_assoc, List.cons_append]

section Written

variable {location : String} {statements : List String} {external : List ExternalFragment}
  (verbatim : ∀ c ∈ location.toList, IsVerbatim '"' c)
  (written : location.toList.all isKept = true)
  (imports : ∀ statement ∈ statements, IsRelativeImport statement)
  (shown : ∀ fragment ∈ external, fragment.IsShown)

include verbatim written imports shown

/-- A preamble is a module when its heading quotes the location as it is, its statements import
names from relative modules and its table shows plain names. -/
theorem isModule_text : isModule (text location statements external).toList = true := by
  have kept := List.all_eq_true.1 (all_isKept_text written imports shown)
  have lines := isLines_text verbatim imports shown
  obtain ⟨front, behind, ending⟩ := exists_toList_text location statements external
  rw [ending] at kept lines ⊢
  refine isModule_of_isLines lines (fun cut => ?_) (by simp)
  exact absurd (kept '\r' (List.mem_append_left _ cut)) (by decide)

theorem isValid_text : isValid (text location statements external) = true := by
  have kept := List.all_eq_true.1 (all_isKept_text written imports shown)
  have unbroken : (text location statements external).toList.contains '\x00' = false := by
    simpa using fun nul => absurd (kept '\x00' nul) (by decide)
  rw [isValid, unbroken, isModule_text verbatim written imports shown]
  rfl

theorem check_text (path : String) : check isValid path (text location statements external) =
    .ok (text location statements external) :=
  if_pos (isValid_text verbatim written imports shown)

end Written

theorem eq_of_check_eq_ok {accepts : String → Bool} {path text checked : String}
    (success : check accepts path text = .ok checked) : text = checked := by
  unfold check at success
  split at success
  · exact Except.ok.inj success
  · cases success

end Preamble

end FragmentImports
