import FragmentImports.Proofs.PreambleText
import Mathlib.Data.List.TakeWhile

/-!
What a preamble tells. Its import statements and the rows of its table stand on lines of their own,
and neither kind of line starts like what follows the last one, so both lists can be told from the
text.
-/

namespace FragmentImports

section Lines

variable {mark : Char} {front other rest rest' stop stop' : List Char}
  {lines others : List (List Char)}

theorem append_mark_inj (unmarked : mark ∉ front) (free : mark ∉ other)
    (same : front ++ mark :: rest = other ++ mark :: rest') : front = other ∧ rest = rest' := by
  have parts : ∀ text behind, mark ∉ text →
      (text ++ mark :: behind).takeWhile (· ≠ mark) = text ∧
        (text ++ mark :: behind).dropWhile (· ≠ mark) = mark :: behind := by
    intro text behind clear
    refine ModuleText.span_append (fun c member => ?_) (by simp)
    exact decide_eq_true fun equal => clear (equal ▸ member)
  have first := parts front rest unmarked
  have second := parts other rest' free
  rw [same] at first
  exact ⟨first.1.symm.trans second.1, (List.cons.inj (first.2.symm.trans second.2)).2⟩

structure IsLineFrom (mark : Char) (line : List Char) : Prop where
  starts : line.head? = some mark
  unbroken : '\n' ∉ line

/-- Lines that all start with one character are told from what does not start with it. -/
theorem lines_inj (first : ∀ line ∈ lines, IsLineFrom mark line)
    (second : ∀ line ∈ others, IsLineFrom mark line) (ends : stop.head? ≠ some mark)
    (stops : stop'.head? ≠ some mark)
    (same : lines.flatMap (· ++ ['\n']) ++ stop = others.flatMap (· ++ ['\n']) ++ stop') :
    lines = others ∧ stop = stop' := by
  have begins : ∀ {line : List Char} {later : List (List Char)} {behind : List Char},
      IsLineFrom mark line →
      ((line :: later).flatMap (· ++ ['\n']) ++ behind).head? = some mark := by
    intro line later behind shaped
    obtain ⟨tail, rfl⟩ := List.head?_eq_some_iff.1 shaped.starts
    rfl
  induction lines generalizing others with
  | nil =>
      cases others with
      | nil => exact ⟨rfl, same⟩
      | cons line later =>
          refine absurd ?_ ends
          rw [← begins (second line List.mem_cons_self), ← same]
          rfl
  | cons line later ih =>
      cases others with
      | nil =>
          refine absurd ?_ stops
          rw [← begins (first line List.mem_cons_self), same]
          rfl
      | cons line' later' =>
          rw [List.forall_mem_cons] at first second
          simp only [List.flatMap_cons, List.append_assoc, List.singleton_append] at same
          obtain ⟨rfl, behind⟩ := append_mark_inj first.1.unbroken second.1.unbroken same
          obtain ⟨rfl, rest⟩ := ih first.2 second.2 behind
          exact ⟨rfl, rest⟩

end Lines

section Numbers

theorem not_mem_repr (count : Nat) {mark : Char} (letter : mark.isDigit = false) :
    mark ∉ count.repr.toList := by
  intro member
  rw [Nat.toList_repr] at member
  rw [Nat.isDigit_of_mem_toDigits (by decide) (by decide) member] at letter
  cases letter

theorem toList_negSucc (count : Nat) :
    (toString (Int.negSucc count)).toList = '-' :: (count + 1).repr.toList := by
  change ("-" ++ (count + 1).repr).toList = _
  rw [String.toList_append]
  rfl

theorem toString_int_unmarked (depth : Int) {mark : Char} (other : mark ≠ '-')
    (letter : mark.isDigit = false) : mark ∉ (toString depth).toList := by
  cases depth with
  | ofNat count => exact not_mem_repr count letter
  | negSucc count =>
      rw [toList_negSucc]
      rw [List.mem_cons, not_or]
      exact ⟨other, not_mem_repr (count + 1) letter⟩

theorem eq_of_toList_toString_eq {depth other : Int}
    (same : (toString depth).toList = (toString other).toList) : depth = other := by
  have counted : ∀ {count count' : Nat}, count.repr.toList = count'.repr.toList →
      count = count' := by
    intro count count' equal
    rw [Nat.toList_repr, Nat.toList_repr] at equal
    rw [← Nat.ofDigitChars_ten_toDigits (n := count), equal, Nat.ofDigitChars_ten_toDigits]
  have signless : ∀ {count count' : Nat}, count.repr.toList ≠ '-' :: count'.repr.toList := by
    intro count count' equal
    exact not_mem_repr count (by decide) (equal ▸ List.mem_cons_self)
  cases depth with
  | ofNat count =>
      cases other with
      | ofNat count' => rw [counted same]
      | negSucc count' => exact absurd (same.trans (toList_negSucc count')) signless
  | negSucc count =>
      rw [toList_negSucc] at same
      cases other with
      | ofNat count' => exact absurd same.symm signless
      | negSucc count' =>
          rw [toList_negSucc] at same
          rw [Nat.succ.inj (counted (List.cons.inj same).2)]

end Numbers

namespace ExternalFragment

def shownData (fragment : ExternalFragment) : String × Int × String :=
  (fragment.name, fragment.depth, fragment.onType)

structure IsWritten (fragment : ExternalFragment) : Prop where
  named : isPlainName fragment.name.toList = true
  typed : isPlainName fragment.onType.toList = true

variable {one other fragment : ExternalFragment}

def rowLine (fragment : ExternalFragment) : List Char :=
  "    (".toList ++ '\'' :: (fragment.name.toList ++ '\'' :: ',' :: ' ' ::
    ((toString fragment.depth).toList ++ ',' :: ' ' :: '\'' ::
      (fragment.onType.toList ++ '\'' :: [')', ','])))

theorem IsWritten.toList_row (written : fragment.IsWritten) :
    fragment.row.toList = fragment.rowLine ++ ['\n'] := by
  simp [row, rowLine, toList_quoted, written.named, written.typed]

theorem not_mem_of_isPlainName {name : String} {mark : Char} (plain : isPlainName name.toList = true)
    (outside : Document.isNameContinue mark = false) : mark ∉ name.toList := by
  intro member
  rw [ModuleText.isNameContinue_of_mem plain member] at outside
  cases outside

theorem IsWritten.isLineFrom (written : fragment.IsWritten) : IsLineFrom ' ' fragment.rowLine where
  starts := rfl
  unbroken := by
    have outside : Document.isNameContinue '\n' = false := by decide
    have name := not_mem_of_isPlainName written.named outside
    have type := not_mem_of_isPlainName written.typed outside
    have depth : '\n' ∉ (toString fragment.depth).toList :=
      toString_int_unmarked fragment.depth (by decide) (by decide)
    simpa [rowLine, name, type] using depth

theorem shownData_eq_of_rowLine_eq (first : one.IsWritten) (second : other.IsWritten)
    (same : one.rowLine = other.rowLine) : one.shownData = other.shownData := by
  have quoteless : ∀ {name : String}, isPlainName name.toList = true → '\'' ∉ name.toList :=
    fun plain => not_mem_of_isPlainName plain (by decide)
  have commaless : ∀ depth : Int, ',' ∉ (toString depth).toList :=
    fun depth => toString_int_unmarked depth (by decide) (by decide)
  have behind := (List.cons.inj (List.append_cancel_left same)).2
  obtain ⟨names, counted⟩ := append_mark_inj (quoteless first.named) (quoteless second.named) behind
  have numbers := (List.cons.inj (List.cons.inj counted).2).2
  obtain ⟨depths, typed⟩ := append_mark_inj (commaless one.depth) (commaless other.depth) numbers
  have quotedTypes := (List.cons.inj (List.cons.inj typed).2).2
  obtain ⟨types, -⟩ := append_mark_inj (quoteless first.typed) (quoteless second.typed) quotedTypes
  rw [shownData, shownData, String.toList_inj.1 names, String.toList_inj.1 types,
    eq_of_toList_toString_eq depths]

theorem map_shownData_eq {external others : List ExternalFragment}
    (first : ∀ fragment ∈ external, fragment.IsWritten)
    (second : ∀ fragment ∈ others, fragment.IsWritten)
    (same : external.map rowLine = others.map rowLine) :
    external.map shownData = others.map shownData := by
  induction external generalizing others with
  | nil => rw [List.map_eq_nil_iff.1 same.symm]
  | cons fragment later ih =>
      obtain ⟨other, later', rfl, head, tail⟩ := List.map_eq_cons_iff.1 same.symm
      rw [List.forall_mem_cons] at first second
      rw [List.map_cons, List.map_cons, shownData_eq_of_rowLine_eq first.1 second.1 head.symm,
        ih first.2 second.2 tail.symm]

end ExternalFragment

structure IsImportLine (statement : String) : Prop where
  form : ∃ module names : String, statement = "from " ++ module ++ " import " ++ names
  unbroken : '\n' ∉ statement.toList

theorem IsImportLine.isLineFrom {statement : String} (imports : IsImportLine statement) :
    IsLineFrom 'f' statement.toList where
  starts := by
    obtain ⟨module, names, rfl⟩ := imports.form
    simp
  unbroken := imports.unbroken

namespace Preamble

variable {statements statements' : List String} {external external' : List ExternalFragment}

def tableHeading : List Char :=
  " (name, depth, on_type) of fragments defined in other documents".toList ++
    '\n' :: "EXTERNAL_FRAGMENTS = [\n".toList

theorem toList_table_rows (written : ∀ fragment ∈ external, fragment.IsWritten) :
    (table external).toList = '\n' :: '#' :: (tableHeading ++
      ((external.map ExternalFragment.rowLine).flatMap (· ++ ['\n']) ++ [']', '\n'])) := by
  have rows : (external.flatMap fun fragment => fragment.row.toList) =
      (external.map ExternalFragment.rowLine).flatMap (· ++ ['\n']) := by
    rw [List.flatMap_map]
    exact List.flatMap_congr fun fragment member => (written fragment member).toList_row
  rw [toList_table, rows]
  delta tableHeading
  -- the two lines are not looked into
  generalize String.toList _ = comment
  generalize "EXTERNAL_FRAGMENTS = [\n".toList = opening
  simp only [List.cons_append, List.append_assoc, List.nil_append]

theorem shownData_of_table (written : ∀ fragment ∈ external, fragment.IsWritten)
    (written' : ∀ fragment ∈ external', fragment.IsWritten)
    (same : (table external).toList = (table external').toList) :
    external.map ExternalFragment.shownData = external'.map ExternalFragment.shownData := by
  have lines : ∀ {external : List ExternalFragment}, (∀ fragment ∈ external, fragment.IsWritten) →
      ∀ line ∈ external.map ExternalFragment.rowLine, IsLineFrom ' ' line := by
    intro external written line member
    obtain ⟨fragment, listed, rfl⟩ := List.mem_map.1 member
    exact (written fragment listed).isLineFrom
  rw [toList_table_rows written, toList_table_rows written'] at same
  have rows := List.append_cancel_left (List.cons.inj (List.cons.inj same).2).2
  have equal := (lines_inj (lines written) (lines written') (by decide) (by decide) rows).1
  exact ExternalFragment.map_shownData_eq written written' equal

/-- The statements and what follows them: behind some statements there is a blank line. -/
theorem toList_importBlock_append (statements : List String) (behind : List Char) :
    (importBlock statements).toList ++ '\n' :: behind =
      '\n' :: ((statements.map String.toList).flatMap (· ++ ['\n']) ++
        ((if statements = [] then [] else ['\n']) ++ behind)) := by
  rw [toList_importBlock]
  by_cases none : statements = []
  · subst none
    rfl
  · simp [none, List.flatMap_map]

theorem statements_of_text (imports : ∀ statement ∈ statements, IsImportLine statement)
    (imports' : ∀ statement ∈ statements', IsImportLine statement)
    (same : (importBlock statements).toList ++ (table external).toList =
      (importBlock statements').toList ++ (table external').toList) :
    statements = statements' ∧ table external = table external' := by
  have lines : ∀ {statements : List String}, (∀ statement ∈ statements, IsImportLine statement) →
      ∀ line ∈ statements.map String.toList, IsLineFrom 'f' line := by
    intro statements imports line member
    obtain ⟨statement, listed, rfl⟩ := List.mem_map.1 member
    exact (imports statement listed).isLineFrom
  -- neither a blank line nor the comment above the table starts like a statement
  have stop : ∀ (statements : List String) (comment : List Char),
      ((if statements = [] then [] else ['\n']) ++ '#' :: comment).head? ≠ some 'f' := by
    intro statements comment
    split <;> simp
  rw [toList_table, toList_table, List.cons_append, List.cons_append, List.cons_append,
    List.cons_append, toList_importBlock_append, toList_importBlock_append] at same
  obtain ⟨texts, tables⟩ := lines_inj (lines imports) (lines imports') (stop _ _) (stop _ _)
    (List.cons.inj same).2
  have equal : statements = statements' :=
    List.map_injective_iff.2 (fun _ _ => String.toList_inj.1) texts
  subst equal
  refine ⟨rfl, String.toList_inj.1 ?_⟩
  rw [toList_table, toList_table, List.cons_append, List.cons_append, List.cons_append,
    List.cons_append, List.append_cancel_left tables]

end Preamble

/-- Of two outputs for one document, with statements that import from modules and with fragments
that can be written, the preambles are the same only if they have the same statements and show the
same names, depths and types, in the same order. -/
theorem preamble_tells_lists {one other : OutputFile} {text : String}
    (document : one.source.location = other.source.location)
    (imports : ∀ output ∈ [one, other], ∀ statement ∈ output.importStatements,
      IsImportLine statement)
    (written : ∀ output ∈ [one, other], ∀ fragment ∈ output.plan.external, fragment.IsWritten)
    (first : one.preamble = .ok text) (second : other.preamble = .ok text) :
    one.importStatements = other.importStatements ∧
      one.plan.external.map ExternalFragment.shownData =
        other.plan.external.map ExternalFragment.shownData := by
  have rendered : ∀ {output : OutputFile}, output.preamble = .ok text →
      text = Preamble.text output.source.location output.importStatements output.plan.external := by
    intro output success
    exact (Preamble.eq_of_check_eq_ok success).symm
  have texts := congrArg String.toList ((rendered first).symm.trans (rendered second))
  rw [Preamble.toList_text, Preamble.toList_text, document] at texts
  obtain ⟨statements, tables⟩ := Preamble.statements_of_text (imports one (by simp))
    (imports other (by simp)) (List.append_cancel_left texts)
  exact ⟨statements, Preamble.shownData_of_table (written one (by simp)) (written other (by simp))
    (congrArg String.toList tables)⟩

def spreadingOutput (path : String) (fragmentImports : List String)
    (baseTypesImport? : Option String) (spreads : List String) : OutputFile where
  path := path
  source := .ofSpreads "q.graphql" [] ["F"]
  plan := ⟨[⟨"F", 0, "User", .ofSpreads "F" "User" spreads⟩], []⟩
  fragmentImports := fragmentImports
  baseTypesImport? := baseTypesImport?

theorem preamble_spreadingOutput {path : String} {fragmentImports spreads : List String}
    {baseTypesImport? : Option String}
    (only : baseTypesImport?.toList ++ fragmentImports = ["from .f import FFragment"]) :
    (spreadingOutput path fragmentImports baseTypesImport? spreads).preamble =
      .ok (Preamble.text "q.graphql" ["from .f import FFragment"]
        [⟨"F", 0, "User", .ofSpreads "F" "User" []⟩]) := by
  have named : ∀ name ∈ ["F", "User", "f", "FFragment"], isPlainName name.toList = true ∧
      name.toList ∉ ModuleText.keywords := by decide
  have relative : IsRelativeImport "from .f import FFragment" := by
    refine ⟨0, ["f"], ["FFragment"], by simp, by simp, ?_, ?_, by decide⟩
    · exact List.forall_mem_singleton.2 (isImportable_iff.2 (named "f" (by simp)))
    · exact List.forall_mem_singleton.2 (isImportable_iff.2 (named "FFragment" (by simp)))
  have shown : ExternalFragment.IsShown ⟨"F", 0, "User", .ofSpreads "F" "User" []⟩ :=
    ⟨(named "F" (by simp)).1, (named "User" (by simp)).1, 0, rfl, Nat.pow_pos (by decide)⟩
  have verbatim : ∀ c ∈ "q.graphql".toList, ModuleText.IsVerbatim '"' c :=
    List.all_iff_forall_prop.1 (by decide)
  have kept : "q.graphql".toList.all Preamble.isKept = true := by decide
  rw [OutputFile.preamble, OutputFile.text, OutputFile.importStatements, spreadingOutput, only]
  exact Preamble.check_text verbatim kept (List.forall_mem_singleton.2 relative)
    (List.forall_mem_singleton.2 shown) path

theorem preamble_tells_lists_hidden :
    let one := spreadingOutput "q.py" ["from .f import FFragment"] none []
    let other := spreadingOutput "app/q.py" [] (some "from .f import FFragment") ["F"]
    one ≠ other ∧ (∃ text, one.preamble = .ok text ∧ other.preamble = .ok text) ∧
      one.importStatements = other.importStatements ∧
      one.plan.external.map ExternalFragment.shownData =
        other.plan.external.map ExternalFragment.shownData := by
  intro one other
  have first : one.preamble = _ := preamble_spreadingOutput rfl
  have second : other.preamble = _ := preamble_spreadingOutput rfl
  have line : IsImportLine "from .f import FFragment" := ⟨⟨".f", "FFragment", by decide⟩, by decide⟩
  have lines : ∀ output ∈ [one, other], ∀ statement ∈ output.importStatements,
      IsImportLine statement := by
    intro output member statement listed
    have only : ∀ output ∈ [one, other], ∀ statement ∈ output.importStatements,
        statement = "from .f import FFragment" := by decide
    exact only output member statement listed ▸ line
  have written : ∀ output ∈ [one, other], ∀ fragment ∈ output.plan.external,
      fragment.IsWritten := by
    intro output member fragment listed
    have plain : ∀ output ∈ [one, other], ∀ fragment ∈ output.plan.external,
        isPlainName fragment.name.toList = true ∧ isPlainName fragment.onType.toList = true := by
      decide
    obtain ⟨name, type⟩ := plain output member fragment listed
    exact ⟨name, type⟩
  exact ⟨by decide, ⟨_, first, second⟩, preamble_tells_lists rfl lines written first second⟩

end FragmentImports
