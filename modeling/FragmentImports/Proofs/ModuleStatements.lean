import FragmentImports.Proofs.ModuleReaders

/-!
Statements that are read as they stand: a text, an import and a list that is assigned to a name.
Lines of them are a module.
-/

namespace FragmentImports.ModuleText

namespace Statement

open Reader

section Lines

variable {expressions : Strength → Reader Shape} {patterns below : Reader Unit}
  {tokens rest : List Token} {head : Token} {shape : Shape}

/-- Tokens that start a statement with a block, or stand in front of one. -/
def blockStarts : List Token :=
  .mark "@" ::
    ["async", "def", "class", "for", "with", "if", "while", "try", "match"].map Token.keyword

def wordStarts : List Token :=
  ["import", "from", "pass", "break", "continue", "global", "nonlocal", "del", "return", "raise",
    "assert"].map Token.keyword

theorem step_eq_line (plain : head ∉ blockStarts) :
    step expressions patterns below (head :: tokens) = line expressions (head :: tokens) := by
  have undecorated : decorator expressions (head :: tokens) = some (false, head :: tokens) := by
    rw [decorator, acceptMark, ite_of_false (accept_of_ne (head_ne plain (by decide)))]
    rfl
  have other : ∀ word : String, .keyword word ∈ blockStarts →
      acceptWord word (head :: tokens) = some (false, head :: tokens) :=
    fun word member => accept_of_ne (head_ne plain member)
  have unmatched : matchLine expressions (head :: tokens) = none := by
    rw [matchLine, expectWord, bind_of_none (expect_of_ne (head_ne plain (by decide)))]
  rw [step, bind_of_eq (steps_of_false undecorated), bind_of_eq (other "async" (by decide)),
    ite_of_false (other "def" (by decide)), isAtWord,
    bind_of_eq (isAt_of_ne (head_ne plain (by decide))), if_neg (by decide), guard_bind rfl,
    ite_of_false (other "for" (by decide)), ite_of_false (other "with" (by decide)),
    guard_bind (by decide), ite_of_false (other "if" (by decide)),
    ite_of_false (other "while" (by decide)), ite_of_false (other "try" (by decide)),
    bind_of_eq (optional_of_none unmatched)]
  rfl

theorem simple_eq_expressionOrAssignment (plain : head ∉ wordStarts) :
    simple expressions (head :: tokens) = expressionOrAssignment expressions (head :: tokens) := by
  have other : ∀ word : String, .keyword word ∈ wordStarts →
      acceptWord word (head :: tokens) = some (false, head :: tokens) :=
    fun word member => accept_of_ne (head_ne plain member)
  have none : ∀ words : List Token, words ⊆ wordStarts →
      acceptAny words (head :: tokens) = some (false, head :: tokens) := by
    intro words inside
    apply acceptAny_of_not_mem
    rintro _ ⟨⟩ member
    exact plain (inside member)
  rw [simple, ite_of_false (other "import" (by decide)), ite_of_false (other "from" (by decide)),
    ite_of_false (none _ (by decide)), ite_of_false (none _ (by decide)),
    ite_of_false (other "del" (by decide)), ite_of_false (other "return" (by decide)),
    ite_of_false (other "raise" (by decide)), ite_of_false (other "assert" (by decide))]

theorem line_of_simple (read : simple expressions tokens = some ((), .newline :: rest)) :
    line expressions tokens = some ((), rest) := by
  have alone : (do
      if (← acceptMark ";") && !(← isAt .newline) then
        simple expressions
        return true
      else return false : Reader Bool) (.newline :: rest) = some (false, .newline :: rest) := by
    rw [acceptMark, bind_of_eq (accept_of_ne (by simp)), bind_of_eq (isAt_head _ _),
      if_neg (by decide)]
    rfl
  rw [line, bind_of_eq read, bind_of_eq (steps_of_false alone), expect_head]

end Lines

section Values

variable {bound : Nat} {tokens rest : List Token} {head : Token} {shape : Shape}

open Expression (prefixes)

theorem value_of_atom (plain : head ∉ prefixes)
    (read : Expression.atom (Expression.nested bound) (head :: tokens) = some (shape, rest))
    (closed : Ends rest) (single : rest.head? ≠ some (.mark ",")) :
    value (Expression.nested (bound + 1)) (head :: tokens) = some (shape, rest) := by
  have first : Expression.starExpression (Expression.nested (bound + 1)) (head :: tokens) =
      some (shape, rest) := by
    rw [Expression.starExpression, acceptMark,
      ite_of_false (accept_of_ne (head_ne plain (by decide))),
      Expression.nested_of_atom plain read closed]
  have alone : moreItems (Expression.starExpression (Expression.nested (bound + 1))) rest =
      some ([], rest) :=
    many_of_none (optional_of_none (bind_of_none (expect_of_ne single)))
  have items : separated (Expression.starExpression (Expression.nested (bound + 1)))
      (head :: tokens) = some ([shape], rest) := by
    rw [separated, bind_of_eq first, bind_of_eq alone]
    rfl
  rw [value, acceptWord, ite_of_false (accept_of_ne (head_ne plain (by decide))),
    Expression.starExpressions, bind_of_eq]
  rotate_left
  · rw [listed, bind_of_eq items, acceptMark, bind_of_eq (accept_of_ne single)]
    rfl
  · rfl

theorem simple_text (rest : List Token) :
    simple (Expression.nested (bound + 1)) (.text false :: .newline :: rest) =
      some ((), .newline :: rest) := by
  have closed : Ends (.newline :: rest) := ⟨_, by decide, rfl⟩
  have text : value (Expression.nested (bound + 1)) (.text false :: .newline :: rest) =
      some ({}, .newline :: rest) :=
    value_of_atom (by decide) (Expression.atom_text closed) closed (by simp)
  rw [simple_eq_expressionOrAssignment (by decide), expressionOrAssignment, bind_of_eq text,
    isAtMark, bind_of_eq (isAt_of_ne (by simp)), if_neg (by decide), acceptMark,
    ite_of_false (accept_of_ne (by simp)),
    ite_of_false (acceptAny_of_not_mem (closed.not_mem (by decide)))]
  rfl

theorem simple_assignment {letters : List Char} (named : isName letters = true)
    (plain : .word letters ∉ blockStarts ++ wordStarts ++ prefixes) {items : List (List Token)}
    (each : ∀ item ∈ items, Expression.IsItem (Expression.nested (bound + 1)) item)
    (rest : List Token) :
    simple (Expression.nested (bound + 2)) (.word letters :: .mark "=" :: .mark "[" ::
        (items.flatMap (· ++ [.mark ","]) ++ .mark "]" :: .newline :: rest)) =
      some ((), .newline :: rest) := by
  rw [List.mem_append, List.mem_append, not_or, not_or] at plain
  have closed : Ends (.newline :: rest) := ⟨_, by decide, rfl⟩
  have opened : Ends (.mark "=" :: .mark "[" ::
      (items.flatMap (· ++ [.mark ","]) ++ .mark "]" :: .newline :: rest)) := ⟨_, by decide, rfl⟩
  have place := @value_of_atom (bound + 1) _ _ _ _ plain.2 (Expression.atom_word named) opened
    (by simp)
  obtain ⟨shape, list⟩ := Expression.atom_list each (.newline :: rest)
  have value := value_of_atom (by decide) list closed (by simp)
  rw [simple_eq_expressionOrAssignment plain.1.2, expressionOrAssignment, bind_of_eq place,
    isAtMark, ite_of_true (isAt_head _ _), guard_bind (by decide), assigned, bind_of_eq]
  rotate_left
  · apply many_of_one
    · rw [acceptMark, ite_of_true (accept_head _ _)]
      exact map_of_eq value
    · rw [acceptMark, ite_of_false (accept_of_ne (by simp))]
      rfl
  · rfl

end Values

section Imports

variable {tokens rest : List Token} {letters : List Char}

theorem name_word (named : isName letters = true) (rest : List Token) :
    name (.word letters :: rest) = some ((), rest) := by
  unfold name
  rw [get_bind]
  dsimp only
  rw [guard_bind named]
  rfl

def dottedTokens (first : List Char) (others : List (List Char)) : List Token :=
  .word first :: (others.map fun letters => [.mark ".", .word letters]).flatten

def symbolTokens (first : List Char) (others : List (List Char)) : List Token :=
  .word first :: listedTokens (others.map fun letters => [.word letters])

variable {first : List Char} {others : List (List Char)}
  (named : ∀ letters ∈ first :: others, isName letters = true)

include named

theorem dottedName_tokens (stops : rest.head? ≠ some (.mark ".")) :
    dottedName (dottedTokens first others ++ rest) = some ((), rest) := by
  obtain ⟨start, more⟩ := List.forall_mem_cons.1 named
  have chunks : steps (do
      if ← acceptMark "." then
        name
        return true
      else return false : Reader Bool)
      ((others.map fun letters => [.mark ".", .word letters]).flatten ++ rest) =
        some (others.length, rest) := by
    rw [steps_of_chunks, List.length_map]
    · simp
    · intro chunk member behind
      obtain ⟨letters, listed, rfl⟩ := List.mem_map.1 member
      rw [List.cons_append, acceptMark, ite_of_true (accept_head _ _), List.cons_append,
        bind_of_eq (name_word (more letters listed) _)]
      rfl
    · rw [acceptMark, ite_of_false (accept_of_ne stops)]
      rfl
  have whole : Pattern.dottedName (dottedTokens first others ++ rest) =
      some (others.length, rest) := by
    rw [Pattern.dottedName, dottedTokens, List.cons_append, bind_of_eq (name_word start _), chunks]
  rw [dottedName, bind_of_eq whole]
  rfl

theorem importedNames_tokens (closed : Ends rest) (single : rest.head? ≠ some (.mark ",")) :
    importedNames (symbolTokens first others ++ rest) = some ((), rest) := by
  obtain ⟨start, more⟩ := List.forall_mem_cons.1 named
  have read : ∀ letters, isName letters = true → ∀ behind, Ends behind →
      (name >>= fun _ => otherName) (.word letters :: behind) = some ((), behind) := by
    intro letters named behind closed
    rw [bind_of_eq (name_word named _), otherName, acceptWord,
      ite_of_false (accept_of_ne (closed.head_ne (by decide)))]
    rfl
  have each : ∀ chunk ∈ others.map (fun letters => [Token.word letters]), ∀ behind, Ends behind →
      (name >>= fun _ => otherName) (chunk ++ behind) = some ((), behind) := by
    intro chunk member
    obtain ⟨letters, listed, rfl⟩ := List.mem_map.1 member
    exact read letters (more letters listed)
  have stops : (expectMark "," >>= fun _ => (name >>= fun _ => otherName)) rest = none :=
    bind_of_none (expect_of_ne single)
  have whole : separated (name >>= fun _ => otherName) (symbolTokens first others ++ rest) =
      some (List.replicate (others.length + 1) (), rest) := by
    rw [separated, symbolTokens, List.cons_append,
      bind_of_eq (read first start _ (ends_listedTokens _ closed)),
      bind_of_eq (moreItems_of_chunks each closed stops), List.length_map]
    rfl
  rw [importedNames, bind_of_eq whole]
  rfl

omit named

def importTokens (dots module symbols : List Token) : List Token :=
  .keyword "from" :: (dots ++ (module ++ .keyword "import" :: symbols))

theorem simple_import {expressions : Strength → Reader Shape} {dots : List Token}
    {symbol : List Char} {symbols : List (List Char)}
    (climbs : ∀ dot ∈ dots, dot ∈ [.mark ".", .mark "..."])
    (modules : ∀ letters ∈ first :: others, isName letters = true)
    (listed : ∀ letters ∈ symbol :: symbols, isName letters = true) (rest : List Token) :
    simple expressions (importTokens dots (dottedTokens first others)
      (symbolTokens symbol symbols) ++ .newline :: rest) = some ((), .newline :: rest) := by
  have closed : Ends (.newline :: rest) := ⟨_, by decide, rfl⟩
  have named := modules first List.mem_cons_self
  have climbed : ∀ behind, steps (acceptAny [.mark ".", .mark "..."])
      (dots ++ (dottedTokens first others ++ behind)) =
        some (dots.length, dottedTokens first others ++ behind) := by
    intro behind
    have run : steps (acceptAny [.mark ".", .mark "..."]) ((dots.map ([·])).flatten ++
        (dottedTokens first others ++ behind)) =
          some ((dots.map ([·])).length, dottedTokens first others ++ behind) := by
      refine steps_of_chunks (by simp) (fun chunk member behind => ?_) ?_
      · obtain ⟨dot, listed, rfl⟩ := List.mem_map.1 member
        exact acceptAny_of_mem (climbs dot listed)
      · refine acceptAny_of_not_mem fun next head member => ?_
        cases head
        simp at member
    rwa [List.length_map, ← List.flatMap_def, List.flatMap_singleton'] at run
  have looked : ∀ behind, isAtName (dottedTokens first others ++ behind) =
      some (true, dottedTokens first others ++ behind) := by
    intro behind
    change some (isName first, _) = _
    rw [named]
  have unstarred : ∀ behind, acceptMark "*" (symbolTokens symbol symbols ++ behind) =
      some (false, symbolTokens symbol symbols ++ behind) :=
    fun _ => accept_of_ne (by simp [symbolTokens])
  have unopened : ∀ behind, acceptMark "(" (symbolTokens symbol symbols ++ behind) =
      some (false, symbolTokens symbol symbols ++ behind) :=
    fun _ => accept_of_ne (by simp [symbolTokens])
  simp only [importTokens, List.cons_append, List.append_assoc]
  rw [simple, acceptWord, ite_of_false (accept_of_ne (by simp [Token.keyword])), acceptWord,
    ite_of_true (accept_head _ _), importFrom, bind_of_eq (climbed _), bind_of_eq (looked _)]
  dsimp only
  rw [if_pos (Or.inr rfl), bind_of_eq (dottedName_tokens modules (by simp [Token.keyword])),
    expectWord, bind_of_eq (expect_head _ _), ite_of_false (unopened _),
    ite_of_false (unstarred _), importedNames_tokens listed closed (by simp)]

end Imports

section Modules

variable {expressions : Strength → Reader Shape} {line : List Token} {bound : Nat}

/-- Tokens in front of a line end that are a statement. -/
structure IsLine (expressions : Strength → Reader Shape) (line : List Token) : Prop where
  starts : ∃ head more, line = head :: more ∧ head ∉ blockStarts
  reads : ∀ rest, simple expressions (line ++ .newline :: rest) = some ((), .newline :: rest)

theorem IsLine.nested (statement : IsLine expressions line) (patterns : Reader Unit) (bound : Nat)
    (rest : List Token) :
    nested expressions patterns (bound + 1) (line ++ .newline :: rest) = some ((), rest) := by
  have read := line_of_simple (statement.reads rest)
  obtain ⟨head, more, rfl, plain⟩ := statement.starts
  rw [List.cons_append] at read ⊢
  rw [Statement.nested, step_eq_line plain, read]

theorem isLine_text (bound : Nat) : IsLine (Expression.nested (bound + 1)) [.text false] :=
  ⟨⟨_, _, rfl, by decide⟩, simple_text⟩

theorem isLine_list {letters : List Char} (named : isName letters = true)
    (plain : .word letters ∉ blockStarts ++ wordStarts ++ Expression.prefixes)
    {items : List (List Token)}
    (each : ∀ item ∈ items, Expression.IsItem (Expression.nested (bound + 1)) item) :
    IsLine (Expression.nested (bound + 2)) (.word letters :: .mark "=" :: .mark "[" ::
      (items.flatMap (· ++ [.mark ","]) ++ [.mark "]"])) := by
  refine ⟨⟨_, _, rfl, fun member => plain ?_⟩, fun rest => ?_⟩
  · exact List.mem_append_left _ (List.mem_append_left _ member)
  · have read := simple_assignment named plain each rest
    simpa using read

theorem isLine_import {dots : List Token} {first symbol : List Char}
    {others symbols : List (List Char)} (climbs : ∀ dot ∈ dots, dot ∈ [.mark ".", .mark "..."])
    (modules : ∀ letters ∈ first :: others, isName letters = true)
    (listed : ∀ letters ∈ symbol :: symbols, isName letters = true) :
    IsLine expressions
      (importTokens dots (dottedTokens first others) (symbolTokens symbol symbols)) :=
  ⟨⟨_, _, rfl, by decide⟩, simple_import climbs modules listed⟩

theorem takesAll_lines {lines : List (List Token)}
    (each : ∀ line ∈ lines, IsLine (Expression.nested (bound + 1)) line) :
    takesAll (all (bound + 1)) (lines.flatMap (· ++ [.newline])) = true := by
  have run : steps (do
      if (← get) = [] then return false
      else
        nested (Expression.nested (bound + 1))
          (Pattern.nested (Expression.nested (bound + 1)) (bound + 1)) (bound + 1)
        return true : Reader Bool) ((lines.map (· ++ [.newline])).flatten ++ []) =
          some ((lines.map (· ++ [.newline])).length, []) := by
    refine steps_of_chunks (by simp) (fun chunk member behind => ?_) rfl
    obtain ⟨line, listed, rfl⟩ := List.mem_map.1 member
    have filled : line ++ [Token.newline] ++ behind ≠ [] := by simp
    have read := (each line listed).nested
      (Pattern.nested (Expression.nested (bound + 1)) (bound + 1)) bound behind
    rw [get_bind, if_neg filled, List.append_assoc, List.singleton_append, bind_of_eq read]
    rfl
  rw [List.append_nil, ← List.flatMap_def] at run
  have whole : all (bound + 1) (lines.flatMap (· ++ [.newline])) = some ((), []) := by
    rw [all, bind_of_eq run]
    rfl
  rw [takesAll, whole]
  rfl

end Modules

end Statement

end FragmentImports.ModuleText
