import FragmentImports.ModuleText.Statement
import Mathlib.Data.Option.Basic

/-!
What the readers of tokens make of a list of items: laws of the readers, then expressions that
nothing stands in front of, up to a token that does not go on with them.
-/

namespace FragmentImports.ModuleText

namespace Reader

variable {α β : Type} {reader : Reader α} {tokens rest : List Token} {token : Token}

theorem bind_of_eq {value : α} {next : α → Reader β} (read : reader tokens = some (value, rest)) :
    (reader >>= next) tokens = next value rest := by
  change (reader tokens).bind (fun read => next read.1 read.2) = _
  rw [read, Option.bind_some]

theorem bind_of_none {next : α → Reader β} (read : reader tokens = none) :
    (reader >>= next) tokens = none := by
  change (reader tokens).bind (fun read => next read.1 read.2) = none
  rw [read, Option.bind_none]

theorem get_bind {next : List Token → Reader α} : (get >>= next) tokens = next tokens tokens := rfl

theorem set_bind {next : Unit → Reader α} : (set rest >>= next) tokens = next () rest := rfl

theorem ite_of_true {test : Reader Bool} {this other : Reader α}
    (read : test tokens = some (true, rest)) :
    (do if ← test then this else other : Reader α) tokens = this rest :=
  bind_of_eq read

theorem ite_of_false {test : Reader Bool} {this other : Reader α}
    (read : test tokens = some (false, rest)) :
    (do if ← test then this else other : Reader α) tokens = other rest :=
  bind_of_eq read

theorem map_of_eq {value : α} {f : α → β} (read : reader tokens = some (value, rest)) :
    (f <$> reader) tokens = some (f value, rest) := by
  change (reader tokens).bind (fun read => some (f read.1, read.2)) = _
  rw [read, Option.bind_some]

theorem guard_bind {p : Prop} [Decidable p] {next : Unit → Reader α} (holds : p) :
    (guard p >>= next) tokens = next () tokens := by
  apply bind_of_eq
  change (if p then pure () else failure : Reader Unit) tokens = _
  rw [if_pos holds]
  rfl

theorem accept_head (token : Token) (rest : List Token) :
    accept token (token :: rest) = some (true, rest) := by
  change (if token = token then _ else _ : Reader Bool) _ = _
  rw [if_pos rfl]
  rfl

theorem accept_of_ne (other : tokens.head? ≠ some token) :
    accept token tokens = some (false, tokens) := by
  cases tokens with
  | nil => rfl
  | cons next rest =>
      have apart : next ≠ token := by simpa using other
      change (if next = token then _ else _ : Reader Bool) _ = _
      rw [if_neg apart]
      rfl

theorem acceptAny_of_mem {listed : List Token} (member : token ∈ listed) :
    acceptAny listed (token :: rest) = some (true, rest) := by
  change (if listed.contains token then _ else _ : Reader Bool) _ = _
  rw [if_pos (List.contains_iff_mem.2 member)]
  rfl

theorem acceptAny_of_not_mem {listed : List Token} (other : ∀ next ∈ tokens.head?, next ∉ listed) :
    acceptAny listed tokens = some (false, tokens) := by
  cases tokens with
  | nil => rfl
  | cons next rest =>
      change (if listed.contains next then _ else _ : Reader Bool) _ = _
      rw [if_neg (by simpa using other)]
      rfl

theorem expect_head (token : Token) (rest : List Token) :
    expect token (token :: rest) = some ((), rest) := by
  rw [expect, bind_of_eq (accept_head token rest)]
  rfl

theorem expect_of_ne (other : tokens.head? ≠ some token) : expect token tokens = none := by
  rw [expect, bind_of_eq (accept_of_ne other)]
  rfl

theorem isAt_head (token : Token) (rest : List Token) :
    isAt token (token :: rest) = some (true, token :: rest) := by
  change some (decide (some token = some token), _) = _
  rw [decide_eq_true rfl]

theorem isAt_of_ne (other : tokens.head? ≠ some token) :
    isAt token tokens = some (false, tokens) := by
  change some (decide (tokens.head? = some token), _) = _
  rw [decide_eq_false other]

theorem optional_of_none (read : reader tokens = none) :
    optional reader tokens = some (none, tokens) := by
  change ((reader tokens).bind fun read => some (some read.1, read.2)).orElse _ = _
  rw [read]
  rfl

theorem optional_of_eq {value : α} (read : reader tokens = some (value, rest)) :
    optional reader tokens = some (some value, rest) := by
  change ((reader tokens).bind fun read => some (some read.1, read.2)).orElse _ = _
  rw [read]
  rfl

theorem steps_of_false {step : Reader Bool} (read : step tokens = some (false, tokens)) :
    steps step tokens = some (0, tokens) := by
  change stepsWithin step tokens tokens = _
  cases tokens with
  | nil => rw [stepsWithin, bind_of_eq read]; rfl
  | cons _ _ => rw [stepsWithin, bind_of_eq read]; rfl

theorem many_of_none {item : Reader (Option α)} (read : item tokens = some (none, tokens)) :
    many item tokens = some ([], tokens) := by
  change manyWithin item tokens tokens = _
  cases tokens with
  | nil => rw [manyWithin, bind_of_eq read]; rfl
  | cons _ _ => rw [manyWithin, bind_of_eq read]; rfl

theorem many_of_one {item : Reader (Option α)} {value : α}
    (read : item (token :: tokens) = some (some value, rest))
    (stops : item rest = some (none, rest)) :
    many item (token :: tokens) = some ([value], rest) := by
  change manyWithin item (token :: tokens) (token :: tokens) = _
  have last : manyWithin item tokens rest = some ([], rest) := by
    cases tokens with
    | nil => rw [manyWithin, bind_of_eq stops]; rfl
    | cons _ _ => rw [manyWithin, bind_of_eq stops]; rfl
  rw [manyWithin, bind_of_eq read]
  dsimp only
  rw [bind_of_eq last]
  rfl

theorem stepsWithin_of_chunks {step : Reader Bool} {chunks : List (List Token)}
    (each : ∀ chunk ∈ chunks, ∀ behind, step (chunk ++ behind) = some (true, behind))
    (stops : step rest = some (false, rest)) {bound : List Token}
    (enough : chunks.length ≤ bound.length) :
    stepsWithin step bound (chunks.flatten ++ rest) = some (chunks.length, rest) := by
  induction chunks generalizing bound with
  | nil =>
      cases bound with
      | nil => rw [stepsWithin, List.flatten_nil, List.nil_append, bind_of_eq stops]; rfl
      | cons _ _ => rw [stepsWithin, List.flatten_nil, List.nil_append, bind_of_eq stops]; rfl
  | cons chunk later ih =>
      obtain ⟨first, more⟩ := List.forall_mem_cons.1 each
      -- the step over a chunk takes one token off the bound, however long the chunk is
      cases bound with
      | nil => cases enough
      | cons _ bound =>
          rw [stepsWithin, List.flatten_cons, List.append_assoc, bind_of_eq (first _)]
          rw [if_pos rfl, bind_of_eq (ih more (Nat.le_of_succ_le_succ enough))]
          rfl

theorem length_le_flatten {chunks : List (List α)} (filled : [] ∉ chunks) :
    chunks.length ≤ chunks.flatten.length := by
  induction chunks with
  | nil => exact Nat.le_refl _
  | cons chunk later ih =>
      rw [List.mem_cons, not_or] at filled
      have some := List.length_pos_iff.2 (Ne.symm filled.1)
      have more := ih filled.2
      rw [List.flatten_cons, List.length_append, List.length_cons]
      omega

theorem steps_of_chunks {step : Reader Bool} {chunks : List (List Token)} (filled : [] ∉ chunks)
    (each : ∀ chunk ∈ chunks, ∀ behind, step (chunk ++ behind) = some (true, behind))
    (stops : step rest = some (false, rest)) :
    steps step (chunks.flatten ++ rest) = some (chunks.length, rest) := by
  refine stepsWithin_of_chunks each stops (Nat.le_trans (length_le_flatten filled) ?_)
  rw [List.length_append]
  exact Nat.le_add_right _ _

def ends : List Token := [.newline, .mark ",", .mark ")", .mark "]", .mark "="]

def Ends (tokens : List Token) : Prop := ∃ token ∈ ends, tokens.head? = some token

theorem Ends.head_ne (closed : Ends tokens) (other : token ∉ ends) :
    tokens.head? ≠ some token := by
  obtain ⟨last, member, head⟩ := closed
  rw [head]
  rintro ⟨⟩
  exact other member

def listedTokens (chunks : List (List Token)) : List Token := chunks.flatMap (.mark "," :: ·)

theorem ends_listedTokens (chunks : List (List Token)) (closed : Ends rest) :
    Ends (listedTokens chunks ++ rest) := by
  cases chunks with
  | nil => exact closed
  | cons _ _ => exact ⟨.mark ",", by decide, rfl⟩

theorem moreItems_of_chunks {item : Reader α} {value : α} {chunks : List (List Token)}
    (each : ∀ chunk ∈ chunks, ∀ behind, Ends behind → item (chunk ++ behind) = some (value, behind))
    (closed : Ends rest) (stops : (expectMark "," >>= fun _ => item) rest = none) :
    moreItems item (listedTokens chunks ++ rest) =
      some (List.replicate chunks.length value, rest) := by
  have run : ∀ bound : List Token, chunks.length ≤ bound.length →
      manyWithin (optional do expectMark ","; item) bound (listedTokens chunks ++ rest) =
        some (List.replicate chunks.length value, rest) := by
    induction chunks with
    | nil =>
        rintro (_ | _) -
        · rw [manyWithin, listedTokens, List.flatMap_nil, List.nil_append,
            bind_of_eq (optional_of_none stops)]
          rfl
        · rw [manyWithin, listedTokens, List.flatMap_nil, List.nil_append,
            bind_of_eq (optional_of_none stops)]
          rfl
    | cons chunk later ih =>
        obtain ⟨first, more⟩ := List.forall_mem_cons.1 each
        rintro (_ | ⟨_, bound⟩) enough
        · cases enough
        · have read : (expectMark "," >>= fun _ => item) (listedTokens (chunk :: later) ++ rest) =
              some (value, listedTokens later ++ rest) := by
            rw [listedTokens, List.flatMap_cons, List.append_assoc, List.cons_append, expectMark,
              bind_of_eq (expect_head _ _)]
            exact first _ (ends_listedTokens later closed)
          rw [manyWithin, bind_of_eq (optional_of_eq read)]
          dsimp only
          rw [bind_of_eq (ih more bound (Nat.le_of_succ_le_succ enough))]
          rfl
  -- every chunk has a comma in front, so there are at least as many tokens as chunks
  refine run _ ?_
  have commas : chunks.length ≤ (listedTokens chunks).length := by
    rw [listedTokens, List.flatMap_def, ← List.length_map (Token.mark "," :: ·)]
    exact length_le_flatten (by simp)
  rw [List.length_append]
  exact Nat.le_add_right_of_le commas

theorem Ends.not_mem (closed : Ends tokens) {listed : List Token}
    (apart : ∀ token ∈ ends, token ∉ listed) : ∀ next ∈ tokens.head?, next ∉ listed := by
  obtain ⟨last, member, head⟩ := closed
  rw [head]
  rintro _ ⟨⟩
  exact apart last member

theorem head_ne {head : Token} {listed : List Token} (plain : head ∉ listed)
    (member : token ∈ listed) : (head :: tokens).head? ≠ some token := by
  rintro ⟨⟩
  exact plain member

end Reader

namespace Expression

open Reader

variable {below : Strength → Reader Shape} {tokens rest : List Token} {head : Token}
  {shape : Shape}

/-- Tokens in front of an expression that are no part of its first atom. -/
def prefixes : List Token :=
  signs ++ [.keyword "await", .keyword "not", .keyword "lambda", .keyword "yield", .mark "*"]

theorem primary_of_atom (read : atom below (head :: tokens) = some (shape, rest))
    (closed : Ends rest) : primary below (head :: tokens) = some (shape, rest) := by
  have bare : trailer below rest = some (none, rest) := by
    rw [trailer, acceptMark, ite_of_false (accept_of_ne (closed.head_ne (by decide))), acceptMark,
      ite_of_false (accept_of_ne (closed.head_ne (by decide))), acceptMark,
      ite_of_false (accept_of_ne (closed.head_ne (by decide)))]
    rfl
  have opened : ∃ opens, isAtMark "(" (head :: tokens) = some (opens, head :: tokens) :=
    ⟨_, rfl⟩
  obtain ⟨opens, look⟩ := opened
  rw [primary, bind_of_eq look, bind_of_eq read, bind_of_eq (many_of_none bare)]
  rfl

theorem operand_eq_primary (plain : head ∉ prefixes) :
    operand below (head :: tokens) = primary below (head :: tokens) := by
  have unsigned : acceptAny signs (head :: tokens) = some (false, head :: tokens) := by
    apply acceptAny_of_not_mem
    rintro _ ⟨⟩ member
    exact plain (List.mem_append_left _ member)
  have waits : acceptWord "await" (head :: tokens) = some (false, head :: tokens) :=
    accept_of_ne (head_ne plain (by decide))
  rw [operand, bind_of_eq (steps_of_false unsigned), bind_of_eq waits]
  cases read : primary below (head :: tokens) with
  | none => exact bind_of_none read
  | some found => exact bind_of_eq read

theorem arithmetic_of_atom (plain : head ∉ prefixes)
    (read : atom below (head :: tokens) = some (shape, rest)) (closed : Ends rest) :
    arithmetic below (head :: tokens) = some (shape, rest) := by
  have alone : acceptAny operators rest = some (false, rest) :=
    acceptAny_of_not_mem (closed.not_mem (by decide))
  have first : operand below (head :: tokens) = some (shape, rest) := by
    rw [operand_eq_primary plain, primary_of_atom read closed]
  rw [arithmetic, bind_of_eq first, bind_of_eq (steps_of_false (ite_of_false alone))]
  rfl

theorem comparison_of_atom (plain : head ∉ prefixes)
    (read : atom below (head :: tokens) = some (shape, rest)) (closed : Ends rest) :
    comparison below (head :: tokens) = some (shape, rest) := by
  have affirmed : acceptWord "not" (head :: tokens) = some (false, head :: tokens) :=
    accept_of_ne (head_ne plain (by decide))
  have alone : acceptComparison rest = some (false, rest) := by
    rw [acceptComparison, ite_of_false (acceptAny_of_not_mem (closed.not_mem (by decide))),
      acceptWord, ite_of_false (accept_of_ne (closed.head_ne (by decide))), acceptWord,
      ite_of_false (accept_of_ne (closed.head_ne (by decide)))]
    rfl
  rw [comparison, bind_of_eq (steps_of_false affirmed),
    bind_of_eq (arithmetic_of_atom plain read closed),
    bind_of_eq (steps_of_false (ite_of_false alone))]
  rfl

theorem logical_of_atom (plain : head ∉ prefixes)
    (read : atom below (head :: tokens) = some (shape, rest)) (closed : Ends rest) :
    logical below (head :: tokens) = some (shape, rest) := by
  have alone : acceptAny [.keyword "and", .keyword "or"] rest = some (false, rest) :=
    acceptAny_of_not_mem (closed.not_mem (by decide))
  rw [logical, bind_of_eq (comparison_of_atom plain read closed),
    bind_of_eq (steps_of_false (ite_of_false alone))]
  rfl

theorem expression_of_atom (plain : head ∉ prefixes)
    (read : atom below (head :: tokens) = some (shape, rest)) (closed : Ends rest) :
    expression below (head :: tokens) = some (shape, rest) := by
  rw [expression, acceptWord, ite_of_false (accept_of_ne (head_ne plain (by decide))),
    bind_of_eq (logical_of_atom plain read closed), acceptWord,
    ite_of_false (accept_of_ne (closed.head_ne (by decide)))]
  rfl

theorem expression_of_atom_none (plain : head ∉ prefixes)
    (missing : atom below (head :: tokens) = none) :
    expression below (head :: tokens) = none := by
  have affirmed : acceptWord "not" (head :: tokens) = some (false, head :: tokens) :=
    accept_of_ne (head_ne plain (by decide))
  have bare : primary below (head :: tokens) = none := by
    have look : isAtMark "(" (head :: tokens) = some (_, head :: tokens) := rfl
    rw [primary, bind_of_eq look, bind_of_none missing]
  have unread : comparison below (head :: tokens) = none := by
    rw [comparison, bind_of_eq (steps_of_false affirmed), bind_of_none]
    rw [arithmetic, bind_of_none]
    rw [operand_eq_primary plain, bare]
  rw [expression, acceptWord, ite_of_false (accept_of_ne (head_ne plain (by decide))),
    bind_of_none]
  rw [logical, bind_of_none unread]

theorem nested_of_atom {bound : Nat} (plain : head ∉ prefixes)
    (read : atom (nested bound) (head :: tokens) = some (shape, rest)) (closed : Ends rest) :
    nested (bound + 1) .expression (head :: tokens) = some (shape, rest) :=
  expression_of_atom plain read closed

theorem atom_text (closed : Ends rest) :
    atom below (.text false :: rest) = some ({}, rest) := by
  obtain ⟨last, member, head⟩ := closed
  obtain ⟨more, rfl⟩ := List.head?_eq_some_iff.1 head
  have other : last.isTextLiteral = false :=
    (by decide : ∀ token ∈ ends, token.isTextLiteral = false) last member
  have single : texts below (.text false :: last :: more) = some ((), last :: more) := by
    unfold texts
    rw [get_bind]
    rw [List.takeWhile_cons_of_pos rfl, List.takeWhile_cons_of_neg (by simp [other]),
      List.dropWhile_cons_of_pos rfl, List.dropWhile_cons_of_neg (by simp [other])]
    rfl
  unfold atom
  rw [get_bind]
  dsimp only
  rw [bind_of_eq single]
  rfl

theorem atom_number : atom below (.number false :: rest) = some ({}, rest) := rfl

theorem atom_word {letters : List Char} (named : isName letters = true) :
    atom below (.word letters :: rest) = some (.place, rest) := by
  change (if isName letters = true then _ else _ : Reader Shape) rest = _
  rw [if_pos named]
  rfl

theorem acceptNameAnd_of_ne (spelling : String) (unnamed : ∀ letters, head ≠ .word letters) :
    acceptNameAnd spelling (head :: tokens) = some (false, head :: tokens) := by
  cases head with
  | word letters => exact absurd rfl (unnamed letters)
  | _ => rfl

theorem namedExpression_of_ne (unnamed : ∀ letters, head ≠ .word letters) :
    namedExpression below (head :: tokens) = below .expression (head :: tokens) := by
  rw [namedExpression, ite_of_false (acceptNameAnd_of_ne ":=" unnamed)]

theorem isAtComprehension_of_ends (closed : Ends rest) :
    isAtComprehension rest = some (false, rest) := by
  rw [isAtComprehension, isAtWord, bind_of_eq (isAt_of_ne (closed.head_ne (by decide))), isAtWord,
    bind_of_eq (isAt_of_ne (closed.head_ne (by decide)))]
  rfl

/-- Tokens that are read as an item of a list, a value and no place. -/
structure IsItem (below : Strength → Reader Shape) (chunk : List Token) : Prop where
  starts : ∃ head more, chunk = head :: more ∧ head ∉ prefixes ++ [.mark ")", .mark "]"]
  reads : ∀ behind, Ends behind → element below (chunk ++ behind) = some ({}, behind)

theorem isItem_of_atom {bound : Nat} (plain : head ∉ prefixes ++ [.mark ")", .mark "]"])
    (unnamed : ∀ letters, head ≠ .word letters)
    (read : ∀ behind, Ends behind →
      atom (nested bound) (head :: (tokens ++ behind)) = some ({}, behind)) :
    IsItem (nested (bound + 1)) (head :: tokens) := by
  refine ⟨⟨head, tokens, rfl, plain⟩, fun behind closed => ?_⟩
  rw [List.mem_append, not_or] at plain
  rw [List.cons_append, element, acceptMark,
    ite_of_false (accept_of_ne (head_ne plain.1 (by decide))), namedExpression_of_ne unnamed,
    nested_of_atom plain.1 (read behind closed) closed]

theorem isItem_text (bound : Nat) : IsItem (nested (bound + 1)) [.text false] :=
  isItem_of_atom (by decide) (by simp) fun _ closed => atom_text closed

theorem isItem_number (bound : Nat) : IsItem (nested (bound + 1)) [.number false] :=
  isItem_of_atom (by decide) (by simp) fun _ _ => atom_number

theorem isItem_tuple {bound : Nat} {first : List Token} {others : List (List Token)}
    (item : IsItem (nested bound) first) (items : ∀ other ∈ others, IsItem (nested bound) other)
    (several : others ≠ []) :
    IsItem (nested (bound + 1)) (.mark "(" :: (first ++ listedTokens others ++ [.mark ")"])) := by
  refine isItem_of_atom (by decide) (by simp) fun rest _ => ?_
  obtain ⟨head, more, rfl, plain⟩ := item.starts
  have closed : Ends (.mark ")" :: rest) := ⟨_, by decide, rfl⟩
  have behind := ends_listedTokens others closed
  have stops : (expectMark "," >>= fun _ => element (nested bound)) (.mark ")" :: rest) = none :=
    bind_of_none (expect_of_ne (by simp))
  have read := item.reads _ behind
  simp only [List.append_assoc, List.cons_append, List.nil_append] at read ⊢
  unfold atom
  rw [get_bind]
  dsimp only
  rw [set_bind, if_pos rfl, parenthesized, acceptMark,
    ite_of_false (accept_of_ne (head_ne plain (by decide))), acceptWord,
    ite_of_false (accept_of_ne (head_ne plain (by decide))), bind_of_eq read,
    ite_of_false (isAtComprehension_of_ends behind),
    bind_of_eq (moreItems_of_chunks (fun other member => (items other member).reads) closed stops),
    acceptMark, bind_of_eq (accept_of_ne (by simp)), expectMark, bind_of_eq (expect_head _ _),
    if_neg]
  · rfl
  · simpa using several

theorem flatMap_comma (first : List Token) (others : List (List Token)) :
    (first :: others).flatMap (· ++ [.mark ","]) =
      first ++ (listedTokens others ++ [.mark ","]) := by
  induction others generalizing first with
  | nil => simp [listedTokens]
  | cons second later ih =>
      rw [List.flatMap_cons, ih second, listedTokens, listedTokens, List.flatMap_cons]
      simp only [List.append_assoc, List.cons_append, List.nil_append]

theorem atom_list {bound : Nat} {items : List (List Token)}
    (each : ∀ item ∈ items, IsItem (nested (bound + 1)) item) (rest : List Token) :
    ∃ shape, atom (nested (bound + 1))
      (.mark "[" :: (items.flatMap (· ++ [.mark ","]) ++ .mark "]" :: rest)) =
        some (shape, rest) := by
  unfold atom
  rw [get_bind]
  dsimp only
  rw [set_bind, if_neg (by decide), if_pos rfl, bracketed]
  cases items with
  | nil =>
      rw [acceptMark, List.flatMap_nil, List.nil_append, ite_of_true (accept_head _ _)]
      exact ⟨_, rfl⟩
  | cons first others =>
      obtain ⟨item, items⟩ := List.forall_mem_cons.1 each
      obtain ⟨head, more, rfl, plain⟩ := item.starts
      -- no item starts with the bracket, so the comma in front of it is the last one
      have missing : element (nested (bound + 1)) (.mark "]" :: rest) = none := by
        rw [element, acceptMark, ite_of_false (accept_of_ne (by simp)),
          namedExpression_of_ne (by simp)]
        exact expression_of_atom_none (by decide) rfl
      have closed : Ends (.mark "," :: .mark "]" :: rest) := ⟨_, by decide, rfl⟩
      have stops : (expectMark "," >>= fun _ => element (nested (bound + 1)))
          (.mark "," :: .mark "]" :: rest) = none := by
        rw [expectMark, bind_of_eq (expect_head _ _), missing]
      have behind := ends_listedTokens others closed
      have read := item.reads _ behind
      rw [flatMap_comma]
      simp only [List.append_assoc, List.cons_append, List.nil_append] at read ⊢
      rw [acceptMark, ite_of_false (accept_of_ne (head_ne plain (by decide))), bind_of_eq read,
        ite_of_false (isAtComprehension_of_ends behind),
        bind_of_eq (moreItems_of_chunks (fun other member => (items other member).reads) closed
          stops),
        acceptMark, bind_of_eq (accept_head _ _), expectMark, bind_of_eq (expect_head _ _)]
      exact ⟨_, rfl⟩

end Expression
end FragmentImports.ModuleText
