import FragmentImports.Proofs.ModuleTokens
import FragmentImports.Proofs.Outcome
import FragmentImports.Schema.Definition

/-!
The names in a document that is read are names of the language: the tokens of names carry such
names, and every reader only moves to tokens of the text.
-/

namespace FragmentImports.Document

def Token.IsSpelled (token : Token) : Prop :=
  token.kind = .name → ∃ name, token.value? = some name ∧ isPlainName name.toList = true

theorem Token.isSpelled_of_kind_ne {token : Token} (other : token.kind ≠ .name) :
    token.IsSpelled := fun same => absurd same other

theorem isSpelled_of_number {text : List Char} {found : Token} {size : Nat}
    (read : Lexer.number text = .ok (found, size)) : found.IsSpelled := by
  obtain ⟨whole, -, behind⟩ := exists_of_bind_eq_ok read
  obtain ⟨places, -, further⟩ := exists_of_bind_eq_ok behind
  obtain ⟨power, -, ending⟩ := exists_of_bind_eq_ok further
  dsimp only at ending
  generalize (if text.head? = some '-' then ['-'] else []) = sign at ending
  split at ending
  · cases ending
  · cases ending
    apply Token.isSpelled_of_kind_ne
    dsimp only
    split <;> simp

theorem isSpelled_of_point {text : List Char} {found : Token} {size : Nat}
    (read : Lexer.point text = .ok (found, size)) : found.IsSpelled := by
  unfold Lexer.point at read
  split at read
  · cases read
    exact Token.isSpelled_of_kind_ne (by simp)
  · cases read
  · dsimp only at read
    split at read <;> cases read

theorem isPlainName_takeWhile {first : Char} {rest : List Char}
    (starts : isNameStart first = true) :
    isPlainName ((first :: rest).takeWhile isNameContinue) = true := by
  rw [List.takeWhile_cons_of_pos (ModuleText.isNameContinue_of_isNameStart starts), isPlainName,
    Bool.and_eq_true, List.all_eq_true]
  exact ⟨starts, fun c member => List.mem_takeWhile_imp member⟩

theorem isSpelled_of_token {first : Char} {rest : List Char} {found : Token} {size : Nat}
    (read : Lexer.token first rest = .ok (found, size)) : found.IsSpelled := by
  unfold Lexer.token at read
  dsimp only at read
  split at read
  · cases read
    exact Token.isSpelled_of_kind_ne (by simp)
  split at read
  · exact isSpelled_of_point read
  split at read
  · split at read
    · obtain ⟨_, -, ending⟩ := exists_of_bind_eq_ok read
      cases ending
      exact Token.isSpelled_of_kind_ne (by simp)
    · obtain ⟨_, -, ending⟩ := exists_of_bind_eq_ok read
      cases ending
      exact Token.isSpelled_of_kind_ne (by simp)
  split at read
  · exact isSpelled_of_number read
  split at read
  · next starts =>
      cases read
      exact fun _ => ⟨_, rfl, by rw [String.toList_ofList]; exact isPlainName_takeWhile starts⟩
  split at read <;> cases read

theorem isSpelled_of_mem_tokensFrom {offset : Nat} {text : List Char} {token : Token}
    (member : .ok token ∈ Lexer.tokensFrom offset text) : token.IsSpelled := by
  induction offset, text using Lexer.tokensFrom.induct with
  | case1 offset =>
      rw [Lexer.tokensFrom, List.mem_singleton] at member
      cases member
      exact Token.isSpelled_of_kind_ne (by simp)
  | case2 offset first rest ignored ih =>
      rw [Lexer.tokensFrom, if_pos ignored] at member
      exact ih member
  | case3 offset rest _ comment ih =>
      rw [Lexer.tokensFrom] at member
      exact ih member
  | case4 offset first rest ignored comment fault read =>
      rw [Lexer.tokensFrom, if_neg ignored, if_neg comment, read, List.mem_singleton] at member
      cases member
  | case5 offset first rest ignored comment found size read ih =>
      rw [Lexer.tokensFrom, if_neg ignored, if_neg comment, read] at member
      rcases List.mem_cons.1 member with here | ahead
      · cases here
        have spelled := isSpelled_of_token read
        exact fun named => spelled named
      · exact ih ahead

def TypeDefinition.IsSpelled (definition : TypeDefinition) : Prop :=
  isPlainName definition.name.toList = true ∧
    ∀ member ∈ Schema.membersOf definition.body, isPlainName member.toList = true

def Definition.IsSpelled : Definition → Prop
  | .fragment read => isPlainName read.name.toList = true
  | .type definition => definition.IsSpelled
  | .typeExtension extension => extension.IsSpelled
  | _ => True

structure Cursor.IsSpelled (cursor : Cursor) : Prop where
  current : cursor.current.IsSpelled
  ahead : ∀ token, .ok token ∈ cursor.ahead → token.IsSpelled

namespace Reader

variable {α β : Type} {reader : Reader α} {holds : α → Prop}

/-- A reader that stays on spelled tokens, and something that holds of what it reads. -/
def Yields (reader : Reader α) (holds : α → Prop) : Prop :=
  ∀ cursor value next, cursor.IsSpelled → reader cursor = .ok (value, next) →
    next.IsSpelled ∧ holds value

def Keeps (reader : Reader α) : Prop := Yields reader fun _ => True

theorem Yields.keeps (yields : Yields reader holds) : Keeps reader :=
  fun cursor value next spelled read => ⟨(yields cursor value next spelled read).1, trivial⟩

theorem Yields.bind {next : α → Reader β} {then' : β → Prop} (first : Yields reader holds)
    (second : ∀ value, holds value → Yields (next value) then') :
    Yields (reader >>= next) then' := by
  intro cursor value after spelled read
  obtain ⟨⟨middle, between⟩, run, goes⟩ := exists_of_bind_eq_ok read
  obtain ⟨kept, known⟩ := first cursor middle between spelled run
  exact second middle known between value after kept goes

theorem Keeps.bind {next : α → Reader β} {then' : β → Prop} (first : Keeps reader)
    (second : ∀ value, Yields (next value) then') : Yields (reader >>= next) then' :=
  Yields.bind first fun value _ => second value

theorem yields_pure {value : α} (known : holds value) : Yields (pure value) holds := by
  intro cursor _ next spelled read
  cases read
  exact ⟨spelled, known⟩

theorem keeps_pure (value : α) : Keeps (pure value) := yields_pure trivial

theorem yields_throw (fault : SyntaxFault) : Yields (throw fault : Reader α) holds := by
  intro cursor value next _ read
  cases read

theorem yields_fail (offset : Nat) (cause : SyntaxCause) : Yields (fail offset cause) holds :=
  yields_throw _

theorem Yields.ite {asked : Prop} [Decidable asked] {other : Reader α}
    (one : Yields reader holds) (two : Yields other holds) :
    Yields (if asked then reader else other) holds := by
  split
  · exact one
  · exact two

theorem Yields.choose {asked : Prop} [Decidable asked] {other : Reader α} {next : α → Reader β}
    {then' : β → Prop} (one : Yields reader holds) (two : Yields other holds)
    (behind : ∀ value, holds value → Yields (next value) then') :
    Yields (if asked then reader >>= next else other >>= next) then' :=
  .ite (one.bind behind) (two.bind behind)

theorem Yields.checked {asked : Prop} [Decidable asked] {stop : Reader Unit}
    {next : Unit → Reader α} (stops : Keeps stop) (goes : Yields (next ()) holds) :
    Yields (if asked then stop >>= next else next ()) holds :=
  .ite (stops.bind fun _ => goes) goes

theorem Keeps.map {f : α → β} (reads : Keeps reader) : Keeps (f <$> reader) := by
  rw [map_eq_pure_bind]
  exact reads.bind fun _ => keeps_pure _

theorem yields_current : Yields current Token.IsSpelled := by
  intro cursor value next spelled read
  cases read
  exact ⟨spelled, spelled.current⟩

theorem keeps_get : Keeps (get : Reader Cursor) := by
  intro cursor value next spelled read
  cases read
  exact ⟨spelled, trivial⟩

theorem keeps_remaining : Keeps remaining := keeps_get.bind fun _ => keeps_pure _

theorem keeps_advance : Keeps advance := by
  rintro ⟨current, ahead, directives⟩ value next spelled read
  rcases ahead with _ | ⟨fault | token, rest⟩
  · cases read
    exact ⟨spelled, trivial⟩
  · cases read
  · cases read
    exact ⟨⟨spelled.ahead token List.mem_cons_self,
      fun later member => spelled.ahead later (List.mem_cons_of_mem _ member)⟩, trivial⟩

theorem keeps_following : Keeps following := by
  rintro ⟨current, ahead, directives⟩ value next spelled read
  rcases ahead with _ | ⟨fault | token, rest⟩
  · cases read
    exact ⟨spelled, trivial⟩
  · cases read
  · cases read
    exact ⟨spelled, trivial⟩

theorem keeps_noteDirective (place : DirectivePlace) : Keeps (noteDirective place) := by
  intro cursor value next spelled read
  cases read
  exact ⟨⟨spelled.current, spelled.ahead⟩, trivial⟩

theorem keeps_takeDirectives : Keeps takeDirectives := by
  intro cursor value next spelled read
  cases read
  exact ⟨⟨spelled.current, spelled.ahead⟩, trivial⟩

theorem yields_unexpected : Yields (unexpected : Reader α) holds :=
  yields_current.bind fun _ _ => yields_fail _ _

theorem keeps_isAt (kind : TokenKind) : Keeps (isAt kind) :=
  yields_current.bind fun _ _ => keeps_pure _

theorem yields_expect (kind : TokenKind) :
    Yields (expect kind) fun found => found.kind = kind ∧ found.IsSpelled := by
  refine yields_current.bind fun found spelled => ?_
  split
  · next same => exact keeps_advance.bind fun _ => yields_pure ⟨same, spelled⟩
  · exact yields_fail _ _

theorem keeps_expectMark (text : String) : Keeps (expectMark text) :=
  (yields_expect _).bind fun _ _ => keeps_pure _

theorem yields_name : Yields name fun name => isPlainName name.toList = true := by
  refine (yields_expect .name).bind fun found ⟨kind, spelled⟩ => ?_
  obtain ⟨name, carried, plain⟩ := spelled kind
  rw [carried]
  exact yields_pure plain

theorem keeps_acceptMark (text : String) : Keeps (acceptMark text) :=
  (keeps_isAt _).bind fun _ => .ite (keeps_advance.bind fun _ => keeps_pure _) (keeps_pure _)

theorem keeps_isAtKeyword (word : String) : Keeps (isAtKeyword word) :=
  yields_current.bind fun _ _ => keeps_pure _

theorem keeps_acceptKeyword (word : String) : Keeps (acceptKeyword word) :=
  (keeps_isAtKeyword word).bind fun _ =>
    .ite (keeps_advance.bind fun _ => keeps_pure _) (keeps_pure _)

theorem keeps_expectKeyword (word : String) : Keeps (expectKeyword word) :=
  (keeps_acceptKeyword word).bind fun _ =>
    .ite (keeps_pure _) (yields_current.bind fun _ _ => yields_fail _ _)

theorem yields_itemsUntil (close : String) (item : Yields reader holds) (bound : Nat) :
    Yields (itemsUntil close reader bound) fun read => ∀ value ∈ read, holds value := by
  induction bound with
  | zero => exact yields_unexpected
  | succ bound ih =>
      refine (keeps_acceptMark close).bind fun _ => .ite (yields_pure (by simp)) ?_
      refine item.bind fun first known => ih.bind fun later all => yields_pure ?_
      exact List.forall_mem_cons.2 ⟨known, all⟩

theorem keeps_between (start : String) (item : Yields reader holds) (close : String) :
    Keeps (between start reader close) :=
  (keeps_expectMark start).bind fun _ => keeps_remaining.bind fun bound =>
    (yields_itemsUntil close item bound).keeps

theorem keeps_someBetween (start : String) (item : Yields reader holds) (close : String) :
    Keeps (someBetween start reader close) :=
  (keeps_expectMark start).bind fun _ => item.bind fun _ _ => keeps_remaining.bind fun bound =>
    (yields_itemsUntil close item bound).bind fun _ _ => keeps_pure _

theorem keeps_optionalBetween (start : String) (item : Yields reader holds) (close : String) :
    Keeps (optionalBetween start reader close) :=
  (keeps_isAt _).bind fun _ => .ite (keeps_someBetween start item close) (keeps_pure _)

theorem yields_moreSeparated (mark : String) (item : Yields reader holds) (bound : Nat) :
    Yields (moreSeparated mark reader bound) fun read => ∀ value ∈ read, holds value := by
  induction bound with
  | zero => exact yields_unexpected
  | succ bound ih =>
      refine (keeps_acceptMark mark).bind fun _ => .ite ?_ (yields_pure (by simp))
      refine item.bind fun next known => ih.bind fun later all => yields_pure ?_
      exact List.forall_mem_cons.2 ⟨known, all⟩

theorem yields_separated (mark : String) (item : Yields reader holds) :
    Yields (separated mark reader) fun read => ∀ value ∈ read, holds value := by
  refine (keeps_acceptMark mark).bind fun _ => item.bind fun first known =>
    keeps_remaining.bind fun bound => (yields_moreSeparated mark item bound).bind fun later all =>
      yields_pure ?_
  exact List.forall_mem_cons.2 ⟨known, all⟩

theorem keeps_whileAt (mark : String) (item : Yields reader holds) (bound : Nat) :
    Keeps (whileAt mark reader bound) := by
  induction bound with
  | zero => exact yields_unexpected
  | succ bound ih =>
      exact (keeps_isAt _).bind fun _ =>
        .ite (item.bind fun _ _ => ih.bind fun _ => keeps_pure _) (keeps_pure _)

theorem yields_tooDeep : Yields (tooDeep : Reader α) holds :=
  yields_current.bind fun _ _ => yields_fail _ _

theorem keeps_markedNonNull (type : TypeReference) : Keeps (markedNonNull type) :=
  (keeps_acceptMark _).bind fun _ => .ite (keeps_pure _) (keeps_pure _)

theorem keeps_typeWithin (room : Nat) : Keeps (typeWithin room) := by
  have named : Keeps (do markedNonNull (.named (← namedType))) :=
    yields_name.bind fun _ _ => keeps_markedNonNull _
  induction room with
  | zero =>
      exact (keeps_acceptMark _).bind fun _ => .checked yields_tooDeep named
  | succ room ih =>
      refine (keeps_acceptMark _).bind fun _ => .ite ?_ named
      exact ih.bind fun _ => (keeps_expectMark _).bind fun _ => keeps_markedNonNull _

theorem keeps_variableReference : Keeps variableReference :=
  (keeps_expectMark _).bind fun _ => yields_name.keeps

theorem keeps_refusedVariable : Keeps (refusedVariable : Reader α) := by
  refine yields_current.bind fun _ _ => (keeps_expectMark _).bind fun _ =>
    yields_current.bind fun found _ => ?_
  split
  · exact yields_fail _ _
  · exact yields_fail _ _

theorem keeps_scalar (constant : Bool) : Keeps (scalar constant) := by
  refine yields_current.bind fun found _ => ?_
  split
  iterate 5 exact keeps_advance.bind fun _ => keeps_pure _
  · exact .ite keeps_refusedVariable (keeps_variableReference.bind fun _ => keeps_pure _)
  · exact yields_unexpected

theorem keeps_valueWithin (constant : Bool) (room : Nat) : Keeps (valueWithin constant room) := by
  have scalar : Keeps (do return .scalar (← scalar constant) : Reader Value) :=
    (keeps_scalar constant).bind fun _ => keeps_pure _
  induction room with
  | zero =>
      exact (keeps_isAt _).bind fun _ => (keeps_isAt _).bind fun _ =>
        .checked yields_tooDeep scalar
  | succ room ih =>
      have field : Keeps (do
          let key ← name
          expectMark ":"
          return (key, ← valueWithin constant room)) :=
        yields_name.bind fun _ _ => (keeps_expectMark _).bind fun _ => ih.bind fun _ =>
          keeps_pure _
      refine (keeps_isAt _).bind fun _ => .ite ?_ ?_
      · exact (keeps_between _ ih _).bind fun _ => keeps_pure _
      refine (keeps_isAt _).bind fun _ => .ite ?_ scalar
      exact (keeps_between _ field _).bind fun _ => keeps_pure _

theorem keeps_argument (constant : Bool) (room : Nat) : Keeps (argument constant room) :=
  yields_name.bind fun _ _ => (keeps_expectMark _).bind fun _ => yields_current.bind fun _ _ =>
    (keeps_valueWithin constant room).bind fun _ => keeps_pure _

theorem keeps_arguments (constant : Bool) (room : Nat) : Keeps (arguments constant room) :=
  keeps_optionalBetween _ (keeps_argument constant room) _

theorem keeps_directive (constant : Bool) (room : Nat) : Keeps (directive constant room) :=
  yields_current.bind fun _ _ => (keeps_expectMark _).bind fun _ => yields_name.bind fun _ _ =>
    (keeps_arguments constant room).bind fun _ => (keeps_noteDirective _).bind fun _ =>
      keeps_pure _

theorem keeps_directivesWithin (constant : Bool) (room : Nat) :
    Keeps (directivesWithin constant room) :=
  keeps_remaining.bind fun bound => keeps_whileAt _ (keeps_directive constant room) bound

theorem keeps_directives (constant : Bool) : Keeps (directives constant) :=
  keeps_directivesWithin constant nestingLimit

theorem yields_fragmentName : Yields fragmentName fun name => isPlainName name.toList = true :=
  yields_current.bind fun _ _ =>
    .checked yields_unexpected yields_name

theorem keeps_fieldWithin (room : Nat) {inner : Reader (List Selection)} (set : Keeps inner) :
    Keeps (fieldWithin room inner) := by
  refine yields_name.bind fun first _ => (keeps_acceptMark _).bind fun renamed =>
    yields_name.keeps.choose (keeps_pure first) fun called _ => ?_
  refine (keeps_arguments false room).bind fun given => (keeps_directivesWithin false room).bind
    fun marked => (keeps_isAt _).bind fun opened => ?_
  exact set.map.choose (keeps_pure none) fun _ _ => keeps_pure _

theorem keeps_spreadWithin (room : Nat) {inner : Reader (List Selection)} (set : Keeps inner) :
    Keeps (spreadWithin room inner) := by
  have inline : ∀ condition? : Option String, Keeps (do
      let marked ← directivesWithin false room
      return Selection.inline condition? marked (← inner)) := fun condition? =>
    (keeps_directivesWithin false room).bind fun _ => set.bind fun _ => keeps_pure _
  refine (keeps_expectMark _).bind fun _ => (keeps_acceptKeyword _).bind fun conditioned =>
    (keeps_isAt _).bind fun _ => .ite ?_ ?_
  · exact yields_fragmentName.bind fun _ _ => (keeps_directivesWithin false room).bind fun _ =>
      keeps_pure _
  · exact yields_name.keeps.map.choose (keeps_pure none) fun condition? _ => inline condition?

theorem keeps_selectionsWithin (room : Nat) : Keeps (selectionsWithin room) := by
  induction room with
  | zero => exact yields_tooDeep
  | succ room ih =>
      have selection : Keeps (do
          if ← isAtMark "..." then spreadWithin room (selectionsWithin room)
          else fieldWithin room (selectionsWithin room)) :=
        (keeps_isAt _).bind fun _ => .ite (keeps_spreadWithin room ih) (keeps_fieldWithin room ih)
      exact keeps_between _ selection _

theorem keeps_selectionSet : Keeps selectionSet := keeps_selectionsWithin nestingLimit

theorem keeps_description? : Keeps description? := by
  refine yields_current.bind fun found _ => ?_
  dsimp only
  split
  · exact keeps_advance.bind fun _ => keeps_pure _
  · exact keeps_advance.bind fun _ => keeps_pure _
  · exact keeps_pure _

theorem keeps_operationKind : Keeps operationKind := by
  refine (yields_expect _).bind fun found _ => ?_
  split
  · exact keeps_pure _
  · exact yields_fail _ _

theorem keeps_defaultValue? : Keeps defaultValue? :=
  (keeps_acceptMark _).bind fun _ =>
    .ite ((keeps_valueWithin true nestingLimit).bind fun _ => keeps_pure _) (keeps_pure _)

theorem keeps_variableDefinition : Keeps variableDefinition :=
  keeps_description?.bind fun _ => keeps_variableReference.bind fun _ =>
    (keeps_expectMark _).bind fun _ => (keeps_typeWithin nestingLimit).bind fun _ =>
      keeps_defaultValue?.bind fun _ => (keeps_directives true).bind fun _ => keeps_pure _

theorem keeps_operation : Keeps operation := by
  refine keeps_description?.bind fun _ => keeps_operationKind.bind fun _ =>
    (keeps_isAt _).bind fun _ => yields_name.keeps.map.choose (keeps_pure none) fun _ _ => ?_
  exact (keeps_optionalBetween _ keeps_variableDefinition _).bind fun _ =>
    (keeps_directives false).bind fun _ => keeps_selectionSet.bind fun _ => keeps_pure _

theorem keeps_shorthandQuery : Keeps shorthandQuery :=
  keeps_selectionSet.bind fun _ => keeps_pure _

theorem yields_fragment :
    Yields fragment fun fragment => isPlainName fragment.name.toList = true :=
  keeps_description?.bind fun _ => (keeps_expectKeyword _).bind fun _ =>
    yields_fragmentName.bind fun _ plain => (keeps_expectKeyword _).bind fun _ =>
      yields_name.bind fun _ _ => (keeps_directives false).bind fun _ =>
        keeps_selectionSet.bind fun _ => yields_pure plain

theorem keeps_inputValue : Keeps inputValue :=
  keeps_description?.bind fun _ => yields_name.bind fun _ _ => (keeps_expectMark _).bind fun _ =>
    (keeps_typeWithin nestingLimit).bind fun _ => keeps_defaultValue?.bind fun _ =>
      (keeps_directives true).bind fun _ => keeps_pure _

theorem keeps_fieldDefinition : Keeps fieldDefinition :=
  keeps_description?.bind fun _ => yields_name.bind fun _ _ =>
    (keeps_optionalBetween _ keeps_inputValue _).bind fun _ => (keeps_expectMark _).bind fun _ =>
      (keeps_typeWithin nestingLimit).bind fun _ => (keeps_directives true).bind fun _ =>
        keeps_pure _

theorem keeps_enumValue : Keeps enumValue := by
  refine keeps_description?.bind fun _ => yields_current.bind fun _ _ =>
    .checked (yields_fail _ _) ?_
  exact yields_name.bind fun _ _ => (keeps_directives true).bind fun _ => keeps_pure _

theorem keeps_interfaces : Keeps interfaces :=
  (keeps_acceptKeyword _).bind fun _ => .ite (yields_separated _ yields_name).keeps (keeps_pure _)

theorem keeps_fields : Keeps fields := keeps_optionalBetween _ keeps_fieldDefinition _

theorem keeps_rootOperation : Keeps rootOperation :=
  keeps_operationKind.bind fun _ => (keeps_expectMark _).bind fun _ => yields_name.bind fun _ _ =>
    keeps_pure _

theorem keeps_schemaDefinition : Keeps schemaDefinition :=
  keeps_description?.bind fun _ => (keeps_expectKeyword _).bind fun _ =>
    (keeps_directives true).bind fun _ => (keeps_someBetween _ keeps_rootOperation _).bind fun _ =>
      keeps_pure _

theorem keeps_directiveLocation : Keeps directiveLocation :=
  yields_current.bind fun _ _ => yields_name.bind fun _ _ =>
    .ite (keeps_pure _) (yields_fail _ _)

theorem keeps_directiveDefinition : Keeps directiveDefinition :=
  keeps_description?.bind fun _ => (keeps_expectKeyword _).bind fun _ =>
    (keeps_expectMark _).bind fun _ => yields_name.bind fun _ _ =>
      (keeps_optionalBetween _ keeps_inputValue _).bind fun _ =>
        (keeps_directives true).bind fun _ => (keeps_acceptKeyword _).bind fun _ =>
          (keeps_expectKeyword _).bind fun _ =>
            (yields_separated _ keeps_directiveLocation).bind fun _ _ => keeps_pure _

theorem yields_typeDefinition (description? : Option Description) (keyword : String) :
    Yields (typeDefinition description? keyword) TypeDefinition.IsSpelled := by
  refine (keeps_expectKeyword keyword).bind fun _ => yields_name.bind fun name plain => ?_
  split
  · exact keeps_interfaces.bind fun _ => (keeps_directives true).bind fun _ =>
      keeps_fields.bind fun _ => yields_pure ⟨plain, List.forall_mem_nil _⟩
  · exact keeps_interfaces.bind fun _ => (keeps_directives true).bind fun _ =>
      keeps_fields.bind fun _ => yields_pure ⟨plain, List.forall_mem_nil _⟩
  · refine (keeps_directives true).bind fun _ => (keeps_acceptMark _).bind fun _ => ?_
    exact (yields_separated _ yields_name).choose (yields_pure (List.forall_mem_nil _))
      fun members all => yields_pure ⟨plain, all⟩
  · exact (keeps_directives true).bind fun _ => (keeps_optionalBetween _ keeps_enumValue _).bind
      fun _ => yields_pure ⟨plain, List.forall_mem_nil _⟩
  · exact (keeps_directives true).bind fun _ => (keeps_optionalBetween _ keeps_inputValue _).bind
      fun _ => yields_pure ⟨plain, List.forall_mem_nil _⟩
  · exact (keeps_directives true).bind fun _ => yields_pure ⟨plain, List.forall_mem_nil _⟩

theorem yields_schemaExtension : Yields schemaExtension Definition.IsSpelled := by
  refine (keeps_expectKeyword _).bind fun _ => (keeps_expectKeyword _).bind fun _ =>
    (keeps_directives true).bind fun _ => (keeps_optionalBetween _ keeps_rootOperation _).bind
      fun _ => ?_
  exact .checked yields_unexpected (yields_pure trivial)

theorem yields_typeExtension (keyword : String) :
    Yields (typeExtension keyword) Definition.IsSpelled := by
  refine (keeps_expectKeyword _).bind fun _ => (yields_typeDefinition none keyword).bind
    fun extension spelled => ?_
  exact .checked yields_unexpected (yields_pure spelled)

theorem yields_directiveExtension : Yields directiveExtension Definition.IsSpelled := by
  refine (keeps_expectKeyword _).bind fun _ => (keeps_expectKeyword _).bind fun _ =>
    (keeps_expectMark _).bind fun _ => yields_name.bind fun _ _ => (keeps_directives true).bind
      fun _ => ?_
  exact .checked yields_unexpected (yields_pure trivial)

theorem yields_extension : Yields extension Definition.IsSpelled :=
  keeps_following.bind fun _ => .ite yields_schemaExtension <| .ite yields_directiveExtension <|
    .ite (yields_typeExtension _) (yields_fail _ _)

theorem yields_definition : Yields definition Definition.IsSpelled := by
  refine (keeps_isAt _).bind fun _ => .ite
    (keeps_shorthandQuery.bind fun _ => yields_pure trivial) ?_
  refine yields_current.bind fun start _ => keeps_following.choose (keeps_pure start)
    fun keyword _ => .checked (yields_fail _ _) <| .checked (yields_fail _ _) ?_
  refine .ite (keeps_operation.bind fun _ => yields_pure trivial) <|
    .ite (yields_fragment.bind fun _ plain => yields_pure plain) <|
    .ite (keeps_schemaDefinition.bind fun _ => yields_pure trivial) <|
    .ite (keeps_directiveDefinition.bind fun _ => yields_pure trivial) <| .ite ?_ ?_
  · exact keeps_description?.bind fun description? =>
      (yields_typeDefinition description? _).bind fun _ spelled => yields_pure spelled
  · exact .checked (yields_fail _ _) (.ite yields_extension (yields_fail _ _))

theorem yields_definitions (bound : Nat) :
    Yields (definitions bound) fun read => ∀ placed ∈ read, placed.definition.IsSpelled := by
  induction bound with
  | zero => exact yields_unexpected
  | succ bound ih =>
      refine yields_definition.bind fun read spelled => keeps_takeDirectives.bind fun places =>
        (keeps_isAt _).bind fun _ => .ite ?_ ?_
      · exact yields_pure (List.forall_mem_singleton.2 spelled)
      · exact ih.bind fun later all => yields_pure (List.forall_mem_cons.2 ⟨spelled, all⟩)

theorem Yields.run (yields : Yields reader holds) {text : String} {value : α}
    (read : reader.run text = .ok value) : holds value := by
  have spelled : ∀ token, .ok token ∈ tokens text → token.IsSpelled :=
    fun _ member => isSpelled_of_mem_tokensFrom member
  unfold Reader.run at read
  rcases all : tokens text with _ | ⟨fault | first, ahead⟩ <;> rw [all] at read spelled
  · cases read
  · cases read
  · have start : Cursor.IsSpelled { current := first, ahead } :=
      ⟨spelled first List.mem_cons_self, fun token member =>
        spelled token (List.mem_cons_of_mem _ member)⟩
    dsimp only at read
    rcases outcome : reader { current := first, ahead } with fault | ⟨found, next⟩
    · rw [StateT.run, outcome] at read
      cases read
    · rw [StateT.run, outcome] at read
      cases read
      exact (yields _ _ _ start outcome).2

end Reader

theorem isSpelled_of_parsePlaced {text : String} {read : List Reader.Placed}
    (parsed : parsePlaced text = .ok read) : ∀ placed ∈ read, placed.definition.IsSpelled :=
  (Reader.keeps_remaining.bind fun bound => Reader.yields_definitions bound).run parsed

/-- Whatever document is read, its fragments and types are called by names of the language. -/
theorem isSpelled_of_parse {text : String} {document : Document}
    (parsed : parse text = .ok document) :
    ∀ definition ∈ document.definitions, definition.IsSpelled := by
  unfold parse at parsed
  rcases placed : parsePlaced text with fault | read <;> rw [placed] at parsed <;> cases parsed
  intro definition member
  obtain ⟨place, listed, rfl⟩ := List.mem_map.1 member
  exact isSpelled_of_parsePlaced placed place listed

end FragmentImports.Document
