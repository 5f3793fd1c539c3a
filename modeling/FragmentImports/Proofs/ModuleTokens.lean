import FragmentImports.Document.Lexer
import FragmentImports.ModuleText.Lexer
import Mathlib.Algebra.Group.Nat.Defs
import Mathlib.Data.List.TakeWhile

/-!
What the texts that modules are put together from are read as: words, marks, quoted texts, whole
numbers and line ends, each in front of anything that does not go on with it.
-/

namespace FragmentImports

def isPlainName : List Char → Bool
  | [] => false
  | first :: rest => Document.isNameStart first && rest.all Document.isNameContinue

namespace ModuleText

/-- From inside a line with some layout on, a text has these tokens. -/
def Lexes (layout : Layout) (text : List Char) (tokens : List Token) : Prop :=
  ∀ bound, text.length < bound → tokensFrom bound layout text = some tokens

variable {layout next : Layout} {text rest : List Char} {tokens : List Token} {c : Char}

theorem lexes_nil (layout : Layout) (closed : layout.brackets = []) : Lexes layout [] [] := by
  intro bound enough
  obtain ⟨bound, rfl⟩ := Nat.exists_eq_succ_of_ne_zero (Nat.ne_zero_of_lt enough)
  rw [tokensFrom.eq_def]
  dsimp only
  rw [if_pos closed]

theorem Lexes.space (lexed : Lexes layout text tokens) : Lexes layout (' ' :: text) tokens := by
  intro bound enough
  obtain ⟨bound, rfl⟩ := Nat.exists_eq_succ_of_ne_zero (Nat.ne_zero_of_lt enough)
  rw [tokensFrom.eq_def]
  dsimp only
  rw [if_pos (Or.inl rfl)]
  exact lexed bound (Nat.lt_of_succ_lt_succ enough)

theorem Lexes.break (lexed : Lexes layout text tokens) (opened : layout.brackets ≠ []) :
    Lexes layout ('\n' :: text) tokens := by
  intro bound enough
  obtain ⟨bound, rfl⟩ := Nat.exists_eq_succ_of_ne_zero (Nat.ne_zero_of_lt enough)
  rw [tokensFrom.eq_def]
  dsimp only
  rw [if_neg (by decide), if_neg (by decide), if_pos rfl, if_pos opened]
  exact lexed bound (Nat.lt_of_succ_lt_succ enough)

theorem Lexes.newline (lexed : Lexes next rest tokens) (closed : layout.brackets = [])
    (entered : layout.nextLine text = some ([], next, rest)) (shorter : rest.length ≤ text.length) :
    Lexes layout ('\n' :: text) (.newline :: tokens) := by
  intro bound enough
  obtain ⟨bound, rfl⟩ := Nat.exists_eq_succ_of_ne_zero (Nat.ne_zero_of_lt enough)
  have room : rest.length < bound :=
    Nat.lt_of_le_of_lt shorter (Nat.lt_of_succ_lt_succ enough)
  rw [tokensFrom.eq_def]
  dsimp only
  rw [if_neg (by decide), if_neg (by decide), if_pos rfl,
    if_neg (not_not_intro closed), entered]
  simp only [bind, Option.bind, lexed bound room]
  rfl

def startsToken (c : Char) : Prop :=
  c ≠ ' ' ∧ c ≠ '\t' ∧ c ≠ '\x0c' ∧ c ≠ '#' ∧ c ≠ '\n' ∧ c ≠ '\\'

instance (c : Char) : Decidable (startsToken c) := by
  unfold startsToken
  infer_instance

theorem Lexes.token {token : Token} (lexed : Lexes next rest tokens) (starts : startsToken c)
    (read : token? (c :: text) = some (token, rest)) (shorter : rest.length ≤ text.length)
    (taken : layout.takeMark c = some next) : Lexes layout (c :: text) (token :: tokens) := by
  intro bound enough
  obtain ⟨bound, rfl⟩ := Nat.exists_eq_succ_of_ne_zero (Nat.ne_zero_of_lt enough)
  have room : rest.length < bound :=
    Nat.lt_of_le_of_lt shorter (Nat.lt_of_succ_lt_succ enough)
  obtain ⟨space, tab, feed, comment, line, slash⟩ := starts
  rw [tokensFrom.eq_def]
  dsimp only
  rw [if_neg (by simp [space, tab, feed]), if_neg comment, if_neg line, if_neg slash,
    read, taken]
  simp only [bind, Option.bind, lexed bound room]
  rfl

/-! ### Characters of plain names -/

theorem toNat_of_isNameContinue (goes : Document.isNameContinue c = true) : c.toNat < 128 := by
  unfold Document.isNameContinue Char.isAlphanum Char.isAlpha Char.isUpper Char.isLower
    Char.isDigit at goes
  simp only [Bool.or_eq_true, Bool.and_eq_true, decide_eq_true_eq, UInt32.le_iff_toNat_le,
    ge_iff_le] at goes
  rcases goes with ((⟨-, upper⟩ | ⟨-, lower⟩) | ⟨-, digit⟩) | rfl
  · exact Nat.lt_of_le_of_lt upper (by decide)
  · exact Nat.lt_of_le_of_lt lower (by decide)
  · exact Nat.lt_of_le_of_lt digit (by decide)
  · decide

theorem of_isNameContinue {p : Char → Prop}
    (all : ∀ code < 128, Document.isNameContinue (Char.ofNat code) = true → p (Char.ofNat code))
    (goes : Document.isNameContinue c = true) : p c := by
  have held := all c.toNat (toNat_of_isNameContinue goes)
  rw [Char.ofNat_toNat] at held
  exact held goes

theorem isNameContinue_of_isNameStart (starts : Document.isNameStart c = true) :
    Document.isNameContinue c = true := by
  unfold Document.isNameStart at starts
  unfold Document.isNameContinue Char.isAlphanum
  simp only [Bool.or_eq_true] at starts ⊢
  exact starts.imp_left Or.inl

theorem of_isNameStart {p : Char → Prop}
    (all : ∀ code < 128, Document.isNameStart (Char.ofNat code) = true → p (Char.ofNat code))
    (starts : Document.isNameStart c = true) : p c := by
  have held := all c.toNat (toNat_of_isNameContinue (isNameContinue_of_isNameStart starts))
  rw [Char.ofNat_toNat] at held
  exact held starts

theorem isNameContinue_of_mem {letters : List Char} (plain : isPlainName letters = true)
    (member : c ∈ letters) : Document.isNameContinue c = true := by
  cases letters with
  | nil => cases member
  | cons first more =>
      rw [isPlainName, Bool.and_eq_true, List.all_eq_true] at plain
      rcases List.mem_cons.1 member with rfl | later
      · exact isNameContinue_of_isNameStart plain.1
      · exact plain.2 c later

/-! ### Words -/

/-- A text does not go on with a word, nor makes a quoted text of it. -/
def EndsWord (text : List Char) : Prop :=
  ∀ c ∈ text.head?, isWordChar c = false ∧ c ≠ '"' ∧ c ≠ '\''

theorem span_append {p : Char → Bool} {front : List Char} (all : ∀ c ∈ front, p c = true)
    (stops : ∀ c ∈ rest.head?, p c = false) :
    (front ++ rest).takeWhile p = front ∧ (front ++ rest).dropWhile p = rest := by
  have empty : rest.takeWhile p = [] ∧ rest.dropWhile p = rest := by
    cases rest with
    | nil => exact ⟨rfl, rfl⟩
    | cons c tail =>
        have stop := stops c rfl
        exact ⟨List.takeWhile_cons_of_neg (by simp [stop]),
          List.dropWhile_cons_of_neg (by simp [stop])⟩
  rw [List.takeWhile_append_of_pos all, List.dropWhile_append_of_pos all, empty.1, empty.2,
    List.append_nil]
  exact ⟨rfl, rfl⟩

theorem wordOrText?_word {letters : List Char} (plain : isPlainName letters = true)
    (ends : EndsWord rest) : wordOrText? (letters ++ rest) = some (.word letters, rest) := by
  have word : ∀ c ∈ letters, isWordChar c = true := fun c member =>
    of_isNameContinue (p := fun c => isWordChar c = true) (by decide)
      (isNameContinue_of_mem plain member)
  have ascii : letters.all (·.toNat < 128) = true := by
    rw [List.all_eq_true]
    exact fun c member =>
      decide_eq_true (toNat_of_isNameContinue (isNameContinue_of_mem plain member))
  obtain ⟨front, behind⟩ := span_append word fun c first => (ends c first).1
  have read : wordOrText?.word letters rest = some (.word letters, rest) := by
    rw [wordOrText?.word, ascii, Bool.true_or, if_pos rfl]
  rw [wordOrText?]
  simp only [front, behind]
  split
  · next _ _ kind quote tail _ =>
      obtain ⟨-, double, single⟩ := ends quote rfl
      rw [if_neg (by simp [double, single])]
      exact read
  · exact read

theorem token?_word {letters : List Char} (plain : isPlainName letters = true)
    (ends : EndsWord rest) : token? (letters ++ rest) = some (.word letters, rest) := by
  have read := wordOrText?_word plain ends
  cases letters with
  | nil => cases plain
  | cons first more =>
      have starts : Document.isNameStart first = true := by
        rw [isPlainName, Bool.and_eq_true] at plain
        exact plain.1
      obtain ⟨digit, point, word⟩ := of_isNameStart (p := fun c => c.isDigit = false ∧ c ≠ '.' ∧
        isWordChar c = true) (by decide) starts
      rw [List.cons_append] at read ⊢
      rw [token?, if_neg (by simp [digit, point]), if_pos (by simp [word]), read]

theorem startsToken_of_isNameContinue (goes : Document.isNameContinue c = true) :
    startsToken c :=
  of_isNameContinue (p := startsToken) (by decide) goes

theorem takeMark_of_isNameContinue (layout : Layout) (goes : Document.isNameContinue c = true) :
    layout.takeMark c = some layout := by
  obtain ⟨opens, closes⟩ := of_isNameContinue (p := fun c =>
    ¬(c = '(' ∨ c = '[' ∨ c = '\x7b') ∧ ¬(c = ')' ∨ c = ']' ∨ c = '\x7d')) (by decide) goes
  rw [Layout.takeMark, if_neg opens, if_neg closes]

theorem Lexes.word {letters : List Char} (lexed : Lexes layout rest tokens)
    (plain : isPlainName letters = true) (ends : EndsWord rest) :
    Lexes layout (letters ++ rest) (.word letters :: tokens) := by
  have read := token?_word plain ends
  cases letters with
  | nil => cases plain
  | cons first more =>
      have goes := isNameContinue_of_mem plain List.mem_cons_self
      exact lexed.token (startsToken_of_isNameContinue goes) read (by simp)
        (takeMark_of_isNameContinue layout goes)

/-! ### Marks -/

theorem Lexes.comma (lexed : Lexes layout text tokens) :
    Lexes layout (',' :: text) (.mark "," :: tokens) :=
  lexed.token (by decide) rfl (Nat.le_refl _) rfl

theorem Lexes.equals (lexed : Lexes layout (' ' :: text) tokens) :
    Lexes layout ('=' :: ' ' :: text) (.mark "=" :: tokens) :=
  lexed.token (by decide) rfl (Nat.le_refl _) rfl

theorem Lexes.parenthesis
    (lexed : Lexes { layout with brackets := '(' :: layout.brackets } text tokens)
    (room : layout.brackets.length < Layout.bracketBound) :
    Lexes layout ('(' :: text) (.mark "(" :: tokens) :=
  lexed.token (by decide) rfl (Nat.le_refl _) (if_pos room)

theorem Lexes.bracket
    (lexed : Lexes { layout with brackets := '[' :: layout.brackets } text tokens)
    (room : layout.brackets.length < Layout.bracketBound) :
    Lexes layout ('[' :: text) (.mark "[" :: tokens) :=
  lexed.token (by decide) rfl (Nat.le_refl _) (if_pos room)

theorem Lexes.closeParenthesis (lexed : Lexes layout text tokens) :
    Lexes { layout with brackets := '(' :: layout.brackets } (')' :: text) (.mark ")" :: tokens) :=
  lexed.token (by decide) rfl (Nat.le_refl _) rfl

theorem Lexes.closeBracket (lexed : Lexes layout text tokens) :
    Lexes { layout with brackets := '[' :: layout.brackets } (']' :: text) (.mark "]" :: tokens) :=
  lexed.token (by decide) rfl (Nat.le_refl _) rfl

def dotTokens : Nat → List Token
  | 0 => []
  | 1 => [.mark "."]
  | 2 => [.mark ".", .mark "."]
  | count + 3 => .mark "..." :: dotTokens count

theorem token?_point (alone : ['.', '.'].isPrefixOf rest = false)
    (whole : rest.head?.any Char.isDigit = false) :
    token? ('.' :: rest) = some (.mark ".", rest) := by
  simp [token?, marks, List.find?, List.isPrefixOf, isWordChar, whole, alone]
  rfl

def EndsDots (text : List Char) : Prop := ∀ c ∈ text.head?, c ≠ '.' ∧ c.isDigit = false

theorem Lexes.dots (lexed : Lexes layout rest tokens) (ends : EndsDots rest) (count : Nat) :
    Lexes layout (List.replicate count '.' ++ rest) (dotTokens count ++ tokens) := by
  have alone : ['.', '.'].isPrefixOf rest = false ∧ rest.head?.any Char.isDigit = false ∧
      ['.', '.'].isPrefixOf ('.' :: rest) = false := by
    cases rest with
    | nil => exact ⟨rfl, rfl, rfl⟩
    | cons c tail =>
        obtain ⟨point, digit⟩ := ends c rfl
        simp [List.isPrefixOf, digit, Ne.symm point]
  have one : Lexes layout ('.' :: rest) (.mark "." :: tokens) :=
    lexed.token (by decide) (token?_point alone.1 alone.2.1) (Nat.le_refl _) rfl
  fun_induction dotTokens count with
  | case1 => exact lexed
  | case2 => exact one
  | case3 => exact one.token (by decide) (token?_point alone.2.2 rfl) (Nat.le_refl _) rfl
  | case4 count ih => exact ih.token (by decide) rfl (by simp) rfl

/-! ### Quoted texts -/

theorem escapesHold_of_plain {ofBytes : Bool} {content : List Char}
    (plain : '\\' ∉ content) : escapesHold ofBytes content = true := by
  have kept : content.foldlM (Escape.step ofBytes) Escape.none = some .none := by
    induction content with
    | nil => rfl
    | cons c rest ih =>
        rw [List.mem_cons, not_or] at plain
        have step : Escape.step ofBytes .none c = some .none := by
          rw [Escape.step, if_neg (Ne.symm plain.1)]
        rw [List.foldlM_cons, step]
        exact ih plain.2
  rw [escapesHold, kept]
  rfl

/-- A character that stands for itself between two quotes of a kind. -/
def IsVerbatim (quote c : Char) : Prop := c ≠ quote ∧ c ≠ '\\' ∧ c ≠ '\n'

instance (quote c : Char) : Decidable (IsVerbatim quote c) := by
  unfold IsVerbatim
  infer_instance

theorem upToQuote_append {quote : Char} {content : List Char} (mark : quote ≠ '\\')
    (verbatim : ∀ c ∈ content, IsVerbatim quote c) :
    upToQuote quote (content ++ quote :: rest) = some (content, rest) := by
  induction content with
  | nil =>
      rw [List.nil_append, upToQuote, if_pos rfl]
      rintro _ _ rfl
      exact absurd rfl mark
  | cons c inner ih =>
      obtain ⟨⟨unquoted, plain, line⟩, later⟩ := List.forall_mem_cons.1 verbatim
      rw [List.cons_append, upToQuote, if_neg unquoted, if_neg line, ih later]
      · rfl
      · rintro _ _ rfl
        exact absurd rfl plain

theorem upToTripleQuote_append {quote : Char} {content : List Char} (mark : quote ≠ '\\')
    (verbatim : ∀ c ∈ content, IsVerbatim quote c) :
    upToTripleQuote quote (content ++ quote :: quote :: quote :: rest) = some (content, rest) := by
  induction content with
  | nil =>
      rw [List.nil_append, upToTripleQuote, if_pos (by simp)]
      · rfl
      · rintro _ _ rfl
        exact absurd rfl mark
  | cons c inner ih =>
      obtain ⟨⟨unquoted, plain, -⟩, later⟩ := List.forall_mem_cons.1 verbatim
      rw [List.cons_append, upToTripleQuote, if_neg (by simp [Ne.symm unquoted]), ih later]
      · rfl
      · rintro _ _ rfl
        exact absurd rfl plain

theorem token?_text {quote : Char} {content : List Char} (quotes : quote = '"' ∨ quote = '\'')
    (read : content? quote text = some (content, rest)) (plain : '\\' ∉ content) :
    token? (quote :: text) = some (.text false, rest) := by
  have token : TextKind.token? {} content = some (.text false) := by
    simp [TextKind.token?, escapesHold_of_plain plain]
  have word : isWordChar quote = false := by rcases quotes with rfl | rfl <;> decide
  have front : (quote :: text).takeWhile isWordChar = [] :=
    List.takeWhile_cons_of_neg (by simp [word])
  have behind : (quote :: text).dropWhile isWordChar = quote :: text :=
    List.dropWhile_cons_of_neg (by simp [word])
  have whole : wordOrText? (quote :: text) = some (.text false, rest) := by
    rw [wordOrText?]
    simp only [front, behind, TextKind.ofLetters?, List.map_nil, if_pos quotes, read, token, bind,
      Option.bind, pure]
  rw [token?, whole]
  rcases quotes with rfl | rfl <;> rfl

theorem Lexes.quoted {content : List Char} (lexed : Lexes layout rest tokens)
    (verbatim : ∀ c ∈ content, IsVerbatim '\'' c) (filled : content ≠ []) :
    Lexes layout ('\'' :: (content ++ '\'' :: rest)) (.text false :: tokens) := by
  have plain : '\\' ∉ content := fun member => (verbatim _ member).2.1 rfl
  have single : content? '\'' (content ++ '\'' :: rest) = some (content, rest) := by
    obtain ⟨first, more, rfl⟩ := List.exists_cons_of_ne_nil filled
    have unquoted := (verbatim first List.mem_cons_self).1
    rw [content?, if_neg (by simp [Ne.symm unquoted]), upToQuote_append (by decide) verbatim]
  exact lexed.token (by decide) (token?_text (Or.inr rfl) single plain) (by simp; omega) rfl

theorem Lexes.tripleQuoted {content : List Char} (lexed : Lexes layout rest tokens)
    (verbatim : ∀ c ∈ content, IsVerbatim '"' c) :
    Lexes layout ('"' :: '"' :: '"' :: (content ++ '"' :: '"' :: '"' :: rest))
      (.text false :: tokens) := by
  have plain : '\\' ∉ content := fun member => (verbatim _ member).2.1 rfl
  have triple : content? '"' ('"' :: '"' :: (content ++ '"' :: '"' :: '"' :: rest)) =
      some (content, rest) := by
    rw [content?, if_pos (by simp)]
    exact upToTripleQuote_append (by decide) verbatim
  exact lexed.token (by decide) (token?_text (Or.inl rfl) triple plain) (by simp; omega) rfl

/-! ### Whole numbers -/

theorem head?_toDigits {number : Nat} (positive : 0 < number) :
    (Nat.toDigits 10 number).head? ≠ some '0' := by
  induction number using Nat.strongRecOn with
  | ind number ih =>
      rw [Nat.toDigits_eq_if (by decide)]
      split
      · next small =>
          have digits : ∀ digit < 10, 0 < digit → Nat.digitChar digit ≠ '0' := by decide
          exact fun zero => digits number small positive (Option.some.inj zero)
      · next large =>
          have shorter := ih (number / 10) (by omega) (by omega)
          obtain ⟨first, more, digits⟩ := List.exists_cons_of_ne_nil
            (Nat.toDigits_ne_nil : Nat.toDigits 10 (number / 10) ≠ [])
          rw [digits] at shorter ⊢
          exact shorter

theorem behindDigits?_append {digits : List Char} (whole : ∀ c ∈ digits, c.isDigit = true)
    (filled : digits ≠ []) (due : Bool) :
    Number.behindDigits? Char.isDigit due (digits ++ ',' :: rest) = some (',' :: rest) := by
  induction digits generalizing due with
  | nil => exact absurd rfl filled
  | cons c more ih =>
      rw [List.forall_mem_cons] at whole
      rw [List.cons_append, Number.behindDigits?, if_pos whole.1]
      by_cases last : more = []
      · subst last
        rfl
      · exact ih whole.2 last false

theorem isWhole_toDigits {number : Nat} (fits : number < 10 ^ Number.wholeDigits) :
    Number.isWhole (Nat.toDigits 10 number) = true := by
  rw [Number.isWhole, Bool.or_eq_true]
  by_cases zero : number = 0
  · subst zero
    exact Or.inl rfl
  · right
    rw [Bool.and_eq_true]
    exact ⟨decide_eq_true (head?_toDigits (Nat.pos_of_ne_zero zero)), decide_eq_true
      ((Nat.length_toDigits_le_iff (by decide) (by decide)).2 fits)⟩

theorem decimal_toDigits {number : Nat} (fits : number < 10 ^ Number.wholeDigits) :
    Number.decimal (Nat.toDigits 10 number ++ ',' :: rest) = some (false, ',' :: rest) := by
  have whole : ∀ c ∈ Nat.toDigits 10 number, c.isDigit = true :=
    fun c member => Nat.isDigit_of_mem_toDigits (by decide) (by decide) member
  have digits : ((Nat.toDigits 10 number ++ ',' :: rest).takeWhile fun c =>
      c.isDigit || c = '_').filter (· ≠ '_') = Nat.toDigits 10 number := by
    rw [(span_append (fun c member => by rw [whole c member]; rfl) (by simp)).1,
      List.filter_eq_self]
    rintro c member
    have digit := whole c member
    refine decide_eq_true ?_
    rintro rfl
    cases digit
  rw [Number.decimal, behindDigits?_append whole Nat.toDigits_ne_nil, digits]
  change Option.bind (if (false || Number.isWhole (Nat.toDigits 10 number) || _) = true
    then some () else none) (fun _ => some (false, ',' :: rest)) = _
  rw [isWhole_toDigits fits]
  rfl

theorem read?_toDigits {number : Nat} (fits : number < 10 ^ Number.wholeDigits) :
    Number.read? (Nat.toDigits 10 number ++ ',' :: rest) = some (false, ',' :: rest) := by
  by_cases zero : number = 0
  · subst zero
    rfl
  · have read : Number.decimal (Nat.toDigits 10 number ++ ',' :: rest) =
        some (false, ',' :: rest) := decimal_toDigits fits
    have start := head?_toDigits (Nat.pos_of_ne_zero zero)
    obtain ⟨first, more, digits⟩ := List.exists_cons_of_ne_nil
      (Nat.toDigits_ne_nil : Nat.toDigits 10 number ≠ [])
    have digit : first.isDigit = true :=
      Nat.isDigit_of_mem_toDigits (by decide) (by decide) (digits ▸ List.mem_cons_self)
    rw [digits, List.cons_append] at read ⊢
    rw [digits] at start
    unfold Number.read?
    split
    · next same =>
        rw [(List.cons.inj same).1] at digit
        cases digit
    · next same =>
        rw [(List.cons.inj same).1] at start
        exact absurd rfl start
    · exact read

theorem Lexes.number {number : Nat} (lexed : Lexes layout (',' :: rest) tokens)
    (fits : number < 10 ^ Number.wholeDigits) :
    Lexes layout (Nat.toDigits 10 number ++ ',' :: rest) (.number false :: tokens) := by
  have read : Number.read? (Nat.toDigits 10 number ++ ',' :: rest) =
      some (false, ',' :: rest) := read?_toDigits fits
  obtain ⟨first, more, digits⟩ := List.exists_cons_of_ne_nil
    (Nat.toDigits_ne_nil : Nat.toDigits 10 number ≠ [])
  have digit : first.isDigit = true :=
    Nat.isDigit_of_mem_toDigits (by decide) (by decide) (digits ▸ List.mem_cons_self)
  rw [digits, List.cons_append] at read ⊢
  have goes : Document.isNameContinue first = true := by
    simp [Document.isNameContinue, Char.isAlphanum, digit]
  have token : token? (first :: (more ++ ',' :: rest)) = some (.number false, ',' :: rest) := by
    rw [token?, if_pos (by rw [digit]; rfl), read]
    rfl
  exact lexed.token (startsToken_of_isNameContinue goes) token (by simp)
    (takeMark_of_isNameContinue layout goes)

/-! ### Lines -/

theorem ofLine?_of_startsToken (starts : startsToken c) :
    Margin.ofLine? false 0 {} (c :: text) = some ({}, c :: text) := by
  obtain ⟨space, tab, feed, comment, line, slash⟩ := starts
  unfold Margin.ofLine?
  split <;> simp_all [Margin.joined]

theorem ofLine?_comment {comment : List Char} (inLine : '\n' ∉ comment) (column : Nat)
    (margin : Margin) : Margin.ofLine? true column margin (comment ++ '\n' :: text) =
      Margin.ofLine? false 0 {} text := by
  induction comment with
  | nil => rfl
  | cons c rest ih =>
      rw [List.mem_cons, not_or] at inLine
      rw [List.cons_append, Margin.ofLine?]
      · exact ih inLine.2
      · exact fun same => inLine.1 same.symm

/-- From the start of a line on, where no block is open, a text has these tokens. -/
def LexesLines (text : List Char) (tokens : List Token) : Prop :=
  ∃ rest, Margin.ofLine? false 0 {} text = some ({}, rest) ∧ rest.length ≤ text.length ∧
    Lexes {} rest tokens

theorem lexesLines_nil : LexesLines [] [] := ⟨[], rfl, Nat.le_refl _, lexes_nil {} rfl⟩

theorem LexesLines.blank (lexed : LexesLines text tokens) : LexesLines ('\n' :: text) tokens := by
  obtain ⟨rest, line, shorter, whole⟩ := lexed
  exact ⟨rest, line, Nat.le_succ_of_le shorter, whole⟩

theorem LexesLines.comment {comment : List Char} (lexed : LexesLines text tokens)
    (inLine : '\n' ∉ comment) : LexesLines ('#' :: (comment ++ '\n' :: text)) tokens := by
  obtain ⟨rest, line, shorter, whole⟩ := lexed
  refine ⟨rest, (ofLine?_comment inLine 0 {}).trans line, ?_, whole⟩
  simp only [List.length_cons, List.length_append]
  omega

structure LexesLine (line : List Char) (front : List Token) : Prop where
  starts : ∃ c text, line = c :: text ∧ startsToken c
  lexed : ∀ rest tokens, Lexes {} ('\n' :: rest) tokens →
    Lexes {} (line ++ '\n' :: rest) (front ++ tokens)

theorem LexesLine.lines {line : List Char} {front : List Token} (first : LexesLine line front)
    (lexed : LexesLines text tokens) :
    LexesLines (line ++ '\n' :: text) (front ++ .newline :: tokens) := by
  obtain ⟨rest, next, shorter, whole⟩ := lexed
  -- a line end is lexed together with the margin of the line behind it
  have entered : ({} : Layout).nextLine text = some ([], {}, rest) := by
    rw [Layout.nextLine, next]
    rfl
  obtain ⟨c, text, rfl, starts⟩ := first.starts
  exact ⟨_, ofLine?_of_startsToken starts, Nat.le_refl _,
    first.lexed _ _ (whole.newline rfl entered shorter)⟩

theorem unifyNewlines_eq_self (unified : '\r' ∉ text) : unifyNewlines text = text := by
  induction text with
  | nil => rfl
  | cons c rest ih =>
      rw [List.mem_cons, not_or] at unified
      rw [unifyNewlines, ih unified.2]
      · rintro _ rfl
        exact absurd rfl unified.1
      · rintro rfl
        exact absurd rfl unified.1

theorem completed_eq_self (unified : '\r' ∉ text) :
    completed (text ++ ['\n']) = text ++ ['\n'] := by
  have whole : '\r' ∉ text ++ ['\n'] := List.not_mem_append unified (by decide)
  have before : '\r' ∉ text.reverse := by simpa using unified
  rw [completed, unifyNewlines_eq_self whole, List.reverse_append]
  cases back : text.reverse with
  | nil => exact List.append_nil _
  | cons last _ =>
      rw [back, List.mem_cons, not_or] at before
      simp only [List.reverse_singleton, List.singleton_append]
      split
      · next same =>
          rw [(List.cons.inj (List.cons.inj same).2).1] at before
          exact absurd rfl before.1
      · exact List.append_nil _
      · exact List.append_nil _
      · next other _ => exact absurd rfl (other _)

theorem LexesLines.tokens? (lexed : LexesLines (text ++ ['\n']) tokens) (unified : '\r' ∉ text) :
    tokens? (text ++ ['\n']) = some tokens := by
  obtain ⟨rest, line, shorter, whole⟩ := lexed
  have entered : ({} : Layout).nextLine (text ++ ['\n']) = some ([], {}, rest) := by
    rw [Layout.nextLine, line]
    rfl
  rw [ModuleText.tokens?, completed_eq_self unified]
  simp only [bind, Option.bind, entered, whole _ (Nat.lt_succ_of_le shorter)]
  rfl

end ModuleText

end FragmentImports
