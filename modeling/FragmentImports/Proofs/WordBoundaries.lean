import FragmentImports.Text.Words
import Mathlib.Data.List.Basic

/-!
Where the words of a text end. Behind which characters the two passes put a blank shows in the
characters of the text alone, since no blank that is put in makes or hides a place for another one.
So the words are those that one pass from left to right reads off, with an eye on the next two
characters.
-/

namespace FragmentImports

namespace Words

def isSmall (c : Char) : Bool := c.isLower || c.isDigit

def endsAtGap (behind : List Char) : Bool := behind.head?.all fun d => !d.isAlphanum

def endsAtCapital (c : Char) (behind : List Char) : Bool :=
  isSmall c && behind.head?.any Char.isUpper

/-- A capital follows a capital and is followed by a lower-case letter itself. -/
def endsAcronym (c : Char) : List Char → Bool
  | [] => false
  | d :: rest => c.isUpper && d.isUpper && rest.head?.any Char.isLower

/-- Whether a word that has come to a letter or digit ends there, told from what stands behind it.
-/
def endsWord (c : Char) (behind : List Char) : Bool :=
  endsAtGap behind || endsAtCapital c behind || endsAcronym c behind

def wordsFrom (begun : List Char) : List Char → List (List Char)
  | [] => []
  | c :: rest =>
      if c.isAlphanum then
        if endsWord c rest then (begun ++ [c]) :: wordsFrom [] rest
        else wordsFrom (begun ++ [c]) rest
      else wordsFrom begun rest

def separated (text : List Char) : List Char := separateAcronyms (separateCapitals text)

variable {c d : Char} {rest : List Char}

theorem isAlphanum_iff : c.isAlphanum = true ↔ c.isUpper = true ∨ isSmall c = true := by
  have kinds : c.isAlphanum = (c.isUpper || c.isLower || c.isDigit) := rfl
  rw [kinds, isSmall, Bool.or_assoc, Bool.or_eq_true]

theorem isAlphanum_of_isUpper (capital : c.isUpper = true) : c.isAlphanum = true :=
  isAlphanum_iff.2 (Or.inl capital)

theorem isAlphanum_of_isLower (small : c.isLower = true) : c.isAlphanum = true := by
  rw [isAlphanum_iff, isSmall, small]
  exact Or.inr rfl

theorem isSmall_of_isUpper (capital : c.isUpper = true) : isSmall c = false := by
  unfold Char.isUpper at capital
  unfold isSmall Char.isLower Char.isDigit
  grind

theorem not_isUpper_of_isLower (small : c.isLower = true) : c.isUpper = false := by
  unfold Char.isLower at small
  unfold Char.isUpper
  grind

/-! ### The passes, character by character -/

theorem separateCapitals_cons_capital (capital : d.isUpper = true) (rest : List Char) :
    separateCapitals (d :: rest) = d :: separateCapitals rest := by
  cases rest with
  | nil => rfl
  | cons e more =>
      have large : (d.isLower || d.isDigit) = false := isSmall_of_isUpper capital
      rw [separateCapitals, if_neg (by simp [large])]

theorem separateCapitals_cons (c : Char) (rest : List Char) :
    separateCapitals (c :: rest) =
      c :: if endsAtCapital c rest then ' ' :: separateCapitals rest else separateCapitals rest := by
  cases rest with
  | nil => simp [separateCapitals, endsAtCapital]
  | cons d more =>
      have told : endsAtCapital c (d :: more) = ((c.isLower || c.isDigit) && d.isUpper) := rfl
      rw [separateCapitals, told]
      split
      · next boundary =>
          rw [separateCapitals_cons_capital (Bool.and_eq_true_iff.1 boundary).2]
      · rfl

theorem separateAcronyms_cons_of_not_upper (small : d.isUpper = false) (rest : List Char) :
    separateAcronyms (d :: rest) = d :: separateAcronyms rest := by
  rcases rest with _ | ⟨e, _ | ⟨f, more⟩⟩
  · rfl
  · rfl
  · rw [separateAcronyms, if_neg (by simp [small])]

theorem separateAcronyms_cons_word {e : Char} (small : e.isLower = true) (rest : List Char) :
    separateAcronyms (d :: e :: rest) = d :: e :: separateAcronyms rest := by
  have plain : e.isUpper = false := not_isUpper_of_isLower small
  cases rest with
  | nil => rfl
  | cons f more =>
      rw [separateAcronyms, if_neg (by simp [plain]), separateAcronyms_cons_of_not_upper plain]

theorem separateAcronyms_cons (c : Char) (rest : List Char) :
    separateAcronyms (c :: rest) =
      c :: if endsAcronym c rest then ' ' :: separateAcronyms rest else separateAcronyms rest := by
  rcases rest with _ | ⟨d, _ | ⟨e, more⟩⟩
  · rfl
  · simp [separateAcronyms, endsAcronym]
  · have told : endsAcronym c (d :: e :: more) = (c.isUpper && d.isUpper && e.isLower) := rfl
    rw [separateAcronyms, told]
    split
    · next boundary =>
        rw [separateAcronyms_cons_word (Bool.and_eq_true_iff.1 boundary).2]
    · rfl

theorem head?_separateCapitals (text : List Char) :
    (separateCapitals text).head? = text.head? := by
  cases text with
  | nil => rfl
  | cons c rest => rw [separateCapitals_cons, List.head?_cons, List.head?_cons]

theorem head?_separated (text : List Char) : (separated text).head? = text.head? := by
  rw [← head?_separateCapitals text, separated]
  cases separateCapitals text with
  | nil => rfl
  | cons c rest => rw [separateAcronyms_cons, List.head?_cons, List.head?_cons]

theorem endsAcronym_separateCapitals (c : Char) (rest : List Char) :
    endsAcronym c (separateCapitals rest) = endsAcronym c rest := by
  cases rest with
  | nil => rfl
  | cons d more =>
      by_cases capital : d.isUpper = true
      · rw [separateCapitals_cons_capital capital, endsAcronym, head?_separateCapitals, endsAcronym]
      · rw [separateCapitals_cons]
        simp [endsAcronym, capital]

/-- Behind a character both passes together put in one blank or none. -/
theorem separated_cons (c : Char) (rest : List Char) :
    separated (c :: rest) =
      c :: if endsAtCapital c rest || endsAcronym c rest then ' ' :: separated rest
        else separated rest := by
  rw [separated, separateCapitals_cons]
  by_cases boundary : endsAtCapital c rest = true
  · have small : isSmall c = true := (Bool.and_eq_true_iff.1 boundary).1
    have other : c.isUpper = false := by
      by_contra capital
      rw [isSmall_of_isUpper (by simpa using capital)] at small
      cases small
    rw [if_pos boundary, boundary, Bool.true_or, if_pos rfl,
      separateAcronyms_cons_of_not_upper other, separateAcronyms_cons_of_not_upper (by decide),
      separated]
  · rw [if_neg boundary, separateAcronyms_cons, endsAcronym_separateCapitals,
      Bool.eq_false_iff.2 boundary, Bool.false_or]
    rfl

/-! ### The words, character by character -/

theorem runs_cons_of_mark (mark : c.isAlphanum = false) (text : List Char) :
    runs (c :: text) = runs text := by
  simp [runs, List.splitOnP_cons_eq_if_modifyHead, mark]

theorem runs_cons_of_letter (letter : c.isAlphanum = true) (text : List Char) :
    runs (c :: text) =
      if endsAtGap text then [c] :: runs text else (runs text).modifyHead (c :: ·) := by
  cases text with
  | nil => simp [runs, endsAtGap, List.splitOnP_cons_eq_if_modifyHead, letter]
  | cons d more =>
      obtain ⟨head, tail, pieces⟩ := List.exists_cons_of_ne_nil
        (List.splitOnP_ne_nil (fun c : Char => !c.isAlphanum) more)
      cases kind : d.isAlphanum <;>
        simp [runs, endsAtGap, List.splitOnP_cons_eq_if_modifyHead, letter, kind, pieces]

theorem split_cons_of_mark (mark : c.isAlphanum = false) (rest : List Char) :
    split (c :: rest) = split rest := by
  have kinds := isAlphanum_iff.not.1 (Bool.eq_false_iff.1 mark)
  rw [not_or, Bool.not_eq_true, Bool.not_eq_true] at kinds
  have inside : (endsAtCapital c rest || endsAcronym c rest) = false := by
    have acronym : endsAcronym c rest = false := by
      cases rest <;> simp [endsAcronym, kinds.1]
    rw [endsAtCapital, kinds.2, acronym, Bool.false_and, Bool.or_false]
  have whole : ∀ text, split text = runs (separated text) := fun _ => rfl
  rw [whole, separated_cons, inside, runs_cons_of_mark mark, whole]
  rfl

theorem split_cons_of_letter (letter : c.isAlphanum = true) (rest : List Char) :
    split (c :: rest) =
      if endsWord c rest then [c] :: split rest else (split rest).modifyHead (c :: ·) := by
  have whole : ∀ text, split text = runs (separated text) := fun _ => rfl
  have blank : endsAtGap (' ' :: separated rest) = true := rfl
  have follows : endsAtGap (separated rest) = endsAtGap rest := by
    rw [endsAtGap, head?_separated, endsAtGap]
  rw [whole, separated_cons, runs_cons_of_letter letter, endsWord, Bool.or_assoc]
  by_cases boundary : (endsAtCapital c rest || endsAcronym c rest) = true
  · rw [if_pos boundary, if_pos blank, runs_cons_of_mark (by decide), boundary, Bool.or_true,
      if_pos rfl, whole]
  · rw [if_neg boundary, follows, Bool.eq_false_iff.2 boundary, Bool.or_false, whole]

theorem exists_letter_of_inside (inside : endsWord c rest = false) :
    ∃ d more, rest = d :: more ∧ d.isAlphanum = true := by
  cases rest with
  | nil => cases inside
  | cons d more =>
      refine ⟨d, more, rfl, ?_⟩
      by_contra mark
      simp [endsWord, endsAtGap, mark] at inside

theorem split_ne_nil (letter : c.isAlphanum = true) (rest : List Char) : split (c :: rest) ≠ [] := by
  induction rest generalizing c with
  | nil => simp [split_cons_of_letter letter, endsWord, endsAtGap]
  | cons d more ih =>
      rw [split_cons_of_letter letter]
      split
      · exact List.cons_ne_nil _ _
      · next inside =>
          obtain ⟨_, _, same, next⟩ := exists_letter_of_inside (Bool.eq_false_iff.2 inside)
          cases same
          simpa using ih next

theorem split_cons_cases (c : Char) (rest : List Char) :
    (c.isAlphanum = false ∧ split (c :: rest) = split rest) ∨
      (c.isAlphanum = true ∧ endsWord c rest = true ∧ split (c :: rest) = [c] :: split rest) ∨
      (c.isAlphanum = true ∧ endsWord c rest = false ∧
        ∃ word later, split rest = word :: later ∧ split (c :: rest) = (c :: word) :: later) := by
  cases kept : c.isAlphanum with
  | false => exact Or.inl ⟨rfl, split_cons_of_mark kept rest⟩
  | true =>
      have whole := split_cons_of_letter kept rest
      cases ends : endsWord c rest with
      | true =>
          rw [if_pos ends] at whole
          exact Or.inr (Or.inl ⟨rfl, rfl, whole⟩)
      | false =>
          obtain ⟨d, more, same, next⟩ := exists_letter_of_inside ends
          obtain ⟨word, later, behind⟩ := List.exists_cons_of_ne_nil (split_ne_nil next more)
          rw [← same] at behind
          rw [ends, if_neg (by decide), behind] at whole
          exact Or.inr (Or.inr ⟨rfl, rfl, word, later, behind, whole⟩)

/-- The words hold the letters and digits of the text, each in its place. -/
theorem flatten_split (text : List Char) : (split text).flatten = text.filter Char.isAlphanum := by
  induction text with
  | nil => rfl
  | cons c rest ih =>
      rcases split_cons_cases c rest with ⟨mark, same⟩ | ⟨letter, -, same⟩ |
        ⟨letter, -, word, later, behind, same⟩
      · rw [same, ih, List.filter_cons_of_neg (by simp [mark])]
      · rw [same, List.flatten_cons, ih, List.filter_cons_of_pos letter, List.singleton_append]
      · rw [behind, List.flatten_cons] at ih
        rw [same, List.flatten_cons, List.cons_append, ih, List.filter_cons_of_pos letter]

theorem nonempty_of_mem_split {text run : List Char} (member : run ∈ split text) : run ≠ [] := by
  rintro rfl
  cases (List.mem_filter.1 member).2

theorem isAlphanum_of_mem_split {text word : List Char} (listed : word ∈ split text) :
    ∀ c ∈ word, c.isAlphanum = true := by
  intro c present
  have kept : c ∈ (split text).flatten := List.mem_flatten.2 ⟨word, listed, present⟩
  rw [flatten_split] at kept
  exact (List.mem_filter.1 kept).2

/-! ### Words that stand apart -/

section Apart

variable {back : List Char} (starts : ∀ c, c.isAlphanum = true → endsWord c back = true)
  (large : back.head?.any Char.isLower = false)

include starts large

theorem endsWord_append (letter : c.isAlphanum = true) (more : List Char) :
    endsWord c (more ++ back) = endsWord c more := by
  rcases more with _ | ⟨d, _ | ⟨e, later⟩⟩
  · exact starts c letter
  · rw [List.singleton_append, endsWord, endsAcronym, large]
    rfl
  · rfl

theorem split_append (front : List Char) : split (front ++ back) = split front ++ split back := by
  induction front with
  | nil => rfl
  | cons c more ih =>
      rw [List.cons_append]
      rcases split_cons_cases c more with ⟨mark, same⟩ | ⟨letter, ends, same⟩ |
        ⟨letter, inside, word, later, behind, same⟩
      · rw [split_cons_of_mark mark, ih, same]
      · rw [split_cons_of_letter letter, endsWord_append starts large letter, if_pos ends, ih, same,
          List.cons_append]
      · rw [split_cons_of_letter letter, endsWord_append starts large letter, inside,
          if_neg (by decide), ih, behind, same]
        rfl

end Apart

theorem split_append_mark {mark : Char} (outside : mark.isAlphanum = false)
    (front back : List Char) : split (front ++ mark :: back) = split front ++ split back := by
  have starts : ∀ c, c.isAlphanum = true → endsWord c (mark :: back) = true := by
    intro c _
    simp [endsWord, endsAtGap, outside]
  have large : mark.isLower = false := by
    by_contra small
    have letter := isAlphanum_of_isLower (by simpa using small)
    cases outside.symm.trans letter
  rw [split_append starts large, split_cons_of_mark outside]

/-! ### One pass -/

theorem wordsFrom_eq (begun text : List Char) :
    wordsFrom begun text = (split text).modifyHead (begun ++ ·) := by
  induction text generalizing begun with
  | nil => rfl
  | cons c rest ih =>
      rcases split_cons_cases c rest with ⟨mark, same⟩ | ⟨letter, ends, same⟩ |
        ⟨letter, inside, word, later, behind, same⟩
      · rw [wordsFrom, if_neg (by simp [mark]), ih, same]
      · rw [wordsFrom, if_pos letter, if_pos ends, ih, same]
        cases split rest <;> rfl
      · rw [wordsFrom, if_pos letter, inside, if_neg (by decide), ih, same, behind]
        simp

/-- The two passes and the split behind them find the words that one pass reads off. -/
theorem split_eq_wordsFrom (text : List Char) : split text = wordsFrom [] text := by
  rw [wordsFrom_eq]
  cases split text <;> rfl

/-! ### Ends of words -/

/-- Words from the first one on make up a text. -/
def ComeApartBehind (words : List (List Char)) (front : List Char) : Prop :=
  ∃ before after, words = before ++ after ∧ before.flatten = front

section ComeApart

variable {word front : List Char} {words : List (List Char)}

theorem comeApartBehind_cons_iff (filled : front ≠ []) :
    ComeApartBehind (word :: words) front ↔
      ∃ later, front = word ++ later ∧ ComeApartBehind words later := by
  constructor
  · rintro ⟨before, after, whole, text⟩
    cases before with
    | nil => exact absurd text.symm filled
    | cons first more =>
        obtain ⟨rfl, rest⟩ := List.cons.inj whole
        exact ⟨more.flatten, text.symm, more, after, rest, rfl⟩
  · rintro ⟨later, rfl, before, after, rfl, rfl⟩
    exact ⟨word :: before, after, rfl, rfl⟩

theorem comeApartBehind_letter_iff :
    ComeApartBehind ([c] :: words) (c :: front) ↔ ComeApartBehind words front := by
  rw [comeApartBehind_cons_iff (List.cons_ne_nil c front)]
  simp

theorem comeApartBehind_inside_iff (filled : word ≠ []) :
    ComeApartBehind ((c :: word) :: words) (c :: front) ↔
      front ≠ [] ∧ ComeApartBehind (word :: words) front := by
  rw [comeApartBehind_cons_iff (List.cons_ne_nil c front)]
  constructor
  · rintro ⟨later, text, apart⟩
    have whole : front = word ++ later := (List.cons.inj text).2
    have more : front ≠ [] := by
      rw [whole]
      exact List.append_ne_nil_of_left_ne_nil filled later
    exact ⟨more, (comeApartBehind_cons_iff more).2 ⟨later, whole, apart⟩⟩
  · rintro ⟨more, apart⟩
    obtain ⟨later, whole, behind⟩ := (comeApartBehind_cons_iff more).1 apart
    exact ⟨later, congrArg (c :: ·) whole, behind⟩

end ComeApart

theorem comeApartBehind_split_iff (letter : c.isAlphanum = true) (front : List Char) :
    ComeApartBehind (split (front ++ c :: rest)) ((front ++ [c]).filter Char.isAlphanum) ↔
      endsWord c rest = true := by
  induction front with
  | nil =>
      rw [List.nil_append, List.nil_append, List.filter_cons_of_pos letter, List.filter_nil]
      rcases split_cons_cases c rest with ⟨mark, -⟩ | ⟨-, ends, same⟩ |
        ⟨-, inside, word, later, behind, same⟩
      · cases mark.symm.trans letter
      · rw [same, comeApartBehind_letter_iff]
        exact iff_of_true ⟨[], _, rfl, rfl⟩ ends
      · have filled : word ≠ [] := nonempty_of_mem_split (behind ▸ List.mem_cons_self)
        rw [same, comeApartBehind_inside_iff filled, inside]
        simp
  | cons first more ih =>
      rw [List.cons_append, List.cons_append]
      rcases split_cons_cases first (more ++ c :: rest) with ⟨mark, same⟩ | ⟨kept, -, same⟩ |
        ⟨kept, -, word, later, behind, same⟩
      · rw [same, List.filter_cons_of_neg (by simp [mark])]
        exact ih
      · rw [same, List.filter_cons_of_pos kept, comeApartBehind_letter_iff]
        exact ih
      · have filled : word ≠ [] := nonempty_of_mem_split (behind ▸ List.mem_cons_self)
        have holds : (more ++ [c]).filter Char.isAlphanum ≠ [] := by simp [letter]
        rw [same, List.filter_cons_of_pos kept, comeApartBehind_inside_iff filled, ← behind,
          and_iff_right holds]
        exact ih

theorem endsWord_iff {between back : List Char} (letter : d.isAlphanum = true)
    (marks : ∀ mark ∈ between, mark.isAlphanum = false) :
    endsWord c (between ++ d :: back) = true ↔
      between ≠ [] ∨ (c.isLower = true ∨ c.isDigit = true) ∧ d.isUpper = true ∨
        c.isUpper = true ∧ d.isUpper = true ∧ ∃ next ∈ back.head?, next.isLower = true := by
  cases between with
  | nil =>
      simp [endsWord, endsAtGap, endsAtCapital, endsAcronym, isSmall, letter, and_assoc,
        Option.any_eq_true]
  | cons mark more =>
      rw [List.forall_mem_cons] at marks
      simp [endsWord, endsAtGap, marks.1]

end Words

theorem join_map_ofList (words : List (List Char)) :
    String.join (words.map String.ofList) = String.ofList words.flatten := by
  rw [← String.toList_inj, String.toList_join, String.toList_ofList]
  simp [List.flatMap_map]

theorem exists_splitWords_eq_append_iff (text : String) (front : List Char) :
    (∃ before after, splitWords text = before ++ after ∧
        String.join before = String.ofList front) ↔
      Words.ComeApartBehind (Words.split text.toList) front := by
  constructor
  · rintro ⟨_, _, whole, joined⟩
    obtain ⟨before, after, words, rfl, rfl⟩ := List.map_eq_append_iff.1 whole
    rw [join_map_ofList, String.ofList_inj] at joined
    exact ⟨before, after, words, joined⟩
  · rintro ⟨before, after, words, joined⟩
    refine ⟨before.map String.ofList, after.map String.ofList, ?_, ?_⟩
    · rw [splitWords, words, List.map_append]
    · rw [join_map_ofList, joined]

/-- The words of a text are not empty and hold its ASCII letters and digits in order. Between two of
these a word ends exactly if something else stands there, or a capital stands behind a lower-case
letter or a digit, or behind a capital and in front of a lower-case letter. One pass from left to
right reads the same words off. -/
theorem splitWords_at_boundaries (text : String) :
    (∀ word ∈ splitWords text, word ≠ "" ∧ ∀ c ∈ word.toList, c.isAlphanum = true) ∧
      String.join (splitWords text) = String.ofList (text.toList.filter Char.isAlphanum) ∧
      (∀ front c between d back, text.toList = front ++ c :: (between ++ d :: back) →
        c.isAlphanum = true → d.isAlphanum = true →
        (∀ mark ∈ between, mark.isAlphanum = false) →
          ((∃ before after, splitWords text = before ++ after ∧
              String.join before = String.ofList ((front ++ [c]).filter Char.isAlphanum)) ↔
            between ≠ [] ∨ (c.isLower = true ∨ c.isDigit = true) ∧ d.isUpper = true ∨
              c.isUpper = true ∧ d.isUpper = true ∧ ∃ next ∈ back.head?, next.isLower = true)) ∧
      splitWords text = (Words.wordsFrom [] text.toList).map String.ofList := by
  refine ⟨?_, ?_, ?_, ?_⟩
  · intro word listed
    obtain ⟨letters, found, rfl⟩ := List.mem_map.1 listed
    have filled := Words.nonempty_of_mem_split found
    refine ⟨by simpa using filled, ?_⟩
    rw [String.toList_ofList]
    exact Words.isAlphanum_of_mem_split found
  · rw [splitWords, join_map_ofList, Words.flatten_split]
  · intro front c between d back whole letter next marks
    rw [exists_splitWords_eq_append_iff, whole, Words.comeApartBehind_split_iff letter,
      Words.endsWord_iff next marks]
  · rw [splitWords, Words.split_eq_wordsFrom]

theorem splitWords_at_boundaries_acronym :
    splitWords "toHTMLPage_2a" = ["to", "HTML", "Page", "2a"] ∧
      ∃ before after, splitWords "toHTMLPage_2a" = before ++ after ∧
        String.join before = "toHTML" := by
  obtain ⟨-, -, ends, pass⟩ := splitWords_at_boundaries "toHTMLPage_2a"
  refine ⟨pass.trans (by decide), ?_⟩
  have here := ends "toHTM".toList 'L' [] 'P' "age_2a".toList (by decide) (by decide) (by decide)
    (by simp)
  exact here.2 (Or.inr (Or.inr ⟨by decide, by decide, 'a', by decide, by decide⟩))

end FragmentImports
