namespace FragmentImports

def isSequenceParameter (c : Char) : Bool := '0' ≤ c && c ≤ '?'

def isSequenceIntermediate (c : Char) : Bool := ' ' ≤ c && c ≤ '/'

def isSequenceFinal (c : Char) : Bool := '@' ≤ c && c ≤ '~'

def behindParameters (text : List Char) : List Char :=
  (text.dropWhile isSequenceParameter).dropWhile isSequenceIntermediate

theorem length_behindParameters_le (text : List Char) :
    (behindParameters text).length ≤ text.length :=
  ((List.dropWhile_sublist _).trans (List.dropWhile_sublist _)).length_le

/-- Removes every sequence of an escape character, a square bracket, parameters, intermediate
characters and a final one; a sequence that does not end so stays. -/
def withoutControlSequences (text : List Char) : List Char :=
  match text with
  | [] => []
  | '\x1b' :: '[' :: rest =>
      match _found : behindParameters rest with
      | last :: more =>
          if isSequenceFinal last then withoutControlSequences more
          else '\x1b' :: withoutControlSequences ('[' :: rest)
      | [] => '\x1b' :: '[' :: rest
  | c :: rest => c :: withoutControlSequences rest
termination_by text.length
decreasing_by
  · have shorter := length_behindParameters_le rest
    rw [_found] at shorter
    simp only [List.length_cons] at shorter ⊢
    omega
  · simp
  · simp

end FragmentImports
