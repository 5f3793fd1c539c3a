import FragmentImports.Endpoint
import FragmentImports.Proofs.Outcome

/-!
What comes of asking an endpoint. A description or a failure of introspection is promised, and the
promise is kept exactly where a response has the shape that is taken for granted of it.
-/

namespace FragmentImports.Endpoint

def EndpointError.IsTold : EndpointError → Prop
  | .introspection _ => True
  | _ => False

instance : DecidablePred EndpointError.IsTold
  | .introspection _ => .isTrue trivial
  | .aborted _ | .notAscii | .badAddress _ | .badName _ | .noHost | .notText | .notJson
  | .longNumber | .tooDeep | .notObject | .unsuitable => .isFalse id

def Promised {α : Type} (holds : α → Prop) : Except EndpointError α → Prop
  | .ok value => holds value
  | .error fault => fault.IsTold

instance {α : Type} {holds : α → Prop} [DecidablePred holds] : DecidablePred (Promised holds)
  | .ok value => inferInstanceAs (Decidable (holds value))
  | .error fault => inferInstanceAs (Decidable fault.IsTold)

section Promised

variable {α β : Type} {holds : α → Prop}

@[simp]
theorem promised_ok {value : α} : Promised holds (.ok value) ↔ holds value := Iff.rfl

@[simp]
theorem promised_pure {value : α} :
    Promised holds (pure value : Except EndpointError α) ↔ holds value := Iff.rfl

@[simp]
theorem promised_error {fault : EndpointError} :
    Promised holds (.error fault : Except EndpointError α) ↔ fault.IsTold := Iff.rfl

@[simp]
theorem isTold_introspection (error : IntrospectionError) :
    (EndpointError.introspection error).IsTold := trivial

@[simp]
theorem promised_bind {first : Except EndpointError β} {next : β → Except EndpointError α} :
    Promised holds (first >>= next) ↔
      Promised (fun value => Promised holds (next value)) first := by
  cases first <;> rfl

@[simp]
theorem promised_ite {asked : Prop} [Decidable asked] {one other : Except EndpointError α} :
    Promised holds (if asked then one else other) ↔
      (asked → Promised holds one) ∧ (¬asked → Promised holds other) := by
  by_cases given : asked <;> simp [given]

end Promised

def memberOf (members : List (String × Json)) (key : String) : Json :=
  (Json.lookup? members key).getD .null

def IsDescription : Json → Prop
  | .object members => (Json.lookup? members descriptionKey).isSome
  | _ => False

instance : DecidablePred IsDescription
  | .object members => inferInstanceAs (Decidable ((Json.lookup? members descriptionKey).isSome))
  | .null | .boolean _ | .integer _ | .float _ | .string _ | .array _ => .isFalse id

def Mentions : Json → Prop
  | .object members => (Json.lookup? members descriptionKey).isSome
  | .array items => .string descriptionKey ∈ items
  | .string text => descriptionKey.toList <:+: text.toList
  | _ => False

/-- Data that is a description if the key is found in it. What cannot be searched has to be empty.
-/
def IsJudged : Json → Prop
  | .object _ => True
  | .array items => .string descriptionKey ∉ items
  | .string text => ¬descriptionKey.toList <:+: text.toList
  | leaf => leaf.isEmpty

def IsErrorList : Json → Prop
  | .array errors => ∀ error ∈ errors, ∃ members, error = .object members ∧
      ∀ message, Json.lookup? members "message" = some message → ∃ text, message = .string text
  | _ => False

/-- What is taken for granted of the value in a body: an object, with errors that can be told or
data that can be judged. -/
def IsAnswer : Json → Prop
  | .object members =>
      if (memberOf members "errors").isEmpty then IsJudged (memberOf members "data")
      else IsErrorList (memberOf members "errors")
  | _ => False

theorem occursIn_iff {part text : List Char} : occursIn part text = true ↔ part <:+: text := by
  induction text with
  | nil => simp [occursIn]
  | cons c rest ih =>
      rw [occursIn, Bool.or_eq_true, ih, List.isPrefixOf_iff_prefix, List.infix_cons_iff]

theorem any_eq_text_iff {items : List Json} {text : String} :
    (items.any fun
      | .string item => item = text
      | _ => false) = true ↔ .string text ∈ items := by
  rw [List.any_eq_true]
  constructor
  · rintro ⟨item, member, same⟩
    split at same
    · next held => exact of_decide_eq_true same ▸ member
    · cases same
  · intro member
    exact ⟨_, member, decide_eq_true rfl⟩

theorem mentionsDescription_eq_ok_iff {data : Json} :
    mentionsDescription data = .ok true ↔ Mentions data := by
  cases data with
  | object members => simp [mentionsDescription, Mentions]
  | array items =>
      simp only [mentionsDescription, Mentions, Except.ok.injEq]
      exact any_eq_text_iff
  | string text => simp only [mentionsDescription, Mentions, Except.ok.injEq, occursIn_iff]
  | _ => simp [mentionsDescription, Mentions]

theorem hasTextMessage_iff {members : List (String × Json)} :
    hasTextMessage (.object members) = true ↔
      ∀ message, Json.lookup? members "message" = some message →
        ∃ text, message = .string text := by
  rw [hasTextMessage]
  cases Json.lookup? members "message" with
  | none => simp
  | some message => cases message <;> simp

theorem isObject_iff {value : Json} :
    isObject value = true ↔ ∃ members, value = .object members := by
  cases value <;> simp [isObject]

theorem isTold_ofReported_iff {reported : Json} :
    (ofReported reported).IsTold ↔ IsErrorList reported := by
  cases reported with
  | array errors =>
      rw [ofReported, IsErrorList]
      constructor
      · intro told error member
        split at told
        · cases told
        next objects =>
        split at told
        · cases told
        next texts =>
        rw [Bool.not_eq_true', Bool.not_eq_false, List.all_eq_true] at objects texts
        obtain ⟨members, rfl⟩ := isObject_iff.1 (objects error member)
        exact ⟨members, rfl, hasTextMessage_iff.1 (texts _ member)⟩
      · intro told
        have objects : errors.all isObject = true := by
          rw [List.all_eq_true]
          intro error member
          obtain ⟨members, whole, -⟩ := told error member
          exact isObject_iff.2 ⟨members, whole⟩
        have texts : errors.all hasTextMessage = true := by
          rw [List.all_eq_true]
          intro error member
          obtain ⟨members, rfl, text⟩ := told error member
          exact hasTextMessage_iff.2 text
        rw [objects, texts]
        trivial
  | _ => simp [ofReported, IsErrorList, EndpointError.IsTold]

def judge (url : String) (data : Json) : Except EndpointError Json :=
  if data.isEmpty then .error (.introspection (.noData url))
  else mentionsDescription data >>= fun found =>
    if found then .ok data else .error (.introspection (.noData url))

theorem dataOf_object (url : String) (members : List (String × Json)) :
    dataOf url (.object members) =
      if (memberOf members "errors").isEmpty then judge url (memberOf members "data")
      else .error (ofReported (memberOf members "errors")) := by
  unfold dataOf judge
  change (if (!(memberOf members "errors").isEmpty) = true then _ else _) = _
  cases (memberOf members "errors").isEmpty with
  | false => rfl
  | true =>
      change (if (memberOf members "data").isEmpty = true then _ else _) = _
      cases (memberOf members "data").isEmpty <;> rfl

theorem isEmpty_of_mentions {data : Json} (mentioned : Mentions data) : data.isEmpty = false := by
  cases data with
  | object members =>
      cases members with
      | nil => cases mentioned
      | cons member rest => rfl
  | array items =>
      cases items with
      | nil => cases mentioned
      | cons item rest => rfl
  | string text =>
      refine decide_eq_false fun empty => ?_
      subst empty
      have inside : descriptionKey.toList <:+: "".toList := mentioned
      exact absurd inside (by decide)
  | _ => cases mentioned

theorem judge_eq_ok_iff {url : String} {data judged : Json} :
    judge url data = .ok judged ↔ data = judged ∧ Mentions data := by
  rw [judge]
  constructor
  · intro given
    split at given
    · cases given
    obtain ⟨found, answered, kept⟩ := exists_of_bind_eq_ok given
    split at kept
    · next mentioned =>
        cases kept
        exact ⟨rfl, mentionsDescription_eq_ok_iff.1 (mentioned ▸ answered)⟩
    · cases kept
  · rintro ⟨rfl, mentioned⟩
    rw [if_neg (Bool.eq_false_iff.1 (isEmpty_of_mentions mentioned)),
      mentionsDescription_eq_ok_iff.2 mentioned]
    rfl

theorem promised_judge_of_search {url : String} {data : Json} {found : Bool}
    (searched : mentionsDescription data = .ok found) :
    Promised IsDescription (judge url data) ↔ (Mentions data → IsDescription data) := by
  rw [judge]
  split
  · next empty =>
      have unmentioned : ¬Mentions data := fun mentioned =>
        Bool.false_ne_true ((isEmpty_of_mentions mentioned).symm.trans empty)
      exact iff_of_true trivial fun mentioned => absurd mentioned unmentioned
  · rw [← mentionsDescription_eq_ok_iff, searched]
    cases found <;> simp

theorem promised_judge_iff {url : String} {data : Json} :
    Promised IsDescription (judge url data) ↔ IsJudged data := by
  cases data with
  | object members => exact (promised_judge_of_search rfl).trans (iff_of_true id trivial)
  | array items => exact promised_judge_of_search rfl
  | string text => exact promised_judge_of_search rfl
  | _ => simp [judge, mentionsDescription, IsJudged, EndpointError.IsTold]

theorem dataOf_eq_ok_iff {url : String} {value data : Json} :
    dataOf url value = .ok data ↔ ∃ members, value = .object members ∧
      (memberOf members "errors").isEmpty = true ∧ memberOf members "data" = data ∧
        Mentions data := by
  cases value with
  | object members =>
      rw [dataOf_object]
      constructor
      · intro given
        split at given
        · next silent =>
            obtain ⟨rfl, mentioned⟩ := judge_eq_ok_iff.1 given
            exact ⟨members, rfl, silent, rfl, mentioned⟩
        · cases given
      · rintro ⟨_, ⟨⟩, silent, rfl, mentioned⟩
        rw [if_pos silent]
        exact judge_eq_ok_iff.2 ⟨rfl, mentioned⟩
  | _ => simp [dataOf]

theorem promised_dataOf_iff {url : String} {value : Json} :
    Promised IsDescription (dataOf url value) ↔ IsAnswer value := by
  cases value with
  | object members =>
      rw [dataOf_object, IsAnswer]
      split
      · exact promised_judge_iff
      · exact isTold_ofReported_iff
  | _ => simp [dataOf, IsAnswer, EndpointError.IsTold]

/-- Whether one could ask where a location leads from an address: the names of both stand for
something, and the path of the one may follow the host of the other. -/
def CanLead (address : Address) (location : String) : Prop :=
  ∀ target, Address.read location.toList = .ok target →
    target.checkName = .ok () ∧ address.checkName = .ok () ∧
      (target.scheme ≠ [] ∧ target.host = [] →
        { target with host := address.host }.checkPath = .ok ())

theorem promised_check_iff {ε : Type} {holds : Unit → Prop} {check : Except ε Unit}
    {told : ε → EndpointError} (untold : ∀ fault, ¬(told fault).IsTold) :
    Promised holds (check.mapError told) ↔ check = .ok () ∧ holds () := by
  cases check with
  | error fault => exact iff_of_false (untold fault) fun passed => nomatch passed.1
  | ok value => exact ⟨fun held => ⟨rfl, held⟩, And.right⟩

theorem promised_checkRedirection_iff {url : String} {address : Address} {location : String} :
    Promised (fun _ => True) (checkRedirection url address location) ↔
      CanLead address location := by
  unfold checkRedirection CanLead
  cases Address.read location.toList with
  | error fault => exact iff_of_true trivial fun _ led => nomatch led
  | ok target =>
      simp only [promised_bind, Except.ok.injEq, forall_eq']
      rw [promised_check_iff fun _ => id, promised_check_iff fun _ => id]
      by_cases hostless : target.scheme ≠ [] ∧ target.host = []
      · rw [if_pos hostless, promised_check_iff fun _ => id]
        simp [hostless]
      · rw [if_neg hostless]
        simp [hostless]

structure Response.Holds (response : Response) (sent : SentRequest) (value : Json) : Prop where
  headers : areAscii response.headers = true
  absolute : sent.address.isAbsolute = true
  success : isSuccess response.status = true
  body : ∃ body, response.plainBody = .ok body ∧ bodyValue body = .ok value

/-- What is taken for granted of a response: its headers can be read, and behind a body that can be
decoded one could follow its location and use what the body of a success holds. -/
structure Response.Understood (response : Response) (sent : SentRequest) : Prop where
  headers : areAscii response.headers = true
  absolute : ∀ body, response.plainBody = .ok body → sent.address.isAbsolute = true
  location : ∀ body, response.plainBody = .ok body →
    ∀ location ∈ response.location?, CanLead sent.address location
  answer : ∀ body, response.plainBody = .ok body → isSuccess response.status = true →
    ∃ value, bodyValue body = .ok value ∧ IsAnswer value

theorem value_eq (response : Response) (url : String) (sent : SentRequest) :
    response.value url sent =
      if areAscii response.headers then
        response.plainBody.mapError (fun fault =>
            .introspection (.requestFailed url fault.message)) >>= fun body =>
          if sent.address.isAbsolute then
            response.location?.forM (checkRedirection url sent.address) >>= fun _ =>
              if isSuccess response.status then bodyValue body
              else .error (.introspection (.requestFailed url (response.refusal sent.url)))
          else .error .noHost
      else .error .notAscii := by
  rfl

theorem location?_of_isSuccess {response : Response} (success : isSuccess response.status = true) :
    response.location? = none := by
  have stays : ¬isRedirection response.status = true := by
    intro redirected
    simp only [isSuccess, isRedirection, Bool.and_eq_true, decide_eq_true_eq, List.contains_eq_mem,
      List.mem_cons, List.not_mem_nil, or_false] at success redirected
    omega
  rw [Response.location?, if_neg stays]

theorem value_eq_ok_iff {response : Response} {url : String} {sent : SentRequest} {value : Json} :
    response.value url sent = .ok value ↔ response.Holds sent value := by
  rw [value_eq]
  constructor
  · intro given
    split at given
    · next headers =>
        obtain ⟨body, decoded, given⟩ := exists_of_bind_eq_ok given
        split at given
        · next absolute =>
            obtain ⟨-, -, given⟩ := exists_of_bind_eq_ok given
            split at given
            · next success =>
                exact ⟨headers, absolute, success, body, mapError_eq_ok.1 decoded, given⟩
            · cases given
        · cases given
    · cases given
  · rintro ⟨headers, absolute, success, body, decoded, held⟩
    rw [if_pos headers, decoded, location?_of_isSuccess success]
    change (if _ then (if _ then bodyValue body else _) else _) = _
    rw [if_pos absolute, if_pos success, held]

theorem not_isTold_of_bodyValue {body : ByteArray} {fault : EndpointError}
    (failed : bodyValue body = .error fault) : ¬fault.IsTold := by
  unfold bodyValue at failed
  repeat' split at failed
  all_goals cases failed
  all_goals exact id

theorem promised_bodyValue_iff {body : ByteArray} {holds : Json → Prop} :
    Promised holds (bodyValue body) ↔ ∃ value, bodyValue body = .ok value ∧ holds value := by
  cases read : bodyValue body with
  | error fault => simpa using not_isTold_of_bodyValue read
  | ok value => simp

theorem promised_location_iff {url : String} {address : Address} {location? : Option String} :
    Promised (fun _ => True) (location?.forM (checkRedirection url address)) ↔
      ∀ location ∈ location?, CanLead address location := by
  cases location? with
  | none => simp [Option.forM]
  | some location => simpa [Option.forM] using promised_checkRedirection_iff

theorem Response.understood_iff {response : Response} {sent : SentRequest} {body : ByteArray}
    (headers : areAscii response.headers = true) (decoded : response.plainBody = .ok body) :
    response.Understood sent ↔ sent.address.isAbsolute = true ∧
      (∀ location ∈ response.location?, CanLead sent.address location) ∧
        (isSuccess response.status = true →
          ∃ value, bodyValue body = .ok value ∧ IsAnswer value) := by
  have only : ∀ other, response.plainBody = .ok other → body = other :=
    fun other same => Except.ok.inj (decoded.symm.trans same)
  constructor
  · intro understood
    exact ⟨understood.absolute body decoded, understood.location body decoded,
      understood.answer body decoded⟩
  · rintro ⟨absolute, leads, answers⟩
    exact ⟨headers, fun _ _ => absolute, fun _ _ => leads,
      fun other same => only other same ▸ answers⟩

theorem promised_value_iff {response : Response} {url : String} {sent : SentRequest} :
    Promised IsAnswer (response.value url sent) ↔ response.Understood sent := by
  rw [value_eq]
  by_cases headers : areAscii response.headers = true
  · rw [if_pos headers]
    cases decoded : response.plainBody with
    | error fault =>
        have unread : ∀ body, response.plainBody ≠ .ok body := by simp [decoded]
        exact iff_of_true trivial ⟨headers, fun body read => absurd read (unread body),
          fun body read => absurd read (unread body), fun body read => absurd read (unread body)⟩
    | ok body =>
        rw [Response.understood_iff headers decoded]
        change Promised IsAnswer (if _ then _ else _) ↔ _
        by_cases absolute : sent.address.isAbsolute = true
        · rw [if_pos absolute]
          by_cases success : isSuccess response.status = true
          · rw [location?_of_isSuccess success, if_pos success]
            change Promised IsAnswer (bodyValue body) ↔ _
            simp [absolute, success, promised_bodyValue_iff]
          · rw [if_neg success]
            simpa [absolute, success] using promised_location_iff
        · rw [if_neg absolute]
          exact iff_of_false id fun understood => absolute understood.1
  · rw [if_neg headers]
    exact iff_of_false id fun understood => headers understood.headers

theorem value_bind_dataOf_eq_ok_iff {response : Response} {url : String} {sent : SentRequest}
    {data : Json} :
    (response.value url sent >>= dataOf url) = .ok data ↔ ∃ members,
      response.Holds sent (.object members) ∧ (memberOf members "errors").isEmpty = true ∧
        memberOf members "data" = data ∧ Mentions data := by
  constructor
  · intro given
    obtain ⟨value, held, taken⟩ := exists_of_bind_eq_ok given
    obtain ⟨members, rfl, answer⟩ := dataOf_eq_ok_iff.1 taken
    exact ⟨members, value_eq_ok_iff.1 held, answer⟩
  · rintro ⟨members, holds, answer⟩
    rw [value_eq_ok_iff.2 holds]
    exact dataOf_eq_ok_iff.2 ⟨members, rfl, answer⟩

theorem fetch_eq {request : Request} {sent : SentRequest} (leaves : request.sent = .ok sent)
    (network : Network) :
    fetch network request = match network sent with
      | .noResponse reason => .error (.introspection (.requestFailed request.url reason))
      | .aborted fault => .error (.aborted fault)
      | .response response => response.value request.url sent >>= dataOf request.url := by
  rw [fetch, leaves]
  cases reply : network sent <;> simp only [bind, Except.bind, reply] <;> rfl

def plainRequest : Request := .describe ("https:" ++ "//" ++ "api.example.com/graphql") []

def plainSent : SentRequest where
  address := ⟨"https".toList, [], "api.example.com".toList, none, "/graphql".toList, none, none⟩
  headers := .ofList [("Content-Type", "application/json")]

theorem sent_plainRequest : plainRequest.sent = .ok plainSent := by
  have leaves : plainRequest.sent.toOption = some plainSent := by decide +kernel
  cases sent : plainRequest.sent with
  | error fault =>
      rw [sent] at leaves
      cases leaves
  | ok other =>
      rw [sent] at leaves
      exact congrArg Except.ok (Option.some.inj leaves)

def succeeding (body : String) : Response := ⟨200, .empty, body.toUTF8⟩

def emptyDescription : Response := succeeding "\x7b\"data\": \x7b\"__schema\": \x7b\x7d\x7d\x7d"

end FragmentImports.Endpoint
