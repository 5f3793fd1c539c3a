import FragmentImports.CommandLine.Run

/-!
Laws of the parts that a run of the program is put together from: what they come to, what they print
and leave alone, and when one of them succeeds wherever another one does.
-/

namespace FragmentImports.CommandLine

def Console.tell (console : Console) (line : String) : Console :=
  { console with output := console.output ++ (plain line ++ "\n") }

/-- What a part of a run comes to, and the console that it leaves behind. -/
def ends {α : Type} (part : Run α) (console : Console) : Except Stop α × Console :=
  part.run.run console

variable {α β γ δ : Type} {console after : Console}

theorem withoutControlSequences_eq_self {text : List Char} (bare : '\x1b' ∉ text) :
    withoutControlSequences text = text := by
  fun_induction withoutControlSequences text with
  | case1 => rfl
  | case2 rest last more found ends ih => exact absurd List.mem_cons_self bare
  | case3 rest last more found ends ih => exact absurd List.mem_cons_self bare
  | case4 rest found => rfl
  | case5 c rest other ih => rw [ih fun member => bare (List.mem_cons_of_mem _ member)]

theorem plain_eq_self {text : String} (bare : '\x1b' ∉ text.toList) : plain text = text := by
  rw [plain, withoutControlSequences_eq_self bare, String.ofList_toList]

theorem ends_say (line : String) (console : Console) :
    ends (say line) console = (.ok (), console.tell line) := rfl

theorem ends_fileTree (console : Console) :
    ends fileTree console = (.ok console.tree, console) := rfl

theorem ends_bind_of_ok {part : Run α} {next : α → Run β} {value : α}
    (run : ends part console = (.ok value, after)) :
    ends (part >>= next) console = ends (next value) after := by
  unfold ends at run ⊢
  rw [ExceptT.run_bind, StateT.run_bind, run]
  rfl

theorem ends_bind_of_error {part : Run α} {next : α → Run β} {stop : Stop}
    (run : ends part console = (.error stop, after)) :
    ends (part >>= next) console = (.error stop, after) := by
  unfold ends at run ⊢
  rw [ExceptT.run_bind, StateT.run_bind, run]
  rfl

theorem ends_bind_eq_ok {part : Run α} {next : α → Run β} {value : β} :
    ends (part >>= next) console = (.ok value, after) ↔ ∃ middle between,
      ends part console = (.ok middle, between) ∧
        ends (next middle) between = (.ok value, after) := by
  constructor
  · intro run
    rcases first : ends part console with ⟨_ | middle, between⟩
    · rw [ends_bind_of_error first] at run
      cases run
    · rw [ends_bind_of_ok first] at run
      exact ⟨middle, between, rfl, run⟩
  · rintro ⟨middle, between, first, second⟩
    rw [ends_bind_of_ok first, second]

/-- A loop over items that are all gone through has the effect of each of them in turn. -/
theorem ends_forIn {items : List α} {body : α → PUnit → Run (ForInStep PUnit)}
    {effect : Console → α → Console}
    (step : ∀ item console,
      ends (body item .unit) console = (.ok (.yield .unit), effect console item))
    (console : Console) :
    ends (forIn items PUnit.unit body) console = (.ok .unit, items.foldl effect console) := by
  induction items generalizing console with
  | nil => rfl
  | cons item rest ih =>
      rw [List.forIn_cons, ends_bind_of_ok (step item console), List.foldl_cons]
      exact ih (effect console item)

theorem ends_forIn_say (lines : List String) (console : Console) :
    ends (forIn lines PUnit.unit fun line _ => do say line; pure (.yield .unit)) console =
      (.ok .unit, lines.foldl Console.tell console) :=
  ends_forIn (fun line console => ends_bind_of_ok (ends_say line console)) console

/-! ### Parts that leave the files alone -/

/-- A part of a run after which the files are what they were, however it ends. -/
def KeepsTree (part : Run α) : Prop := ∀ console, (ends part console).2.tree = console.tree

theorem keepsTree_pure (value : α) : KeepsTree (pure value) := fun _ => rfl

theorem keepsTree_throw (stop : Stop) : KeepsTree (throw stop : Run α) := fun _ => rfl

theorem keepsTree_fileTree : KeepsTree fileTree := fun _ => rfl

theorem keepsTree_print (text : String) : KeepsTree (print text) := fun _ => rfl

theorem keepsTree_say (line : String) : KeepsTree (say line) := fun _ => rfl

theorem keepsTree_orStop {ε : Type} (result : Except ε α) (stop : ε → Stop) :
    KeepsTree (orStop result stop) := by
  intro console
  cases result <;> rfl

theorem KeepsTree.bind {part : Run α} {next : α → Run β} (first : KeepsTree part)
    (second : ∀ value, KeepsTree (next value)) : KeepsTree (part >>= next) := by
  intro console
  have kept := first console
  rcases run : ends part console with ⟨stop | value, between⟩
  · rw [ends_bind_of_error run]
    rw [run] at kept
    exact kept
  · rw [ends_bind_of_ok run, second value between]
    rw [run] at kept
    exact kept

theorem KeepsTree.forIn {items : List α} {body : α → PUnit → Run (ForInStep PUnit)}
    (step : ∀ item, KeepsTree (body item .unit)) : KeepsTree (forIn items PUnit.unit body) := by
  induction items with
  | nil => exact keepsTree_pure _
  | cons item rest ih =>
      rw [List.forIn_cons]
      refine (step item).bind fun next => ?_
      cases next with
      | done _ => exact keepsTree_pure _
      | yield _ => exact ih

theorem KeepsTree.verbosely {asked : Prop} [Decidable asked] {one two : String}
    {next : Unit → Run α} (goes : KeepsTree (next ())) :
    KeepsTree (if asked then do say one; next (← say two) else next ()) := by
  split
  · exact (keepsTree_say one).bind fun _ => (keepsTree_say two).bind fun _ => goes
  · exact goes

theorem keepsTree_loadSettings (config? : Option String) : KeepsTree (loadSettings config?) := by
  cases config? with
  | none => exact keepsTree_pure _
  | some path => exact keepsTree_fileTree.bind fun _ => keepsTree_orStop _ _

theorem keepsTree_loadSchema (command : Command) (outside : Surroundings)
    (options : Options) : KeepsTree (loadSchema command outside options) :=
  (keepsTree_orStop _ _).bind fun _ => keepsTree_fileTree.bind fun _ => keepsTree_orStop _ _

theorem keepsTree_loadDocuments (path : String) : KeepsTree (loadDocuments path) := by
  refine keepsTree_fileTree.bind fun tree => ?_
  split
  · exact keepsTree_pure _
  · exact (keepsTree_print _).bind fun _ => keepsTree_throw _

theorem keepsTree_loadGeneration (command : Command) (outside : Surroundings)
    (options : Options) (base : String) :
    KeepsTree (loadGeneration command outside options base) := by
  unfold loadGeneration
  refine keepsTree_fileTree.bind fun tree => (keepsTree_loadSettings _).bind fun settings =>
    KeepsTree.verbosely <| (keepsTree_say _).bind fun _ =>
      (keepsTree_loadSchema command outside options).bind fun schema =>
        (keepsTree_say _).bind fun _ => (keepsTree_loadDocuments _).bind fun documents =>
          (keepsTree_orStop _ _).bind fun generation => ?_
  exact KeepsTree.verbosely (keepsTree_pure _)

/-! ### Parts that succeed together -/

/-- Where the first part succeeds the second one does as well, with the same console behind it and
with values that are related. -/
def Follows (related : α → β → Prop) (first : Run α) (second : Run β) : Prop :=
  ∀ console value after, ends first console = (.ok value, after) →
    ∃ other, ends second console = (.ok other, after) ∧ related value other

theorem Follows.refl (part : Run α) : Follows Eq part part :=
  fun _ value _ run => ⟨value, run, rfl⟩

theorem follows_pure {related : α → β → Prop} {value : α} {other : β}
    (holds : related value other) :
    Follows related (pure value) (pure other) := by
  intro console given after run
  cases run
  exact ⟨other, rfl, holds⟩

theorem Follows.bind {start : α → β → Prop} {related : γ → δ → Prop} {first : Run α}
    {second : Run β} {next : α → Run γ} {then' : β → Run δ} (begins : Follows start first second)
    (goes : ∀ value other, start value other → Follows related (next value) (then' other)) :
    Follows related (first >>= next) (second >>= then') := by
  intro console value after run
  obtain ⟨middle, between, one, two⟩ := ends_bind_eq_ok.1 run
  obtain ⟨other, begun, holds⟩ := begins console middle between one
  obtain ⟨result, ended, final⟩ := goes middle other holds between value after two
  exact ⟨result, ends_bind_eq_ok.2 ⟨other, between, begun, ended⟩, final⟩

theorem Follows.behind {related : β → γ → Prop} (part : Run α) {next : α → Run β}
    {then' : α → Run γ} (goes : ∀ value, Follows related (next value) (then' value)) :
    Follows related (part >>= next) (part >>= then') :=
  (Follows.refl part).bind fun value _ same => same ▸ goes value

theorem Follows.verbosely {α β : Type} {related : α → β → Prop} {asked : Prop} [Decidable asked]
    {one two : String} {next : Unit → Run α} {then' : Unit → Run β}
    (goes : Follows related (next ()) (then' ())) :
    Follows related (if asked then do say one; next (← say two) else next ())
      (if asked then do say one; then' (← say two) else then' ()) := by
  split
  · exact Follows.behind _ fun _ => Follows.behind _ fun _ => goes
  · exact goes

theorem follows_orStop {ε ε' : Type} {related : α → β → Prop} {result : Except ε α}
    {other : Except ε' β} {stop : ε → Stop} {stop' : ε' → Stop}
    (holds : ∀ value, result = .ok value → ∃ partner, other = .ok partner ∧ related value partner) :
    Follows related (orStop result stop) (orStop other stop') := by
  intro console value after run
  cases result with
  | error fault => cases run
  | ok found =>
      cases run
      obtain ⟨partner, rfl, pair⟩ := holds _ rfl
      exact ⟨partner, rfl, pair⟩

theorem follows_orStop_eq {ε : Type} (result : Except ε α) (stop other : ε → Stop) :
    Follows Eq (orStop result stop) (orStop result other) :=
  follows_orStop fun value found => ⟨value, found, rfl⟩

end FragmentImports.CommandLine
