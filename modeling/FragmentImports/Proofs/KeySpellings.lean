import FragmentImports.Settings.Reader
import Mathlib.Logic.Function.Basic

/-!
Settings do not depend on the spelling of their keys. A change of spellings renames the members of
an object, the readers find the same values under the new names, and what they tell of them stands
at the renamed places.
-/

namespace FragmentImports.Settings

def Issue.moved (move : List Step → List Step) (issue : Issue) : Issue :=
  { issue with location := move issue.location }

namespace Checked

variable {α β : Type} (move : List Step → List Step)

def moved : Checked α → Checked α
  | valid value => valid value
  | invalid found => invalid (found.map (Issue.moved move))

theorem issues_moved (checked : Checked α) :
    (checked.moved move).issues = checked.issues.map (Issue.moved move) := by
  cases checked <;> rfl

theorem moved_map (f : α → β) (checked : Checked α) :
    (checked.map f).moved move = (checked.moved move).map f := by
  cases checked <;> rfl

theorem moved_apply (f : Checked (α → β)) (checked : Checked α) :
    (f.apply checked).moved move = (f.moved move).apply (checked.moved move) := by
  cases f with
  | valid value => exact moved_map move value checked
  | invalid found =>
      rw [apply, moved, moved, apply, issues_moved, List.map_append]

theorem moved_functor_map (f : α → β) (checked : Checked α) :
    (f <$> checked).moved move = f <$> checked.moved move :=
  moved_map move f checked

theorem moved_seq (f : Checked (α → β)) (checked : Checked α) :
    (f <*> checked).moved move = f.moved move <*> checked.moved move :=
  moved_apply move f checked

theorem moved_andIssues (checked : Checked α) (further : List Issue) :
    (checked.andIssues further).moved move =
      (checked.moved move).andIssues (further.map (Issue.moved move)) := by
  cases further with
  | nil => rfl
  | cons issue rest =>
      change invalid ((checked.issues ++ issue :: rest).map (Issue.moved move)) =
        invalid ((checked.moved move).issues ++ (issue :: rest).map (Issue.moved move))
      rw [issues_moved, List.map_append]

theorem toExcept_moved (checked : Checked α) :
    (checked.moved move).toExcept = checked.toExcept.mapError (List.map (Issue.moved move)) := by
  cases checked <;> rfl

theorem each_mapIdx {read : Nat → α → Checked β} {change : Nat → α → α} {items : List α}
    (start : Nat) (alike : ∀ position, ∀ item ∈ items,
      read position (change position item) = (read position item).moved move) :
    each read start (items.mapIdx fun position item => change (start + position) item) =
      (each read start items).moved move := by
  induction items generalizing start with
  | nil => rfl
  | cons item rest ih =>
      have behind := ih (start + 1) fun position other member =>
        alike position other (List.mem_cons_of_mem _ member)
      simp only [Nat.add_assoc, Nat.add_comm 1] at behind
      rw [List.mapIdx_cons, each, each, moved_apply, moved_map, behind, Nat.add_zero,
        alike start item List.mem_cons_self]

end Checked

namespace Key

def spells (key : Key) (name : String) : Prop := name = key.camel ∨ name = key.snake

instance (key : Key) (name : String) : Decidable (key.spells name) :=
  inferInstanceAs (Decidable (_ ∨ _))

def otherSpelling (key : Key) (name : String) : String :=
  if name = key.camel then key.snake else key.camel

variable {key : Key} {name : String}

theorem spells_otherSpelling (key : Key) (name : String) : key.spells (key.otherSpelling name) := by
  rw [otherSpelling]
  split
  · exact Or.inr rfl
  · exact Or.inl rfl

theorem otherSpelling_otherSpelling (spelt : key.spells name) :
    key.otherSpelling (key.otherSpelling name) = name := by
  rcases spelt with rfl | rfl
  · rw [otherSpelling, otherSpelling, if_pos rfl]
    split
    · next same => exact same
    · rfl
  · by_cases same : key.snake = key.camel
    · simp [otherSpelling, same]
    · simp [otherSpelling, same]

end Key

def Apart (known : List Key) : Prop :=
  ∀ key ∈ known, ∀ other ∈ known, ∀ name ∈ [key.camel, key.snake], other.spells name → key = other

instance (known : List Key) : Decidable (Apart known) :=
  inferInstanceAs (Decidable (∀ key ∈ known, ∀ other ∈ known, ∀ name ∈ [key.camel, key.snake],
    other.spells name → key = other))

theorem apart_ofSettings : Apart Keys.ofSettings := by decide +kernel

theorem apart_ofPlugin : Apart Keys.ofPlugin := by decide +kernel

/-- The name of a member when some keys are spelt in the other way. -/
def respelt (changed : List Key) (name : String) : String :=
  match changed.find? fun key => key.spells name with
  | some key => key.otherSpelling name
  | none => name

section Respelt

variable {known changed : List Key} {key : Key} {name : String}

theorem Apart.eq_of_spells (apart : Apart known) {other : Key} (listed : key ∈ known)
    (present : other ∈ known) (spelt : key.spells name) (taken : other.spells name) :
    key = other := by
  refine apart key listed other present name ?_ taken
  rcases spelt with rfl | rfl <;> simp

variable (apart : Apart known) (inside : changed ⊆ known)

include apart inside

theorem respelt_of_changed (listed : key ∈ changed) (spelt : key.spells name) :
    respelt changed name = key.otherSpelling name := by
  have found : changed.find? (fun key => key.spells name) = some key := by
    cases hit : changed.find? fun key => key.spells name with
    | none => exact absurd (decide_eq_true spelt) (List.find?_eq_none.1 hit key listed)
    | some other =>
        have taken : other.spells name := by simpa using List.find?_some hit
        rw [apart.eq_of_spells (inside listed) (inside (List.mem_of_find?_eq_some hit)) spelt taken]
  rw [respelt, found]

theorem respelt_of_kept (listed : key ∈ known) (kept : key ∉ changed) (spelt : key.spells name) :
    respelt changed name = name := by
  have found : changed.find? (fun key => key.spells name) = none := by
    rw [List.find?_eq_none]
    intro other present taken
    have same := apart.eq_of_spells listed (inside present) spelt (by simpa using taken)
    exact kept (same ▸ present)
  rw [respelt, found]

theorem spells_respelt (listed : key ∈ known) (spelt : key.spells name) :
    key.spells (respelt changed name) := by
  by_cases member : key ∈ changed
  · rw [respelt_of_changed apart inside member spelt]
    exact key.spells_otherSpelling name
  · rwa [respelt_of_kept apart inside listed member spelt]

theorem respelt_respelt (name : String) : respelt changed (respelt changed name) = name := by
  cases hit : changed.find? fun key => key.spells name with
  | none => simp [respelt, hit]
  | some key =>
      have listed := List.mem_of_find?_eq_some hit
      have spelt : key.spells name := by simpa using List.find?_some hit
      rw [respelt_of_changed apart inside listed spelt,
        respelt_of_changed apart inside listed (key.spells_otherSpelling name),
        Key.otherSpelling_otherSpelling spelt]

theorem respelt_injective : Function.Injective (respelt changed) :=
  (show Function.Involutive (respelt changed) from respelt_respelt apart inside).injective

end Respelt

def respeltMembers (changed : List Key) (change : String → Json → Json) (members : Members) :
    Members :=
  members.map fun member => (respelt changed member.1, change member.1 member.2)

/-- No known key is given in both spellings. -/
def SpeltOnce (known : List Key) (members : Members) : Prop :=
  ∀ key ∈ known, ∀ name ∈ members.map Prod.fst, ∀ other ∈ members.map Prod.fst,
    key.spells name → key.spells other → name = other

instance (known : List Key) (members : Members) : Decidable (SpeltOnce known members) :=
  inferInstanceAs (Decidable (∀ key ∈ known, ∀ name ∈ members.map Prod.fst,
    ∀ other ∈ members.map Prod.fst, key.spells name → key.spells other → name = other))

theorem mem_names_of_lookup? {members : Members} {name : String} {value : Json}
    (found : Json.lookup? members name = some value) : name ∈ members.map Prod.fst :=
  List.mem_map_of_mem (f := Prod.fst) (Json.mem_of_lookup? found)

/-- A key that is given once is found under whichever spelling it is given. -/
theorem Key.find?_eq_some_iff {known : List Key} {key : Key} {members : Members}
    (once : SpeltOnce known members) (listed : key ∈ known) {name : String} {value : Json} :
    key.find? members = some (name, value) ↔
      key.spells name ∧ Json.lookup? members name = some value := by
  rw [Key.find?]
  cases first : Json.lookup? members key.camel with
  | some held =>
      constructor
      · rintro ⟨⟩
        exact ⟨Or.inl rfl, first⟩
      · rintro ⟨spelt, found⟩
        have same : name = key.camel :=
          once key listed _ (mem_names_of_lookup? found) _ (mem_names_of_lookup? first) spelt
            (Or.inl rfl)
        rw [same, first] at found
        rw [same, Option.some.inj found]
  | none =>
      constructor
      · intro found
        obtain ⟨held, second, same⟩ := Option.map_eq_some_iff.1 found
        obtain ⟨rfl, rfl⟩ := Prod.mk.inj same
        exact ⟨Or.inr rfl, second⟩
      · rintro ⟨spelt | spelt, found⟩
        · rw [spelt, first] at found
          nomatch found
        · rw [spelt] at found
          rw [found, spelt, Option.map_some]

section RespeltMembers

variable {known changed : List Key} {key : Key} {members : Members}
  {change : String → Json → Json}
variable (apart : Apart known) (inside : changed ⊆ known)

theorem names_respeltMembers :
    (respeltMembers changed change members).map Prod.fst =
      (members.map Prod.fst).map (respelt changed) := by
  simp [respeltMembers]

include apart inside

theorem lookup?_respeltMembers (name : String) :
    Json.lookup? (respeltMembers changed change members) (respelt changed name) =
      (Json.lookup? members name).map (change name) := by
  have alike : ((fun member : String × Json => decide (member.1 = respelt changed name)) ∘
      fun member : String × Json => (respelt changed member.1, change member.1 member.2)) =
        fun member => decide (member.1 = name) := by
    funext member
    simp only [Function.comp_apply, (respelt_injective apart inside).eq_iff]
  rw [Json.lookup?, Json.lookup?, respeltMembers, ← List.map_reverse, List.find?_map, alike]
  cases hit : members.reverse.find? fun member => decide (member.1 = name) with
  | none => rfl
  | some member =>
      have named : member.1 = name := by simpa using List.find?_some hit
      simp only [Option.map_some, named]

theorem lastMembers_respeltMembers :
    Json.lastMembers (respeltMembers changed change members) =
      respeltMembers changed change (Json.lastMembers members) := by
  induction members with
  | nil => rfl
  | cons member rest ih =>
      have repeated :
          ((respeltMembers changed change rest).any
            fun later => decide (later.1 = respelt changed member.1)) =
            rest.any fun later => decide (later.1 = member.1) := by
        simp only [respeltMembers, List.any_map, Function.comp_def,
          (respelt_injective apart inside).eq_iff]
      rw [respeltMembers, List.map_cons, ← respeltMembers, Json.lastMembers, Json.lastMembers,
        repeated, ih]
      split <;> rfl

theorem SpeltOnce.respelt (once : SpeltOnce known members) :
    SpeltOnce known (respeltMembers changed change members) := by
  intro key listed name present other also spelt taken
  rw [names_respeltMembers] at present also
  obtain ⟨name, first, rfl⟩ := List.mem_map.1 present
  obtain ⟨other, second, rfl⟩ := List.mem_map.1 also
  have back := spells_respelt apart inside listed spelt
  have further := spells_respelt apart inside listed taken
  rw [respelt_respelt apart inside] at back further
  rw [once key listed name first other second back further]

theorem find?_respeltMembers (once : SpeltOnce known members) (listed : key ∈ known) :
    key.find? (respeltMembers changed change members) =
      (key.find? members).map fun found => (respelt changed found.1, change found.1 found.2) := by
  ext ⟨name, value⟩
  rw [Key.find?_eq_some_iff (once.respelt apart inside) listed]
  constructor
  · rintro ⟨spelt, found⟩
    -- the name before the change is the changed name changed back
    have old : some value = (Json.lookup? members (respelt changed name)).map
        (change (respelt changed name)) := by
      rw [← lookup?_respeltMembers apart inside, respelt_respelt apart inside, found]
    obtain ⟨held, first, rfl⟩ := Option.map_eq_some_iff.1 old.symm
    have hit := (Key.find?_eq_some_iff once listed).2
      ⟨spells_respelt apart inside listed spelt, first⟩
    rw [hit, Option.map_some, respelt_respelt apart inside]
  · intro found
    obtain ⟨⟨first, held⟩, hit, same⟩ := Option.map_eq_some_iff.1 found
    obtain ⟨rfl, rfl⟩ := Prod.mk.inj same
    obtain ⟨spelt, old⟩ := (Key.find?_eq_some_iff once listed).1 hit
    exact ⟨spells_respelt apart inside listed spelt,
      by rw [lookup?_respeltMembers apart inside, old, Option.map_some]⟩

end RespeltMembers

end FragmentImports.Settings
