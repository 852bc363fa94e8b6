import LtiPlatform.Settings.Layers
import LtiPlatform.Proofs.OrderedMap

namespace LtiPlatform

namespace Setting

/-- Neither a table nor a list, and something. -/
def IsSimple : Setting → Prop
  | switch _ | integer _ | decimal _ | text _ => True
  | _ => False

/-- The value at the end of names that lead from table to table; nothing if there is no such member. -/
def found (setting : Setting) (name : String) : Setting := (setting.members.get? name).getD absent

/-- The second configuration has the value at the end of the names. Beside that it has what the first one has,
where tables stand on the way and nothing else. -/
def HasOver (value : Setting) : List String → Setting → Setting → Prop
  | [], _, above => above = value
  | name :: names, below, above =>
    (∃ members, above = table members) ∧
      (∀ other, other ≠ name → above.members.get? other = below.members.get? other) ∧
      HasOver value names (below.found name) (above.found name)

/-- The path leaves the way along the names at a member of another name. -/
def LeavesWay : List String → List PathStep → Prop
  | name :: names, .member other :: path => other ≠ name ∨ LeavesWay names path
  | _, _ => False

variable {value incoming below above : Setting} {names : List String} {path : List PathStep}

theorem joined_simple (simple : value.IsSimple) (present : Setting) : joined present value = value := by
  cases value with
  | switch _ | integer _ | decimal _ | text _ => rfl
  | absent | list _ | table _ => cases simple

theorem putAt_member (incoming : Setting) (name : String) (path : List PathStep) (present : Setting) :
    putAt incoming (.member name :: path) present =
      table (Entries.insert name (putAt incoming path (present.found name)) present.members) := rfl

theorem get?_table_insert (name other : String) (inner : Setting) (members : Entries Setting) :
    (table (Entries.insert name inner members)).members.get? other =
      if name = other then some inner else members.get? other :=
  Entries.get?_insert name inner

@[simp]
theorem found_table_insert (name other : String) (inner present : Setting) :
    (table (Entries.insert name inner present.members)).found other =
      if name = other then inner else present.found other := by
  rw [found, get?_table_insert]
  split <;> rfl

/-- A simple value that is set at the end of names stands there afterwards. -/
theorem hasOver_putAt (simple : value.IsSimple) (names : List String) (below : Setting) :
    HasOver value names below (putAt value (names.map .member) below) := by
  induction names generalizing below with
  | nil => exact joined_simple simple below
  | cons name names ih =>
    rw [List.map_cons, putAt_member]
    refine ⟨⟨_, rfl⟩, fun other differs => ?_, ?_⟩
    · rw [get?_table_insert, if_neg differs.symm]
    · simpa using ih (below.found name)

/-- What is set elsewhere is set alike in both configurations. -/
theorem HasOver.putAt (held : HasOver value names below above) (leaves : LeavesWay names path)
    (incoming : Setting) :
    HasOver value names (putAt incoming path below) (putAt incoming path above) := by
  induction names generalizing below above path with
  | nil => cases leaves
  | cons name names ih =>
    obtain ⟨_, elsewhere, inner⟩ := held
    cases path with
    | nil => cases leaves
    | cons step path =>
      cases step with
      | item place => cases leaves
      | member other =>
        rw [putAt_member, putAt_member]
        refine ⟨⟨_, rfl⟩, fun third differs => ?_, ?_⟩
        · rw [get?_table_insert, get?_table_insert, elsewhere third differs]
          by_cases same : other = third
          · subst same
            rw [if_pos rfl, if_pos rfl, found, found, elsewhere other differs]
          · rw [if_neg same, if_neg same]
        · by_cases same : other = name
          · subst same
            simpa using ih inner (leaves.resolve_left fun differs => differs rfl)
          · simpa [same] using inner

/-- However many values are set elsewhere, the value stays over what would be there without it. -/
theorem HasOver.layer {values : List (String × Setting)} (held : HasOver value names below above)
    (leave : ∀ later ∈ values, LeavesWay names (PathStep.ofText later.1)) :
    HasOver value names (layer values below) (layer values above) := by
  induction values generalizing below above with
  | nil => exact held
  | cons first values ih =>
    obtain ⟨here, later⟩ := List.forall_mem_cons.mp leave
    exact ih (held.putAt here first.2) later

@[simp]
theorem layer_append (values more : List (String × Setting)) (setting : Setting) :
    Setting.layer (values ++ more) setting = Setting.layer more (Setting.layer values setting) :=
  List.foldl_append

@[simp]
theorem ofEnvironment_append (start : String) (before after : Environment) :
    ofEnvironment start (before ++ after) = ofEnvironment start before ++ ofEnvironment start after :=
  List.filterMap_append

/-- The path at which a variable sets its value, step by step. -/
def variableSteps? (start name : String) : Option (List PathStep) :=
  (variablePath? start name).map PathStep.ofText

theorem leavesWay_of_mem_ofEnvironment {start : String} {environment : Environment}
    (leave : ∀ entry ∈ environment, ∀ path, variableSteps? start entry.1 = some path →
      LeavesWay names path) :
    ∀ later ∈ ofEnvironment start environment, LeavesWay names (PathStep.ofText later.1) := by
  intro later member
  obtain ⟨entry, among, sets⟩ := List.mem_filterMap.mp member
  obtain ⟨path, isPath, rfl⟩ := Option.map_eq_some_iff.mp sets
  exact leave entry among _ (Option.map_eq_some_iff.mpr ⟨path, isPath, rfl⟩)

/-- A variable with a simple value has its value at the end of the names that it sets, and the configuration
is otherwise as it would be without it, if all variables behind it set something elsewhere. -/
theorem hasOver_layered {start name text : String} {before after : Environment}
    (sets : variableSteps? start name = some (names.map .member)) (simple : (ofText text).IsSimple)
    (leave : ∀ entry ∈ after, ∀ path, variableSteps? start entry.1 = some path → LeavesWay names path)
    (below : Setting) :
    HasOver (ofText text) names (layer (ofEnvironment start (before ++ after)) below)
      (layer (ofEnvironment start (before ++ (name, text) :: after)) below) := by
  obtain ⟨path, isPath, steps⟩ := Option.map_eq_some_iff.mp sets
  have one : ofEnvironment start ((name, text) :: after) = (path, ofText text) :: ofEnvironment start after := by
    simp only [ofEnvironment, List.filterMap_cons, isPath, Option.map_some]
  simp only [ofEnvironment_append, one, layer_append]
  have held := hasOver_putAt simple names (layer (ofEnvironment start before) below)
  rw [← steps] at held
  exact held.layer (leavesWay_of_mem_ofEnvironment leave)

end Setting

end LtiPlatform
