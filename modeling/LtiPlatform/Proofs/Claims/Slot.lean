import Mathlib.Data.List.Induction
import Mathlib.Tactic.Common
import LtiPlatform.Proofs.Claims.Table
import LtiPlatform.Proofs.Json.Same

namespace LtiPlatform

/-- The value at the place, within the claim that holds it. -/
def Place.within? (place : Place) (value : Json) : Option Json :=
  match place.member with
  | none => some value
  | some name => value.member? name

/-- The claim once the value stands at the place, for what the claim held before. -/
def Place.fill (place : Place) (held : Option Json) (value : Json) : Json :=
  match place.member with
  | none => value
  | some name => .ofMap (((held.bind Json.object?).getD ∅).insert name value)

namespace Place

variable {place other : Place} {held : Option Json} {value : Json}

@[simp]
theorem within?_fill_self : place.within? (place.fill held value) = some value := by
  obtain ⟨claim, member⟩ := place
  cases member with
  | none => rfl
  | some name => simp [within?, fill]

theorem within?_fill_of_ne {name other : String} (different : name ≠ other) (claim : String) :
    (Place.mk claim (some other)).within? ((Place.mk claim (some name)).fill held value) =
      held.bind (Place.mk claim (some other)).within? := by
  refine (Json.member?_ofMap _ _).trans ((OrderedMap.get?_insert_of_ne different).trans ?_)
  cases held with
  | none => rfl
  | some value =>
    simp only [Option.bind_some, within?, Json.member?]
    cases value.object? <;> rfl

end Place

/-- A rule of the table, or a member of an open group whose parameter no rule has taken. -/
inductive Slot where
  | ruled (rule : Rule) (member : rule ∈ Rule.table)
  | free (group : OpenGroup) (name : String)
      (unmapped : Rule.ofParameter? (group.parameter name) = none)

namespace Slot

/-- The slot of the content items. -/
def contentItems : Slot := .ruled ⟨"content_items", "dl", .claim, "content_items", .contentItems⟩ (by decide)

def parameter : Slot → String
  | ruled rule _ => rule.parameter
  | free group name _ => group.parameter name

def place : Slot → Place
  | ruled rule _ => rule.place
  | free group name _ => ⟨group.claim, some name⟩

/-- The value for the text of the parameter. A member without a name is not taken over. -/
def read? : Slot → String → Option Json
  | ruled rule _, text => rule.kind.read? text
  | free _ name _, text => if name = "" then none else some (.string text)

/-- The text of the parameter for a value. -/
def write? : Slot → Json → Option String
  | ruled rule _, value => rule.kind.write? value
  | free .., value => value.flatText?

variable {slot other : Slot} {text : String} {value : Json}

theorem parameter_injective (same : slot.parameter = other.parameter) : slot = other := by
  cases slot with
  | ruled rule member =>
    cases other with
    | ruled rule' member' =>
      cases Rule.parameter_injective member member' same
      rfl
    | free group name unmapped =>
      rw [← show rule.parameter = group.parameter name from same,
        Rule.ofParameter?_eq_some_iff.mpr ⟨member, rfl⟩] at unmapped
      cases unmapped
  | free group name unmapped =>
    cases other with
    | ruled rule member =>
      rw [show group.parameter name = rule.parameter from same,
        Rule.ofParameter?_eq_some_iff.mpr ⟨member, rfl⟩] at unmapped
      cases unmapped
    | free group' name' unmapped' =>
      obtain ⟨rfl, rfl⟩ := OpenGroup.parameter_injective same
      rfl

theorem place_injective (same : slot.place = other.place) : slot = other := by
  have sameClaim : slot.place.claim = other.place.claim := congrArg Place.claim same
  cases slot with
  | ruled rule member =>
    cases other with
    | ruled rule' member' =>
      cases Rule.place_injective member member' same
      rfl
    | free group name unmapped => exact absurd sameClaim (Rule.claimName_ne_open member group)
  | free group name unmapped =>
    cases other with
    | ruled rule member => exact absurd sameClaim.symm (Rule.claimName_ne_open member group)
    | free group' name' unmapped' =>
      cases OpenGroup.claim_injective sameClaim
      cases Option.some.inj (congrArg Place.member same)
      rfl

/-- No slot is a claim that another slot is a member of. -/
theorem member_eq_none_of_claim (same : slot.place.claim = other.place.claim)
    (alone : slot.place.member = none) : other.place.member = none := by
  cases slot with
  | free group name unmapped => cases alone
  | ruled rule member =>
    cases other with
    | ruled rule' member' => exact Rule.member?_eq_none_of_claimName member member' same alone
    | free group name unmapped => exact absurd same (Rule.claimName_ne_open member group)

/-- Two slots of one claim are members of it under different names. -/
theorem members_of_claim (different : slot ≠ other) (same : slot.place.claim = other.place.claim) :
    ∃ name name', slot.place = ⟨other.place.claim, some name⟩ ∧
      other.place = ⟨other.place.claim, some name'⟩ ∧ name ≠ name' := by
  cases named : slot.place.member with
  | none =>
    have alone := member_eq_none_of_claim same named
    have samePlace : slot.place = other.place := by
      rw [show slot.place = ⟨slot.place.claim, slot.place.member⟩ from rfl, same, named, ← alone]
    exact absurd (place_injective samePlace) different
  | some name =>
    cases named' : other.place.member with
    | none =>
      rw [member_eq_none_of_claim same.symm named'] at named
      cases named
    | some name' =>
      refine ⟨name, name', ?_, ?_, ?_⟩
      · rw [← same, ← named]
      · rw [← named']
      · rintro rfl
        refine different (place_injective ?_)
        rw [show slot.place = ⟨slot.place.claim, slot.place.member⟩ from rfl, same, named, ← named']

@[simp]
theorem ofParameter?_parameter (slot : Slot) (text : String) :
    Claims.ofParameter? slot.parameter text = (slot.read? text).map fun value => (slot.place, value) := by
  cases slot with
  | ruled rule member =>
    have found : Rule.ofParameter? rule.parameter = some rule :=
      Rule.ofParameter?_eq_some_iff.mpr ⟨member, rfl⟩
    simp only [Claims.ofParameter?, parameter, found, read?, place]
  | free group name unmapped =>
    have read : ∀ other : OpenGroup, other.member? (group.parameter name) =
        if other = group ∧ name ≠ "" then some name else none := by
      intro other
      refine Option.ext fun found => ?_
      rw [OpenGroup.member?_eq_some_iff, Option.ite_none_right_eq_some]
      constructor
      · rintro ⟨nonempty, same⟩
        obtain ⟨rfl, rfl⟩ := OpenGroup.parameter_injective same
        exact ⟨⟨rfl, nonempty⟩, rfl⟩
      · rintro ⟨⟨rfl, nonempty⟩, same⟩
        cases same
        exact ⟨nonempty, rfl⟩
    simp only [Claims.ofParameter?, parameter, unmapped, read, read?, place]
    by_cases empty : name = ""
    · simp [empty]
    · cases group <;> simp [empty]

theorem exists_of_ofParameter? {parameter : String} {place : Place}
    (read : Claims.ofParameter? parameter text = some (place, value)) :
    ∃ slot : Slot, slot.parameter = parameter ∧ slot.place = place ∧ slot.read? text = some value := by
  have known : ∃ slot : Slot, slot.parameter = parameter := by
    cases found : Rule.ofParameter? parameter with
    | some rule =>
      obtain ⟨member, same⟩ := Rule.ofParameter?_eq_some_iff.mp found
      exact ⟨.ruled rule member, same⟩
    | none =>
      have opened : ∃ (group : OpenGroup) (name : String), group.member? parameter = some name := by
        simp only [Claims.ofParameter?, found] at read
        split at read
        · exact ⟨.custom, _, by assumption⟩
        · exact ⟨.ext, _, by assumption⟩
        · cases read
      obtain ⟨group, name, named⟩ := opened
      obtain ⟨_, rfl⟩ := OpenGroup.member?_eq_some_iff.mp named
      exact ⟨.free group name found, rfl⟩
  obtain ⟨slot, rfl⟩ := known
  rw [ofParameter?_parameter] at read
  obtain ⟨value', read, same⟩ := Option.map_eq_some_iff.mp read
  cases same
  exact ⟨slot, rfl, rfl, read⟩

/-- The members of an open group's claim are what its parameters without a rule say. -/
theorem eq_free {group : OpenGroup} (same : slot.place.claim = group.claim) :
    ∃ name unmapped, slot = .free group name unmapped := by
  cases slot with
  | ruled rule member => exact absurd same (Rule.claimName_ne_open member group)
  | free own name unmapped =>
    cases OpenGroup.claim_injective same
    exact ⟨name, unmapped, rfl⟩

/-- A custom parameter says something in the custom claim, or it has a rule. -/
theorem of_custom_parameter {name : String} (custom : slot.parameter = OpenGroup.custom.parameter name) :
    (∃ unmapped, slot = .free .custom name unmapped) ∨
      (Rule.ofParameter? (OpenGroup.custom.parameter name)).isSome ∧
        slot.place.claim ≠ OpenGroup.custom.claim := by
  cases slot with
  | ruled rule member =>
    refine .inr ⟨?_, Rule.claimName_ne_open member .custom⟩
    rw [Rule.ofParameter?_eq_some_iff.mpr ⟨member, custom⟩, Option.isSome_some]
  | free group other unmapped =>
    obtain ⟨rfl, rfl⟩ := OpenGroup.parameter_injective custom
    exact .inl ⟨unmapped, rfl⟩

/-- What stands in a claim of its own is no object. -/
theorem object?_of_read? (alone : slot.place.member = none) (read : slot.read? text = some value) :
    value.object? = none := by
  cases slot with
  | free group name unmapped => cases alone
  | ruled rule member =>
    simp only [read?] at read
    cases kind : rule.kind with
    | contentItems =>
      rw [kind, ValueKind.read?, contentItemArray?] at read
      split at read
      · cases read
        rfl
      · cases read
    | _ =>
      rw [kind] at read
      cases read
      rfl

end Slot

namespace Claims

/-- The members of a claim; there are none where it is absent or no object. -/
def members (claims : Claims) (name : String) : OrderedMap Json :=
  ((claims.get? name).bind Json.object?).getD ∅

theorem at?_eq_bind (claims : Claims) (place : Place) :
    claims.at? place = (claims.get? place.claim).bind place.within? := by
  obtain ⟨claim, member⟩ := place
  cases member with
  | none => exact (Option.bind_fun_some _).symm
  | some name => rfl

theorem at?_member_eq_some_iff {claims : Claims} {claim name : String} {value : Json} :
    claims.at? ⟨claim, some name⟩ = some value ↔
      ∃ whole, claims.get? claim = some whole ∧ whole.member? name = some value :=
  Option.bind_eq_some_iff

end Claims

namespace Parameters

variable {claim parameter text name : String} {place : Place} {value : Json}

theorem ofPlace?_eq_some_iff : ofPlace? place value = some (parameter, text) ↔
    ∃ (rule : Rule) (member : rule ∈ Rule.table), rule.place = place ∧ rule.parameter = parameter ∧
      (Slot.ruled rule member).write? value = some text := by
  simp only [ofPlace?, Option.bind_eq_some_iff, Rule.ofPlace?_eq_some_iff, Option.map_eq_some_iff,
    Prod.mk.injEq]
  constructor
  · rintro ⟨rule, ⟨member, same⟩, _, text, named, rfl⟩
    exact ⟨rule, member, same, named, text⟩
  · rintro ⟨rule, member, same, named, text⟩
    exact ⟨rule, ⟨member, same⟩, _, text, named, rfl⟩

theorem ofOpenMember?_eq_some_iff {group : OpenGroup} :
    ofOpenMember? group name value = some (parameter, text) ↔
      ∃ unmapped, (Slot.free group name unmapped).parameter = parameter ∧
        (Slot.free group name unmapped).write? value = some text := by
  simp only [ofOpenMember?]
  split
  · next rule found => simp [found]
  · next unmapped => simp [unmapped, Slot.parameter, Slot.write?, and_comm]

/-- The parameter for a value in a place. -/
def writtenAt? (place : Place) (value : Json) : Option (String × String) :=
  match place.member, OpenGroup.ofClaim? place.claim with
  | some name, some group => ofOpenMember? group name value
  | _, _ => ofPlace? place value

/-- The place is a slot's, and its parameter gets the slot's text. -/
theorem writtenAt?_eq_some_iff : writtenAt? place value = some (parameter, text) ↔
    ∃ slot : Slot, slot.place = place ∧ slot.parameter = parameter ∧ slot.write? value = some text := by
  unfold writtenAt?
  split
  · next name group named opened =>
    have claimed := OpenGroup.ofClaim?_eq_some_iff.mp opened
    rw [ofOpenMember?_eq_some_iff]
    constructor
    · rintro ⟨unmapped, written⟩
      refine ⟨.free group name unmapped, ?_, written⟩
      rw [Slot.place, claimed, ← named]
    · rintro ⟨slot, rfl, written⟩
      obtain ⟨_, unmapped, rfl⟩ := slot.eq_free claimed.symm
      cases named
      exact ⟨unmapped, written⟩
  · next closed =>
    rw [ofPlace?_eq_some_iff]
    constructor
    · rintro ⟨rule, member, placed, written⟩
      exact ⟨.ruled rule member, placed, written⟩
    · rintro ⟨slot, rfl, written⟩
      cases slot with
      | ruled rule member => exact ⟨rule, member, rfl, written⟩
      | free group name unmapped => exact absurd (OpenGroup.ofClaim?_eq_some_iff.mpr rfl) (closed name group rfl)

theorem ofClaim_of_direct {rule : Rule} (direct : Rule.ofPlace? ⟨claim, none⟩ = some rule) :
    ofClaim claim value = (writtenAt? ⟨claim, none⟩ value).toList := by
  rw [ofClaim, direct]
  rfl

theorem ofClaim_of_group (group : Rule.ofPlace? ⟨claim, none⟩ = none) : ofClaim claim value =
    (value.object?.getD ∅).entries.filterMap fun member => writtenAt? ⟨claim, some member.1⟩ member.2 := by
  simp only [ofClaim, group, writtenAt?]
  cases OpenGroup.ofClaim? claim <;> rfl

/-- Some slot of the claim has the text for the parameter. -/
def Written (claim : String) (value : Json) (parameter text : String) : Prop :=
  ∃ slot : Slot, slot.parameter = parameter ∧ slot.place.claim = claim ∧
    (slot.place.within? value).bind slot.write? = some text

/-- What is written for a claim are the texts of its slots. -/
theorem mem_ofClaim_iff :
    (parameter, text) ∈ ofClaim claim value ↔ Written claim value parameter text := by
  cases direct : Rule.ofPlace? ⟨claim, none⟩ with
  | some rule =>
    obtain ⟨member, placed⟩ := Rule.ofPlace?_eq_some_iff.mp direct
    have alone : ∀ slot : Slot, slot.place.claim = claim → slot.place = ⟨claim, none⟩ := by
      rintro slot rfl
      have sameClaim : (Slot.ruled rule member).place.claim = slot.place.claim := by rw [Slot.place, placed]
      exact congrArg (Place.mk _) (Slot.member_eq_none_of_claim sameClaim (by rw [Slot.place, placed]))
    rw [ofClaim_of_direct direct, Option.mem_toList, writtenAt?_eq_some_iff]
    constructor
    · rintro ⟨slot, place, named, written⟩
      exact ⟨slot, named, congrArg Place.claim place, by rwa [place]⟩
    · rintro ⟨slot, named, sameClaim, written⟩
      rw [alone slot sameClaim] at written
      exact ⟨slot, alone slot sameClaim, named, written⟩
  | none =>
    simp only [ofClaim_of_group direct, List.mem_filterMap, Prod.exists, Json.mem_members_iff,
      writtenAt?_eq_some_iff]
    constructor
    · rintro ⟨name, held, found, slot, place, named, written⟩
      refine ⟨slot, named, congrArg Place.claim place, ?_⟩
      simpa only [place, Place.within?, found, Option.bind_some] using written
    · rintro ⟨slot, named, rfl, written⟩
      obtain ⟨held, found, written⟩ := Option.bind_eq_some_iff.mp written
      cases place : slot.place.member with
      | some name =>
        rw [Place.within?, place] at found
        exact ⟨name, held, found, slot, congrArg (Place.mk _) place, named, written⟩
      | none =>
        cases slot with
        | free group name unmapped => cases place
        | ruled rule member =>
          have mapped := Rule.ofPlace?_eq_some_iff.mpr ⟨member, rfl⟩
          rw [show rule.place = ⟨(Slot.ruled rule member).place.claim, none⟩ from
            congrArg (Place.mk _) place, direct] at mapped
          cases mapped

/-- What the parameters of a claim set say in a slot is what the claims say in its place. -/
@[simp]
theorem get?_ofClaims (claims : Claims) (slot : Slot) :
    (ofClaims claims).get? slot.parameter = (claims.at? slot.place).bind slot.write? := by
  have mem_iff : ∀ text, (slot.parameter, text) ∈
      (claims.entries.flatMap fun claim => ofClaim claim.1 claim.2) ↔
      (claims.at? slot.place).bind slot.write? = some text := by
    intro text
    simp only [List.mem_flatMap, Prod.exists, OrderedMap.mem_entries_iff, mem_ofClaim_iff, Written,
      Claims.at?_eq_bind, Option.bind_assoc]
    constructor
    · rintro ⟨claim, value, held, other, same, rfl, written⟩
      cases Slot.parameter_injective same
      rw [held, Option.bind_some, written]
    · intro written
      obtain ⟨value, held, written⟩ := Option.bind_eq_some_iff.mp written
      exact ⟨_, value, held, slot, rfl, rfl, written⟩
  refine Option.ext fun text => ?_
  rw [ofClaims, OrderedMap.get?_ofList_eq_some_iff, mem_iff]
  intro first second member member'
  rw [mem_iff] at member member'
  exact Option.some.inj (member.symm.trans member')

end Parameters

namespace Claims

variable {claims : Claims} {slot other : Slot} {value : Json}

/-- The claim is that of a slot, or an object that has members and none but those of slots. -/
def IsShaped (claim : String) (value : Json) : Prop :=
  (∃ slot : Slot, slot.place = ⟨claim, none⟩) ∨
  ∃ members, value.object? = some members ∧ (∃ name, (members.get? name).isSome) ∧
    ∀ name, (members.get? name).isSome → ∃ slot : Slot, slot.place = ⟨claim, some name⟩

def Shaped (claims : Claims) : Prop :=
  ∀ claim value, claims.get? claim = some value → IsShaped claim value

theorem get?_put (claims : Claims) (place : Place) (value : Json) (name : String) :
    (claims.put place value).get? name =
      if place.claim = name then some (place.fill (claims.get? place.claim) value)
      else claims.get? name := by
  obtain ⟨claim, member⟩ := place
  cases member with
  | none => exact OrderedMap.get?_insert
  | some member => exact OrderedMap.get?_insert

@[simp]
theorem at?_put_self : (claims.put slot.place value).at? slot.place = some value := by
  simp [at?_eq_bind, get?_put]

theorem at?_put_of_ne (different : slot ≠ other) :
    (claims.put slot.place value).at? other.place = claims.at? other.place := by
  rw [at?_eq_bind, at?_eq_bind, get?_put]
  split
  · next same =>
    obtain ⟨name, name', placed, placed', apart⟩ := Slot.members_of_claim different same
    rw [same, placed, placed', Option.bind_some, Place.within?_fill_of_ne apart]
  · rfl

theorem Shaped.put (shaped : claims.Shaped) (slot : Slot) (value : Json) :
    (claims.put slot.place value).Shaped := by
  intro claim held found
  rw [get?_put] at found
  split at found
  · next same =>
    cases found
    cases named : slot.place.member with
    | none => exact .inl ⟨slot, by rw [← same, ← named]⟩
    | some name =>
      have placed : slot.place = ⟨claim, some name⟩ := by rw [← same, ← named]
      refine .inr ⟨((claims.get? claim).bind Json.object?).getD ∅ |>.insert name value, ?_, ?_, ?_⟩
      · rw [placed]
        exact Json.object?_ofMap _
      · exact ⟨name, by rw [OrderedMap.get?_insert_self]; rfl⟩
      · intro member present
        by_cases here : name = member
        · exact ⟨slot, by rw [placed, here]⟩
        · rw [OrderedMap.get?_insert_of_ne here] at present
          cases before : claims.get? claim with
          | none =>
            rw [before] at present
            cases present
          | some old =>
            rcases shaped claim old before with ⟨direct, alone⟩ | ⟨members, isObject, _, known⟩
            · have sameClaim : direct.place.claim = slot.place.claim := by rw [alone, placed]
              have := Slot.member_eq_none_of_claim sameClaim (by rw [alone])
              rw [placed] at this
              cases this
            · rw [before, Option.bind_some, isObject, Option.getD_some] at present
              exact known member present
  · exact shaped claim held found

/-- One parameter taken over. -/
def add (claims : Claims) (entry : String × String) : Claims :=
  match ofParameter? entry.1 entry.2 with
  | none => claims
  | some (place, value) => claims.put place value

theorem ofParameters_eq_foldl (parameters : Parameters) :
    ofParameters parameters = parameters.entries.foldl add ∅ := rfl

/-- Taking over parameters of different names leaves in every slot what its own parameter says. -/
theorem foldl_add {entries : Entries String} (distinct : entries.keys.Nodup) :
    Shaped (entries.foldl add ∅) ∧ ∀ slot : Slot,
      at? (entries.foldl add ∅) slot.place = (entries.get? slot.parameter).bind slot.read? := by
  induction entries using List.reverseRecOn with
  | nil =>
    refine ⟨fun claim value found => (by cases found), fun slot => ?_⟩
    rw [at?_eq_bind]
    rfl
  | append_singleton before entry ih =>
    obtain ⟨parameter, text⟩ := entry
    rw [Entries.keys, List.map_append, List.nodup_append] at distinct
    obtain ⟨shaped, said⟩ := ih distinct.1
    have fresh : Entries.get? before parameter = none :=
      Entries.get?_eq_none_iff.mpr fun member => distinct.2.2 _ member _ (List.mem_singleton_self _) rfl
    rw [List.foldl_append, List.foldl_cons, List.foldl_nil, add]
    cases read : ofParameter? parameter text with
    | none =>
      refine ⟨shaped, fun slot => ?_⟩
      rw [said, Entries.get?_append, Entries.get?_cons]
      by_cases same : parameter = slot.parameter
      · subst same
        rw [Slot.ofParameter?_parameter, Option.map_eq_none_iff] at read
        rw [fresh, if_pos rfl]
        exact read.symm
      · rw [if_neg same, Entries.get?_nil, Option.or_none]
    | some placed =>
      obtain ⟨place, value⟩ := placed
      obtain ⟨own, rfl, rfl, value⟩ := Slot.exists_of_ofParameter? read
      refine ⟨shaped.put own _, fun slot => ?_⟩
      rw [Entries.get?_append, Entries.get?_cons]
      by_cases same : own = slot
      · subst same
        simp [fresh, value]
      · have apart : own.parameter ≠ slot.parameter := fun equal => same (Slot.parameter_injective equal)
        simp [at?_put_of_ne same, said, apart]

theorem shaped_ofParameters (parameters : Parameters) : (ofParameters parameters).Shaped :=
  (foldl_add parameters.distinct).1

/-- What the claims for parameters say in a place is what its parameter says. -/
@[simp]
theorem at?_ofParameters (parameters : Parameters) (slot : Slot) :
    (ofParameters parameters).at? slot.place = (parameters.get? slot.parameter).bind slot.read? :=
  (foldl_add parameters.distinct).2 slot

/-- The same claims, each with the same value. -/
def Same (claims others : Claims) : Prop :=
  ∀ name, Option.Rel Json.Same (claims.get? name) (others.get? name)

theorem Shaped.exists_slot (shaped : claims.Shaped) {name : String} (held : claims.get? name = some value) :
    ∃ slot : Slot, slot.place.claim = name ∧ (claims.at? slot.place).isSome := by
  rcases shaped name value held with ⟨slot, placed⟩ | ⟨members, isObject, ⟨member, present⟩, known⟩
  · refine ⟨slot, by rw [placed], ?_⟩
    rw [placed, at?, held, Option.isSome_some]
  · obtain ⟨slot, placed⟩ := known member present
    refine ⟨slot, by rw [placed], ?_⟩
    simpa only [placed, at?, held, Option.bind_some, Json.member?, isObject] using present

theorem Shaped.get?_eq_none (shaped : claims.Shaped) {name : String}
    (each : ∀ slot : Slot, slot.place.claim = name → claims.at? slot.place = none) :
    claims.get? name = none := by
  cases held : claims.get? name with
  | none => rfl
  | some value =>
    obtain ⟨slot, same, present⟩ := shaped.exists_slot held
    rw [each slot same] at present
    cases present

theorem at?_eq_none {place : Place} (absent : claims.get? place.claim = none) :
    claims.at? place = none := by
  rw [at?_eq_bind, absent, Option.bind_none]

/-- Two values of a claim are the same if they say the same in each of its slots. -/
theorem IsShaped.same {name : String} {value value' : Json} (shaped : IsShaped name value)
    (shaped' : IsShaped name value')
    (each : ∀ slot : Slot, slot.place.claim = name →
      Option.Rel Json.Same (slot.place.within? value) (slot.place.within? value')) :
    Json.Same value value' := by
  have direct : ∀ slot : Slot, slot.place = ⟨name, none⟩ → Json.Same value value' := by
    intro slot placed
    have same := each slot (by rw [placed])
    rw [placed] at same
    exact Option.rel_some_some.mp same
  rcases shaped with ⟨slot, placed⟩ | ⟨members, isObject, _, known⟩
  · exact direct slot placed
  rcases shaped' with ⟨slot, placed⟩ | ⟨members', isObject', _, known'⟩
  · exact direct slot placed
  refine Json.Same.of_object? isObject isObject' fun member => ?_
  by_cases ruled : ∃ slot : Slot, slot.place = ⟨name, some member⟩
  · obtain ⟨slot, placed⟩ := ruled
    have same := each slot (by rw [placed])
    rw [placed] at same
    simpa only [Place.within?, Json.member?, isObject, isObject', Option.bind_some] using same
  · have absent : members.get? member = none :=
      Option.not_isSome_iff_eq_none.mp fun present => ruled (known member present)
    have absent' : members'.get? member = none :=
      Option.not_isSome_iff_eq_none.mp fun present => ruled (known' member present)
    rw [absent, absent']
    exact .none

/-- A claim is the same if it says the same in each of its slots. -/
theorem Shaped.rel_get? {others : Claims} (shaped : claims.Shaped) (shaped' : others.Shaped) {name : String}
    (each : ∀ slot : Slot, slot.place.claim = name →
      Option.Rel Json.Same (claims.at? slot.place) (others.at? slot.place)) :
    Option.Rel Json.Same (claims.get? name) (others.get? name) := by
  cases held : claims.get? name with
  | none =>
    have absent : others.get? name = none := by
      refine shaped'.get?_eq_none fun slot same => ?_
      subst same
      have same := each slot rfl
      rw [at?_eq_none held] at same
      generalize others.at? slot.place = found at same
      cases same
      rfl
    rw [absent]
    exact .none
  | some value =>
    cases held' : others.get? name with
    | none =>
      obtain ⟨slot, rfl, present⟩ := shaped.exists_slot held
      have same := each slot rfl
      rw [at?_eq_none held'] at same
      generalize claims.at? slot.place = found at same present
      cases same
      cases present
    | some value' =>
      refine .some ((shaped name value held).same (shaped' name value' held') fun slot same => ?_)
      subst same
      have same := each slot rfl
      rwa [at?_eq_bind, at?_eq_bind, held, held', Option.bind_some, Option.bind_some] at same

theorem Shaped.same {others : Claims} (shaped : claims.Shaped) (shaped' : others.Shaped)
    (each : ∀ slot : Slot, Option.Rel Json.Same (claims.at? slot.place) (others.at? slot.place)) :
    claims.Same others :=
  fun _ => shaped.rel_get? shaped' fun slot _ => each slot

end Claims

end LtiPlatform
