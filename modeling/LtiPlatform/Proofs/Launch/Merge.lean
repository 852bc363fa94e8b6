import LtiPlatform.Launch.Authentication
import LtiPlatform.Proofs.Claims.Slot

namespace LtiPlatform

/-- What a claim becomes when another is merged into it. -/
def Json.joined (existing? : Option Json) (incoming : Json) : Json :=
  match incoming.object?, existing?.bind object? with
  | some fields, some existing => .ofMap (existing.extend fields)
  | _, _ => incoming

namespace Claims

variable {claims incoming : Claims} {name : String} {value : Json}

/-- One claim joined to those that are already there. -/
def join (merged : Claims) (entry : String × Json) : Claims :=
  merged.insert entry.1 (Json.joined (merged.get? entry.1) entry.2)

theorem merge_eq_foldl (claims incoming : Claims) :
    claims.merge incoming = incoming.entries.foldl join claims := by
  have step : ∀ (merged : Claims) (entry : String × Json),
      (match entry.2.object?, (merged.get? entry.1).bind Json.object? with
      | some fields, some existing => merged.insert entry.1 (.ofMap (existing.extend fields))
      | _, _ => merged.insert entry.1 entry.2) = merged.join entry := by
    intro merged entry
    rw [join, Json.joined]
    split <;> rfl
  rw [merge]
  exact congrArg (fun next => incoming.entries.foldl next claims)
    (funext fun merged => funext fun entry => step merged entry)

theorem get?_foldl_join {entries : Entries Json} (distinct : entries.keys.Nodup) :
    OrderedMap.get? (entries.foldl join claims) name =
      ((entries.get? name).map (Json.joined (claims.get? name))).or (claims.get? name) := by
  induction entries generalizing claims with
  | nil => rfl
  | cons entry rest ih =>
    obtain ⟨first, value⟩ := entry
    obtain ⟨fresh, distinctRest⟩ := List.nodup_cons.mp distinct
    rw [List.foldl_cons, ih distinctRest, Entries.get?_cons, join, OrderedMap.get?_insert]
    split
    · next same =>
      subst same
      rw [Entries.get?_eq_none_iff.mpr fresh]
      rfl
    · rfl

/-- Each claim is merged for itself. -/
theorem get?_merge (claims incoming : Claims) (name : String) :
    (claims.merge incoming).get? name =
      ((incoming.get? name).map (Json.joined (claims.get? name))).or (claims.get? name) := by
  rw [merge_eq_foldl]
  exact get?_foldl_join incoming.distinct

theorem isShaped_joined (held : IsShaped name value)
    (before : ∀ existing, claims.get? name = some existing → IsShaped name existing) :
    IsShaped name (Json.joined (claims.get? name) value) := by
  unfold Json.joined
  split
  · next fields existing isObject found =>
    obtain ⟨whole, foundWhole, isObject'⟩ := Option.bind_eq_some_iff.mp found
    rcases held with direct | ⟨members, isMembers, ⟨member, present⟩, known⟩
    · exact .inl direct
    rcases before whole foundWhole with direct | ⟨members', isMembers', _, known'⟩
    · exact .inl direct
    cases isObject.symm.trans isMembers
    cases isObject'.symm.trans isMembers'
    refine .inr ⟨_, Json.object?_ofMap _, ⟨member, ?_⟩, fun other present' => ?_⟩
    · simp [present]
    · rw [OrderedMap.get?_extend, Option.isSome_or, Bool.or_eq_true] at present'
      exact present'.elim (known other) (known' other)
  · exact held

theorem Shaped.merge (shaped : claims.Shaped) (shaped' : incoming.Shaped) :
    (claims.merge incoming).Shaped := by
  intro name value found
  rw [get?_merge, Option.or_eq_some_iff] at found
  rcases found with found | ⟨_, found⟩
  · obtain ⟨value', held, rfl⟩ := Option.map_eq_some_iff.mp found
    exact isShaped_joined (shaped' name value' held) (shaped name)
  · exact shaped name value found

/-- A claim with a slot for a member is an object. -/
theorem IsShaped.object {slot : Slot} {member : String} (shaped : IsShaped slot.place.claim value)
    (named : slot.place.member = some member) : ∃ members, value.object? = some members := by
  rcases shaped with ⟨direct, placed⟩ | ⟨members, isObject, _⟩
  · have sameClaim : direct.place.claim = slot.place.claim := by rw [placed]
    have alone := Slot.member_eq_none_of_claim sameClaim (by rw [placed])
    rw [named] at alone
    cases alone
  · exact ⟨members, isObject⟩

/-- Where both sides have a value in a slot, that of the incoming claims counts. -/
theorem at?_merge (shaped : claims.Shaped) (shaped' : incoming.Shaped)
    (plain : ∀ slot : Slot, ∀ value, slot.place.member = none → incoming.at? slot.place = some value →
      value.object? = none) (slot : Slot) :
    (claims.merge incoming).at? slot.place = (incoming.at? slot.place).or (claims.at? slot.place) := by
  rw [at?_eq_bind, at?_eq_bind, at?_eq_bind, get?_merge]
  cases held : incoming.get? slot.place.claim with
  | none => rfl
  | some value =>
    rw [Option.map_some, Option.some_or, Option.bind_some, Option.bind_some]
    cases named : slot.place.member with
    | none =>
      have alone : value.object? = none := by
        refine plain slot value named ?_
        rw [at?_eq_bind, held, Option.bind_some, Place.within?, named]
      simp only [Place.within?, named, Json.joined, alone, Option.some_or]
    | some member =>
      obtain ⟨fields, isObject⟩ := (shaped' _ value held).object named
      simp only [Place.within?, named, Json.joined, isObject, Json.member?, Option.bind_some]
      cases before : claims.get? slot.place.claim with
      | none => simp only [Option.bind_none, isObject, Option.bind_some, Option.or_none]
      | some existing =>
        obtain ⟨members, isObject'⟩ := (shaped _ existing before).object named
        simp [isObject', Place.within?, named, Json.member?]

/-- The same claims, except perhaps under these names. -/
def AgreeOff (names : List String) (claims others : Claims) : Prop :=
  ∀ name ∉ names, claims.get? name = others.get? name

namespace AgreeOff

variable {names : List String} {others : Claims}

theorem trans {more : Claims} (agree : claims.AgreeOff names others) (further : others.AgreeOff names more) :
    claims.AgreeOff names more :=
  fun name other => (agree name other).trans (further name other)

theorem symm (agree : claims.AgreeOff names others) : others.AgreeOff names claims :=
  fun name other => (agree name other).symm

theorem insert (member : name ∈ names) (value : Json) : AgreeOff names (claims.insert name value) claims := by
  intro other apart
  refine OrderedMap.get?_insert_of_ne ?_
  rintro rfl
  exact apart member

theorem insertAll {entries : Entries Json} (known : entries.keys ⊆ names) :
    AgreeOff names (claims.insertAll entries) claims := by
  intro other apart
  have absent : Entries.get? entries.reverse other = none := by
    rw [Entries.get?_eq_none_iff, Entries.keys, List.map_reverse, List.mem_reverse]
    exact fun member => apart (known member)
  rw [OrderedMap.get?_insertAll, absent, Option.none_or]

theorem stamped (known : ["iat", "exp", "jti"] ⊆ names) (stamp : TokenStamp) (lifetime : Nat) :
    AgreeOff names (claims.stamped stamp lifetime) claims := by
  have issued : AgreeOff names (claims.insert "iat" (.ofInt stamp.time)) claims :=
    insert (known (by decide)) _
  exact ((insert (known (by decide)) _).trans (insert (known (by decide)) _)).trans issued

theorem merge (agree : claims.AgreeOff names others) (incoming : Claims) :
    (claims.merge incoming).AgreeOff names (others.merge incoming) := by
  intro name apart
  rw [get?_merge, get?_merge, agree name apart]

end AgreeOff

end Claims

end LtiPlatform
