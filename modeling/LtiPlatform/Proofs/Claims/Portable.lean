import LtiPlatform.Proofs.Claims.Slot
import LtiPlatform.Proofs.Token.RoundTrip

namespace LtiPlatform

namespace Rule

set_option maxRecDepth 100000 in
theorem kind_of_registered : ∀ rule ∈ table, rule.claimName ∈ TokenCodec.registeredNames →
    rule.member? = none ∧ rule.kind = .text := by decide

end Rule

theorem OpenGroup.claim_not_registered (group : OpenGroup) :
    group.claim ∉ TokenCodec.registeredNames := by
  cases group <;> decide

theorem ValueKind.portable_of_read? {kind : ValueKind} {text : String} {value : Json}
    (convertible : kind ≠ .contentItems) (read : kind.read? text = some value) : value.Portable 1 := by
  cases kind with
  | text | messageType => cases read; exact .string _
  | flag => cases read; exact .bool _
  | list | roles | contextTypes => cases read; exact .ofStrings _
  | contentItems => exact absurd rfl convertible

namespace Slot

variable {slot : Slot} {text : String} {value : Json}

theorem portable_of_read? (convertible : slot.parameter ≠ "content_items")
    (read : slot.read? text = some value) : value.Portable 1 := by
  cases slot with
  | ruled rule member =>
    refine ValueKind.portable_of_read? ?_ read
    exact fun kind => convertible (Rule.parameter_of_contentItems rule member kind)
  | free group name unmapped =>
    simp only [read?, Option.ite_none_left_eq_some, Option.some.injEq] at read
    obtain ⟨_, rfl⟩ := read
    exact .string text

/-- A registered claim is text, and no group. -/
theorem registered (registered : slot.place.claim ∈ TokenCodec.registeredNames)
    (read : slot.read? text = some value) : slot.place.member = none ∧ value.isScalar := by
  cases slot with
  | ruled rule member =>
    obtain ⟨alone, kind⟩ := Rule.kind_of_registered rule member registered
    rw [read?, kind] at read
    cases read
    exact ⟨alone, rfl⟩
  | free group name unmapped => exact absurd registered group.claim_not_registered

end Slot

namespace Claims

namespace Portable

variable {claims : Claims} {name : String} {value : Json}

theorem empty : Portable ∅ := by
  constructor
  · intro name value found
    cases found
  · intro name registered value found
    cases found

theorem insert (portable : claims.Portable) (held : value.Portable 2)
    (scalar : name ∈ TokenCodec.registeredNames → value.isScalar) :
    Portable (claims.insert name value) := by
  refine ⟨fun other value' found => ?_, fun other registered value' found => ?_⟩
  · rw [OrderedMap.get?_insert] at found
    split at found
    · cases found
      exact held
    · exact portable.values other value' found
  · rw [OrderedMap.get?_insert] at found
    split at found
    · next same =>
      subst same
      cases found
      exact scalar registered
    · exact portable.registered other registered value' found

theorem insert_string (portable : claims.Portable) (text : String) :
    Portable (claims.insert name (.string text)) :=
  portable.insert (.string text) fun _ => rfl

theorem insert_ofInt (portable : claims.Portable) {number : Int} (exact : JsonNumber.isExact number) :
    Portable (claims.insert name (.ofInt number)) :=
  portable.insert (.ofInt exact) fun _ => rfl

theorem erase (portable : claims.Portable) (name : String) : Portable (claims.erase name) := by
  have kept : ∀ {other value}, OrderedMap.get? (claims.erase name) other = some value →
      claims.get? other = some value := by
    intro other value found
    rw [OrderedMap.get?_erase, Option.ite_none_left_eq_some] at found
    exact found.2
  exact ⟨fun other value found => portable.values other value (kept found),
    fun other registered value found => portable.registered other registered value (kept found)⟩

theorem members (portable : claims.Portable) {held : OrderedMap Json} {member : String}
    (found : (claims.get? name).bind Json.object? = some held) (present : held.get? member = some value) :
    value.Portable 1 := by
  obtain ⟨whole, foundWhole, isObject⟩ := Option.bind_eq_some_iff.mp found
  exact (portable.values name whole foundWhole).member isObject present

theorem put (portable : claims.Portable) {slot : Slot} {text : String}
    (convertible : slot.parameter ≠ "content_items") (read : slot.read? text = some value) :
    Portable (claims.put slot.place value) := by
  have held := Slot.portable_of_read? convertible read
  cases named : slot.place.member with
  | none =>
    simp only [Claims.put, named]
    exact portable.insert (held.mono (by decide)) fun registered => (Slot.registered registered read).2
  | some name =>
    simp only [Claims.put, named]
    refine portable.insert (.ofMap fun member value' found => ?_) fun registered => ?_
    · rw [OrderedMap.get?_insert] at found
      split at found
      · cases found
        exact held
      · cases before : (claims.get? slot.place.claim).bind Json.object? with
        | none =>
          rw [before] at found
          cases found
        | some members =>
          rw [before] at found
          exact portable.members before found
    · have alone := (Slot.registered registered read).1
      rw [named] at alone
      cases alone

theorem add (portable : claims.Portable) {entry : String × String} (convertible : entry.1 ≠ "content_items") :
    (claims.add entry).Portable := by
  rw [Claims.add]
  split
  · exact portable
  · next place value read =>
    obtain ⟨slot, same, rfl, reads⟩ := Slot.exists_of_ofParameter? read
    exact portable.put (by rw [same]; exact convertible) reads

end Portable

/-- Claims for parameters other than content items are portable. -/
theorem portable_ofParameters {parameters : Parameters} (noItems : parameters.get? "content_items" = none) :
    (ofParameters parameters).Portable := by
  have convertible : ∀ entry ∈ parameters.entries, entry.1 ≠ "content_items" := by
    intro entry member named
    have found := OrderedMap.mem_entries_iff.mp member
    rw [named, noItems] at found
    cases found
  rw [ofParameters_eq_foldl]
  generalize parameters.entries = entries at convertible
  induction entries using List.reverseRecOn with
  | nil => exact .empty
  | append_singleton before entry ih =>
    rw [List.foldl_append, List.foldl_cons, List.foldl_nil]
    have earlier := ih fun entry member => convertible entry (List.mem_append_left _ member)
    exact earlier.add (convertible entry (by simp))

end Claims

end LtiPlatform
