import LtiPlatform.Proofs.Launch.Completion
import LtiPlatform.Proofs.Text.Lines

namespace LtiPlatform

/-- An address that fits on a line, with no white space around it. -/
structure RedirectAddress where
  chars : List Char
  nonempty : chars ≠ []
  oneLine : '\n' ∉ chars
  trimmed : Text.IsTrimmed chars

/-- A line of registered addresses, which may be blank. -/
structure AddressLine where
  address : Option RedirectAddress
  left : List Char
  right : List Char
  blankLeft : Text.IsGap left
  blankRight : Text.IsGap right

namespace AddressLine

def chars (line : AddressLine) : List Char :=
  line.left ++ ((line.address.map RedirectAddress.chars).getD [] ++ line.right)

end AddressLine

inductive LineBreak where
  | feed
  | returnAndFeed

def LineBreak.chars : LineBreak → List Char
  | feed => ['\n']
  | returnAndFeed => ['\r', '\n']

/-- Lines with their breaks, and what is written behind the last break. -/
structure AddressSheet where
  lines : List (AddressLine × LineBreak)
  rest : AddressLine

namespace AddressSheet

def chars (sheet : AddressSheet) : List Char :=
  sheet.lines.flatMap (fun line => line.1.chars ++ line.2.chars) ++ sheet.rest.chars

def text (sheet : AddressSheet) : String := .ofList sheet.chars

/-- The addresses in the order of their lines. -/
def addresses (sheet : AddressSheet) : List String :=
  ((sheet.lines.map Prod.fst ++ [sheet.rest]).filterMap AddressLine.address).map fun address => .ofList address.chars

end AddressSheet

namespace AddressLine

variable (line : AddressLine)

/-- What is left of a line when it is trimmed, carriage return or not. -/
theorem trimChars_chars {returned : List Char} (blank : ∀ c ∈ returned, Text.isBlank c) :
    Text.trimChars (line.chars ++ returned) = (line.address.map RedirectAddress.chars).getD [] := by
  have blankLeft : ∀ c ∈ line.left, Text.isBlank c := fun c member => (line.blankLeft c member).1
  have blankRight : ∀ c ∈ line.right ++ returned, Text.isBlank c := by
    intro c member
    rcases List.mem_append.mp member with member | member
    · exact (line.blankRight c member).1
    · exact blank c member
  have trimmed : Text.IsTrimmed ((line.address.map RedirectAddress.chars).getD []) := by
    cases line.address with
    | none => exact ⟨by simp, by simp⟩
    | some address => exact address.trimmed
  rw [chars, List.append_assoc, List.append_assoc, Text.trimChars_between blankLeft blankRight trimmed]

theorem feed_not_mem_chars : '\n' ∉ line.chars := by
  have noFeed : ∀ gap, Text.IsGap gap → '\n' ∉ gap := fun gap isGap member => (isGap _ member).2 rfl
  have noFeed' : '\n' ∉ (line.address.map RedirectAddress.chars).getD [] := by
    cases line.address with
    | none => exact List.not_mem_nil
    | some address => exact address.oneLine
  simp only [chars, List.mem_append, not_or]
  exact ⟨noFeed _ line.blankLeft, noFeed', noFeed _ line.blankRight⟩

/-- A line adds its address, if it has one. -/
theorem filter_cons (others : List (List Char)) :
    ((line.address.map RedirectAddress.chars).getD [] :: others).filter (fun chars => !chars.isEmpty) =
      line.address.toList.map RedirectAddress.chars ++ others.filter fun chars => !chars.isEmpty := by
  cases line.address with
  | none => rfl
  | some address => simp [address.nonempty]

@[simp]
theorem filterMap_address_cons (others : List AddressLine) :
    (line :: others).filterMap address = line.address.toList ++ others.filterMap address := by
  cases isAddress : line.address <;> simp [isAddress]

end AddressLine

namespace ToolRegistration

variable {tool : ToolRegistration}

theorem redirectUris_eq : tool.redirectUris =
    (((Text.splitChars '\n' tool.redirectLines.toList).map Text.trimChars).filter fun chars => !chars.isEmpty).map
      .ofList := Text.filter_trim_lines tool.redirectLines

/-- The pieces of a sheet, trimmed and without the blank ones, are its addresses. -/
theorem filter_trim_sheet (lines : List (AddressLine × LineBreak)) (rest : AddressLine) :
    (((Text.splitChars '\n' (AddressSheet.chars ⟨lines, rest⟩)).map Text.trimChars).filter fun chars =>
        !chars.isEmpty) =
      ((lines.map Prod.fst ++ [rest]).filterMap AddressLine.address).map RedirectAddress.chars := by
  induction lines with
  | nil =>
    have trimmed := rest.trimChars_chars (List.forall_mem_nil _)
    rw [List.append_nil] at trimmed
    rw [AddressSheet.chars, List.flatMap_nil, List.nil_append, Text.splitChars_eq_singleton rest.feed_not_mem_chars,
      List.map_singleton, trimmed, rest.filter_cons, List.map_nil, List.nil_append, rest.filterMap_address_cons,
      List.map_append]
    rfl
  | cons line lines ih =>
    obtain ⟨line, lineBreak⟩ := line
    obtain ⟨returned, blank, noFeed, broken⟩ : ∃ returned : List Char, (∀ c ∈ returned, Text.isBlank c) ∧
        '\n' ∉ returned ∧ lineBreak.chars = returned ++ ['\n'] := by
      cases lineBreak with
      | feed => exact ⟨[], by simp, by simp, rfl⟩
      | returnAndFeed => exact ⟨['\r'], by simp; rfl, by simp, rfl⟩
    have chars : AddressSheet.chars ⟨(line, lineBreak) :: lines, rest⟩ =
        (line.chars ++ returned) ++ '\n' :: AddressSheet.chars ⟨lines, rest⟩ := by
      simp [AddressSheet.chars, broken]
    have oneLine : '\n' ∉ line.chars ++ returned := by
      simp only [List.mem_append, not_or]
      exact ⟨line.feed_not_mem_chars, noFeed⟩
    rw [chars, Text.splitChars_append_cons oneLine, List.map_cons, line.trimChars_chars blank, line.filter_cons, ih,
      List.map_cons, List.cons_append, line.filterMap_address_cons, List.map_append]

/-- What is allowed stands on a line of its own. -/
theorem allowsRedirectUri_iff (tool : ToolRegistration) (uri : String) :
    tool.allowsRedirectUri uri ↔ Text.StandsAlone uri.toList tool.redirectLines.toList := by
  have listed : tool.allowsRedirectUri uri ↔ ∃ piece ∈ Text.splitChars '\n' tool.redirectLines.toList,
      Text.trimChars piece = uri.toList ∧ uri.toList ≠ [] := by
    rw [allowsRedirectUri, redirectUris_eq, List.contains_iff_mem]
    simp only [List.mem_map, List.mem_filter]
    constructor
    · rintro ⟨_, ⟨⟨piece, member, rfl⟩, nonempty⟩, rfl⟩
      rw [String.toList_ofList]
      exact ⟨piece, member, rfl, by simpa using nonempty⟩
    · rintro ⟨piece, member, trimmed, nonempty⟩
      refine ⟨uri.toList, ⟨⟨piece, member, trimmed⟩, by simpa using nonempty⟩, String.ofList_toList⟩
  rw [listed]
  constructor
  · rintro ⟨piece, member, trimmed, nonempty⟩
    obtain ⟨noFeed, before, after, whole, ends, begins⟩ := Text.mem_splitChars_iff.mp member
    obtain ⟨left, right, isPiece, blankLeft, blankRight⟩ := Text.exists_around_trimChars piece
    rw [trimmed] at isPiece
    have inPiece : ∀ c, c ∈ left ∨ c ∈ uri.toList ∨ c ∈ right → c ≠ '\n' := by
      rintro c among rfl
      rw [isPiece] at noFeed
      simp only [List.mem_append] at noFeed
      exact noFeed among
    refine ⟨nonempty, fun feed => inPiece _ (.inr (.inl feed)) rfl, trimmed ▸ Text.isTrimmed_trimChars piece, before,
      left, right, after, ?_, fun c member => ⟨blankLeft c member, inPiece c (.inl member)⟩,
      fun c member => ⟨blankRight c member, inPiece c (.inr (.inr member))⟩, ends, begins⟩
    rw [whole, isPiece]
  · rintro ⟨nonempty, oneLine, trimmed, before, left, right, after, whole, blankLeft, blankRight, ends, begins⟩
    have noFeed : '\n' ∉ left ++ (uri.toList ++ right) := by
      simp only [List.mem_append, not_or]
      exact ⟨fun feed => (blankLeft _ feed).2 rfl, oneLine, fun feed => (blankRight _ feed).2 rfl⟩
    exact ⟨left ++ (uri.toList ++ right), Text.mem_splitChars_iff.mpr ⟨noFeed, before, after, whole, ends, begins⟩,
      Text.trimChars_between (fun c member => (blankLeft c member).1) (fun c member => (blankRight c member).1) trimmed,
      nonempty⟩

end ToolRegistration

/-- Addresses that are written line by line are read back in their order, whatever the line breaks and the white space
around them. What is allowed is a line of the registered text, and no request is answered without such an address. -/
theorem redirect_addresses_stand_alone :
    (∀ (tool : ToolRegistration) (sheet : AddressSheet),
      { tool with redirectLines := sheet.text }.redirectUris = sheet.addresses) ∧
    (∀ (tool : ToolRegistration) (uri : String),
      tool.allowsRedirectUri uri ↔ Text.StandsAlone uri.toList tool.redirectLines.toList) ∧
    ∀ (attempt : LaunchAttempt) (response : AuthenticationResponse), attempt.answer = .ok response →
      ∃ uri tool, attempt.request.redirectUri = some uri ∧ attempt.Registered tool ∧
        Text.StandsAlone uri.toList tool.redirectLines.toList := by
  refine ⟨fun tool sheet => ?_, ToolRegistration.allowsRedirectUri_iff, fun attempt response answered => ?_⟩
  · have pieces := ToolRegistration.filter_trim_sheet sheet.lines sheet.rest
    rw [ToolRegistration.redirectUris_eq, AddressSheet.text, String.toList_ofList, AddressSheet.addresses, pieces,
      List.map_map]
    rfl
  · obtain ⟨tool, registered, listed⟩ :=
      (LaunchAttempt.reaches_signing_of_answer answered).passes .redirectUri (by decide)
    have standsAlone := (tool.allowsRedirectUri_iff _).mp (List.contains_iff_mem.mpr listed)
    cases given : attempt.request.redirectUri with
    | none =>
      rw [given] at standsAlone
      exact absurd rfl standsAlone.nonempty
    | some uri =>
      rw [given] at standsAlone
      exact ⟨uri, tool, rfl, registered, standsAlone⟩

/-- The quiz is answered at an address that stands on the second line of its registration. -/
theorem quiz_answered_at_line :
    ∃ login, (∃ response, (LaunchAttempt.ofQuiz .ofQuiz login).answer = .ok response) ∧
      ∃ uri tool, (LaunchAttempt.ofQuiz .ofQuiz login).request.redirectUri = some uri ∧
        (LaunchAttempt.ofQuiz .ofQuiz login).Registered tool ∧
        Text.StandsAlone uri.toList tool.redirectLines.toList := by
  obtain ⟨login, _, _, answered⟩ := LaunchAttempt.exists_ofQuiz_answered
  obtain ⟨response, answer⟩ := answered .ofQuiz .learner ⟨rfl, rfl⟩
  exact ⟨login, ⟨response, answer⟩, redirect_addresses_stand_alone.2.2 _ response answer⟩

end LtiPlatform
