import FrontierBus.Proofs.Settings.Reading
import FrontierBus.Proofs.Text.Padding
import Mathlib.Logic.Function.Basic

/-!
# Endpoints

A line lists endpoints: its pieces between commas, trimmed, without the blank ones. Endpoints that
have been read are in a normal form, so the line that they are joined to lists just them, and
settings stay the same when they are read once more with that line.
-/

namespace FrontierBus

/-- An endpoint as it is kept: there is something, with no padding and no comma. -/
structure IsEndpoint (endpoint : String) : Prop where
  something : endpoint ≠ ""
  trimmed : Text.Trimmed endpoint
  noComma : ',' ∉ endpoint.toList

/-- The endpoints that a line lists: what is between its commas, without the padding and in its
order, but for the blank pieces. -/
def Lists (line : String) (endpoints : List String) : Prop :=
  ∃ pieces, Text.JoinedFrom ',' line pieces ∧
    List.Forall₂ (fun piece endpoint => Text.Padded endpoint piece ∧ Text.Trimmed endpoint)
      (pieces.filter (!Text.allBlank ·)) endpoints

section Listing

variable {line endpoint piece : String} {pieces endpoints : List String}

theorem IsEndpoint.not_blank (isEndpoint : IsEndpoint endpoint) :
    Text.allBlank endpoint = false := by
  rw [← Text.isEmpty_trim, isEndpoint.trimmed.trim_eq]
  simpa using isEndpoint.something

theorem isEndpoint_trim (notBlank : Text.allBlank piece = false) (noComma : ',' ∉ piece.toList) :
    IsEndpoint (Text.trim piece) := by
  refine ⟨?_, Text.trimmed_trim piece, ?_⟩
  · rw [← Text.isEmpty_trim] at notBlank
    simpa using notBlank
  · intro present
    rcases Text.padded_trim piece with ⟨front, back, _, _, parts⟩
    rw [parts, String.toList_append, String.toList_append] at noComma
    exact noComma (List.mem_append_left _ (List.mem_append_right _ present))

theorem splitEndpoints_of_joinedFrom (isJoined : Text.JoinedFrom ',' line pieces) :
    Variables.splitEndpoints line = (pieces.filter (!Text.allBlank ·)).map Text.trim := by
  rw [Variables.splitEndpoints, Text.joinedFrom_iff.mp isJoined, List.map_map, List.filter_map]
  simp [Function.comp_def, Text.isEmpty_trim]

/-- Reading a line finds the endpoints that it lists. -/
theorem lists_iff : Lists line endpoints ↔ Variables.splitEndpoints line = endpoints := by
  have matched : ∀ pieces : List String,
      List.Forall₂ (fun piece endpoint => Text.Padded endpoint piece ∧ Text.Trimmed endpoint)
        pieces endpoints ↔ pieces.map Text.trim = endpoints := by
    intro pieces
    simp only [← Text.trim_eq_iff]
    rw [← List.forall₂_map_left_iff (R := Eq), List.forall₂_eq_eq_eq]
  constructor
  · rintro ⟨pieces, isJoined, listed⟩
    rw [splitEndpoints_of_joinedFrom isJoined]
    exact (matched _).mp listed
  · intro isSplit
    have isJoined := Text.joinedFrom_splitAt ',' line
    rw [splitEndpoints_of_joinedFrom isJoined] at isSplit
    exact ⟨_, isJoined, (matched _).mpr isSplit⟩

theorem isEndpoint_of_lists (lists : Lists line endpoints) :
    ∀ endpoint ∈ endpoints, IsEndpoint endpoint := by
  have isSplit := lists_iff.mp lists
  rcases lists with ⟨pieces, isJoined, _⟩
  rw [splitEndpoints_of_joinedFrom isJoined] at isSplit
  rw [← isSplit, List.forall_mem_map]
  intro piece isPiece
  rw [List.mem_filter, Bool.not_eq_true'] at isPiece
  exact isEndpoint_trim isPiece.2 (isJoined.2.1 piece isPiece.1)

/-- Endpoints in their normal form are listed by the line that they are joined to. -/
theorem lists_join (something : endpoints ≠ [])
    (kept : ∀ endpoint ∈ endpoints, IsEndpoint endpoint) :
    Lists (",".intercalate endpoints) endpoints := by
  refine ⟨endpoints, ⟨something, fun endpoint present => (kept endpoint present).noComma, rfl⟩, ?_⟩
  have noneBlank : endpoints.filter (!Text.allBlank ·) = endpoints := by
    rw [List.filter_eq_self]
    intro endpoint present
    simp [(kept endpoint present).not_blank]
  rw [noneBlank, List.forall₂_same]
  intro endpoint present
  exact ⟨.refl endpoint, (kept endpoint present).trimmed⟩

theorem not_blank_of_lists (lists : Lists line endpoints) (something : endpoints ≠ []) :
    Text.allBlank line = false := by
  rw [Bool.eq_false_iff]
  intro blank
  apply something
  rw [← lists_iff.mp lists, splitEndpoints_of_joinedFrom (Text.joinedFrom_splitAt ',' line)]
  have blankPieces : ∀ piece ∈ Text.splitAt ',' line.toList, ∀ character ∈ piece,
      Text.isBlank character = true :=
    Text.forall_splitAt_iff.mpr fun character present _ => Text.allBlank_iff.mp blank _ present
  simpa [Text.allBlank_iff, List.filter_eq_nil_iff] using blankPieces

end Listing

section Checking

variable {isFile : String → Bool}

theorem Connection.endpoints_ne_nil_of_check {connection : Connection}
    (valid : connection.check isFile = .ok ()) : connection.endpoints ≠ [] := by
  intro none
  simp [check, none] at valid

theorem Settings.check_connection {settings : Settings} (valid : settings.check isFile = .ok ()) :
    settings.connection.check isFile = .ok () := by
  simp only [check] at valid
  split at valid
  · cases valid
  · split at valid
    · cases valid
    · split at valid
      · cases valid
      · split at valid
        · cases valid
        · split at valid
          · cases valid
          · exact valid

end Checking

namespace Variables

variable {values : Variables} {line : String} {which : Variable} {given : Option String}

theorem value?_update (different : which ≠ .endpoints) :
    value? (Function.update values .endpoints given) which = values.value? which := by
  simp [value?, different]

theorem endpoints_update (notBlank : Text.allBlank line = false) :
    endpoints (Function.update values .endpoints (some line)) = splitEndpoints line := by
  simp [endpoints, value?, notBlank, Option.filter]

theorem readAlike_update
    (same : endpoints (Function.update values .endpoints given) = values.endpoints) :
    ReadAlike values (Function.update values .endpoints given) where
  endpoints := same
  compression := by simp [compression, value?_update]
  name which isName := value?_update (by rintro rfl; cases isName)
  flag which different := by simp [flag, value?_update different]
  number which different bound := by simp [number, value?_update different]

theorem isEndpoint_of_endpoints (values : Variables) :
    ∀ endpoint ∈ values.endpoints, IsEndpoint endpoint := by
  rw [endpoints]
  split
  · have isStandard : Lists "127.0.0.1:9092" Connection.standard.endpoints :=
      lists_iff.mpr (by decide)
    exact isEndpoint_of_lists isStandard
  · exact isEndpoint_of_lists (lists_iff.mpr rfl)

end Variables

namespace Settings

variable {isFile : String → Bool} {values : Variables} {settings : Settings}

/-- Whatever settings are read, their endpoints are in the normal form, and the same settings are
read once more if the line that the endpoints are joined to takes the place of the one that was
given. The one that was given lists just these endpoints; without it, or if it is blank, they are
the standard ones. -/
theorem endpoints_round_trip (isRead : ofVariables isFile values = .ok settings) :
    let connection := settings.connection
    connection.endpoints ≠ [] ∧ (∀ endpoint ∈ connection.endpoints, IsEndpoint endpoint) ∧
      ofVariables isFile
        (Function.update values .endpoints (some connection.bootstrapServers)) = .ok settings ∧
      (∀ line, values.value? .endpoints = some line → Lists line connection.endpoints) ∧
      (values.value? .endpoints = none →
        connection.endpoints = Connection.standard.endpoints) := by
  rcases ofVariables_eq_ok_iff.mp isRead with ⟨unchecked, valid⟩
  have same := endpoints_of_read unchecked
  have something := Connection.endpoints_ne_nil_of_check (check_connection valid)
  have kept : ∀ endpoint ∈ settings.connection.endpoints, IsEndpoint endpoint := by
    rw [same]
    exact values.isEndpoint_of_endpoints
  have lists : Lists settings.connection.bootstrapServers settings.connection.endpoints :=
    lists_join something kept
  have again : Variables.endpoints (Function.update values .endpoints
      (some settings.connection.bootstrapServers)) = values.endpoints := by
    rw [Variables.endpoints_update (not_blank_of_lists lists something), lists_iff.mp lists, same]
  refine ⟨something, kept, ?_, ?_, ?_⟩
  · exact ((Variables.readAlike_update again).ofVariables_iff isFile settings).mpr isRead
  · intro line given
    rw [lists_iff, same, Variables.endpoints, given]
  · intro absent
    rw [same, Variables.endpoints, absent]

/-- Variables that give endpoints with padding, an empty piece and a comma at the end. -/
def untidy : Variables :=
  .ofList [(.endpoints, " k1:9092 ,,\u3000k2:9092,"), (.feedPartitions, "4")]

theorem endpoints_round_trip_untidy :
    ∃ settings, ofVariables (fun _ => false) untidy = .ok settings ∧
      settings.connection.endpoints = ["k1:9092", "k2:9092"] ∧
      Lists " k1:9092 ,,\u3000k2:9092," settings.connection.endpoints ∧
      ofVariables (fun _ => false) (Function.update untidy .endpoints (some "k1:9092,k2:9092")) =
        .ok settings := by
  have outcome : (ofVariables (fun _ => false) untidy).map (·.connection.endpoints) =
      .ok ["k1:9092", "k2:9092"] := by
    decide +kernel
  cases isRead : ofVariables (fun _ => false) untidy with
  | error fault => simp [isRead, Except.map] at outcome
  | ok settings =>
      rw [isRead] at outcome
      have endpoints : settings.connection.endpoints = ["k1:9092", "k2:9092"] :=
        Except.ok.inj outcome
      rcases endpoints_round_trip isRead with ⟨_, _, again, listed, _⟩
      have servers : settings.connection.bootstrapServers = "k1:9092,k2:9092" := by
        rw [Connection.bootstrapServers, endpoints]
        decide
      rw [servers] at again
      exact ⟨settings, rfl, endpoints, listed _ (by decide), again⟩

end Settings

end FrontierBus
