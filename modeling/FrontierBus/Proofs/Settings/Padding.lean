import FrontierBus.Proofs.Settings.Reading
import FrontierBus.Proofs.Text.Padding

/-!
# Padded values

Numbers, flags and endpoints are trimmed when they are read, so blanks around them do not show in
the settings. The name of a codec is not: with blanks around it, it is the name of no codec.
-/

namespace FrontierBus

/-- There is no blank in what a codec is known by. -/
theorem Compression.solid_of_ofName? {text : String} {codec : Compression}
    (known : ofName? text = some codec) :
    ∀ character ∈ text.toList, Text.isBlank character = false := by
  have solid : ∀ character ∈ (Text.lowerAscii text).toList, Text.isBlank character = false := by
    simp only [ofName?] at known
    split at known
    case h_7 => cases known
    all_goals
      rename_i isName
      simp [isName, Text.isBlank]
  simpa [Text.lowerAscii, Text.isBlank_toLower] using solid

namespace Variables

/-- Blanks are added around the values of the variables, but for those that name something. -/
structure PaddedTo (values padded : Variables) : Prop where
  name : ∀ which, which.isName = true → padded which = values which
  rest : ∀ which, which.isName = false → Option.Rel Text.Padded (values which) (padded which)

variable {values padded : Variables} {line text : String}

theorem splitEndpoints_padded (isPadded : Text.Padded text line) :
    splitEndpoints line = splitEndpoints text := by
  have same : (Text.splitAt ',' line.toList).map (Text.strip Text.isBlank) =
      (Text.splitAt ',' text.toList).map (Text.strip Text.isBlank) :=
    isPadded.map_strip_splitAt rfl
  have pieces : ∀ line : String, splitEndpoints line =
      (((Text.splitAt ',' line.toList).map (Text.strip Text.isBlank)).map String.ofList).filter
        fun endpoint => !endpoint.isEmpty := by
    intro line
    simp [splitEndpoints, Text.trim, Function.comp_def]
  rw [pieces, pieces, same]

namespace PaddedTo

variable (pads : PaddedTo values padded)

include pads

/-- A blank value stays blank, and so it stays no value. -/
theorem rel_value? (which : Variable) :
    Option.Rel Text.Padded (values.value? which) (padded.value? which) := by
  have given : Option.Rel Text.Padded (values which) (padded which) := by
    cases isName : which.isName with
    | false => exact pads.rest which isName
    | true =>
        rw [pads.name which isName]
        cases values which with
        | none => exact .none
        | some text => exact .some (.refl text)
  simp only [value?]
  generalize values which = before, padded which = after at given
  cases given with
  | none => exact .none
  | some isPadded =>
      simp only [Option.filter, isPadded.allBlank_eq]
      split
      · exact .some isPadded
      · exact .none

theorem flag (which : Variable) :
    (padded.flag which).toOption = (values.flag which).toOption := by
  have given := pads.rel_value? which
  simp only [Variables.flag]
  generalize values.value? which = before, padded.value? which = after at given
  cases given with
  | none => rfl
  | some isPadded =>
      simp only [isPadded.trim_eq]
      split <;> rfl

theorem number (which : Variable) (bound : Nat) :
    (padded.number which bound).toOption = (values.number which bound).toOption := by
  have given := pads.rel_value? which
  simp only [Variables.number]
  generalize values.value? which = before, padded.value? which = after at given
  cases given with
  | none => rfl
  | some isPadded =>
      simp only [isPadded.strip_eq]
      split <;> rfl

theorem endpoints : padded.endpoints = values.endpoints := by
  have given := pads.rel_value? .endpoints
  simp only [Variables.endpoints]
  generalize values.value? .endpoints = before, padded.value? .endpoints = after at given
  cases given with
  | none => rfl
  | some isPadded => exact splitEndpoints_padded isPadded

theorem readAlike (sameCodec : padded.value? .codec = values.value? .codec) :
    ReadAlike values padded where
  endpoints := pads.endpoints
  compression := by simp only [compression, sameCodec]
  name which isName := by simp only [value?, pads.name which isName]
  flag which _ := pads.flag which
  number which _ := pads.number which

/-- A name with blanks around it is no codec's name. -/
theorem compression_of_ne (changed : padded.value? .codec ≠ values.value? .codec) :
    ∃ text, padded .codec = some text ∧ padded.compression =
      .error (.misconfigured (.unknownName "compression codec" text)) := by
  have given := pads.rel_value? .codec
  generalize values.value? .codec = before, isAfter : padded.value? .codec = after at given changed
  cases given with
  | none => exact absurd rfl changed
  | @some text longer isPadded =>
      have unknown : Compression.ofName? longer = none := by
        rw [Option.eq_none_iff_forall_ne_some]
        intro codec known
        have same := isPadded.eq_of_solid (Compression.solid_of_ofName? known)
        exact changed (congrArg some same)
      refine ⟨longer, (Option.filter_eq_some_iff.mp isAfter).1, ?_⟩
      simp only [compression, isAfter, unknown]

end PaddedTo

/-- The variables with blanks around the values that may be padded. -/
def surrounded (values : Variables) (front back : String) : Variables :=
  fun which => if which.isName then values which
    else (values which).map fun text => front ++ text ++ back

theorem paddedTo_surrounded {front back : String} (inFront : Text.allBlank front = true)
    (behind : Text.allBlank back = true) (values : Variables) :
    PaddedTo values (values.surrounded front back) where
  name which isName := by rw [surrounded, if_pos isName]
  rest which isOther := by
    rw [surrounded, if_neg (by simp [isOther])]
    cases values which with
    | none => exact .none
    | some text => exact .some ⟨front, back, inFront, behind, rfl⟩

end Variables

namespace Settings

variable {values padded : Variables}

/-- Padding changes nothing about what settings are read, or whether there are any, as long as the
name of the codec has not been padded; if it has, it is refused with its blanks. -/
theorem padding_ignored_unless_codec (isFile : String → Bool) (pads : values.PaddedTo padded) :
    (∀ settings, ofVariables isFile padded = .ok settings ↔
      ofVariables isFile values = .ok settings ∧
        padded.value? .codec = values.value? .codec) ∧
    (padded.value? .codec ≠ values.value? .codec → ∃ text, padded .codec = some text ∧
      ofVariables isFile padded =
        .error (.misconfigured (.unknownName "compression codec" text))) := by
  have refused : padded.value? .codec ≠ values.value? .codec → ∃ text, padded .codec = some text ∧
      ofVariables isFile padded =
        .error (.misconfigured (.unknownName "compression codec" text)) := by
    intro changed
    rcases pads.compression_of_ne changed with ⟨text, isText, isRefused⟩
    exact ⟨text, isText, ofVariables_eq_error isFile isRefused⟩
  refine ⟨?_, refused⟩
  intro settings
  by_cases same : padded.value? .codec = values.value? .codec
  · simp [(pads.readAlike same).ofVariables_iff, same]
  · rcases refused same with ⟨text, _, isRefused⟩
    simp [isRefused, same]

/-- Variables that name a codec. -/
def packed : Variables :=
  .ofList [(.codec, "lz4")]

/-- A codec that is known without blanks around it is unknown with them. -/
theorem unknown_codec_padded :
    packed.PaddedTo (packed.surrounded " " "") ∧
      ofVariables (fun _ => false) packed =
        .ok { standard with connection := { Connection.standard with compression := .lz4 } } ∧
      ofVariables (fun _ => false) (packed.surrounded " " "") =
        .error (.misconfigured (.unknownName "compression codec" " lz4")) := by
  refine ⟨Variables.paddedTo_surrounded (by decide) (by decide) packed, ?_, ?_⟩
  · decide +kernel
  · decide +kernel

/-- Variables of every kind, some of them with blanks of their own. -/
def mixed : Variables :=
  .ofList [(.codec, " "), (.maxBlock, "+1500"), (.enableSasl, "Yes"), (.saslUsername, " crawler"),
    (.saslPassword, "secret "), (.hostnamePartitioning, "on"), (.feedPartitions, "4"),
    (.endpoints, "k1:9092, k2:9092")]

theorem padding_ignored_unless_codec_mixed :
    mixed.PaddedTo (mixed.surrounded "\t" "\u3000") ∧
      ∃ settings, ofVariables (fun _ => false) mixed = .ok settings ∧
        settings.connection.security = .sasl " crawler" "secret " ∧
        ofVariables (fun _ => false) (mixed.surrounded "\t" "\u3000") = .ok settings := by
  have pads : mixed.PaddedTo (mixed.surrounded "\t" "\u3000") :=
    Variables.paddedTo_surrounded (by decide) (by decide) mixed
  have same : (mixed.surrounded "\t" "\u3000").value? .codec = mixed.value? .codec := by
    decide +kernel
  have outcome : (ofVariables (fun _ => false) mixed).map (·.connection.security) =
      .ok (.sasl " crawler" "secret ") := by
    decide +kernel
  cases isRead : ofVariables (fun _ => false) mixed with
  | error fault => simp [isRead, Except.map] at outcome
  | ok settings =>
      rw [isRead] at outcome
      have alike := (padding_ignored_unless_codec (fun _ => false) pads).1 settings
      exact ⟨pads, settings, rfl, Except.ok.inj outcome, alike.mpr ⟨isRead, same⟩⟩

end Settings

end FrontierBus
